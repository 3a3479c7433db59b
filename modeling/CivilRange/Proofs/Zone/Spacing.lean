import CivilRange.Reading
import CivilRange.Zone.Basic

set_option autoImplicit false

/-!
# The changes of a zone lie apart

No offset is more than a day, and from one change of a zone to the next there are two days at
least. So what a clock shows around one change is not touched by another. It is shown here of all
recorded histories, of the yearly rules to the end of the calendar, and hence of every zone.
-/
namespace CivilRange

/-- Changes from `earliest` on, out of the offset `current`. -/
def SpacedFrom (earliest : Nat) (current : Int) : List Change → Prop
  | [] => True
  | c :: rest =>
    (earliest ≤ c.instant ∧ c.instant + 2 * secondsPerDay ≤ dayCount * secondsPerDay) ∧
      (current.natAbs ≤ secondsPerDay ∧ c.offset.natAbs ≤ secondsPerDay) ∧
      SpacedFrom (c.instant + 2 * secondsPerDay) c.offset rest

instance decidableSpacedFrom (earliest : Nat) (current : Int) (changes : List Change) :
    Decidable (SpacedFrom earliest current changes) :=
  match changes with
  | [] => inferInstanceAs (Decidable True)
  | c :: rest =>
    have := decidableSpacedFrom (c.instant + 2 * secondsPerDay) c.offset rest
    inferInstanceAs (Decidable (_ ∧ _ ∧ _))

def History.Spaced (h : History) : Prop := SpacedFrom (2 * secondsPerDay) h.initial h.changes

instance (h : History) : Decidable h.Spaced := inferInstanceAs (Decidable (SpacedFrom _ _ _))

theorem spacedFrom_append {earliest : Nat} {current : Int} {xs ys : List Change} {last : Change}
    (h : SpacedFrom earliest current xs) (hl : xs.getLast? = some last)
    (tail : SpacedFrom (last.instant + 2 * secondsPerDay) last.offset ys) :
    SpacedFrom earliest current (xs ++ ys) := by
  induction xs generalizing earliest current with
  | nil => simp at hl
  | cons c rest ih =>
    obtain ⟨times, offsets, spaced⟩ := h
    refine ⟨times, offsets, ?_⟩
    cases rest with
    | nil =>
      obtain rfl : c = last := by simpa using hl
      exact tail
    | cons next rest => exact ih spaced (by simpa [List.getLast?_cons_cons] using hl)

/-- A rule whose two changes lie in months apart, before December, close to their Sundays. -/
def YearlyRule.Regular (rule : YearlyRule) : Prop :=
  (1 ≤ rule.earlier.month ∧ rule.earlier.month + 2 ≤ rule.later.month ∧ rule.later.month ≤ 11) ∧
    (rule.earlier.seconds.natAbs ≤ secondsPerDay ∧ rule.later.seconds.natAbs ≤ secondsPerDay) ∧
    rule.earlier.offset.natAbs ≤ secondsPerDay ∧ rule.later.offset.natAbs ≤ secondsPerDay

instance (rule : YearlyRule) : Decidable rule.Regular := inferInstanceAs (Decidable (_ ∧ _ ∧ _))

theorem le_monthLength (year month : Nat) : 28 ≤ monthLength year month := by
  unfold monthLength
  split
  · split <;> decide
  all_goals decide

theorem SundayOfMonth.day_bounds (sunday : SundayOfMonth) (year month : Nat) (h : 1 ≤ month) :
    daysBeforeYear year + daysBeforeMonth year month ≤ sunday.day year month ∧
      sunday.day year month < daysBeforeYear year + daysBeforeMonth year (month + 1) := by
  have next := daysBeforeMonth_succ year month h
  have length := le_monthLength year month
  cases sunday <;> simp only [SundayOfMonth.day, sundayFrom] <;> omega

theorem YearlyChange.inYear_bounds (c : YearlyChange) (year : Nat) (h : 1 ≤ c.month)
    (close : c.seconds.natAbs ≤ secondsPerDay) :
    (daysBeforeYear year + daysBeforeMonth year c.month) * secondsPerDay ≤
        (c.inYear year).instant + secondsPerDay ∧
      (c.inYear year).instant ≤
        (daysBeforeYear year + daysBeforeMonth year (c.month + 1)) * secondsPerDay := by
  obtain ⟨lo, hi⟩ := c.sunday.day_bounds year c.month h
  simp only [YearlyChange.inYear, secondsPerDay] at *
  omega

theorem YearlyRule.changesFrom_eq_cons (rule : YearlyRule) {year : Nat} (h : year ≤ lastYear) :
    rule.changesFrom year =
      rule.earlier.inYear year :: rule.later.inYear year :: rule.changesFrom (year + 1) := by
  unfold changesFrom
  rw [show lastYear + 1 - year = lastYear + 1 - (year + 1) + 1 by omega, List.range'_succ]
  rfl

theorem YearlyRule.changesFrom_eq_nil (rule : YearlyRule) {year : Nat} (h : lastYear < year) :
    rule.changesFrom year = [] := by
  unfold changesFrom
  rw [show lastYear + 1 - year = 0 by omega]
  rfl

theorem YearlyRule.earlier_later_apart (rule : YearlyRule) (regular : rule.Regular) (year : Nat) :
    (rule.earlier.inYear year).instant + 2 * secondsPerDay ≤ (rule.later.inYear year).instant := by
  obtain ⟨⟨first, apart, _⟩, ⟨early, late⟩, _⟩ := regular
  have e := (rule.earlier.inYear_bounds year first early).2
  have l := (rule.later.inYear_bounds year (by omega) late).1
  have between :=
    daysBeforeMonth_mono year (show rule.earlier.month + 2 ≤ rule.later.month from apart)
  have month : daysBeforeMonth year (rule.earlier.month + 2) =
      daysBeforeMonth year (rule.earlier.month + 1) + monthLength year (rule.earlier.month + 1) :=
    daysBeforeMonth_succ year _ (by omega)
  have length := le_monthLength year (rule.earlier.month + 1)
  simp only [secondsPerDay] at *
  omega

theorem YearlyRule.later_before_year (rule : YearlyRule) (regular : rule.Regular) {year : Nat}
    (h : 1 ≤ year) :
    (rule.later.inYear year).instant + 28 * secondsPerDay ≤
      daysBeforeYear (year + 1) * secondsPerDay := by
  obtain ⟨⟨first, apart, last⟩, ⟨_, late⟩, _⟩ := regular
  have l := (rule.later.inYear_bounds year (by omega) late).2
  have through := daysBeforeMonth_mono year (show rule.later.month + 1 ≤ 12 by omega)
  have december : daysBeforeMonth year 13 = daysBeforeMonth year 12 + monthLength year 12 := rfl
  have length := le_monthLength year 12
  have whole := daysBeforeYear_succ year h
  simp only [secondsPerDay] at *
  omega

theorem daysBeforeYear_le_dayCount {year : Nat} (h : year ≤ lastYear + 1) :
    daysBeforeYear year ≤ dayCount :=
  Nat.le_trans (daysBeforeYear_mono h) (by decide)

theorem YearlyRule.changesFrom_spaced (rule : YearlyRule) (regular : rule.Regular)
    {year earliest : Nat} {current : Int} (pos : 1 ≤ year) (offset : current.natAbs ≤ secondsPerDay)
    (h : earliest + secondsPerDay ≤ daysBeforeYear year * secondsPerDay) :
    SpacedFrom earliest current (rule.changesFrom year) := by
  -- down from the end of the calendar
  obtain past | within := Nat.lt_or_ge lastYear year
  · rw [rule.changesFrom_eq_nil past]
    trivial
  · have apart := rule.earlier_later_apart regular year
    have december := rule.later_before_year regular pos
    have calendar := daysBeforeYear_le_dayCount (show year + 1 ≤ lastYear + 1 by omega)
    have early := (rule.earlier.inYear_bounds year regular.1.1 regular.2.1.1).1
    have rest : SpacedFrom ((rule.later.inYear year).instant + 2 * secondsPerDay)
        rule.later.offset (rule.changesFrom (year + 1)) := by
      apply rule.changesFrom_spaced regular (by omega) regular.2.2.2
      simp only [secondsPerDay] at *
      omega
    rw [rule.changesFrom_eq_cons within]
    simp only [SpacedFrom, secondsPerDay] at *
    exact ⟨⟨by omega, by omega⟩, ⟨offset, regular.2.2.1⟩, ⟨by omega, by omega⟩,
      ⟨regular.2.2.1, regular.2.2.2⟩, rest⟩
termination_by lastYear + 1 - year

namespace History

/-- Where the last listed change is the rule's earlier one of a year, the rule goes on with the
later one. -/
theorem continuedBy_changes {h : History} {rule : YearlyRule} {year : Nat}
    (within : year ≤ lastYear) (regular : rule.Regular)
    (last : h.changes.getLast? = some (rule.earlier.inYear year)) :
    (h.continuedBy rule year).changes =
      h.changes ++ rule.later.inYear year :: rule.changesFrom (year + 1) := by
  have apart := rule.earlier_later_apart regular year
  simp only [continuedBy, last, rule.changesFrom_eq_cons within]
  rw [List.dropWhile_cons_of_pos (by simp),
    List.dropWhile_cons_of_neg (by simp only [secondsPerDay] at apart; simp; omega)]

theorem continuedBy_constant_changes (offset : Int) (rule : YearlyRule) (year : Nat) :
    ((constant offset).continuedBy rule year).changes = rule.changesFrom year := rfl

theorem continuedBy_spaced {h : History} {rule : YearlyRule} {year : Nat}
    (range : 2 ≤ year ∧ year ≤ lastYear) (regular : rule.Regular)
    (last : h.changes.getLast? = some (rule.earlier.inYear year)) (spaced : h.Spaced) :
    (h.continuedBy rule year).Spaced := by
  have begun : daysBeforeYear 2 ≤ daysBeforeYear year := daysBeforeYear_mono range.1
  have whole : SpacedFrom 0 rule.earlier.offset (rule.changesFrom year) :=
    rule.changesFrom_spaced regular (by omega) regular.2.2.1
      (by simp only [secondsPerDay, daysBeforeYear] at *; omega)
  rw [rule.changesFrom_eq_cons range.2] at whole
  unfold Spaced
  rw [continuedBy_changes range.2 regular last]
  exact spacedFrom_append spaced last whole.2.2

theorem parisRecorded_spaced : parisRecorded.Spaced := by decide +kernel

theorem newYorkRecorded_spaced : newYorkRecorded.Spaced := by decide +kernel

theorem lordHoweRecorded_spaced : lordHoweRecorded.Spaced := by decide +kernel

theorem saoPaulo_spaced : saoPaulo.Spaced := by decide +kernel

theorem apia_spaced : apia.Spaced := by decide +kernel

theorem paris_spaced : paris.Spaced :=
  continuedBy_spaced (by decide) (by decide) (by decide +kernel) parisRecorded_spaced

theorem newYork_spaced : newYork.Spaced :=
  continuedBy_spaced (by decide) (by decide) (by decide +kernel) newYorkRecorded_spaced

theorem lordHowe_spaced : lordHowe.Spaced :=
  continuedBy_spaced (by decide) (by decide) (by decide +kernel) lordHoweRecorded_spaced

theorem troll_spaced : troll.Spaced := by
  unfold Spaced
  rw [troll, continuedBy_constant_changes]
  exact trollRule.changesFrom_spaced (by decide) (by decide) (by decide) (by decide)

theorem constant_spaced (offset : Int) : (constant offset).Spaced := trivial

end History

theorem Region.history_spaced (region : Region) : region.history.Spaced := by
  cases region with
  | utc | gmtPlus12 | gmtMinus14 => exact History.constant_spaced _
  | paris => exact History.paris_spaced
  | newYork => exact History.newYork_spaced
  | saoPaulo => exact History.saoPaulo_spaced
  | lordHowe => exact History.lordHowe_spaced
  | apia => exact History.apia_spaced
  | troll => exact History.troll_spaced
  | tokyo | kolkata | kathmandu | monrovia | kiritimati => decide

theorem Zone.history_spaced (z : Zone) : z.history.Spaced := by
  cases z with
  | region region => exact region.history_spaced
  | fixed offset => exact History.constant_spaced offset
  | system => exact History.constant_spaced 0

end CivilRange
