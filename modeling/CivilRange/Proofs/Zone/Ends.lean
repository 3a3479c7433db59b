import CivilRange.Proofs.Zone.Gap

set_option autoImplicit false

namespace CivilRange

/-- All changes lie four weeks before the end of the calendar, or earlier. -/
def EndsQuietly (changes : List Change) : Prop :=
  ∀ c ∈ changes, c.instant + 28 * secondsPerDay ≤ dayCount * secondsPerDay

instance (changes : List Change) : Decidable (EndsQuietly changes) :=
  inferInstanceAs (Decidable (∀ c ∈ changes, _))

theorem YearlyRule.changesFrom_endsQuietly (rule : YearlyRule) (regular : rule.Regular) {year : Nat}
    (pos : 1 ≤ year) : EndsQuietly (rule.changesFrom year) := by
  intro c mem
  obtain ⟨y, within, mem⟩ := List.mem_flatMap.1 mem
  obtain ⟨first, last⟩ := List.mem_range'_1.1 within
  have apart := rule.earlier_later_apart regular y
  have december := rule.later_before_year regular (Nat.le_trans pos first)
  have calendar := daysBeforeYear_le_dayCount (show y + 1 ≤ lastYear + 1 by omega)
  have days := Nat.mul_le_mul_right secondsPerDay calendar
  obtain rfl | rfl : c = rule.earlier.inYear y ∨ c = rule.later.inYear y := by simpa using mem
  · omega
  · omega

namespace History

theorem continuedBy_endsQuietly {h : History} {rule : YearlyRule} {year : Nat}
    (quiet : EndsQuietly h.changes) (regular : rule.Regular) (pos : 1 ≤ year) :
    EndsQuietly (h.continuedBy rule year).changes := by
  have ruled := rule.changesFrom_endsQuietly regular pos
  intro c mem
  rcases List.mem_append.1 mem with mem | mem
  · exact quiet c mem
  · cases last : h.changes.getLast? with
    | none =>
      rw [last] at mem
      exact ruled c mem
    | some change =>
      rw [last] at mem
      exact ruled c ((List.dropWhile_sublist _).subset mem)

end History

theorem Region.endsQuietly (region : Region) : EndsQuietly region.history.changes := by
  cases region with
  | paris | newYork | lordHowe | troll =>
    exact History.continuedBy_endsQuietly (by decide +kernel) (by decide) (by decide)
  | utc | gmtPlus12 | gmtMinus14 | tokyo | kolkata | kathmandu | monrovia | kiritimati => decide
  | saoPaulo | apia => decide +kernel

theorem Zone.endsQuietly (z : Zone) : EndsQuietly z.history.changes := by
  cases z with
  | region region => exact region.endsQuietly
  | fixed | system => exact fun _ mem => nomatch mem

namespace History

variable {h : History} {t t' u w : Nat} {changes : List Change}

theorem phaseAfter_offset_eq {p q : Phase} (same : p.offset = q.offset)
    (passed : ∀ c ∈ changes, c.instant ≤ t ∧ c.instant ≤ t') :
    (phaseAfter t p changes).offset = (phaseAfter t' q changes).offset := by
  induction changes generalizing p q with
  | nil => exact same
  | cons c rest ih =>
    obtain ⟨now, now'⟩ := passed c List.mem_cons_self
    rw [phaseAfter_cons_of_le now, phaseAfter_cons_of_le now']
    exact ih rfl fun c mem => passed c (List.mem_cons_of_mem _ mem)

theorem phaseAt_offset_eq_of_late (quiet : EndsQuietly h.changes)
    (late : dayCount * secondsPerDay ≤ t + 28 * secondsPerDay)
    (late' : dayCount * secondsPerDay ≤ t' + 28 * secondsPerDay) :
    (h.phaseAt t).offset = (h.phaseAt t').offset := by
  refine phaseAfter_offset_eq rfl fun c mem => ?_
  have before := quiet c mem
  exact ⟨by omega, by omega⟩

theorem phaseAt_of_early (spaced : h.Spaced) (early : t < 2 * secondsPerDay) :
    h.phaseAt t = ⟨h.initial, false⟩ := phaseAfter_of_lt ⟨h.initial, false⟩ spaced early

/-- A clock keeps one offset for ever, or none of its offsets is more than a day. -/
theorem still_or_natAbs_le (spaced : h.Spaced) :
    (∀ t, (h.phaseAt t).offset = h.initial) ∨ ∀ t, (h.phaseAt t).offset.natAbs ≤ secondsPerDay := by
  obtain ⟨initial, changes⟩ := h
  cases changes with
  | nil => exact .inl fun t => rfl
  | cons c rest => exact .inr (natAbs_phaseAt_offset spaced spaced.2.1.1)

theorem shownAt_nonneg (spaced : h.Spaced) (le : t ≤ t') (start : 0 ≤ h.shownAt t) :
    0 ≤ h.shownAt t' := by
  unfold shownAt at *
  obtain still | near := still_or_natAbs_le spaced
  · rw [still] at *
    omega
  · obtain early | late := Nat.lt_or_ge t' (2 * secondsPerDay)
    · rw [phaseAt_of_early spaced early]
      rw [phaseAt_of_early spaced (Nat.lt_of_le_of_lt le early)] at start
      dsimp only at *
      omega
    · have bound := near t'
      omega

theorem shownAt_lt (spaced : h.Spaced) (quiet : EndsQuietly h.changes) (le : t' ≤ t)
    (last : h.shownAt t < (dayCount * secondsPerDay : Nat)) :
    h.shownAt t' < (dayCount * secondsPerDay : Nat) := by
  unfold shownAt at *
  obtain still | near := still_or_natAbs_le spaced
  · rw [still] at *
    omega
  · obtain early | late := Nat.lt_or_ge (t' + 28 * secondsPerDay) (dayCount * secondsPerDay)
    · have bound := near t'
      have day : 0 < secondsPerDay := by decide
      omega
    · rw [phaseAt_offset_eq_of_late quiet late (Nat.le_trans late (Nat.add_le_add_right le _))]
      omega

theorem Gap.shown_lt (spaced : h.Spaced) (quiet : EndsQuietly h.changes) {length : Nat}
    (gap : h.Gap w length) : w + length < dayCount * secondsPerDay := by
  obtain ⟨t, ⟨before, past⟩, long⟩ := gap
  unfold shownAt at *
  obtain still | near := still_or_natAbs_le spaced
  · rw [still] at *
    omega
  · have bound := near t
    have bound' := near (t + 1)
    obtain early | late := Nat.lt_or_ge (t + 28 * secondsPerDay) (dayCount * secondsPerDay)
    · simp only [secondsPerDay, dayCount] at *
      omega
    · have same := phaseAt_offset_eq_of_late quiet late (Nat.le_trans late (show _ ≤
        t + 1 + 28 * secondsPerDay by omega))
      omega

theorem shownAt_of_first (spaced : h.Spaced) (quiet : EndsQuietly h.changes)
    (within : w < dayCount * secondsPerDay) (instant : (w : Int) = u + h.offsetOfWall w false) :
    0 ≤ h.shownAt u ∧ h.shownAt u < (dayCount * secondsPerDay : Nat) := by
  obtain shown | ⟨length, gap⟩ := showsAt_or_gap spaced instant
  · unfold ShowsAt at shown
    unfold shownAt
    omega
  · have past := gap.shown_lt spaced quiet
    unfold shownAt
    rw [gap.phaseAt_eq spaced instant]
    dsimp only
    omega

end History
end CivilRange
