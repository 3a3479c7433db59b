import CivilRange.Proofs.Moment.Move
import CivilRange.Proofs.Zone.Gap

set_option autoImplicit false

namespace CivilRange

/-- The year and month that years and months lead to when each twelve months are carried as a year
and the rest then passes the end of a year once at most. -/
def Date.stepped (date : Date) (sign : Sign) (years months : Nat) : Int × Int :=
  let year : Int := date.year + sign.apply (years + months / 12)
  let month : Int := date.month + sign.apply (months % 12)
  if 12 < month then (year + 1, month - 12)
  else if month < 1 then (year - 1, month + 12)
  else (year, month)

theorem Date.stepped_eq (date : Date) (sign : Sign) (years months : Nat) :
    date.stepped sign years months =
      ((date.monthIndex + sign.apply (12 * years + months)) / 12,
        (date.monthIndex + sign.apply (12 * years + months)) % 12 + 1) := by
  obtain ⟨first, last⟩ := date.valid.2.1
  have carried : sign.apply (12 * years + months) =
      12 * sign.apply (years + months / 12) + sign.apply (months % 12) := by
    cases sign <;> simp only [Sign.apply] <;> omega
  have rest : -12 < sign.apply (months % 12) ∧ sign.apply (months % 12) < 12 := by
    cases sign <;> simp only [Sign.apply] <;> omega
  unfold stepped monthIndex
  rw [carried]
  generalize sign.apply (years + months / 12) = year
  generalize sign.apply (months % 12) = month at *
  dsimp only
  split
  · rw [Prod.mk.injEq]
    omega
  · split <;> rw [Prod.mk.injEq] <;> omega

namespace Reading

variable {r target : Reading} {months : Int}

/-- `target` is as many months after `r`, at the same time of the same day, or of the last day of
the month if that is earlier. -/
structure MonthsAway (r : Reading) (months : Int) (target : Reading) : Prop where
  year : (target.date.year : Int) = (r.date.monthIndex + months) / 12
  month : (target.date.month : Int) = (r.date.monthIndex + months) % 12 + 1
  day : target.date.day = min r.date.day (monthLength target.date.year target.date.month)
  timeOfDay : target.timeOfDay = r.timeOfDay

theorem addMonths_eq_ok_iff_monthsAway :
    r.addMonths months = .ok target ↔ r.MonthsAway months target := by
  rw [addMonths_eq_ok_iff]
  constructor
  · rintro ⟨date, index, day, rfl⟩
    have year := date.monthIndex_div
    have month := date.monthIndex_mod
    constructor
    · rw [date_ofDate]
      omega
    · rw [date_ofDate]
      omega
    · rw [date_ofDate, day]
    · exact (Nat.mul_add_mod' _ _ _).trans (Nat.mod_eq_of_lt r.timeOfDay_lt)
  · rintro ⟨year, month, day, time⟩
    have year' := target.date.monthIndex_div
    have month' := target.date.monthIndex_mod
    refine ⟨target.date, by omega, day, target.ofDate_date.symm.trans ?_⟩
    simp only [time]

end Reading

namespace Zone

variable {z : Zone} {r utc : Reading} {m : Moment} {length : Nat}

theorem seconds_of_utc (there : Moment.utc ⟨r, false, some z⟩ = .ok utc) :
    (r.seconds : Int) = utc.seconds + z.history.offsetOfWall r.seconds false := by
  have instant := (Moment.utc_eq_ok_iff rfl).1 there
  simp only [Moment.instant, Moment.offset, offsetAt] at instant
  exact showsAt_seconds (by omega)

theorem momentAt_of_shows (there : Moment.utc ⟨r, false, some z⟩ = .ok utc) (shown : z.Shows r) :
    z.momentAt utc = .ok ⟨r, false, some z⟩ := by
  obtain ⟨utc', there', -, back⟩ := (shows_iff_onClock.1 shown).exists_utc
  rw [Except.ok.inj (there.symm.trans there')]
  exact back

theorem past_gap_of_momentAt (there : Moment.utc ⟨r, false, some z⟩ = .ok utc)
    (gap : z.history.Gap r.seconds length) (back : z.momentAt utc = .ok m) :
    (m.reading.micros : Int) = r.micros + microsOfSeconds length ∧ m.fold = false := by
  have phase : z.phase utc = _ := gap.phaseAt_eq z.history_spaced (seconds_of_utc there)
  have instant := (Moment.utc_eq_ok_iff rfl).1 there
  obtain ⟨shown, micros, rfl⟩ := momentAt_eq_ok_iff.1 back
  rw [phase] at micros ⊢
  refine ⟨?_, rfl⟩
  simp only [Moment.instant, Moment.offset, offsetAt, microsOfSeconds, microsPerSecond] at *
  omega

theorem shows_iff_not_gap (there : Moment.utc ⟨r, false, some z⟩ = .ok utc) :
    z.Shows r ↔ ¬∃ length, z.history.Gap r.seconds length := by
  constructor
  · rintro shown ⟨length, gap⟩
    have past := (past_gap_of_momentAt there gap (momentAt_of_shows there shown)).1
    have pos := gap.length_pos
    simp only [microsOfSeconds, microsPerSecond] at past
    omega
  · intro none
    obtain shown | gap := History.showsAt_or_gap z.history_spaced (seconds_of_utc there)
    · obtain ⟨utc', m, -, shows⟩ := exists_momentAt_of_showsAt utc.seconds_lt shown
      exact ⟨utc', m, shows⟩
    · exact absurd gap none

end Zone

namespace Moment

variable {z : Zone} {m moved : Moment} {sign : Sign} {years months : Nat}

/-- A move by years and months ends at the reading that they lead to, in its first showing, if the
zone's clock shows it; and as long after it as the gap if the reading lies in one, which it does
exactly if the clock does not show it. -/
theorem months_move_shown_or_past_gap (zone : m.zone = some z)
    (h : m.moveOrReject sign ⟨years, months, 0, 0, 0, 0, 0⟩ = .ok moved) :
    ∃ target : Reading,
      (m.reading.MonthsAway (sign.apply (12 * years + months)) target ∧
        m.reading.date.stepped sign years months =
          ((target.date.year : Int), (target.date.month : Int))) ∧
      (moved.zone = some z ∧ moved.fold = false) ∧
      (z.Shows target → moved.reading = target) ∧
      (∀ length, z.history.Gap target.seconds length →
        (moved.reading.micros : Int) = target.micros + microsOfSeconds length) ∧
      (z.Shows target ↔ ¬∃ length, z.history.Gap target.seconds length) := by
  obtain ⟨-, -, target, utc, there, index, start, elapsed, back⟩ :=
    move_eq_ok_iff.1 (moveOrReject_eq_ok_iff.1 h)
  obtain rfl : there = utc := by
    refine Reading.ext (Int.ofNat.inj ?_)
    cases sign <;> simpa [Duration.elapsed, Sign.apply, microsOfSeconds] using elapsed
  rw [zone] at start
  rw [targetZone_eq zone] at back
  have away := Reading.addMonths_eq_ok_iff_monthsAway.1 index
  have steps : m.reading.date.stepped sign years months =
      ((target.date.year : Int), (target.date.month : Int)) := by
    rw [Date.stepped_eq, away.year, away.month]
    rfl
  have shows_iff := Zone.shows_iff_not_gap start
  refine ⟨target, ⟨away, steps⟩, ⟨Zone.zone_of_momentAt back, ?_⟩, ?_, ?_, shows_iff⟩
  · by_cases gap : ∃ length, z.history.Gap target.seconds length
    · obtain ⟨length, gap⟩ := gap
      exact (Zone.past_gap_of_momentAt start gap back).2
    · rw [← Except.ok.inj ((Zone.momentAt_of_shows start (shows_iff.2 gap)).symm.trans back)]
  · intro shown
    rw [← Except.ok.inj ((Zone.momentAt_of_shows start shown).symm.trans back)]
  · intro length gap
    exact (Zone.past_gap_of_momentAt start gap back).1

/-- Ten in the morning of 30 January 2014, in Apia. -/
def apiaSummer : Moment := ⟨⟨63526672800000000, by decide⟩, false, some (.region .apia)⟩

/-- Two years and a month earlier is the day that Apia skipped when it went over the date line; the
move ends on the next day. -/
theorem skippedDay_past_gap :
    (apiaSummer.zone = some (.region .apia) ∧
        apiaSummer.moveOrReject .minus ⟨1, 13, 0, 0, 0, 0, 0⟩ =
          .ok ⟨⟨63460922400000000, by decide⟩, false, some (.region .apia)⟩) ∧
      ∃ target : Reading, apiaSummer.reading.MonthsAway (-25) target ∧
        (target.fields = ⟨2011, 12, 30, 10, 0, 0⟩ ∧
          apiaSummer.reading.date.stepped .minus 1 13 = (2011, 12)) ∧
        ¬(Zone.region .apia).Shows target ∧
        (Zone.region .apia).history.Gap target.seconds 86400 ∧
        (63460922400000000 : Int) = target.micros + microsOfSeconds 86400 := by
  have moved : apiaSummer.moveOrReject .minus ⟨1, 13, 0, 0, 0, 0, 0⟩ =
      .ok ⟨⟨63460922400000000, by decide⟩, false, some (.region .apia)⟩ := by decide +kernel
  have index : apiaSummer.reading.addMonths (-25) = .ok ⟨63460836000000000, by decide⟩ := by
    decide +kernel
  have gap : (Zone.region .apia).history.Gap 63460836000 86400 :=
    ⟨63460835999, by decide +kernel, by decide +kernel⟩
  obtain ⟨target, ⟨away, steps⟩, -, -, past, shows_iff⟩ := months_move_shown_or_past_gap rfl moved
  obtain rfl := Except.ok.inj (index.symm.trans (Reading.addMonths_eq_ok_iff_monthsAway.2 away))
  have skipped : ¬(Zone.region .apia).Shows _ := fun shown => shows_iff.1 shown ⟨_, gap⟩
  exact ⟨⟨rfl, moved⟩, _, away, ⟨by decide +kernel, steps⟩, skipped, gap, past _ gap⟩

end Moment
end CivilRange
