import CivilRange.Proofs.Moment.Growth

set_option autoImplicit false

namespace CivilRange

def wholeSeconds (micros : Int) : Nat := (micros / microsPerSecond).toNat

def InCalendar (micros : Int) : Prop := 0 ≤ micros ∧ micros < readingCount

instance (micros : Int) : Decidable (InCalendar micros) := inferInstanceAs (Decidable (_ ∧ _))

theorem inCalendar_iff {micros : Int} :
    InCalendar micros ↔ ∃ r : Reading, (r.micros : Int) = micros := by
  constructor
  · rintro ⟨first, last⟩
    exact ⟨⟨micros.toNat, by omega⟩, Int.toNat_of_nonneg first⟩
  · rintro ⟨r, rfl⟩
    exact ⟨Int.natCast_nonneg _, Int.ofNat_lt.2 r.micros_lt⟩

theorem Reading.seconds_eq {r : Reading} {micros : Int} (h : (r.micros : Int) = micros) :
    r.seconds = wholeSeconds micros := by
  rw [seconds, wholeSeconds, ← h]
  rfl

namespace Moment

variable (z : Zone) (m : Moment) (sign : Sign) (d : Duration)

/-- The month that the calendar leads to, counted from January of year 0. -/
def monthReached : Int := m.reading.date.monthIndex + sign.apply d.totalMonths

def readingReached : Int :=
  clampedDay (m.monthReached sign d).toNat m.reading.date.day * microsPerDay + m.reading.timeOfDay

/-- The instant of that reading in the first fold. -/
def utcReached : Int :=
  m.readingReached sign d -
    microsOfSeconds (z.history.offsetOfWall (wholeSeconds (m.readingReached sign d)) false)

def instantReached : Int := m.utcReached z sign d + microsOfSeconds (sign.apply d.elapsed)

def phaseReached : Phase := z.history.phaseAt (wholeSeconds (m.instantReached z sign d))

def shownReached : Int :=
  m.instantReached z sign d + microsOfSeconds (m.phaseReached z sign d).offset

/-- The calendar has the year and each of the last three stages. -/
structure Fits : Prop where
  year : 1 ≤ m.monthReached sign d / 12 ∧ m.monthReached sign d / 12 ≤ lastYear
  utc : InCalendar (m.utcReached z sign d)
  instant : InCalendar (m.instantReached z sign d)
  shown : InCalendar (m.shownReached z sign d)

variable {z m sign d} {moved : Moment} {r : Reading}

theorem reached_of_addMonths (h : m.reading.addMonths (sign.apply d.totalMonths) = .ok r) :
    (1 ≤ m.monthReached sign d / 12 ∧ m.monthReached sign d / 12 ≤ lastYear) ∧
      (r.micros : Int) = m.readingReached sign d := by
  obtain ⟨date, index, clamped, rfl⟩ := Reading.addMonths_eq_ok_iff.1 h
  have year := date.valid.1
  have div := date.monthIndex_div
  change (date.monthIndex : Int) = m.monthReached sign d at index
  constructor
  · omega
  · rw [readingReached, ← index, Int.toNat_natCast, ← Date.dayNumber_eq_clampedDay clamped]
    rfl

theorem exists_addMonths
    (year : 1 ≤ m.monthReached sign d / 12 ∧ m.monthReached sign d / 12 ≤ lastYear) :
    ∃ r, m.reading.addMonths (sign.apply d.totalMonths) = .ok r := by
  refine ⟨_, Reading.addMonths_eq_ok_iff.2
    ⟨⟨_, _, _, validDate_monthIndex year m.reading.date.valid.2.2.1⟩, ?_, rfl, rfl⟩⟩
  change _ = m.monthReached sign d
  simp only [Date.monthIndex]
  omega

theorem instant_of_reached (reached : (r.micros : Int) = m.readingReached sign d) :
    Moment.instant ⟨r, false, some z⟩ = m.utcReached z sign d := by
  simp only [Moment.instant, Moment.offset, Zone.offsetAt, utcReached, Reading.seconds_eq reached,
    reached]

theorem phase_of_reached {target : Reading}
    (reached : (target.micros : Int) = m.instantReached z sign d) :
    z.phase target = m.phaseReached z sign d := by
  rw [Zone.phase, phaseReached, Reading.seconds_eq reached]

theorem landsAt_iff_fits (zone : m.zone = some z) : m.LandsAt sign d moved ↔
    m.Fits z sign d ∧ (moved.reading.micros : Int) = m.shownReached z sign d ∧
      moved.fold = (m.phaseReached z sign d).fold ∧ moved.zone = some z := by
  unfold LandsAt
  rw [zone, targetZone_eq zone]
  constructor
  · rintro ⟨r, utc, target, index, there, elapsed, back⟩
    obtain ⟨year, reached⟩ := reached_of_addMonths index
    rw [utc_eq_ok_iff rfl, instant_of_reached reached] at there
    rw [← there] at elapsed
    obtain ⟨shown, micros, rfl⟩ := Zone.momentAt_eq_ok_iff.1 back
    rw [phase_of_reached elapsed, elapsed] at micros
    have fits : m.Fits z sign d := ⟨year, inCalendar_iff.2 ⟨utc, there.symm⟩,
      inCalendar_iff.2 ⟨target, elapsed⟩, inCalendar_iff.2 ⟨shown, micros⟩⟩
    exact ⟨fits, micros, congrArg Phase.fold (phase_of_reached elapsed), rfl⟩
  · rintro ⟨⟨year, utc, instant, -⟩, micros, fold, zone'⟩
    obtain ⟨r, index⟩ := exists_addMonths year
    obtain ⟨utc, there⟩ := inCalendar_iff.1 utc
    obtain ⟨target, elapsed⟩ := inCalendar_iff.1 instant
    refine ⟨r, utc, target, index, ?_, ?_, ?_⟩
    · rw [utc_eq_ok_iff rfl, instant_of_reached (reached_of_addMonths index).2, there]
    · rw [elapsed, there]
      rfl
    · refine Zone.momentAt_eq_ok_iff.2 ⟨moved.reading, ?_, ?_⟩
      · rw [micros, elapsed, phase_of_reached elapsed]
        rfl
      · rw [phase_of_reached elapsed, ← fold, ← zone']

theorem exists_landsAt_iff_fits (zone : m.zone = some z) :
    (∃ moved, m.LandsAt sign d moved) ↔ m.Fits z sign d := by
  simp only [landsAt_iff_fits zone]
  constructor
  · rintro ⟨_, fits, -⟩
    exact fits
  · intro fits
    obtain ⟨r, shown⟩ := inCalendar_iff.1 fits.shown
    exact ⟨⟨r, (m.phaseReached z sign d).fold, some z⟩, fits, shown, rfl, rfl⟩

theorem instant_of_reached_move (zone : m.zone = some z) (h : m.move sign d = .ok moved) :
    moved.instant = m.instantReached z sign d := by
  obtain ⟨r, index, instant⟩ := instant_of_move zone h
  rw [instant, instant_of_reached (reached_of_addMonths index).2, instantReached]

theorem micro_of_shown (shown : (r.micros : Int) = m.shownReached z sign d) :
    r.micro = m.reading.micro := by
  simp only [shownReached, instantReached, utcReached, readingReached, Reading.timeOfDay,
    microsOfSeconds, microsPerDay, secondsPerDay, microsPerSecond] at shown
  simp only [Reading.micro, microsPerSecond]
  omega

/-- A move fails exactly if the calendar misses a stage of it, and then it is rejected as that move;
else it gives what the zone's clock shows at the exact sum, with the microseconds kept. -/
theorem move_fails_iff_not_fits (zone : m.zone = some z) :
    ((∃ fault, m.moveOrReject sign d = .error fault) ↔ ¬m.Fits z sign d) ∧
      (m.Fits z sign d → ∃ moved, m.moveOrReject sign d = .ok moved ∧
        ((moved.reading.micros : Int) = m.shownReached z sign d ∧
          moved.fold = (m.phaseReached z sign d).fold ∧ moved.zone = some z) ∧
        moved.instant = m.instantReached z sign d ∧ moved.reading.micro = m.reading.micro) ∧
      ∀ fault, m.moveOrReject sign d = .error fault →
        ∃ cause, fault = .rejected (.move m sign d cause) := by
  have accepts : (∃ moved, m.LandsAt sign d moved) ↔ m.Fits z sign d :=
    exists_landsAt_iff_fits zone
  simp only [← move_eq_ok_iff_landsAt, ← moveOrReject_eq_ok_iff] at accepts
  refine ⟨?_, ?_, ?_⟩
  · rw [← accepts]
    cases m.moveOrReject sign d <;> simp
  · intro fits
    obtain ⟨moved, h⟩ := accepts.2 fits
    have move := moveOrReject_eq_ok_iff.1 h
    obtain ⟨-, shown⟩ := (landsAt_iff_fits zone).1 (move_eq_ok_iff_landsAt.1 move)
    exact ⟨moved, h, shown, instant_of_reached_move zone move, micro_of_shown shown.1⟩
  · intro fault h
    obtain ⟨cause, -, same⟩ := moveOrReject_eq_error_iff.1 h
    exact ⟨cause, same.symm⟩

/-- The first noon of the calendar, in Paris, nine minutes and 21 seconds ahead of UTC. -/
def firstNoon : Moment := ⟨⟨43200000000, by decide⟩, false, some (.region .paris)⟩

/-- Some 12 hours lead back to the first instant of the calendar, and a second more leads out. -/
theorem firstNoon_fits :
    (firstNoon.zone = some (.region .paris) ∧
        firstNoon.Fits (.region .paris) .minus ⟨0, 0, 0, 0, 0, 0, 42639⟩ ∧
        ¬firstNoon.Fits (.region .paris) .minus ⟨0, 0, 0, 0, 0, 0, 42640⟩) ∧
      (∃ moved, firstNoon.moveOrReject .minus ⟨0, 0, 0, 0, 0, 0, 42639⟩ = .ok moved ∧
        moved.instant = 0) ∧
      ∃ fault, firstNoon.moveOrReject .minus ⟨0, 0, 0, 0, 0, 0, 42640⟩ = .error fault := by
  have fits : firstNoon.Fits (.region .paris) .minus ⟨0, 0, 0, 0, 0, 0, 42639⟩ :=
    ⟨by decide +kernel, by decide +kernel, by decide +kernel, by decide +kernel⟩
  have leaves : ¬firstNoon.Fits (.region .paris) .minus ⟨0, 0, 0, 0, 0, 0, 42640⟩ := by
    intro fits
    exact absurd fits.instant (by decide +kernel)
  obtain ⟨moved, h, -, instant, -⟩ := (move_fails_iff_not_fits rfl).2.1 fits
  have first : firstNoon.instantReached (.region .paris) .minus ⟨0, 0, 0, 0, 0, 0, 42639⟩ = 0 := by
    decide +kernel
  exact ⟨⟨rfl, fits, leaves⟩, ⟨moved, h, instant.trans first⟩,
    (move_fails_iff_not_fits rfl).1.2 leaves⟩

end Moment
end CivilRange
