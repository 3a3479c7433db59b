import CivilRange.Proofs.Moment.Unbounded

set_option autoImplicit false

namespace CivilRange

namespace Zone

variable {z : Zone} {t : Int}

def Still (z : Zone) : Prop := z.history.changes = []

/-- The calendar has the instant, and also what the zone's clock shows at it. -/
def Covers (z : Zone) (t : Int) : Prop :=
  ∃ (utc : Reading) (m : Moment), (utc.micros : Int) = t ∧ z.momentAt utc = .ok m

theorem covers_iff_inCalendar : z.Covers t ↔ InCalendar t ∧
    InCalendar (t + microsOfSeconds (z.history.phaseAt (wholeSeconds t)).offset) := by
  constructor
  · rintro ⟨utc, m, there, at_utc⟩
    obtain ⟨r, micros, -⟩ := momentAt_eq_ok_iff.1 at_utc
    refine ⟨inCalendar_iff.2 ⟨utc, there⟩, inCalendar_iff.2 ⟨r, ?_⟩⟩
    rw [micros, phase, Reading.seconds_eq there, there]
  · rintro ⟨instant, shown⟩
    obtain ⟨utc, there⟩ := inCalendar_iff.1 instant
    obtain ⟨r, micros⟩ := inCalendar_iff.1 shown
    refine ⟨utc, _, there, momentAt_eq_ok_iff.2 ⟨r, ?_, rfl⟩⟩
    rw [micros, phase, Reading.seconds_eq there, there]

theorem still_of_utc_or_fixed (h : z = .region .utc ∨ z = .system ∨ ∃ offset, z = .fixed offset) :
    z.Still := by
  obtain rfl | rfl | ⟨offset, rfl⟩ := h <;> rfl

namespace Still

theorem phaseAt_eq (still : z.Still) (t : Nat) :
    z.history.phaseAt t = ⟨z.history.initial, false⟩ := by
  unfold History.phaseAt
  rw [show z.history.changes = [] from still]
  rfl

theorem offsetAt_eq (still : z.Still) (r : Reading) (fold : Bool) :
    z.offsetAt r fold = z.history.initial := by
  unfold offsetAt History.offsetOfWall
  rw [show z.history.changes = [] from still]
  rfl

theorem covers_iff (still : z.Still) : z.Covers t ↔
    (0 ≤ t ∧ t < readingCount) ∧ 0 ≤ t + microsOfSeconds z.history.initial ∧
      t + microsOfSeconds z.history.initial < readingCount := by
  rw [covers_iff_inCalendar, still.phaseAt_eq]
  exact Iff.rfl

end Still
end Zone

namespace Moment

variable {z : Zone} {m moved : Moment} {d : Duration} {utc : Reading}

theorem instant_of_still (still : z.Still) (zone : m.zone = some z) :
    m.instant = m.reading.micros - microsOfSeconds z.history.initial := by
  unfold instant offset
  rw [zone]
  dsimp only
  rw [still.offsetAt_eq]

theorem covers_of_utc (still : z.Still) (zone : m.zone = some z) (there : m.utc = .ok utc) :
    z.Covers m.instant := by
  have instant := (utc_eq_ok_iff zone).1 there
  have utc_lt := utc.micros_lt
  have reading_lt := m.reading.micros_lt
  rw [still.covers_iff]
  rw [instant_of_still still zone] at *
  omega

theorem OnClock.covers (h : m.OnClock z) : z.Covers m.instant := by
  obtain ⟨utc, -, instant, there⟩ := h.exists_utc
  exact ⟨utc, m, instant.symm, there⟩

theorem reading_sub_of_still {a b : Moment} (still : z.Still) (za : a.zone = some z)
    (zb : b.zone = some z) :
    (b.reading.micros - a.reading.micros : Int) = b.instant - a.instant := by
  rw [instant_of_still still za, instant_of_still still zb]
  omega

theorem instant_of_elapsed_move_of_still (still : z.Still) (zone : m.zone = some z)
    (months : d.totalMonths = 0) (h : m.move .plus d = .ok moved) :
    moved.instant = m.instant + microsOfSeconds d.elapsed := by
  rw [instant_of_elapsed_move zone months h, instant_of_still still zone, instant_of_still still rfl]
  rfl

/-- Elapsed time leads from an instant of the calendar to just those that the clock can show. -/
theorem exists_elapsed_move_iff_of_still (still : z.Still) (zone : m.zone = some z)
    (start : z.Covers m.instant) (months : d.totalMonths = 0) :
    (∃ moved, m.move .plus d = .ok moved) ↔ z.Covers (m.instant + microsOfSeconds d.elapsed) := by
  constructor
  · rintro ⟨moved, h⟩
    rw [← instant_of_elapsed_move_of_still still zone months h]
    exact (onClock_of_move zone h).covers
  · rintro ⟨target, moved, there, shown⟩
    obtain ⟨utc, -, instant, -⟩ := start
    refine ⟨moved, move_eq_ok_iff_landsAt.2 ⟨m.reading, utc, target, ?_, ?_, ?_, ?_⟩⟩
    · rw [months]
      exact m.reading.addMonths_zero
    · rw [zone, utc_eq_ok_iff rfl, instant, instant_of_still still zone, instant_of_still still rfl]
    · rw [there, instant]
      rfl
    · rw [targetZone_eq zone]
      exact shown

end Moment
end CivilRange
