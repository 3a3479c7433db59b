import CivilRange.Moment
import CivilRange.Proofs.Zone.Clock

set_option autoImplicit false

namespace CivilRange

theorem Reading.ofMicros?_eq_some_iff {micros : Int} {r : Reading} :
    ofMicros? micros = some r ↔ micros = r.micros := by
  have lt := r.micros_lt
  unfold ofMicros?
  constructor
  · intro h
    split at h
    · obtain rfl := Option.some.inj h
      dsimp only
      omega
    · cases h
  · rintro rfl
    rw [dif_pos ⟨by omega, by omega⟩]
    rfl

@[ext] theorem Reading.ext {r s : Reading} (h : r.micros = s.micros) : r = s := by
  cases r
  cases s
  cases h
  rfl

theorem Reading.seconds_lt (r : Reading) : r.seconds < dayCount * secondsPerDay := by
  have lt := r.micros_lt
  simp only [seconds, readingCount, microsPerDay, secondsPerDay, microsPerSecond] at *
  omega

namespace Zone

variable {z : Zone} {utc r : Reading} {m : Moment}

/-- The phase of the zone's clock when a clock in UTC shows `utc`. -/
def phase (z : Zone) (utc : Reading) : Phase := z.history.phaseAt utc.seconds

theorem momentAt_eq_ok_iff : z.momentAt utc = .ok m ↔
    ∃ r : Reading, (r.micros : Int) = utc.micros + microsOfSeconds (z.phase utc).offset ∧
      m = ⟨r, (z.phase utc).fold, some z⟩ := by
  unfold momentAt phase
  dsimp only
  constructor
  · intro h
    split at h
    · rename_i r found
      exact ⟨r, (Reading.ofMicros?_eq_some_iff.1 found).symm, (Except.ok.inj h).symm⟩
    · cases h
  · rintro ⟨r, micros, rfl⟩
    rw [Reading.ofMicros?_eq_some_iff.2 micros.symm]

theorem showsAt_seconds {offset : Int}
    (h : (r.micros : Int) = utc.micros + microsOfSeconds offset) :
    (r.seconds : Int) = utc.seconds + offset := by
  simp only [Reading.seconds, microsOfSeconds, microsPerSecond] at *
  omega

theorem zone_of_momentAt (h : z.momentAt utc = .ok m) : m.zone = some z := by
  obtain ⟨r, -, rfl⟩ := momentAt_eq_ok_iff.1 h
  rfl

theorem fold_of_momentAt (h : z.momentAt utc = .ok m) : m.fold = (z.phase utc).fold := by
  obtain ⟨r, -, rfl⟩ := momentAt_eq_ok_iff.1 h
  rfl

theorem showsAt_of_momentAt (h : z.momentAt utc = .ok m) :
    z.history.ShowsAt utc.seconds m.reading.seconds := by
  obtain ⟨r, micros, rfl⟩ := momentAt_eq_ok_iff.1 h
  exact showsAt_seconds micros

theorem offset_of_momentAt (h : z.momentAt utc = .ok m) : m.offset = (z.phase utc).offset := by
  have shown := History.offsetOfWall_of_showsAt z.history_spaced (showsAt_of_momentAt h)
  obtain ⟨r, -, rfl⟩ := momentAt_eq_ok_iff.1 h
  exact shown

theorem instant_of_momentAt (h : z.momentAt utc = .ok m) : m.instant = utc.micros := by
  have offset := offset_of_momentAt h
  obtain ⟨r, micros, rfl⟩ := momentAt_eq_ok_iff.1 h
  unfold Moment.instant
  rw [offset]
  dsimp only
  omega

end Zone

namespace Moment

variable {z : Zone} {utc : Reading} {m : Moment}

theorem utc_eq_ok_iff (zone : m.zone = some z) : m.utc = .ok utc ↔ m.instant = utc.micros := by
  rw [← Reading.ofMicros?_eq_some_iff]
  unfold Moment.utc
  rw [zone]
  dsimp only
  constructor
  · intro h
    split at h
    · rename_i found
      rw [found, Except.ok.inj h]
    · cases h
  · intro h
    rw [h]

theorem utc_of_momentAt (h : z.momentAt utc = .ok m) : m.utc = .ok utc :=
  (utc_eq_ok_iff (Zone.zone_of_momentAt h)).2 (Zone.instant_of_momentAt h)

/-- The zone's clock shows the moment at an instant of the calendar, and the moment is that
instant. -/
structure OnClock (z : Zone) (m : Moment) : Prop where
  zone_eq : m.zone = some z
  exists_utc : ∃ utc, m.utc = .ok utc ∧ m.instant = utc.micros ∧ z.momentAt utc = .ok m

theorem onClock_of_momentAt (h : z.momentAt utc = .ok m) : m.OnClock z :=
  ⟨Zone.zone_of_momentAt h, utc, utc_of_momentAt h, Zone.instant_of_momentAt h, h⟩

theorem isShown_eq_ok_true_iff (zone : m.zone = some z) :
    m.isShown = .ok true ↔
      ∃ utc back, m.utc = .ok utc ∧ z.momentAt utc = .ok back ∧ back.reading = m.reading := by
  unfold isShown
  rw [zone]
  dsimp only
  cases there : m.utc with
  | error fault => simp [bind, Except.bind]
  | ok utc =>
    cases back : z.momentAt utc with
    | error fault => simp [back, bind, Except.bind]
    | ok m' => simp [back, bind, Except.bind, pure, Except.pure]

theorem OnClock.isShown (h : m.OnClock z) : m.isShown = .ok true := by
  obtain ⟨utc, there, -, back⟩ := h.exists_utc
  exact (isShown_eq_ok_true_iff h.zone_eq).2 ⟨utc, m, there, back, rfl⟩

theorem onClock_of_isShown (zone : m.zone = some z) (first : m.fold = false)
    (shown : m.isShown = .ok true) : m.OnClock z := by
  obtain ⟨utc, back, there, again, same⟩ := (isShown_eq_ok_true_iff zone).1 shown
  have instant := (utc_eq_ok_iff zone).1 there
  have instant' := Zone.instant_of_momentAt again
  have offset : m.offset = back.offset := by
    unfold Moment.instant at instant instant'
    rw [same] at instant'
    simp only [microsOfSeconds, microsPerSecond] at instant instant'
    omega
  have fold : back.fold = false := by
    cases fold : back.fold with
    | false => rfl
    | true =>
      have ne := History.offsetOfWall_first_ne z.history_spaced (Zone.showsAt_of_momentAt again)
        ((Zone.fold_of_momentAt again).symm.trans fold)
      rw [Zone.offset_of_momentAt again, Moment.offset, zone] at offset
      rw [same] at ne
      rw [first] at offset
      exact absurd offset ne
  have eq : back = m := by
    have zone' := Zone.zone_of_momentAt again
    cases m
    cases back
    simp_all
  exact eq ▸ onClock_of_momentAt again

end Moment

namespace Zone

variable {z : Zone} {r : Reading}

def Shows (z : Zone) (r : Reading) : Prop := ∃ utc m, z.momentAt utc = .ok m ∧ m.reading = r

def Repeats (z : Zone) (r : Reading) : Prop :=
  ∃ utc utc' m m', utc ≠ utc' ∧ (z.momentAt utc = .ok m ∧ m.reading = r) ∧
    z.momentAt utc' = .ok m' ∧ m'.reading = r

theorem exists_momentAt_of_showsAt {t : Nat} (within : t < dayCount * secondsPerDay)
    (shown : z.history.ShowsAt t r.seconds) :
    ∃ utc m, utc.seconds = t ∧ z.momentAt utc = .ok m ∧ m.reading = r := by
  have micro : r.micro < microsPerSecond := Nat.mod_lt _ (by decide)
  have lt : t * microsPerSecond + r.micro < readingCount := by
    simp only [readingCount, microsPerDay, microsPerSecond, secondsPerDay] at *
    omega
  have seconds : (⟨t * microsPerSecond + r.micro, lt⟩ : Reading).seconds = t := by
    simp only [Reading.seconds, microsPerSecond] at *
    omega
  refine ⟨⟨_, lt⟩, _, seconds, momentAt_eq_ok_iff.2 ⟨r, ?_, rfl⟩, rfl⟩
  unfold phase
  rw [seconds]
  simp only [History.ShowsAt, Reading.seconds, Reading.micro, microsOfSeconds, microsPerSecond] at *
  omega

/-- A clock shows every microsecond of a second, or none of it. -/
theorem Shows.of_seconds {s : Reading} (shown : z.Shows r) (same : s.seconds = r.seconds) :
    z.Shows s := by
  obtain ⟨utc, m, there, rfl⟩ := shown
  obtain ⟨_, m', -, there', reading⟩ :=
    exists_momentAt_of_showsAt (r := s) utc.seconds_lt (same ▸ showsAt_of_momentAt there)
  exact ⟨_, m', there', reading⟩

/-- A reading of the second fold was shown before, in the first. -/
theorem Shows.exists_first (shown : z.Shows r) :
    ∃ utc m, z.momentAt utc = .ok m ∧ m.reading = r ∧ m.fold = false := by
  obtain ⟨utc, m, there, rfl⟩ := shown
  cases fold : m.fold with
  | false => exact ⟨utc, m, there, rfl, fold⟩
  | true =>
    have shown := showsAt_of_momentAt there
    have second : (z.history.phaseAt utc.seconds).fold = true :=
      (fold_of_momentAt there).symm.trans fold
    have read := History.offsetOfWall_of_showsAt z.history_spaced shown
    have differ := History.offsetOfWall_first_ne z.history_spaced shown second
    rw [← read, second] at differ
    obtain ⟨t₀, t₁, lt, within, early, late, later⟩ :=
      History.exists_second_of_offsets_ne z.history_spaced shown differ
    obtain ⟨u, n, rfl, at_u, same⟩ := exists_momentAt_of_showsAt (by omega) early
    refine ⟨u, n, at_u, same, Bool.eq_false_iff.2 fun again => ?_⟩
    rw [fold_of_momentAt at_u] at again
    have once := History.eq_of_showsAt z.history_spaced early late (again.trans later.symm)
    exact Nat.lt_irrefl _ (once ▸ lt)

theorem shows_iff_onClock : z.Shows r ↔ Moment.OnClock z ⟨r, false, some z⟩ := by
  constructor
  · intro shown
    obtain ⟨utc, m, there, rfl, first⟩ := shown.exists_first
    rw [← first, ← zone_of_momentAt there]
    exact Moment.onClock_of_momentAt there
  · intro h
    obtain ⟨utc, -, -, there⟩ := h.exists_utc
    exact ⟨utc, _, there, rfl⟩

theorem repeats_iff (shown : z.Shows r) :
    z.Repeats r ↔ z.offsetAt r false ≠ z.offsetAt r true := by
  constructor
  · rintro ⟨utc, utc', m, m', ne, ⟨there, rfl⟩, there', same⟩ eq
    have offset : m.offset = m'.offset := by
      rw [Moment.offset, Moment.offset, zone_of_momentAt there, zone_of_momentAt there', same]
      dsimp only
      cases m.fold <;> cases m'.fold <;> simp [eq]
    have instant : m.instant = m'.instant := by
      unfold Moment.instant
      rw [offset, same]
    rw [instant_of_momentAt there, instant_of_momentAt there'] at instant
    exact ne (Reading.ext (Int.ofNat.inj instant))
  · intro differ
    obtain ⟨utc, m, there, rfl⟩ := shown
    obtain ⟨t₀, t₁, lt, within, first, second, -⟩ :=
      History.exists_second_of_offsets_ne z.history_spaced (showsAt_of_momentAt there) differ
    obtain ⟨u, n, rfl, at_u, same⟩ := exists_momentAt_of_showsAt (by omega) first
    obtain ⟨v, n', rfl, at_v, same'⟩ := exists_momentAt_of_showsAt within second
    exact ⟨u, v, n, n', fun eq => Nat.lt_irrefl _ (eq ▸ lt), ⟨at_u, same⟩, at_v, same'⟩

end Zone
end CivilRange
