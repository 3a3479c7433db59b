import CivilRange.Proofs.Moment.Move

set_option autoImplicit false

namespace CivilRange

def clampedDay (index day : Nat) : Nat :=
  daysBeforeYear (index / 12) + daysBeforeMonth (index / 12) (index % 12 + 1) +
    (min day (monthLength (index / 12) (index % 12 + 1)) - 1)

theorem daysBefore_succ_index (index : Nat) (calendar : 12 ≤ index) :
    daysBeforeYear ((index + 1) / 12) + daysBeforeMonth ((index + 1) / 12) ((index + 1) % 12 + 1) =
      daysBeforeYear (index / 12) + daysBeforeMonth (index / 12) (index % 12 + 1) +
        monthLength (index / 12) (index % 12 + 1) := by
  obtain inner | last : index % 12 + 1 < 12 ∨ index % 12 + 1 = 12 := by omega
  · rw [show (index + 1) / 12 = index / 12 by omega,
      show (index + 1) % 12 + 1 = index % 12 + 1 + 1 by omega,
      daysBeforeMonth_succ _ _ (by omega)]
    omega
  · have year := daysBeforeYear_succ (index / 12) (by omega)
    have december := daysBeforeMonth_succ (index / 12) 12 (by omega)
    rw [show (index + 1) / 12 = index / 12 + 1 by omega, show (index + 1) % 12 + 1 = 1 by omega,
      last, year, december]
    simp only [daysBeforeMonth]
    omega

theorem clampedDay_succ (index day : Nat) (calendar : 12 ≤ index) (h : 1 ≤ day) :
    clampedDay index day + 28 ≤ clampedDay (index + 1) day := by
  have start := daysBefore_succ_index index calendar
  have length := le_monthLength (index / 12) (index % 12 + 1)
  have length' := le_monthLength ((index + 1) / 12) ((index + 1) % 12 + 1)
  unfold clampedDay
  omega

theorem clampedDay_add {index : Nat} (day : Nat) (calendar : 12 ≤ index) (h : 1 ≤ day)
    (months : Nat) : clampedDay index day + 28 * months ≤ clampedDay (index + months) day := by
  induction months with
  | zero => exact Nat.le_refl _
  | succ months ih =>
    have next := clampedDay_succ (index + months) day (Nat.le_add_right_of_le calendar) h
    change _ ≤ clampedDay (index + months + 1) day
    omega

theorem Date.dayNumber_eq_clampedDay {date : Date} {day : Nat}
    (clamped : date.day = min day (monthLength date.year date.month)) :
    date.dayNumber = clampedDay date.monthIndex day := by
  unfold Date.dayNumber clampedDay
  rw [date.monthIndex_div, date.monthIndex_mod, clamped]

namespace Reading

theorem micros_le_of_addMonths {r s t : Reading} {months : Int} (more : Nat)
    (hs : r.addMonths months = .ok s) (ht : r.addMonths (months + more) = .ok t) :
    s.micros + 28 * more * microsPerDay ≤ t.micros := by
  obtain ⟨date, index, clamped, rfl⟩ := addMonths_eq_ok_iff.1 hs
  obtain ⟨date', index', clamped', rfl⟩ := addMonths_eq_ok_iff.1 ht
  have year := date.monthIndex_div
  have first := date.valid.1.1
  have apart := clampedDay_add r.date.day (show 12 ≤ date.monthIndex by omega)
    r.date.valid.2.2.1 more
  rw [show date.monthIndex + more = date'.monthIndex by omega,
    ← Date.dayNumber_eq_clampedDay clamped, ← Date.dayNumber_eq_clampedDay clamped'] at apart
  simp only [ofDate, microsPerDay, secondsPerDay, microsPerSecond]
  omega

end Reading

namespace History

theorem natAbs_offsetOfWall_sub {h : History} (spaced : h.Spaced) (w w' : Nat) (fold fold' : Bool) :
    (h.offsetOfWall w fold - h.offsetOfWall w' fold').natAbs ≤ 2 * secondsPerDay := by
  obtain ⟨initial, changes⟩ := h
  cases changes with
  | nil => simp [offsetOfWall, offsetAfter]
  | cons c rest =>
    have bound := spaced.2.1.1
    have one := natAbs_offsetAfter w fold spaced bound
    have other := natAbs_offsetAfter w' fold' spaced bound
    unfold offsetOfWall
    dsimp only at one other ⊢
    omega

end History

namespace Duration

/-- Neither part of `d` is longer than that of `e`, and together they count `n` months and seconds
less. -/
structure ShorterBy (n : Nat) (d e : Duration) : Prop where
  months : d.totalMonths ≤ e.totalMonths
  elapsed : d.elapsed ≤ e.elapsed
  total : d.totalMonths + d.elapsed + n ≤ e.totalMonths + e.elapsed

theorem shorterBy_withAmount (d : Duration) (unit : TimeUnit) {n k : Nat} (h : n ≤ k) :
    (d.withAmount unit n).ShorterBy (k - n) (d.withAmount unit k) := by
  cases unit <;> constructor <;>
    simp only [withAmount, ofAmounts, amount, totalMonths, elapsed, reduceCtorEq, ↓reduceIte] <;>
    omega

end Duration

namespace Moment

variable {z : Zone} {m a b : Moment} {d e : Duration}

theorem instant_add_le_of_addMonths (z : Zone) {r s t : Reading} {months : Int} (more : Nat)
    (hs : r.addMonths months = .ok s) (ht : r.addMonths (months + more) = .ok t) :
    Moment.instant ⟨s, false, some z⟩ + microsOfSeconds more ≤
      Moment.instant ⟨t, false, some z⟩ := by
  cases more with
  | zero =>
    rw [Int.natCast_zero, Int.add_zero, hs] at ht
    obtain rfl := Except.ok.inj ht
    simp [microsOfSeconds]
  | succ more =>
    have apart := Reading.micros_le_of_addMonths (more + 1) hs ht
    have offsets := History.natAbs_offsetOfWall_sub z.history_spaced s.seconds t.seconds false false
    simp only [Moment.instant, Moment.offset, Zone.offsetAt, microsOfSeconds, microsPerDay,
      secondsPerDay, microsPerSecond] at *
    omega

/-- A longer move ends later, by a second at least for each month and each second that it is
longer. -/
theorem instant_add_le_of_moves {n : Nat} (zone : m.zone = some z) (shorter : d.ShorterBy n e)
    (ha : m.move .plus d = .ok a) (hb : m.move .plus e = .ok b) :
    a.instant + microsOfSeconds n ≤ b.instant := by
  obtain ⟨s, hs, one⟩ := instant_of_move zone ha
  obtain ⟨t, ht, other⟩ := instant_of_move zone hb
  obtain ⟨months, elapsed, total⟩ := shorter
  obtain ⟨more, eq⟩ := Nat.exists_eq_add_of_le months
  have later := instant_add_le_of_addMonths z more hs (by rw [eq] at ht; exact ht)
  simp only [Sign.apply, microsOfSeconds, microsPerSecond] at *
  omega

end Moment
end CivilRange
