import CivilRange.Proofs.Moment.Clock
import Mathlib.Algebra.GroupWithZero.Nat

set_option autoImplicit false

/-!
# Differences of timestamps

Timestamps are rounded, each to 53 significant bits, and so is the difference of two of them. Each
rounding is off by half a step at most, of some microseconds here; but what is left below a second
is cut off, so a difference of whole seconds comes out as itself or as one second less. It comes out
as itself where nothing is rounded, and where both timestamps are rounded alike.
-/
namespace CivilRange

section Rounding

variable {step n d k : Nat} {x : Int}

theorem nearestMultiple_error (hd : 0 < d) (hs : 0 < step) :
    2 * n ≤ 2 * (nearestMultiple step n d * d) + d * step ∧
      2 * (nearestMultiple step n d * d) ≤ 2 * n + d * step := by
  have pos : 0 < d * step := Nat.mul_pos hd hs
  have split := Nat.div_add_mod n (d * step)
  have rest := Nat.mod_lt n pos
  have down : n / (d * step) * step * d = d * step * (n / (d * step)) := by
    rw [Nat.mul_assoc, Nat.mul_comm step d, Nat.mul_comm]
  have up : (n / (d * step) + 1) * step * d = d * step * (n / (d * step)) + d * step := by
    rw [Nat.mul_assoc, Nat.mul_comm step d, Nat.mul_comm, Nat.mul_succ]
  unfold nearestMultiple
  dsimp only
  split
  · rw [up]
    omega
  · rw [down]
    omega

theorem nearestMultiple_of_dvd (hd : 0 < d) (hs : 0 < step) (dvd : step ∣ n) :
    nearestMultiple step (n * d) d = n := by
  obtain ⟨q, rfl⟩ := dvd
  have pos : 0 < d * step := Nat.mul_pos hd hs
  have whole : step * q * d = d * step * q := by
    rw [Nat.mul_comm, Nat.mul_assoc]
  unfold nearestMultiple
  simp only [whole, Nat.mul_mod_right, Nat.mul_div_cancel_left q pos]
  rw [if_neg (by omega), Nat.mul_comm]

theorem nearestMultiple_add (hd : 0 < d) (hs : 0 < step) {c : Nat} (dvd : 2 * step ∣ c) :
    nearestMultiple step (n + c * d) d = nearestMultiple step n d + c := by
  obtain ⟨q, rfl⟩ := dvd
  have pos : 0 < d * step := Nat.mul_pos hd hs
  have more : 2 * step * q * d = d * step * (2 * q) := by
    rw [Nat.mul_comm, Nat.mul_comm 2 step, Nat.mul_assoc step, Nat.mul_assoc]
  have up : (n / (d * step) + 2 * q + 1) * step =
      (n / (d * step) + 1) * step + 2 * step * q := by
    rw [Nat.add_right_comm, Nat.add_mul _ (2 * q), Nat.mul_right_comm]
  unfold nearestMultiple
  simp only [more, Nat.add_mul_mod_self_left, Nat.add_mul_div_left n _ pos]
  rw [up, Nat.add_mul _ (2 * q), Nat.mul_right_comm]
  split <;> rfl

/-- The step of the numbers of 53 significant bits around `x / d`. -/
def roundingStep (x : Int) (d : Nat) : Nat := 2 ^ ((x.natAbs / d).log2 - 52)

theorem roundingStep_pos (x : Int) (d : Nat) : 0 < roundingStep x d := Nat.pow_pos (by decide)

theorem nearestFloat_eq (x : Int) (d : Nat) :
    nearestFloat x d = x.sign * nearestMultiple (roundingStep x d) x.natAbs d := rfl

theorem roundingStep_dvd (small : x.natAbs < d * 2 ^ (k + 53)) : roundingStep x d ∣ 2 ^ k := by
  refine Nat.pow_dvd_pow 2 ?_
  obtain none | some := Nat.eq_zero_or_pos (x.natAbs / d)
  · rw [none]
    exact Nat.zero_le _
  · have bits : (x.natAbs / d).log2 < k + 53 :=
      (Nat.log2_lt (by omega)).2 (Nat.div_lt_of_lt_mul small)
    omega

theorem nearestFloat_error (hd : 0 < d) (small : x.natAbs < d * 2 ^ (k + 53)) :
    2 * (nearestFloat x d * d - x).natAbs ≤ d * 2 ^ k := by
  have wide : d * roundingStep x d ≤ d * 2 ^ k :=
    Nat.mul_le_mul_left d (Nat.le_of_dvd (Nat.pow_pos (by decide)) (roundingStep_dvd small))
  obtain ⟨low, high⟩ := nearestMultiple_error (n := x.natAbs) hd (roundingStep_pos x d)
  rw [nearestFloat_eq, Int.mul_assoc, ← Int.natCast_mul]
  generalize nearestMultiple (roundingStep x d) x.natAbs d * d = rounded at *
  obtain negative | rfl | positive := Int.lt_trichotomy x 0
  · rw [Int.sign_eq_neg_one_of_neg negative]
    omega
  · simp
  · rw [Int.sign_eq_one_of_pos positive]
    omega

theorem nearestFloat_of_dvd (hd : 0 < d) (small : x.natAbs < 2 ^ (k + 53))
    (dvd : 2 ^ k ∣ x.natAbs) : nearestFloat (x * d) d = x := by
  have abs : (x * d).natAbs = x.natAbs * d := by
    rw [Int.natAbs_mul, Int.natAbs_natCast]
  have fine : roundingStep (x * d) d ∣ 2 ^ k := by
    apply roundingStep_dvd
    rw [abs, Nat.mul_comm]
    exact Nat.mul_lt_mul_of_pos_left small hd
  have sign : (x * d).sign = x.sign := by
    rw [Int.sign_mul, Int.sign_eq_one_of_pos (Int.ofNat_lt.2 hd), Int.mul_one]
  rw [nearestFloat_eq, abs, sign,
    nearestMultiple_of_dvd hd (roundingStep_pos _ _) (Nat.dvd_trans fine dvd),
    Int.sign_mul_natAbs]

/-- Of one sign, and in front of the first of 53 significant bits the same power of two. -/
structure SameBinade (x y : Int) (d : Nat) : Prop where
  sign : x.sign = y.sign
  log2 : (x.natAbs / d).log2 = (y.natAbs / d).log2

theorem nearestFloat_add (hd : 0 < d) (small : x.natAbs < d * 2 ^ (k + 53)) {c : Nat}
    (dvd : 2 * 2 ^ k ∣ c) (same : SameBinade x (x + c * d) d) :
    nearestFloat (x + c * d) d = nearestFloat x d + c := by
  have fine : 2 * roundingStep x d ∣ c :=
    Nat.dvd_trans (Nat.mul_dvd_mul_left 2 (roundingStep_dvd small)) dvd
  have step : roundingStep (x + c * d) d = roundingStep x d := by
    unfold roundingStep
    rw [same.log2]
  have add (n : Nat) := nearestMultiple_add (n := n) hd (roundingStep_pos x d) fine
  obtain ⟨sign, -⟩ := same
  rw [nearestFloat_eq, nearestFloat_eq, step, ← sign]
  rw [← Int.natCast_mul] at *
  obtain negative | rfl | positive := Int.lt_trichotomy x 0
  · -- below zero it is the first number that is the larger one in magnitude
    have below : x.natAbs = (x + (c * d : Nat)).natAbs + c * d := by
      rw [Int.sign_eq_neg_one_of_neg negative] at sign
      have negative' := Int.sign_eq_neg_one_iff_neg.1 sign.symm
      omega
    rw [below, add, Int.sign_eq_neg_one_of_neg negative]
    omega
  · rw [Int.zero_add, Int.sign_zero, eq_comm, Int.sign_eq_zero_iff_zero] at sign
    obtain rfl : c = 0 := by
      rcases Nat.mul_eq_zero.1 (Int.ofNat_eq_zero.1 sign) with none | none
      · exact none
      · omega
    simp
  · have above : (x + (c * d : Nat)).natAbs = x.natAbs + c * d := by omega
    rw [above, add, Int.sign_eq_one_of_pos positive]
    omega

end Rounding

namespace Moment

variable {z : Zone} {m a b : Moment} {n : Nat}

def unixMicros (m : Moment) : Int := m.instant - unixEpochDay * microsPerDay

def rounded (m : Moment) : Int := nearestFloat (m.unixMicros * grain) microsPerSecond

theorem timestamp_of_zone (zone : m.zone = some z) : m.timestamp = .ok m.rounded := by
  unfold timestamp
  rw [zone]
  rfl

theorem secondsBetween_of_zone (za : a.zone = some z) (zb : b.zone = some z) :
    a.secondsBetween b = .ok ((nearestFloat (b.rounded - a.rounded) 1).tdiv grain) := by
  unfold secondsBetween
  rw [timestamp_of_zone za, timestamp_of_zone zb]
  rfl

theorem unixMicros_emod (m : Moment) :
    m.unixMicros % microsPerSecond = m.reading.micro := by
  simp only [unixMicros, Moment.instant, Reading.micro, microsOfSeconds, unixEpochDay, microsPerDay,
    secondsPerDay, microsPerSecond]
  omega

def InOneBinade (a b : Moment) : Prop :=
  SameBinade (a.unixMicros * grain) (b.unixMicros * grain) microsPerSecond

/-- The difference of the timestamps, of which each is rounded and then itself, comes out below the
difference of the instants. -/
def FallsShort (a b : Moment) : Prop :=
  ∃ first last, a.timestamp = .ok first ∧ b.timestamp = .ok last ∧
    nearestFloat (last - first) 1 * microsPerSecond < (b.instant - a.instant) * grain

theorem grain_eq : grain = 2 ^ 72 := rfl

theorem natAbs_unixMicros_lt (first : 0 ≤ m.instant) (last : m.instant < readingCount) :
    (m.unixMicros * grain).natAbs < microsPerSecond * 2 ^ (57 + 53) := by
  have short : m.unixMicros.natAbs < microsPerSecond * 2 ^ 38 := by
    simp only [unixMicros, unixEpochDay, readingCount, dayCount, microsPerDay, secondsPerDay,
      microsPerSecond] at *
    omega
  simp only [grain_eq, microsPerSecond] at *
  omega

theorem rounded_of_whole (first : 0 ≤ m.instant) (last : m.instant < readingCount)
    (whole : m.unixMicros % microsPerSecond = 0) :
    m.rounded * microsPerSecond = m.unixMicros * grain := by
  have short := natAbs_unixMicros_lt first last
  obtain ⟨seconds, eq⟩ := Int.dvd_of_emod_eq_zero whole
  have exact := nearestFloat_of_dvd (x := seconds * grain) (d := microsPerSecond) (k := 72)
    (by decide) (by simp only [eq, grain_eq, microsPerSecond] at *; omega)
    (by rw [Int.natAbs_mul]; exact Nat.dvd_mul_left _ _)
  rw [rounded, eq, Int.mul_comm _ seconds, Int.mul_right_comm, exact]

section Apart

variable (first : 0 ≤ a.instant) (last : b.instant < readingCount)
  (apart : b.instant = a.instant + microsOfSeconds n)

include apart in
theorem unixMicros_of_apart : b.unixMicros = a.unixMicros + n * microsPerSecond := by
  simp only [unixMicros, microsOfSeconds] at *
  omega

include first last apart

theorem range_of_apart : 0 ≤ b.instant ∧ a.instant < readingCount := by
  simp only [microsOfSeconds, microsPerSecond] at apart
  omega

theorem seconds_lt_of_apart : n < 2 ^ 39 := by
  simp only [microsOfSeconds, microsPerSecond, readingCount, dayCount, microsPerDay,
    secondsPerDay] at *
  omega

/-- Three times rounded, the seconds between two moments are off by less than a second. -/
theorem natAbs_rounded_sub_le :
    (nearestFloat (b.rounded - a.rounded) 1 - n * grain).natAbs ≤ 2 ^ 58 := by
  have few := seconds_lt_of_apart first last apart
  obtain ⟨range', range⟩ := range_of_apart first last apart
  have one : 2 * (a.rounded * microsPerSecond - a.unixMicros * grain).natAbs ≤ _ :=
    nearestFloat_error (by decide) (natAbs_unixMicros_lt first range)
  have other : 2 * (b.rounded * microsPerSecond - b.unixMicros * grain).natAbs ≤ _ :=
    nearestFloat_error (by decide) (natAbs_unixMicros_lt range' last)
  have seconds := unixMicros_of_apart apart
  have near : (b.rounded - a.rounded - n * grain).natAbs ≤ 2 ^ 57 := by
    simp only [seconds, grain_eq, microsPerSecond] at *
    omega
  have short : (b.rounded - a.rounded).natAbs < 1 * 2 ^ (58 + 53) := by
    simp only [grain_eq] at *
    omega
  have third := nearestFloat_error (by decide) short
  omega

theorem nearestFloat_seconds : nearestFloat (n * grain) 1 = n * grain := by
  have few := seconds_lt_of_apart first last apart
  have whole := nearestFloat_of_dvd (x := n * grain) (d := 1) (k := 72) (by decide)
    (by simp only [grain_eq] at *; omega)
    (by rw [Int.natAbs_mul]; exact Nat.dvd_mul_left _ _)
  simpa using whole

end Apart

section Shown

variable (za : a.zone = some z) (zb : b.zone = some z)
  (first : 0 ≤ a.instant) (last : b.instant < readingCount)
  (apart : b.instant = a.instant + microsOfSeconds n)

include za zb apart

theorem fallsShort_iff : a.FallsShort b ↔
    nearestFloat (b.rounded - a.rounded) 1 < n * grain := by
  have scaled : nearestFloat (b.rounded - a.rounded) 1 * microsPerSecond <
      (b.instant - a.instant) * grain ↔ nearestFloat (b.rounded - a.rounded) 1 < n * grain := by
    simp only [apart, microsOfSeconds, microsPerSecond, grain_eq]
    omega
  unfold FallsShort
  rw [timestamp_of_zone za, timestamp_of_zone zb, ← scaled]
  constructor
  · rintro ⟨x, y, hx, hy, short⟩
    cases hx
    cases hy
    exact short
  · intro short
    exact ⟨_, _, rfl, rfl, short⟩

include first last

/-- The seconds from one moment to another come out as they are, or if the timestamps fall short as
one less. -/
theorem secondsBetween_of_apart (pos : 0 < n) : ∃ shown, a.secondsBetween b = .ok shown ∧
    (shown = n ↔ ¬a.FallsShort b) ∧ (shown ≠ n → shown = n - 1) := by
  have near := natAbs_rounded_sub_le first last apart
  refine ⟨_, secondsBetween_of_zone za zb, ?_⟩
  rw [fallsShort_iff za zb apart]
  simp only [grain_eq] at *
  rw [Int.tdiv_eq_ediv_of_nonneg (by omega)]
  omega

theorem not_fallsShort_of_exact (exact : b.rounded = a.rounded + n * grain) :
    ¬a.FallsShort b := by
  have difference : b.rounded - a.rounded = n * grain := by omega
  rw [fallsShort_iff za zb apart, difference, nearestFloat_seconds first last apart]
  exact Int.lt_irrefl _

theorem not_fallsShort_of_micro_eq_zero (none : a.reading.micro = 0) : ¬a.FallsShort b := by
  have whole : a.unixMicros % microsPerSecond = 0 := by rw [unixMicros_emod, none, Int.natCast_zero]
  obtain ⟨range', range⟩ := range_of_apart first last apart
  have seconds := unixMicros_of_apart apart
  have one := rounded_of_whole first range whole
  have other := rounded_of_whole range' last (by rw [seconds, Int.add_mul_emod_self_right, whole])
  refine not_fallsShort_of_exact za zb first last apart ?_
  simp only [seconds, grain_eq, microsPerSecond] at *
  omega

theorem not_fallsShort_of_inOneBinade (same : a.InOneBinade b) : ¬a.FallsShort b := by
  obtain ⟨-, range⟩ := range_of_apart first last apart
  have later : b.unixMicros * grain =
      a.unixMicros * grain + (n * grain : Nat) * microsPerSecond := by
    rw [unixMicros_of_apart apart]
    simp only [grain_eq, microsPerSecond]
    omega
  rw [InOneBinade, later] at same
  have alike := nearestFloat_add (by decide) (natAbs_unixMicros_lt first range)
    (Nat.dvd_mul_left_of_dvd (by decide) n) same
  refine not_fallsShort_of_exact za zb first last apart ?_
  rw [rounded, later, alike]
  rfl

end Shown
end Moment
end CivilRange
