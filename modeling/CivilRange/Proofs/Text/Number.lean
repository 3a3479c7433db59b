import CivilRange.Written

set_option autoImplicit false

namespace CivilRange

def digitChars : List Char := ['0', '1', '2', '3', '4', '5', '6', '7', '8', '9']

theorem mem_digitChars {c : Char} (h : c.isDigit = true) : c ∈ digitChars := by
  have range : 48 ≤ c.toNat ∧ c.toNat ≤ 57 := Char.isDigit_iff_toNat.1 h
  obtain ⟨k, hk, rfl⟩ : ∃ k, k < 10 ∧ c = Char.ofNat (48 + k) :=
    ⟨c.toNat - 48, by omega, by rw [show 48 + (c.toNat - 48) = c.toNat by omega, Char.ofNat_toNat]⟩
  have all : ∀ k < 10, Char.ofNat (48 + k) ∈ digitChars := by decide
  exact all k hk

theorem of_isDigit {p : Char → Bool} (all : digitChars.all p = true) {c : Char}
    (h : c.isDigit = true) : p c = true := List.all_eq_true.1 all c (mem_digitChars h)

theorem readNumber_eq_ok_iff {digits : List Char} {n : Nat} : readNumber digits = .ok n ↔
    digits.length ≤ maxDigits ∧ Nat.ofDigitChars 10 digits 0 = n := by
  unfold readNumber
  split
  · rename_i long
    simp [Nat.not_le.2 long]
  · rename_i short
    simp [Nat.not_lt.1 short]

theorem readNumber_eq_error_iff {digits : List Char} {fault : Fault} :
    readNumber digits = .error fault ↔
    maxDigits < digits.length ∧ fault = .longNumber digits.length := by
  unfold readNumber
  split
  · rename_i long
    simp [long, eq_comm]
  · rename_i short
    simp [short]

theorem readNumber_eq_longNumber_iff {digits : List Char} {n : Nat} :
    readNumber digits = .error (.longNumber n) ↔
      maxDigits < digits.length ∧ digits.length = n := by
  rw [readNumber_eq_error_iff, Fault.longNumber.injEq, eq_comm]

/-- The least number with more digits than are read or written. -/
def numberLimit : Nat := Nat.pow 10 maxDigits

-- `maxDigits` is generalized below, so that the power is not computed
theorem pow_le_numberLimit {k : Nat} (h : k ≤ maxDigits) : Nat.pow 10 k ≤ numberLimit := by
  unfold numberLimit
  generalize maxDigits = most at *
  exact Nat.pow_le_pow_right (by decide) h

theorem numberLimit_pos : 0 < numberLimit := pow_le_numberLimit (Nat.zero_le maxDigits)

theorem length_toDigits_le_iff {n : Nat} :
    (Nat.toDigits 10 n).length ≤ maxDigits ↔ n < numberLimit := by
  have pos : 0 < maxDigits := by decide
  unfold numberLimit
  generalize maxDigits = most at *
  exact Nat.length_toDigits_le_iff (by decide) pos

theorem readNumber_toDigits {n : Nat} (h : n < numberLimit) :
    readNumber (Nat.toDigits 10 n) = .ok n :=
  readNumber_eq_ok_iff.2 ⟨length_toDigits_le_iff.2 h, Nat.ofDigitChars_ten_toDigits⟩

theorem writeNumber_eq_ok_iff {digits : List Char} {n : Nat} : writeNumber n = .ok digits ↔
    n < numberLimit ∧ Nat.toDigits 10 n = digits := by
  unfold writeNumber
  rw [← length_toDigits_le_iff]
  dsimp only
  split
  · rename_i long
    simp [Nat.not_le.2 long]
  · rename_i short
    simp [Nat.not_lt.1 short]

theorem writeNumber_eq_error_iff {fault : Fault} {n : Nat} : writeNumber n = .error fault ↔
    ¬n < numberLimit ∧ fault = .unwritten := by
  unfold writeNumber
  rw [← length_toDigits_le_iff]
  dsimp only
  split
  · rename_i long
    simp [long, eq_comm]
  · rename_i short
    simp [short]

theorem readNumber_toDigits_append {more : List Char} {k n : Nat}
    (h : readNumber (Nat.toDigits 10 k ++ more) = .ok n) :
    n = k * Nat.pow 10 more.length + Nat.ofDigitChars 10 more 0 := by
  rw [readNumber_eq_ok_iff, Nat.ofDigitChars_append, Nat.ofDigitChars_ten_toDigits,
    Nat.ofDigitChars_eq_ofDigitChars_zero] at h
  rw [← h.2, Nat.mul_comm]
  rfl

theorem ofDigitChars_lt {digits : List Char} {n : Nat} (h : ∀ c ∈ digits, c.isDigit = true) :
    Nat.ofDigitChars 10 digits n < (n + 1) * Nat.pow 10 digits.length := by
  induction digits generalizing n with
  | nil => exact Nat.lt_of_lt_of_eq (Nat.lt_succ_self n) (Nat.mul_one _).symm
  | cons c digits ih =>
    obtain ⟨digit, rest⟩ := List.forall_mem_cons.1 h
    have range : 48 ≤ c.toNat ∧ c.toNat ≤ 57 := Char.isDigit_iff_toNat.1 digit
    have next : 10 * n + (c.toNat - 48) + 1 ≤ (n + 1) * 10 := by omega
    calc Nat.ofDigitChars 10 (c :: digits) n
        = Nat.ofDigitChars 10 digits (10 * n + (c.toNat - 48)) := Nat.ofDigitChars_cons
      _ < (10 * n + (c.toNat - 48) + 1) * Nat.pow 10 digits.length := ih rest
      _ ≤ (n + 1) * 10 * Nat.pow 10 digits.length := Nat.mul_le_mul_right _ next
      _ = (n + 1) * Nat.pow 10 (c :: digits).length := by
        rw [Nat.mul_assoc, Nat.mul_comm 10]
        rfl

theorem ofDigitChars_zero_lt {digits : List Char} (h : ∀ c ∈ digits, c.isDigit = true) :
    Nat.ofDigitChars 10 digits 0 < Nat.pow 10 digits.length :=
  Nat.lt_of_lt_of_eq (ofDigitChars_lt h) (Nat.one_mul _)

theorem toList_padded (width n : Nat) : (padded width n).toList =
    List.replicate (width - (Nat.toDigits 10 n).length) '0' ++ Nat.toDigits 10 n := by
  rw [padded, String.toList_ofList]
  rfl

theorem isDigits_padded (width n : Nat) : isDigits (padded width n).toList := by
  rw [isDigits, toList_padded, Bool.and_eq_true, List.all_append, Bool.and_eq_true]
  refine ⟨?_, ?_, ?_⟩
  · simp [Nat.toDigits_ne_nil]
  · rw [List.all_eq_true]
    intro c mem
    rw [List.eq_of_mem_replicate mem]
    rfl
  · rw [List.all_eq_true]
    exact fun c mem => Nat.isDigit_of_mem_toDigits (by decide) (by decide) mem

theorem ofDigitChars_padded (width n : Nat) :
    Nat.ofDigitChars 10 (padded width n).toList 0 = n := by
  rw [toList_padded, Nat.ofDigitChars_append, Nat.ofDigitChars_replicate_zero, Nat.mul_zero,
    Nat.ofDigitChars_ten_toDigits]

theorem padded_inj {width n k : Nat} (h : (padded width n).toList = (padded width k).toList) :
    n = k := by
  rw [← ofDigitChars_padded width n, h, ofDigitChars_padded]

theorem toDigits_inj {n k : Nat} (h : Nat.toDigits 10 n = Nat.toDigits 10 k) : n = k := by
  rw [← Nat.ofDigitChars_ten_toDigits (n := n), h, Nat.ofDigitChars_ten_toDigits]

theorem length_padded_le {width most n : Nat} (pos : 0 < most) (wide : width ≤ most)
    (small : n < Nat.pow 10 most) : (padded width n).toList.length ≤ most := by
  have digits : (Nat.toDigits 10 n).length ≤ most :=
    (Nat.length_toDigits_le_iff (by decide) pos).2 small
  rw [toList_padded, List.length_append, List.length_replicate]
  omega

theorem length_padded {width n : Nat} (pos : 0 < width) (small : n < Nat.pow 10 width) :
    (padded width n).toList.length = width := by
  have most := length_padded_le pos (Nat.le_refl width) small
  rw [toList_padded, List.length_append, List.length_replicate] at most ⊢
  omega

theorem ofDigitChars_cons_zero (c : Char) (digits : List Char) :
    Nat.ofDigitChars 10 (c :: digits) 0 =
      Nat.ofDigitChars 10 digits 0 + Nat.pow 10 digits.length * (c.toNat - 48) := by
  rw [Nat.ofDigitChars_cons, Nat.ofDigitChars_eq_ofDigitChars_zero, Nat.add_comm, Nat.mul_zero,
    Nat.zero_add]
  rfl

theorem eq_of_ofDigitChars_eq {digits digits' : List Char}
    (h : ∀ c ∈ digits, c.isDigit = true) (h' : ∀ c ∈ digits', c.isDigit = true)
    (length : digits.length = digits'.length)
    (number : Nat.ofDigitChars 10 digits 0 = Nat.ofDigitChars 10 digits' 0) :
    digits = digits' := by
  induction digits generalizing digits' with
  | nil => exact (List.length_eq_zero_iff.1 length.symm).symm
  | cons c digits ih =>
    cases digits' with
    | nil => cases length
    | cons c' digits' =>
      obtain ⟨digit, rest⟩ := List.forall_mem_cons.1 h
      obtain ⟨digit', rest'⟩ := List.forall_mem_cons.1 h'
      have range : 48 ≤ c.toNat ∧ c.toNat ≤ 57 := Char.isDigit_iff_toNat.1 digit
      have range' : 48 ≤ c'.toNat ∧ c'.toNat ≤ 57 := Char.isDigit_iff_toNat.1 digit'
      have same : digits.length = digits'.length := Nat.succ.inj length
      have pos : 0 < Nat.pow 10 digits'.length := Nat.pow_pos (by decide)
      have low := ofDigitChars_zero_lt rest
      have low' := ofDigitChars_zero_lt rest'
      rw [same] at low
      rw [ofDigitChars_cons_zero, ofDigitChars_cons_zero, same] at number
      -- the first digit is the quotient by the power of ten, the others are the remainder
      obtain ⟨first, others⟩ := (Nat.div_mod_unique pos).2 ⟨number, low⟩
      obtain ⟨first', others'⟩ := (Nat.div_mod_unique pos).2 ⟨rfl, low'⟩
      have digits_eq : digits = digits' := ih rest rest' same (others.symm.trans others')
      have char_eq : c.toNat - 48 = c'.toNat - 48 := first.symm.trans first'
      rw [digits_eq, Char.toNat_inj.1 (show c.toNat = c'.toNat by omega)]

theorem padded_ofDigitChars {digits : List Char} (ne : digits ≠ [])
    (h : ∀ c ∈ digits, c.isDigit = true) :
    (padded digits.length (Nat.ofDigitChars 10 digits 0)).toList = digits := by
  have small := ofDigitChars_zero_lt h
  have own := isDigits_padded digits.length (Nat.ofDigitChars 10 digits 0)
  rw [isDigits, Bool.and_eq_true, List.all_eq_true] at own
  exact eq_of_ofDigitChars_eq own.2 h (length_padded (List.length_pos_iff.2 ne) small)
    (ofDigitChars_padded _ _)

end CivilRange
