import CivilRange.Proofs.Text.Colons

set_option autoImplicit false

namespace CivilRange

variable {c x : Char} {s word before rest : List Char}

/-- A lower-case letter of ASCII that no character beyond ASCII becomes in lower case. -/
def LowersFromASCII (x : Char) : Prop := x.isLower ∧ x ≠ 'i' ∧ x ≠ 'k'

theorem LowersFromASCII.toNat_lt (h : LowersFromASCII x) : 0 < x.toNat ∧ x.toNat < 128 := by
  have lower := Bool.and_eq_true_iff.1 h.1
  have least : 97 ≤ x.toNat := of_decide_eq_true lower.1
  have most : x.toNat ≤ 122 := of_decide_eq_true lower.2
  omega

theorem capitalRuns_lower {run : CapitalRun} (h : run ∈ capitalRuns) :
    128 ≤ run.lower ∨ run.lower = 'k'.toNat ∧ run.first = run.last := by
  have all : ∀ run ∈ capitalRuns,
      128 ≤ run.lower ∨ run.lower = 'k'.toNat ∧ run.first = run.last := by decide +kernel
  exact all run h

theorem toNat_ofNat_of_pos {n : Nat} (h : 0 < (Char.ofNat n).toNat) : (Char.ofNat n).toNat = n := by
  by_cases valid : n.isValidChar
  · rw [Char.ofNat, dif_pos valid]
    rfl
  · rw [Char.ofNat, dif_neg valid] at h
    exact absurd h (by decide)

theorem toNat_lt_of_mem_lowerChar (plain : LowersFromASCII x) (h : x ∈ lowerChar c) :
    c.toNat < 128 := by
  refine Nat.lt_of_not_le fun beyond => ?_
  obtain ⟨pos, ascii⟩ := plain.toNat_lt
  unfold lowerChar at h
  rw [if_neg (Nat.not_lt.2 beyond)] at h
  split at h
  · rcases List.mem_cons.1 h with rfl | h
    · exact plain.2.1 rfl
    · obtain rfl := List.mem_singleton.1 h
      exact absurd ascii (by decide)
  · split at h
    · rename_i run found
      obtain rfl := List.mem_singleton.1 h
      have holds := List.find?_some found
      simp only [CapitalRun.holds, Bool.and_eq_true, decide_eq_true_eq] at holds
      rcases capitalRuns_lower (List.mem_of_find?_eq_some found) with far | ⟨kelvin, alone⟩
      · rw [toNat_ofNat_of_pos pos] at ascii
        omega
      -- the one capital beyond ASCII with its lower case inside, alone in its run
      · apply plain.2.2
        rw [kelvin, show c.toNat - run.first = 0 by omega]
        rfl
    · obtain rfl := List.mem_singleton.1 h
      omega

theorem lowerChar_of_lt (h : c.toNat < 128) : lowerChar c = [c.toLower] := by
  rw [lowerChar, if_pos h]

theorem toNat_lt_of_toLower (h : c.toLower.toNat < 128) : c.toNat < 128 := by
  unfold Char.toLower at h
  split at h
  · rename_i capital
    have most : c.toNat ≤ 90 := capital.2
    omega
  · exact h

theorem lowerChar_ne_nil (c : Char) : lowerChar c ≠ [] := by
  unfold lowerChar
  repeat' split
  all_goals exact List.cons_ne_nil _ _

theorem lowerSigma_toNat (before rest : List Char) : 128 ≤ (lowerSigma before rest).toNat := by
  unfold lowerSigma
  split <;> decide

theorem lowerAfter_cons_of_lt (h : c.toNat < 128) :
    lowerAfter before (c :: rest) = c.toLower :: lowerAfter (c :: before) rest := by
  have other : c ≠ 'Σ' := by
    rintro rfl
    exact absurd h (by decide)
  rw [lowerAfter, if_neg other, lowerChar_of_lt h, List.singleton_append]

theorem toNat_lt_of_lowerAfter (plain : ∀ x ∈ lowerAfter before (c :: rest), LowersFromASCII x) :
    c.toNat < 128 := by
  unfold lowerAfter at plain
  split at plain
  · have ascii := (plain (lowerSigma before rest) (by simp)).toNat_lt.2
    exact absurd ascii (Nat.not_lt.2 (lowerSigma_toNat before rest))
  · obtain ⟨x, mem⟩ := List.exists_mem_of_ne_nil _ (lowerChar_ne_nil c)
    exact toNat_lt_of_mem_lowerChar (plain x (List.mem_append_left _ mem)) mem

theorem lowerAfter_eq_iff (plain : ∀ x ∈ word, LowersFromASCII x) :
    lowerAfter before s = word ↔ s.map Char.toLower = word := by
  induction s generalizing before word with
  | nil => rfl
  | cons c rest ih =>
    constructor
    · rintro rfl
      have ascii := toNat_lt_of_lowerAfter plain
      rw [lowerAfter_cons_of_lt ascii] at plain ⊢
      rw [List.map_cons, (ih fun x mem => plain x (List.mem_cons_of_mem _ mem)).1 rfl]
    · rintro rfl
      have ascii := toNat_lt_of_toLower (plain _ List.mem_cons_self).toNat_lt.2
      rw [lowerAfter_cons_of_lt ascii, List.map_cons,
        (ih fun x mem => plain x (List.mem_cons_of_mem _ mem)).2 rfl]

/-- A text is the word in lower case if it spells it in ASCII letters, capital or not. -/
theorem lower_eq_iff (plain : ∀ x ∈ word, LowersFromASCII x) :
    lower s = word ↔ s.map Char.toLower = word := lowerAfter_eq_iff plain

variable {c x : Char} {s : List Char}

theorem toLower_eq_or (c : Char) :
    c.toLower = c ∨ ∃ n < 26, c = Char.ofNat (65 + n) ∧ c.toLower = Char.ofNat (97 + n) := by
  by_cases capital : c.val ≥ 'A'.val ∧ c.val ≤ 'Z'.val
  · have least : 65 ≤ c.toNat := capital.1
    have most : c.toNat ≤ 90 := capital.2
    have own : c = Char.ofNat (65 + (c.toNat - 65)) := by
      rw [show 65 + (c.toNat - 65) = c.toNat by omega, Char.ofNat_toNat]
    have small : ∀ n < 26, (Char.ofNat (65 + n)).toLower = Char.ofNat (97 + n) := by decide
    refine .inr ⟨c.toNat - 65, by omega, own, ?_⟩
    rw [← small _ (by omega), ← own]
  · exact .inl (dif_neg capital)

/-- The function does not tell the capital letters of ASCII from the small ones. -/
def CaseBlind {α : Type} (f : Char → α) : Prop := f ∘ Char.toLower = f

theorem caseBlind_of_letters {α : Type} {f : Char → α}
    (letters : ∀ n < 26, f (Char.ofNat (97 + n)) = f (Char.ofNat (65 + n))) : CaseBlind f := by
  funext c
  obtain same | ⟨n, lt, capital, small⟩ := toLower_eq_or c
  · simp only [Function.comp, same]
  · simp only [Function.comp, small, letters n lt, ← capital]

namespace CaseBlind

variable {p : Char → Bool}

theorem toLower {α : Type} {f : Char → α} (blind : CaseBlind f) (c : Char) : f c.toLower = f c :=
  congrFun blind c

theorem takeWhile (blind : CaseBlind p) (s : List Char) :
    (s.map Char.toLower).takeWhile p = (s.takeWhile p).map Char.toLower := by
  rw [List.takeWhile_map, blind]

theorem dropWhile (blind : CaseBlind p) (s : List Char) :
    (s.map Char.toLower).dropWhile p = (s.dropWhile p).map Char.toLower := by
  rw [List.dropWhile_map, blind]

theorem all (blind : CaseBlind p) (s : List Char) : (s.map Char.toLower).all p = s.all p := by
  rw [List.all_map, blind]

theorem any (blind : CaseBlind p) (s : List Char) : (s.map Char.toLower).any p = s.any p := by
  rw [List.any_map, blind]

end CaseBlind

theorem caseBlind_toLower : CaseBlind Char.toLower := caseBlind_of_letters (by decide)

theorem caseBlind_isDigit : CaseBlind Char.isDigit := caseBlind_of_letters (by decide)

theorem caseBlind_isAlpha : CaseBlind Char.isAlpha := caseBlind_of_letters (by decide)

theorem caseBlind_isBlank : CaseBlind isBlank := caseBlind_of_letters (by decide)

theorem caseBlind_isWord : CaseBlind isWord := caseBlind_of_letters (by decide)

theorem caseBlind_isCased : CaseBlind isCased := caseBlind_of_letters (by decide +kernel)

theorem caseBlind_isPassedOver : CaseBlind isPassedOver :=
  caseBlind_of_letters (by decide +kernel)

theorem caseBlind_lowerChar : CaseBlind lowerChar := caseBlind_of_letters (by decide)

theorem caseBlind_beq (other : x.isAlpha = false) : CaseBlind (· == x) := by
  refine caseBlind_of_letters fun n lt => ?_
  have letters : ∀ n < 26, (Char.ofNat (97 + n)).isAlpha = true ∧
      (Char.ofNat (65 + n)).isAlpha = true := by decide
  have ne : ∀ c : Char, c.isAlpha = true → (c == x) = false := by
    intro c letter
    rw [beq_eq_false_iff_ne]
    rintro rfl
    cases other.symm.trans letter
  rw [ne _ (letters n lt).1, ne _ (letters n lt).2]

theorem map_toLower_eq_self (digits : ∀ c ∈ s, c.isDigit = true) : s.map Char.toLower = s := by
  refine (List.map_congr_left fun c mem => ?_).trans (List.map_id s)
  obtain same | ⟨n, lt, capital, -⟩ := toLower_eq_or c
  · exact same
  · have letter : ∀ n < 26, (Char.ofNat (65 + n)).isDigit = false := by decide
    have digit := digits c mem
    rw [capital, letter n lt] at digit
    cases digit

theorem startsCased_toLower (s : List Char) :
    startsCased (s.map Char.toLower) = startsCased s := by
  unfold startsCased
  rw [caseBlind_isPassedOver.dropWhile]
  cases s.dropWhile isPassedOver with
  | nil => rfl
  | cons c rest => exact caseBlind_isCased.toLower c

theorem lowerAfter_toLower (before s : List Char) :
    lowerAfter (before.map Char.toLower) (s.map Char.toLower) = lowerAfter before s := by
  induction s generalizing before with
  | nil => rfl
  | cons c rest ih =>
    have sigma : c.toLower = 'Σ' ↔ c = 'Σ' := by
      simpa using congrArg (· = true) ((caseBlind_beq (x := 'Σ') (by decide)).toLower c)
    have next := ih (c :: before)
    rw [List.map_cons] at next
    simp only [List.map_cons, lowerAfter, sigma, lowerSigma, startsCased_toLower,
      caseBlind_lowerChar.toLower, next]

theorem lower_toLower (s : List Char) : lower (s.map Char.toLower) = lower s :=
  lowerAfter_toLower [] s

theorem trim_toLower (s : List Char) : trim (s.map Char.toLower) = (trim s).map Char.toLower := by
  unfold trim
  rw [caseBlind_isBlank.dropWhile, ← List.map_reverse, caseBlind_isBlank.dropWhile,
    List.map_reverse]

theorem splitOn_toLower (s : List Char) :
    (s.map Char.toLower).splitOn ':' = (s.splitOn ':').map (List.map Char.toLower) := by
  induction s with
  | nil => rfl
  | cons c s ih =>
    have colon := (caseBlind_beq (x := ':') (by decide)).toLower c
    rw [List.map_cons, List.splitOn_cons_eq_if_modifyHead, List.splitOn_cons_eq_if_modifyHead,
      colon, ih]
    split
    · rfl
    · cases s.splitOn ':' <;> rfl

theorem colonChars_toLower (s : List Char) :
    colonChars (s.map Char.toLower) = (colonChars s).map (List.map Char.toLower) := by
  have empty : List.isEmpty ∘ List.map Char.toLower = List.isEmpty := by
    funext field
    simp
  unfold colonChars
  rw [splitOn_toLower, ← List.map_reverse, List.dropWhile_map, empty, List.map_reverse]

end CivilRange
