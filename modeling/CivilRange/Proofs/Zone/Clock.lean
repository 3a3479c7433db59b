import CivilRange.Proofs.Zone.Spacing

set_option autoImplicit false

namespace CivilRange.History

def phaseOf (before : Int) (c : Change) (t : Nat) : Phase :=
  ⟨c.offset, t - c.instant < (before - c.offset).toNat⟩

theorem phaseAfter_cons_of_lt {t : Nat} {c : Change} (h : t < c.instant) (current : Phase)
    (rest : List Change) : phaseAfter t current (c :: rest) = current := if_pos h

theorem phaseAfter_cons_of_le {t : Nat} {c : Change} (h : c.instant ≤ t) (current : Phase)
    (rest : List Change) :
    phaseAfter t current (c :: rest) = phaseAfter t (phaseOf current.offset c t) rest :=
  if_neg (Nat.not_lt.2 h)

theorem phaseAfter_of_lt {t earliest : Nat} {changes : List Change} (current : Phase)
    (spaced : SpacedFrom earliest current.offset changes) (h : t < earliest) :
    phaseAfter t current changes = current := by
  cases changes with
  | nil => rfl
  | cons c rest => exact phaseAfter_cons_of_lt (Nat.lt_of_lt_of_le h spaced.1.1) _ _

theorem natAbs_phaseAfter_offset {earliest : Nat} {changes : List Change} (current : Phase)
    (spaced : SpacedFrom earliest current.offset changes)
    (bound : current.offset.natAbs ≤ secondsPerDay) (t : Nat) :
    (phaseAfter t current changes).offset.natAbs ≤ secondsPerDay := by
  induction changes generalizing earliest current with
  | nil => exact bound
  | cons c rest ih =>
    obtain ⟨_, ⟨_, after⟩, spaced⟩ := spaced
    obtain early | late := Nat.lt_or_ge t c.instant
    · rw [phaseAfter_cons_of_lt early]
      exact bound
    · rw [phaseAfter_cons_of_le late]
      exact ih (phaseOf current.offset c t) spaced after

theorem offsetAfter_cons_of_lt {w : Nat} {fold : Bool} {current : Int} {c : Change}
    (h : (w : Int) < c.instant + if fold then min current c.offset else max current c.offset)
    (rest : List Change) : offsetAfter w fold current (c :: rest) = current :=
  if_pos ((c.isAhead_iff current fold w).2 h)

theorem offsetAfter_cons_of_le {w : Nat} {fold : Bool} {current : Int} {c : Change}
    (h : (c.instant + if fold then min current c.offset else max current c.offset) ≤ (w : Int))
    (rest : List Change) :
    offsetAfter w fold current (c :: rest) = offsetAfter w fold c.offset rest :=
  if_neg fun ahead => Int.not_lt.2 h ((c.isAhead_iff current fold w).1 ahead)

theorem offsetAfter_of_lt {w earliest : Nat} {current : Int} {changes : List Change}
    (spaced : SpacedFrom earliest current changes) (h : (w : Int) + secondsPerDay < earliest)
    (fold : Bool) : offsetAfter w fold current changes = current := by
  cases changes with
  | nil => rfl
  | cons c rest =>
    obtain ⟨⟨late, _⟩, ⟨before, after⟩, _⟩ := spaced
    apply offsetAfter_cons_of_lt
    split <;> omega

theorem natAbs_offsetAfter {earliest : Nat} {current : Int} {changes : List Change} (w : Nat)
    (fold : Bool) (spaced : SpacedFrom earliest current changes)
    (bound : current.natAbs ≤ secondsPerDay) :
    (offsetAfter w fold current changes).natAbs ≤ secondsPerDay := by
  induction changes generalizing earliest current with
  | nil => exact bound
  | cons c rest ih =>
    obtain ⟨_, ⟨_, after⟩, spaced⟩ := spaced
    unfold offsetAfter
    split
    · exact bound
    · exact ih spaced after

/-- With the fold of `t`, the reading at `t` gives the offset at `t`. The phase that the changes
start in may be of the second fold if it is over well before the first of them. -/
theorem offsetAfter_phaseAfter {t w earliest : Nat} {changes : List Change} (current : Phase)
    (spaced : SpacedFrom earliest current.offset changes)
    (ended : current.fold = true → t + current.offset + secondsPerDay < earliest)
    (shown : (w : Int) = t + (phaseAfter t current changes).offset) :
    offsetAfter w (phaseAfter t current changes).fold current.offset changes =
      (phaseAfter t current changes).offset := by
  induction changes generalizing earliest current with
  | nil => rfl
  | cons c rest ih =>
    obtain ⟨⟨late, _⟩, ⟨before, after⟩, spaced⟩ := spaced
    obtain early | passed := Nat.lt_or_ge t c.instant
    · rw [phaseAfter_cons_of_lt early] at shown ⊢
      apply offsetAfter_cons_of_lt
      split
      · have := ended (by assumption)
        omega
      · omega
    · rw [phaseAfter_cons_of_le passed] at shown ⊢
      have settled : (phaseOf current.offset c t).fold = true →
          t + (phaseOf current.offset c t).offset + secondsPerDay <
            ((c.instant + 2 * secondsPerDay : Nat) : Int) := by
        simp only [phaseOf, decide_eq_true_eq]
        omega
      rw [offsetAfter_cons_of_le]
      · exact ih (phaseOf current.offset c t) spaced settled shown
      · -- the change is behind: either it is the last one, or two days have gone by
        obtain soon | long := Nat.lt_or_ge t (c.instant + 2 * secondsPerDay)
        · rw [phaseAfter_of_lt (phaseOf current.offset c t) spaced soon] at shown ⊢
          simp only [phaseOf, decide_eq_true_eq] at shown ⊢
          split <;> omega
        · have bound := natAbs_phaseAfter_offset (phaseOf current.offset c t) spaced
            after t
          split <;> omega

theorem offsetAfter_first_ne {t w earliest : Nat} {current : Int} {changes : List Change}
    (spaced : SpacedFrom earliest current changes)
    (shown : (w : Int) = t + (phaseAfter t ⟨current, false⟩ changes).offset)
    (second : (phaseAfter t ⟨current, false⟩ changes).fold = true) :
    offsetAfter w false current changes ≠ (phaseAfter t ⟨current, false⟩ changes).offset := by
  induction changes generalizing earliest current with
  | nil => simp [phaseAfter] at second
  | cons c rest ih =>
    obtain ⟨_, ⟨before, after⟩, spaced⟩ := spaced
    obtain early | passed := Nat.lt_or_ge t c.instant
    · simp [phaseAfter_cons_of_lt early] at second
    · rw [phaseAfter_cons_of_le passed] at shown second ⊢
      obtain soon | long := Nat.lt_or_ge t (c.instant + 2 * secondsPerDay)
      · rw [phaseAfter_of_lt (phaseOf current c t) spaced soon] at shown second ⊢
        simp only [phaseOf, decide_eq_true_eq] at shown second ⊢
        rw [offsetAfter_cons_of_lt (by simp; omega)]
        omega
      · have first : phaseOf current c t = ⟨c.offset, false⟩ := by
          simp [phaseOf]
          omega
        have bound := natAbs_phaseAfter_offset (phaseOf current c t) spaced after t
        rw [first] at shown second bound ⊢
        rw [offsetAfter_cons_of_le (by simp; omega)]
        exact ih spaced shown second

/-- The clock around the change `c` out of the offset `before`. -/
structure Turn (current : Int) (changes : List Change) (before : Int) (c : Change) : Prop where
  offsets : before.natAbs ≤ secondsPerDay ∧ c.offset.natAbs ≤ secondsPerDay
  within : 2 * secondsPerDay ≤ c.instant ∧ c.instant + 2 * secondsPerDay ≤ dayCount * secondsPerDay
  ahead : ∀ t fold, t < c.instant → c.instant ≤ t + 2 * secondsPerDay →
    (phaseAfter t ⟨current, fold⟩ changes).offset = before
  behind : ∀ t fold, c.instant ≤ t → t < c.instant + 2 * secondsPerDay →
    phaseAfter t ⟨current, fold⟩ changes = phaseOf before c t

theorem turn_cons {earliest : Nat} {current : Int} {c : Change} {rest : List Change}
    (start : 2 * secondsPerDay ≤ earliest) (spaced : SpacedFrom earliest current (c :: rest)) :
    Turn current (c :: rest) current c := by
  obtain ⟨⟨late, last⟩, ⟨before, after⟩, spaced⟩ := spaced
  refine ⟨⟨before, after⟩, ⟨Nat.le_trans start late, last⟩, ?_, ?_⟩
  · intro t fold early _
    rw [phaseAfter_cons_of_lt early]
  · intro t fold passed soon
    rw [phaseAfter_cons_of_le passed]
    exact phaseAfter_of_lt (phaseOf current c t) spaced soon

theorem turn_of_rest {current before : Int} {first c : Change}
    {rest : List Change} (later : first.instant + 2 * secondsPerDay ≤ c.instant)
    (turn : Turn first.offset rest before c) :
    Turn current (first :: rest) before c := by
  refine ⟨turn.offsets, turn.within, ?_, ?_⟩
  · intro t fold early near
    rw [phaseAfter_cons_of_le (by omega)]
    exact turn.ahead t _ early near
  · intro t fold passed soon
    rw [phaseAfter_cons_of_le (by omega)]
    exact turn.behind t _ passed soon

/-- Where the folds of a reading differ, a change lies around it; the first fold has the offset
before it and the second the one after it. -/
theorem exists_turn {w earliest : Nat} {current : Int} {changes : List Change}
    (start : 2 * secondsPerDay ≤ earliest) (spaced : SpacedFrom earliest current changes)
    (differ : offsetAfter w false current changes ≠ offsetAfter w true current changes) :
    ∃ before c, earliest ≤ c.instant ∧ Turn current changes before c ∧
      offsetAfter w false current changes = before ∧ offsetAfter w true current changes = c.offset ∧
      c.instant + min before c.offset ≤ (w : Int) ∧ w < c.instant + max before c.offset := by
  induction changes generalizing earliest current with
  | nil => exact absurd rfl differ
  | cons c rest ih =>
    have whole := spaced
    obtain ⟨⟨late, _⟩, ⟨before, after⟩, spaced⟩ := spaced
    obtain above | below := Int.lt_or_le w (c.instant + max current c.offset)
    · rw [offsetAfter_cons_of_lt above] at differ ⊢
      obtain both | between := Int.lt_or_le w (c.instant + min current c.offset)
      · rw [offsetAfter_cons_of_lt both] at differ
        exact absurd rfl differ
      · rw [offsetAfter_cons_of_le between, offsetAfter_of_lt spaced (by omega)]
        exact ⟨current, c, late, turn_cons start whole, rfl, rfl, between, above⟩
    · rw [offsetAfter_cons_of_le below, offsetAfter_cons_of_le (by simp; omega)] at differ ⊢
      obtain ⟨was, next, apart, turn, rest⟩ := ih (by omega) spaced differ
      exact ⟨was, next, by omega, turn_of_rest apart turn, rest⟩

/-- `w` is what the clock shows at `t`. -/
def ShowsAt (h : History) (t w : Nat) : Prop := (w : Int) = t + (h.phaseAt t).offset

theorem offsetOfWall_of_showsAt {h : History} (spaced : h.Spaced) {t w : Nat}
    (shown : h.ShowsAt t w) : h.offsetOfWall w (h.phaseAt t).fold = (h.phaseAt t).offset :=
  offsetAfter_phaseAfter ⟨h.initial, false⟩ spaced (by simp) shown

theorem offsetOfWall_first_ne {h : History} (spaced : h.Spaced) {t w : Nat}
    (shown : h.ShowsAt t w) (second : (h.phaseAt t).fold = true) :
    h.offsetOfWall w false ≠ (h.phaseAt t).offset := offsetAfter_first_ne spaced shown second

theorem eq_of_showsAt {h : History} (spaced : h.Spaced) {t t' w : Nat} (shown : h.ShowsAt t w)
    (shown' : h.ShowsAt t' w) (fold : (h.phaseAt t).fold = (h.phaseAt t').fold) : t = t' := by
  have offset := offsetOfWall_of_showsAt spaced shown
  have offset' := offsetOfWall_of_showsAt spaced shown'
  rw [fold] at offset
  unfold ShowsAt at shown shown'
  omega

theorem not_showsAt_of_forward {h : History} (spaced : h.Spaced) {w : Nat} {before : Int}
    {c : Change} (turn : Turn h.initial h.changes before c)
    (first : h.offsetOfWall w false = before) (second : h.offsetOfWall w true = c.offset)
    (lo : c.instant + before ≤ (w : Int)) (hi : w < c.instant + c.offset) (t : Nat) :
    ¬h.ShowsAt t w := by
  intro shown
  have read := offsetOfWall_of_showsAt spaced shown
  obtain ⟨⟨before_le, after_le⟩, -, ahead, behind⟩ := turn
  unfold ShowsAt at shown
  cases fold : (h.phaseAt t).fold with
  | false =>
    rw [fold, first] at read
    have phase : h.phaseAt t = phaseOf before c t := behind t false (by omega) (by omega)
    simp only [phase, phaseOf] at read
    omega
  | true =>
    rw [fold, second] at read
    have offset : (h.phaseAt t).offset = before := ahead t false (by omega) (by omega)
    omega

/-- A reading that a clock shows, and that its two folds tell apart, is shown twice, the second
time in the second fold. -/
theorem exists_second_of_offsets_ne {h : History} (spaced : h.Spaced) {t w : Nat}
    (shown : h.ShowsAt t w) (differ : h.offsetOfWall w false ≠ h.offsetOfWall w true) :
    ∃ t₀ t₁, t₀ < t₁ ∧ t₁ < dayCount * secondsPerDay ∧ h.ShowsAt t₀ w ∧ h.ShowsAt t₁ w ∧
      (h.phaseAt t₁).fold = true := by
  obtain ⟨before, c, _, turn, first, second, lo, hi⟩ := exists_turn (Nat.le_refl _) spaced differ
  obtain back | forward := Int.lt_or_le c.offset before
  · obtain ⟨⟨before_le, after_le⟩, ⟨start, last⟩, ahead, behind⟩ := turn
    have earlier := ahead (w - before).toNat false (by omega) (by omega)
    have later := behind (w - c.offset).toNat false (by omega) (by omega)
    refine ⟨(w - before).toNat, (w - c.offset).toNat, by omega, by omega, ?_, ?_, ?_⟩
    · simp only [ShowsAt, phaseAt, earlier]
      omega
    · simp only [ShowsAt, phaseAt, later, phaseOf]
      omega
    · simp only [phaseAt, later, phaseOf, decide_eq_true_eq]
      omega
  · exact absurd shown
      (not_showsAt_of_forward spaced turn first second (by omega) (by omega) t)

end CivilRange.History
