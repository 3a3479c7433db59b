import CivilRange.Proofs.Zone.Skipped

set_option autoImplicit false

/-!
# Gaps of a clock

Where a change puts a clock forward, the readings between are a gap. In the first fold such a
reading is read with the offset before the change, so its instant lies behind the change, and what
the clock shows there is the reading and the length of the gap. A reading that its own instant does
not show lies in a gap.
-/
namespace CivilRange.History

variable {h : History} {t u w length earliest : Nat} {current : Int} {changes : List Change}

/-- From one second to the next the clock goes past `length` readings, and `w` is one of them. -/
def Gap (h : History) (w length : Nat) : Prop :=
  ∃ t, (h.shownAt t < w ∧ w < h.shownAt (t + 1)) ∧ h.shownAt (t + 1) = h.shownAt t + 1 + length

theorem Gap.length_pos (gap : h.Gap w length) : 0 < length := by
  obtain ⟨t, around, long⟩ := gap
  omega

theorem offsetAfter_first_of_skips {fold fold' : Bool}
    (spaced : SpacedFrom earliest current changes)
    (before : t + (phaseAfter t ⟨current, fold⟩ changes).offset < w)
    (past : w < (t + 1 : Nat) + (phaseAfter (t + 1) ⟨current, fold'⟩ changes).offset) :
    offsetAfter w false current changes = (phaseAfter t ⟨current, fold⟩ changes).offset := by
  induction changes generalizing earliest current fold fold' with
  | nil => rfl
  | cons c rest ih =>
    obtain ⟨_, ⟨current_le, after_le⟩, spaced⟩ := spaced
    have day : 0 < secondsPerDay := by decide
    obtain early | passed := Nat.lt_or_ge t c.instant
    · rw [phaseAfter_cons_of_lt early] at before ⊢
      obtain still | now := Nat.lt_or_ge (t + 1) c.instant
      · rw [phaseAfter_cons_of_lt still] at past
        dsimp only at before past
        omega
      · rw [phaseAfter_cons_of_le now, phaseAfter_of_lt _ spaced (by omega)] at past
        dsimp only [phaseOf] at past
        exact offsetAfter_cons_of_lt (by simp; omega) rest
    · rw [phaseAfter_cons_of_le passed] at before ⊢
      rw [phaseAfter_cons_of_le (Nat.le_succ_of_le passed)] at past
      rw [offsetAfter_cons_of_le]
      · exact ih spaced before past
      · -- the change lies behind: nothing is gone past until two days after it
        have bound := natAbs_phaseAfter_offset (phaseOf current c t) spaced after_le t
        obtain soon | long := Nat.lt_or_ge (t + 1) (c.instant + 2 * secondsPerDay)
        · rw [phaseAfter_of_lt _ spaced (by omega)] at before
          rw [phaseAfter_of_lt _ spaced soon] at past
          dsimp only [phaseOf] at before past
          omega
        · dsimp only at before
          simp only [Bool.false_eq_true, ↓reduceIte]
          omega

theorem Gap.phaseAt_eq (spaced : h.Spaced) (gap : h.Gap w length)
    (instant : (w : Int) = u + h.offsetOfWall w false) :
    h.phaseAt u = ⟨h.offsetOfWall w false + length, false⟩ := by
  obtain ⟨t, ⟨before_w, past_w⟩, long⟩ := gap
  have read : h.offsetOfWall w false = (h.phaseAt t).offset :=
    offsetAfter_first_of_skips spaced before_w past_w
  have differ : (h.phaseAt t).offset ≠ (h.phaseAt (t + 1)).offset := by
    unfold shownAt at before_w past_w
    omega
  obtain ⟨before, c, ⟨-, at_c⟩, turn⟩ := exists_turn_of_offset_ne (Nat.le_refl _) spaced differ
  obtain ⟨⟨before_le, after_le⟩, -, ahead, behind⟩ := turn
  have day : 0 < secondsPerDay := by decide
  have at_t : (h.phaseAt t).offset = before := ahead t false (by omega) (by omega)
  have at_next : h.phaseAt (t + 1) = phaseOf before c (t + 1) := behind _ false (by omega) (by omega)
  rw [read, at_t] at instant ⊢
  simp only [shownAt, at_t, at_next, phaseOf] at before_w past_w long
  have at_u : h.phaseAt u = phaseOf before c u := behind u false (by omega) (by omega)
  have first : ¬u - c.instant < (before - c.offset).toNat := by omega
  rw [at_u, phaseOf, decide_eq_false first, show c.offset = before + length by omega]

/-- A reading is shown at its instant, or it is read with the offset before a change that puts the
clock past it. -/
theorem shows_or_turn (fold : Bool) (start : 2 * secondsPerDay ≤ earliest)
    (spaced : SpacedFrom earliest current changes)
    (instant : (w : Int) = u + offsetAfter w false current changes) :
    (phaseAfter u ⟨current, fold⟩ changes).offset = offsetAfter w false current changes ∨
      ∃ before c, (earliest ≤ c.instant ∧ Turn current changes before c) ∧
        c.instant + before ≤ (w : Int) ∧ w < c.instant + c.offset := by
  induction changes generalizing earliest current fold with
  | nil => exact .inl rfl
  | cons c rest ih =>
    have whole := spaced
    obtain ⟨⟨late, _⟩, ⟨before, after⟩, spaced⟩ := spaced
    obtain above | below := Int.lt_or_le w (c.instant + max current c.offset)
    · rw [offsetAfter_cons_of_lt above] at instant ⊢
      obtain early | passed := Nat.lt_or_ge u c.instant
      · rw [phaseAfter_cons_of_lt early]
        exact .inl rfl
      · exact .inr ⟨current, c, ⟨late, turn_cons start whole⟩, by omega, by omega⟩
    · rw [offsetAfter_cons_of_le below] at instant ⊢
      have passed : c.instant ≤ u := by
        have bound := natAbs_offsetAfter w false spaced after
        obtain soon | long := Int.lt_or_le (w + secondsPerDay : Int)
          (c.instant + 2 * secondsPerDay : Nat)
        · rw [offsetAfter_of_lt spaced soon] at instant
          omega
        · omega
      rw [phaseAfter_cons_of_le passed]
      obtain shown | ⟨was, next, ⟨apart, turn⟩, around⟩ := ih _ (by omega) spaced instant
      · exact .inl shown
      · exact .inr ⟨was, next, ⟨by omega, turn_of_rest apart turn⟩, around⟩

theorem showsAt_or_gap (spaced : h.Spaced) (instant : (w : Int) = u + h.offsetOfWall w false) :
    h.ShowsAt u w ∨ ∃ length, h.Gap w length := by
  obtain shown | ⟨before, c, ⟨late, turn⟩, lo, hi⟩ :=
    shows_or_turn false (Nat.le_refl _) spaced instant
  · refine .inl ?_
    unfold ShowsAt
    rw [show (h.phaseAt u).offset = h.offsetOfWall w false from shown]
    exact instant
  · have day : 0 < secondsPerDay := by decide
    obtain ⟨t, at_c⟩ := Nat.exists_eq_add_of_le' (show 1 ≤ c.instant by omega)
    have at_t : (h.phaseAt t).offset = before := turn.ahead t false (by omega) (by omega)
    have at_next : h.phaseAt (t + 1) = phaseOf before c (t + 1) :=
      turn.behind _ false (by omega) (by omega)
    refine .inr ⟨(c.offset - before).toNat, t, ?_, ?_⟩ <;>
      simp only [shownAt, at_t, at_next, phaseOf] <;> omega

end CivilRange.History
