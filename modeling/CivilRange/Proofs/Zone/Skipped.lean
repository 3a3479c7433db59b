import CivilRange.Proofs.Zone.Clock

set_option autoImplicit false

namespace CivilRange.History

variable {h : History} {t t' w w' earliest : Nat} {current : Int} {changes : List Change}

def shownAt (h : History) (t : Nat) : Int := t + (h.phaseAt t).offset

def Skips (h : History) (w : Nat) : Prop := ∃ t, h.shownAt t < w ∧ w < h.shownAt (t + 1)

theorem showsAt_or_skips (start : h.shownAt 0 ≤ w) (reached : w ≤ h.shownAt t) :
    (∃ u ≤ t, h.ShowsAt u w) ∨ h.Skips w := by
  induction t with
  | zero => exact .inl ⟨0, Nat.le_refl 0, Int.le_antisymm reached start⟩
  | succ t ih =>
    obtain before | already := Int.lt_or_le (h.shownAt t) w
    · obtain past | there := Int.lt_or_eq_of_le reached
      · exact .inr ⟨t, before, past⟩
      · exact .inl ⟨t + 1, Nat.le_refl _, there⟩
    · obtain ⟨u, le, shown⟩ | skips := ih already
      · exact .inl ⟨u, Nat.le_succ_of_le le, shown⟩
      · exact .inr skips

theorem exists_turn_of_offset_ne {fold fold' : Bool} (start : 2 * secondsPerDay ≤ earliest)
    (spaced : SpacedFrom earliest current changes)
    (differ : (phaseAfter t ⟨current, fold⟩ changes).offset ≠
      (phaseAfter (t + 1) ⟨current, fold'⟩ changes).offset) :
    ∃ before c, (earliest ≤ c.instant ∧ c.instant = t + 1) ∧ Turn current changes before c := by
  induction changes generalizing earliest current fold fold' with
  | nil => exact absurd rfl differ
  | cons c rest ih =>
    have whole := spaced
    obtain ⟨⟨late, _⟩, _, spaced⟩ := spaced
    obtain early | passed := Nat.lt_or_ge t c.instant
    · rw [phaseAfter_cons_of_lt early] at differ
      obtain still | now := Nat.lt_or_ge (t + 1) c.instant
      · rw [phaseAfter_cons_of_lt still] at differ
        exact absurd rfl differ
      · exact ⟨current, c, ⟨late, by omega⟩, turn_cons start whole⟩
    · rw [phaseAfter_cons_of_le passed, phaseAfter_cons_of_le (Nat.le_succ_of_le passed)] at differ
      obtain ⟨before, next, ⟨apart, at_next⟩, turn⟩ := ih (by omega) spaced differ
      exact ⟨before, next, ⟨by omega, at_next⟩, turn_of_rest apart turn⟩

theorem natAbs_phaseAt_offset (spaced : h.Spaced) (near : h.initial.natAbs ≤ secondsPerDay)
    (t : Nat) : (h.phaseAt t).offset.natAbs ≤ secondsPerDay :=
  natAbs_phaseAfter_offset ⟨h.initial, false⟩ spaced near t

theorem not_showsAt_of_skips (spaced : h.Spaced) (near : h.initial.natAbs ≤ secondsPerDay)
    (skips : h.Skips w) (u : Nat) : ¬h.ShowsAt u w := by
  obtain ⟨t, before_w, past_w⟩ := skips
  intro shown
  have bound := natAbs_phaseAt_offset spaced near u
  have differ : (h.phaseAt t).offset ≠ (h.phaseAt (t + 1)).offset := by
    unfold shownAt at before_w past_w
    omega
  obtain ⟨before, c, ⟨-, at_c⟩, turn⟩ :=
    exists_turn_of_offset_ne (Nat.le_refl _) spaced differ
  obtain ⟨⟨before_le, after_le⟩, -, ahead, behind⟩ := turn
  have day : 0 < secondsPerDay := by decide
  have at_t : (h.phaseAt t).offset = before := ahead t false (by omega) (by omega)
  have at_next : h.phaseAt (t + 1) = phaseOf before c (t + 1) := behind _ false (by omega) (by omega)
  simp only [shownAt, at_t, at_next, phaseOf] at before_w past_w
  unfold ShowsAt at shown
  -- near the change the offsets are those of its two sides, far from it `u` is too early or too late
  obtain early | passed := Nat.lt_or_ge u c.instant
  · obtain far | close := Nat.lt_or_ge (u + 2 * secondsPerDay) c.instant
    · omega
    · have at_u : (h.phaseAt u).offset = before := ahead u false early close
      omega
  · obtain close | far := Nat.lt_or_ge u (c.instant + 2 * secondsPerDay)
    · have at_u : h.phaseAt u = phaseOf before c u := behind u false passed close
      simp only [at_u, phaseOf] at shown
      omega
    · omega

theorem le_of_shown_le {fold fold' : Bool} (spaced : SpacedFrom earliest current changes)
    (first : (phaseAfter t' ⟨current, fold'⟩ changes).fold = false)
    (le : t' + (phaseAfter t' ⟨current, fold'⟩ changes).offset ≤
      t + (phaseAfter t ⟨current, fold⟩ changes).offset) : t' ≤ t := by
  induction changes generalizing earliest current fold fold' with
  | nil =>
    simp only [phaseAfter] at le
    omega
  | cons c rest ih =>
    obtain ⟨_, ⟨before, after⟩, spaced⟩ := spaced
    obtain early | passed := Nat.lt_or_ge t c.instant
    · rw [phaseAfter_cons_of_lt early] at le
      obtain early' | passed' := Nat.lt_or_ge t' c.instant
      · rw [phaseAfter_cons_of_lt early'] at le
        dsimp only at le
        omega
      · -- the change lies between the two, and its second fold is over at `t'`
        rw [phaseAfter_cons_of_le passed'] at first le
        obtain soon | long := Nat.lt_or_ge t' (c.instant + 2 * secondsPerDay)
        · rw [phaseAfter_of_lt _ spaced soon] at first le
          simp only [phaseOf, decide_eq_false_iff_not] at first le
          omega
        · have bound := natAbs_phaseAfter_offset (phaseOf current c t') spaced after t'
          dsimp only at le
          omega
    · obtain early' | passed' := Nat.lt_or_ge t' c.instant
      · omega
      · rw [phaseAfter_cons_of_le passed'] at first le
        rw [phaseAfter_cons_of_le passed] at le
        exact ih spaced first le

/-- A clock shows a reading in the first fold before it shows any later one. -/
theorem le_of_showsAt (spaced : h.Spaced) (shown : h.ShowsAt t w) (shown' : h.ShowsAt t' w')
    (first : (h.phaseAt t').fold = false) (le : w' ≤ w) : t' ≤ t := by
  have order : t' + (h.phaseAt t').offset ≤ t + (h.phaseAt t).offset := by
    unfold ShowsAt at shown shown'
    omega
  exact le_of_shown_le spaced first order

end CivilRange.History
