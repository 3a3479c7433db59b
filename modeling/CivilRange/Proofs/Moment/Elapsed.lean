import CivilRange.Proofs.Expression.Read

set_option autoImplicit false

namespace CivilRange

namespace Shape

theorem base_present {now : Moment} {s : Shape} (h : s.date = "NOW".toList) :
    s.base now = .ok now := by
  have lowered : lower "NOW".toList = "now".toList := by decide +kernel
  unfold base
  rw [h, if_pos lowered]

end Shape

namespace Bound

theorem read_present (now : Moment) : read "+NOW" now = .ok ⟨now, true⟩ := by
  refine read_eq_ok_iff.2 ⟨⟨.plus, "NOW".toList, none⟩, by decide, ?_⟩
  refine Shape.bound_eq_ok_iff.2 ⟨now, ?_, rfl⟩
  exact Shape.moment_eq_ok_iff.2 ⟨now, Shape.base_present rfl, rfl⟩

theorem read_present_moved_eq_ok_iff {now : Moment} {b : Bound} :
    read "+NOW+0seconds" now = .ok b ↔ ∃ m, now.move .plus .zero = .ok m ∧ b = ⟨m, true⟩ := by
  have split : Shape.split? "+NOW+0seconds".toList =
      some ⟨.plus, "NOW".toList, some (.plus, "0seconds".toList)⟩ := by decide
  have none : Duration.read (String.ofList "0seconds".toList) = .ok .zero := by decide +kernel
  rw [read_eq_ok_iff]
  simp only [split, Option.some.injEq, exists_eq_left', Shape.bound_eq_ok_iff,
    Shape.moment_eq_ok_iff, Shape.base_present (s := ⟨.plus, "NOW".toList, _⟩) rfl,
    Except.ok.injEq, none]
  constructor
  · rintro ⟨m, h, rfl⟩
    exact ⟨m, h, rfl⟩
  · rintro ⟨m, h, rfl⟩
    exact ⟨m, h, rfl⟩

end Bound

namespace Moment

variable {z : Zone} {m moved : Moment} {sign : Sign} {d : Duration}

theorem instant_first_eq_iff (zone : m.zone = some z) (shown : z.Shows m.reading) :
    Moment.instant ⟨m.reading, false, some z⟩ = m.instant ↔
      ¬(m.fold = true ∧ z.Repeats m.reading) := by
  obtain ⟨reading, fold, zone'⟩ := m
  cases zone
  rw [Zone.repeats_iff shown]
  cases fold with
  | false => simp
  | true =>
    simp only [Moment.instant, Moment.offset, microsOfSeconds, microsPerSecond, true_and, ne_eq,
      Decidable.not_not]
    omega

/-- An elapsed move keeps to real time exactly if it does not start from the second showing of a
reading. -/
theorem elapsed_move_instant_iff (zone : m.zone = some z) (shown : z.Shows m.reading) :
    (∀ d sign moved, d.years = 0 → d.months = 0 → m.move sign d = .ok moved →
        (moved.instant = m.instant + microsOfSeconds (sign.apply d.elapsed) ↔
          ¬(m.fold = true ∧ z.Repeats m.reading))) ∧
      ∀ now moved, Bound.read "+NOW" m = .ok now → Bound.read "+NOW+0seconds" m = .ok moved →
        (moved.moment.instant = now.moment.instant ↔ ¬(m.fold = true ∧ z.Repeats m.reading)) := by
  have first := instant_first_eq_iff zone shown
  have elapsed : ∀ d sign moved, d.years = 0 → d.months = 0 → m.move sign d = .ok moved →
      (moved.instant = m.instant + microsOfSeconds (sign.apply d.elapsed) ↔
        ¬(m.fold = true ∧ z.Repeats m.reading)) := by
    intro d sign moved years months h
    have still : d.totalMonths = 0 := by
      unfold Duration.totalMonths
      omega
    rw [instant_of_elapsed_move zone still h, ← first]
    omega
  refine ⟨elapsed, ?_⟩
  intro now moved present h
  rw [Bound.read_present] at present
  obtain rfl := Except.ok.inj present
  obtain ⟨m', move, rfl⟩ := Bound.read_present_moved_eq_ok_iff.1 h
  simpa [Duration.elapsed, Duration.zero, Duration.ofAmounts, Sign.apply, microsOfSeconds]
    using elapsed .zero .plus m' rfl rfl move

/-- Half past two in the night in which Paris turns its clocks back from three to two. -/
def autumnNight (fold : Bool) : Moment :=
  ⟨⟨63771244200000000, by decide⟩, fold, some (.region .paris)⟩

theorem autumnNight_shown (fold : Bool) :
    (Zone.region .paris).Shows (autumnNight fold).reading :=
  ⟨⟨63771237000000000, by decide⟩, autumnNight false, by decide +kernel, rfl⟩

theorem momentAt_autumnNight :
    (Zone.region .paris).momentAt ⟨63771240600000000, by decide⟩ = .ok (autumnNight true) := by
  decide +kernel

theorem hour_of_autumnNight :
    ((autumnNight false).zone = some (.region .paris) ∧
        (Zone.region .paris).Shows (autumnNight false).reading) ∧
      (autumnNight false).move .plus ⟨0, 0, 0, 0, 1, 0, 0⟩ = .ok (autumnNight true) ∧
      (autumnNight true).instant = (autumnNight false).instant + microsOfSeconds 3600 := by
  have move : (autumnNight false).move .plus ⟨0, 0, 0, 0, 1, 0, 0⟩ = .ok (autumnNight true) := by
    decide +kernel
  have kept := (elapsed_move_instant_iff (z := .region .paris) rfl (autumnNight_shown false)).1
    _ _ _ rfl rfl move
  exact ⟨⟨rfl, autumnNight_shown false⟩, move, kept.2 (by simp [autumnNight])⟩

/-- From its second showing, no time at all leads back to the first. -/
theorem no_time_of_autumnNight :
    (Zone.region .paris).Shows (autumnNight true).reading ∧
      (autumnNight true).move .plus .zero = .ok (autumnNight false) ∧
      (autumnNight false).instant ≠
        (autumnNight true).instant + microsOfSeconds (Sign.plus.apply Duration.zero.elapsed) :=
  ⟨autumnNight_shown true, by decide +kernel, by decide +kernel⟩

end Moment
end CivilRange
