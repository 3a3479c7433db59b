import CivilRange.Proofs.Expression.Shape
import CivilRange.Proofs.Moment.Move

set_option autoImplicit false

namespace CivilRange

namespace Date

variable {text : String} {now m : Moment} {z : Zone} {f : Fields}

theorem locate_eq_ok_iff : locate f z = .ok m ↔
    ∃ reading, f.reading = .ok reading ∧ m = ⟨reading, false, some z⟩ ∧ m.isShown = .ok true := by
  unfold locate
  simp only [bind_eq_ok_iff, mapError_eq_ok_iff]
  constructor
  · rintro ⟨reading, there, shown, exists_, h⟩
    cases shown with
    | false => simp at h
    | true =>
      obtain rfl := Except.ok.inj h
      exact ⟨reading, there, rfl, exists_⟩
  · rintro ⟨reading, there, rfl, shown⟩
    exact ⟨reading, there, true, shown, rfl⟩

theorem read_eq_ok_iff (zone : now.zone = some z) : read text now = .ok m ↔
    ∃ f, readFields text now.reading.fields = .ok f ∧ locate f z = .ok m := by
  unfold read
  rw [zone]
  simp only [bind_eq_ok_iff, mapError_eq_ok_iff]

theorem onClock_of_read (zone : now.zone = some z) (h : read text now = .ok m) : m.OnClock z := by
  obtain ⟨f, -, there⟩ := (read_eq_ok_iff zone).1 h
  obtain ⟨reading, -, rfl, shown⟩ := locate_eq_ok_iff.1 there
  exact Moment.onClock_of_isShown rfl rfl shown

theorem onTargetClock_of_read (h : read text now = .ok m) : m.OnClock now.targetZone := by
  cases zone : now.zone with
  | none =>
    rw [read, zone] at h
    cases h
  | some z =>
    rw [Moment.targetZone_eq zone]
    exact onClock_of_read zone h

end Date

namespace Shape

variable {s : Shape} {now m : Moment} {b : Bound}

theorem base_eq_ok_iff : s.base now = .ok m ↔
    (lower s.date = "now".toList ∧ now = m) ∨
      lower s.date ≠ "now".toList ∧ Date.read (String.ofList s.date) now = .ok m := by
  unfold base
  split
  · rename_i present
    simp only [present, ne_eq, not_true_eq_false, false_and, or_false, true_and, Except.ok.injEq]
  · rename_i other
    simp only [other, ne_eq, not_false_eq_true, false_and, false_or, true_and]

theorem base_present_or_onTargetClock (h : s.base now = .ok m) :
    m = now ∨ m.OnClock now.targetZone := by
  rcases base_eq_ok_iff.1 h with ⟨-, rfl⟩ | ⟨-, h⟩
  · exact .inl rfl
  · exact .inr (Date.onTargetClock_of_read h)

theorem moment_eq_ok_iff : s.moment now = .ok m ↔
    ∃ base, s.base now = .ok base ∧
      match s.suffix with
      | none => base = m
      | some (sign, amount) =>
        ∃ d, Duration.read (String.ofList amount) = .ok d ∧ base.move sign d = .ok m := by
  unfold moment
  rw [bind_eq_ok_iff]
  cases s.suffix with
  | none => simp only [pure_eq_ok_iff]
  | some suffix => simp only [bind_eq_ok_iff, Moment.moveOrReject_eq_ok_iff]

theorem moment_present_or_onTargetClock (h : s.moment now = .ok m) :
    m = now ∨ m.OnClock now.targetZone := by
  obtain ⟨base, there, h⟩ := moment_eq_ok_iff.1 h
  have either := base_present_or_onTargetClock there
  split at h
  · exact h ▸ either
  · obtain ⟨d, -, moved⟩ := h
    have same : base.targetZone = now.targetZone :=
      either.elim (fun eq => eq ▸ rfl) fun onClock => Moment.targetZone_eq onClock.zone_eq
    exact .inr (same ▸ Moment.onTargetClock_of_move moved)

theorem bound_eq_ok_iff : s.bound now = .ok b ↔
    ∃ m, s.moment now = .ok m ∧ (⟨m, s.sign = .plus⟩ : Bound) = b := by
  unfold bound
  simp only [bind_eq_ok_iff, pure_eq_ok_iff]

end Shape

namespace Bound

variable {text : String} {now : Moment} {z : Zone} {b : Bound}

theorem read_eq_ok_iff : read text now = .ok b ↔
    ∃ s, Shape.split? text.toList = some s ∧ s.bound now = .ok b := by
  unfold read
  cases Shape.split? text.toList <;> simp

theorem read?_eq_ok_some_iff : read? text now = .ok (some b) ↔ read text now = .ok b := by
  unfold read? read
  cases Shape.split? text.toList <;> simp [map_eq_ok_iff]

/-- Only the present moment itself may be off the clock. -/
theorem present_or_onTargetClock (h : read text now = .ok b) :
    b.moment = now ∨ b.moment.OnClock now.targetZone := by
  obtain ⟨s, -, h⟩ := read_eq_ok_iff.1 h
  obtain ⟨m, moment, rfl⟩ := Shape.bound_eq_ok_iff.1 h
  exact Shape.moment_present_or_onTargetClock moment

theorem targetZone_of_read (h : read text now = .ok b) :
    b.moment.targetZone = now.targetZone :=
  (present_or_onTargetClock h).elim (fun same => same ▸ rfl) fun onClock =>
    Moment.targetZone_eq onClock.zone_eq

theorem present_or_onClock (zone : now.zone = some z) (h : read text now = .ok b) :
    b.moment = now ∨ b.moment.OnClock z :=
  Moment.targetZone_eq zone ▸ present_or_onTargetClock h

theorem onClock_of_read (present : now.OnClock z) (h : read text now = .ok b) :
    b.moment.OnClock z :=
  (present_or_onClock present.zone_eq h).elim (fun same => same ▸ present) id

theorem zone_of_read (zone : now.zone = some z) (h : read text now = .ok b) :
    b.moment.zone = some z :=
  (present_or_onClock zone h).elim (fun same => same ▸ zone) Moment.OnClock.zone_eq

theorem moment_read_append {s : Shape} {sign : Sign} {amount : List Char} {longer : String}
    (joined : longer.toList = text.toList ++ sign.symbol :: amount)
    (split : Shape.split? text.toList = some s) (bare : s.suffix = none)
    (plain : Shape.Plain amount) (h : read text now = .ok b) :
    moment <$> read longer now =
      Duration.read (String.ofList amount) >>= b.moment.moveOrReject sign := by
  obtain ⟨s', split', bound⟩ := read_eq_ok_iff.1 h
  obtain rfl := Option.some.inj (split.symm.trans split')
  obtain ⟨m, moment, rfl⟩ := Shape.bound_eq_ok_iff.1 bound
  obtain ⟨base, based, same⟩ := Shape.moment_eq_ok_iff.1 moment
  rw [bare] at same
  obtain rfl : base = m := same
  have based' : Shape.base ⟨s.sign, s.date, some (sign, amount)⟩ now = .ok base := based
  rw [read, joined, Shape.split?_append_plain split bare plain]
  simp only [Shape.bound, Shape.moment, based', bind, Except.bind]
  cases Duration.read (String.ofList amount) with
  | error fault => rfl
  | ok d =>
    dsimp only
    cases base.moveOrReject sign d <;> rfl

end Bound
end CivilRange
