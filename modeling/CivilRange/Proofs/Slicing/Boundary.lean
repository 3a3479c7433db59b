import CivilRange.Proofs.Duration.Counted
import CivilRange.Proofs.Expression.Faults
import CivilRange.Proofs.Moment.Growth
import CivilRange.Slicing

set_option autoImplicit false

namespace CivilRange.Slicing

variable {s : Slicing} {z : Zone}

/-- What opening a range has read: its two ends and its first boundary. -/
structure Opened (s : Slicing) : Prop where
  origin : ∃ b, Bound.read s.origin s.now = .ok b
  limit : ∃ stop b, Bound.read stop s.now = .ok b ∧ b.moment = s.limit
  first : ∃ m, s.boundary 0 = .ok m

theorem rejectPeriod_ne_ok (period : Int) : rejectPeriod period ≠ .ok s := by
  unfold rejectPeriod
  rw [Ne, bind_eq_ok_iff]
  rintro ⟨digits, -, ⟨⟩⟩

theorem rejectPeriod_of_lt {period : Int} (lt : period.natAbs < numberLimit) :
    rejectPeriod period = .error (.rejected (.period period)) := by
  rw [rejectPeriod, writeNumber_eq_ok_iff.2 ⟨lt, rfl⟩]
  exact pure_bind _ _

theorem ofRange_eq_ok_iff {start stop unit : String} {period : Int} {now : Moment} :
    ofRange start stop period unit now = .ok s ↔
      ((s.origin = start ∧ s.unit = unit ∧ (s.period : Int) = period ∧ s.now = now) ∧
        (∃ b, Bound.read start now = .ok b) ∧
        (∃ b, Bound.read stop now = .ok b ∧ b.moment = s.limit) ∧ ∃ m, s.boundary 0 = .ok m) := by
  unfold ofRange
  constructor
  · intro h
    split at h
    · simp only [bind_eq_ok_iff, pure_eq_ok_iff] at h
      obtain ⟨origin, there, limit, stop, first, boundary, rfl⟩ := h
      exact ⟨⟨rfl, rfl, Int.toNat_of_nonneg (by omega), rfl⟩, ⟨origin, there⟩, ⟨limit, stop, rfl⟩,
        first, boundary⟩
    · exact absurd h (rejectPeriod_ne_ok period)
  · rintro ⟨⟨rfl, rfl, rfl, rfl⟩, ⟨origin, there⟩, ⟨limit, stop, same⟩, first, boundary⟩
    have pos := s.period_pos
    rw [dif_pos (by omega)]
    simp only [bind_eq_ok_iff, pure_eq_ok_iff]
    refine ⟨origin, there, limit, stop, first, ?_, ?_⟩ <;> simp only [same, Int.toNat_natCast]
    exact boundary

theorem opened_of_ofRange {start stop unit : String} {period : Int} {now : Moment}
    (h : ofRange start stop period unit now = .ok s) : s.Opened ∧ s.now = now := by
  obtain ⟨⟨rfl, -, -, rfl⟩, origin, ⟨limit, there, same⟩, first⟩ := ofRange_eq_ok_iff.1 h
  exact ⟨⟨origin, ⟨stop, limit, there, same⟩, first⟩, rfl⟩

theorem toList_boundaryText (s : Slicing) (count : List Char) : (s.boundaryText count).toList =
    s.origin.toList ++ Sign.plus.symbol :: (count ++ s.unit.toList) := by
  simp [boundaryText, Sign.symbol]

/-- The boundary at `k` by its text alone, however long the count is. -/
def written (s : Slicing) (k : Nat) : Except Fault Moment :=
  Bound.moment <$> Bound.read (s.boundaryText (Nat.toDigits 10 k)) s.now

theorem written_eq_ok_iff {k : Nat} {m : Moment} : s.written k = .ok m ↔
    ∃ b, Bound.read (s.boundaryText (Nat.toDigits 10 k)) s.now = .ok b ∧ b.moment = m :=
  map_eq_ok_iff

theorem boundary_of_lt {k : Nat} (lt : k < numberLimit) : s.boundary k = s.written k := by
  unfold boundary
  rw [writeNumber_eq_ok_iff.2 ⟨lt, rfl⟩]
  rfl

theorem boundary_of_not_lt {k : Nat} (long : ¬k < numberLimit) :
    s.boundary k = .error .unwritten := by
  unfold boundary
  rw [writeNumber_eq_error_iff.2 ⟨long, rfl⟩]
  rfl

theorem written_of_boundary {k : Nat} {m : Moment} (h : s.boundary k = .ok m) :
    s.written k = .ok m := by
  by_cases lt : k < numberLimit
  · rwa [← boundary_of_lt lt]
  · cases (boundary_of_not_lt lt).symm.trans h

theorem boundary_fault {k : Nat} {fault : Fault} (h : s.boundary k = .error fault) :
    fault = .unwritten ∨ s.written k = .error fault := by
  by_cases lt : k < numberLimit
  · exact .inr (boundary_of_lt lt ▸ h)
  · exact .inl (Except.error.inj (h.symm.trans (boundary_of_not_lt lt)))

theorem not_isSign_of_isDigit {c : Char} (h : c.isDigit = true) : isSign c = false := by
  simpa using of_isDigit (p := fun c => !isSign c) (by decide) h

theorem plain_append_iff {digits unit : List Char} (count : IsCount digits) :
    Shape.Plain (digits ++ unit) ↔ ∀ c ∈ unit, isSign c = false := by
  constructor
  · intro plain c mem
    exact plain.2 c (List.mem_append_right _ mem)
  · intro unit
    refine ⟨by simp [count.1], fun c mem => ?_⟩
    rcases List.mem_append.1 mem with mem | mem
    · exact not_isSign_of_isDigit (count.2 c mem)
    · exact unit c mem

theorem written_eq_of_bare {shape : Shape} {origin : Bound}
    (split : Shape.split? s.origin.toList = some shape) (bare : shape.suffix = none)
    (plain : ∀ c ∈ s.unit.toList, isSign c = false)
    (there : Bound.read s.origin s.now = .ok origin) (k : Nat) :
    s.written k = Duration.read (String.ofList (Nat.toDigits 10 k ++ s.unit.toList)) >>=
      origin.moment.moveOrReject .plus :=
  Bound.moment_read_append (toList_boundaryText s _) split bare
    ((plain_append_iff (isCount_toDigits k)).2 plain) there

theorem Opened.exists_bare (opened : s.Opened) :
    ∃ shape, Shape.split? s.origin.toList = some shape ∧ shape.suffix = none ∧
      ∀ c ∈ s.unit.toList, isSign c = false := by
  obtain ⟨origin, there⟩ := opened.origin
  obtain ⟨shape, split, -⟩ := Bound.read_eq_ok_iff.1 there
  obtain ⟨m, first⟩ := opened.first
  obtain ⟨b, zero, -⟩ := written_eq_ok_iff.1 (written_of_boundary first)
  obtain ⟨shape', longer, -⟩ := Bound.read_eq_ok_iff.1 zero
  rw [toList_boundaryText] at longer
  obtain ⟨bare, plain⟩ := Shape.split?_append_amount split longer
  exact ⟨shape, split, bare, (plain_append_iff (isCount_toDigits 0)).1 plain⟩

theorem Opened.written_eq {origin : Bound} (opened : s.Opened)
    (there : Bound.read s.origin s.now = .ok origin) (k : Nat) :
    s.written k = Duration.read (String.ofList (Nat.toDigits 10 k ++ s.unit.toList)) >>=
      origin.moment.moveOrReject .plus := by
  obtain ⟨shape, split, bare, plain⟩ := opened.exists_bare
  exact written_eq_of_bare split bare plain there k

/-- The one moment and the one amount that all boundaries come from, and the digits that the unit
text puts behind each count. -/
theorem Opened.exists_move {origin : Bound} (opened : s.Opened)
    (there : Bound.read s.origin s.now = .ok origin) :
    ∃ (d : Duration) (unit : TimeUnit) (more : List Char),
      (more <+: s.unit.toList ∧ ∀ c ∈ more, c.isDigit = true) ∧ ∀ k, s.written k =
        readNumber (Nat.toDigits 10 k ++ more) >>= fun n =>
          origin.moment.moveOrReject .plus (d.withAmount unit n) := by
  obtain ⟨m, first⟩ := opened.first
  have moves := opened.written_eq there
  obtain ⟨d, amount, -⟩ := bind_eq_ok_iff.1 ((moves 0).symm.trans (written_of_boundary first))
  obtain ⟨unit, more, front, counted⟩ := Duration.exists_read_append (isCount_toDigits 0) amount
  refine ⟨d, unit, more, front, ?_⟩
  intro k
  rw [moves k, counted _ (isCount_toDigits k)]
  cases readNumber (Nat.toDigits 10 k ++ more) <;> rfl

/-- A count that is too long to be written would be too long to be read as well. -/
theorem Opened.boundary_eq_ok_iff {k : Nat} {m : Moment} (opened : s.Opened) :
    s.boundary k = .ok m ↔ s.written k = .ok m := by
  refine ⟨written_of_boundary, fun h => ?_⟩
  obtain ⟨origin, there⟩ := opened.origin
  obtain ⟨d, unit, more, -, moves⟩ := opened.exists_move there
  obtain ⟨n, number, -⟩ := bind_eq_ok_iff.1 ((moves k).symm.trans h)
  have short := (readNumber_eq_ok_iff.1 number).1
  rw [List.length_append] at short
  rwa [boundary_of_lt (length_toDigits_le_iff.1 (by omega))]

theorem Opened.onTargetClock {k : Nat} {m : Moment} (opened : s.Opened)
    (h : s.boundary k = .ok m) : m.OnClock s.now.targetZone := by
  obtain ⟨origin, there⟩ := opened.origin
  have moves := opened.written_eq there k
  obtain ⟨d, -, moved⟩ := bind_eq_ok_iff.1 (moves.symm.trans (written_of_boundary h))
  rw [← Bound.targetZone_of_read there]
  exact Moment.onTargetClock_of_move (Moment.moveOrReject_eq_ok_iff.1 moved)

theorem Opened.onClock {k : Nat} {m : Moment} (opened : s.Opened) (zone : s.now.zone = some z)
    (h : s.boundary k = .ok m) : m.OnClock z :=
  Moment.targetZone_eq zone ▸ opened.onTargetClock h

/-- A boundary lies as many seconds after an earlier one as it counts units more, at least. -/
theorem Opened.instant_add_le {i j : Nat} {a b : Moment} (opened : s.Opened)
    (zone : s.now.zone = some z) (le : i ≤ j) (ha : s.boundary i = .ok a)
    (hb : s.boundary j = .ok b) : a.instant + microsOfSeconds (j - i : Nat) ≤ b.instant := by
  obtain ⟨origin, there⟩ := opened.origin
  obtain ⟨d, unit, more, -, moves⟩ := opened.exists_move there
  obtain ⟨n, number, moved⟩ := bind_eq_ok_iff.1 ((moves i).symm.trans (written_of_boundary ha))
  obtain ⟨n', number', moved'⟩ := bind_eq_ok_iff.1 ((moves j).symm.trans (written_of_boundary hb))
  have apart : n + (j - i) ≤ n' := by
    rw [readNumber_toDigits_append number, readNumber_toDigits_append number']
    have pos : 0 < Nat.pow 10 more.length := Nat.pow_pos (by decide)
    have digits := Nat.le_mul_of_pos_right (j - i) pos
    have less := Nat.mul_le_mul_right (Nat.pow 10 more.length) le
    rw [Nat.sub_mul] at digits
    omega
  have later := Moment.instant_add_le_of_moves (Bound.zone_of_read zone there)
    (d.shorterBy_withAmount unit (show n ≤ n' by omega)) (Moment.moveOrReject_eq_ok_iff.1 moved)
    (Moment.moveOrReject_eq_ok_iff.1 moved')
  simp only [microsOfSeconds, microsPerSecond] at *
  omega

theorem Opened.instant_lt {i j : Nat} {a b : Moment} (opened : s.Opened)
    (zone : s.now.zone = some z) (lt : i < j) (ha : s.boundary i = .ok a)
    (hb : s.boundary j = .ok b) : a.instant < b.instant := by
  have later := opened.instant_add_le zone (Nat.le_of_lt lt) ha hb
  simp only [microsOfSeconds, microsPerSecond] at later
  omega

/-- The end of the range is in the zone too, but need not be on its clock. -/
theorem Opened.zone_limit (opened : s.Opened) (zone : s.now.zone = some z) :
    s.limit.zone = some z := by
  obtain ⟨-, ⟨stop, b, there, same⟩, -⟩ := opened
  exact same ▸ Bound.zone_of_read zone there

end CivilRange.Slicing
