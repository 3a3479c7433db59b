import CivilRange.Proofs.Slicing.Length

set_option autoImplicit false

/-!
# The boundaries after the first

Opening a range reads the boundary at zero. What it has found then about the text holds for every
count in the place of the zero: the same shape, the same start, the same unit and the same fields
behind it. So a later boundary is the start moved by an amount in which only the count differs, and
if it cannot be read, then because that move leads out of the calendar.
-/
namespace CivilRange

namespace Slicing

variable {s : Slicing} {z : Zone} {m : Moment} {origin : Bound} {n k : Nat} {slices : List Slice}
  {ending : Ending} {last : Run} {fault : Fault}

/-- The boundary at `offset` is where the amount leads to from `start`, or is rejected because it
leads out of the calendar. -/
def LandsOrLeaves (s : Slicing) (start : Moment) (offset : Nat) (amount : Duration) : Prop :=
  (∃ m, s.boundary offset = .ok m ∧ start.LandsAt .plus amount m) ∨
    ∃ cause, s.boundary offset = .error (.rejected (.move start .plus amount cause)) ∧
      ¬∃ m, start.LandsAt .plus amount m

theorem Opened.exists_count (opened : s.Opened)
    (there : Bound.read s.origin s.now = .ok origin)
    (head : ∀ c ∈ s.unit.toList.head?, c.isDigit = false) :
    ∃ (d : Duration) (u : TimeUnit), ∀ k < numberLimit,
      s.boundary k = origin.moment.moveOrReject .plus (d.withAmount u k) := by
  obtain ⟨d, u, more, ⟨front, digits⟩, moves⟩ := opened.exists_move there
  have none : more = [] := by
    cases more with
    | nil => rfl
    | cons c more =>
      obtain ⟨rest, whole⟩ := front
      have other := head c (by rw [← whole]; rfl)
      rw [digits c List.mem_cons_self] at other
      cases other
  refine ⟨d, u, fun k lt => ?_⟩
  rw [boundary_of_lt lt, moves, none, List.append_nil, readNumber_toDigits lt]
  simp only [bind, Except.bind]

theorem landsOrLeaves_of_boundary {offset : Nat} {amount : Duration}
    (h : s.boundary offset = m.moveOrReject .plus amount) : s.LandsOrLeaves m offset amount := by
  cases moved : m.move .plus amount with
  | ok m' =>
    refine .inl ⟨m', ?_, Moment.move_eq_ok_iff_landsAt.1 moved⟩
    rw [h, Moment.moveOrReject_eq_ok_iff, moved]
  | error cause =>
    refine .inr ⟨cause, ?_, Moment.not_landsAt_of_move moved⟩
    rw [h]
    exact Moment.moveOrReject_eq_error_iff.2 ⟨cause, moved, rfl⟩

def periodDigits : Nat := 4200

/-- A bound on the period. Below it, the multiples that a run comes to are short enough to be read,
as a run ends before the seconds of the calendar do. -/
def periodLimit : Nat := Nat.pow 10 periodDigits

theorem one_lt_periodLimit : 1 < periodLimit := by
  have pos : periodDigits ≠ 0 := by decide
  unfold periodLimit
  generalize periodDigits = digits at *
  exact Nat.one_lt_pow pos (by decide)

theorem secondCount_add_periodLimit_le : secondCount + periodLimit ≤ numberLimit := by
  have seconds : 12 ≤ periodDigits := by decide
  have next : Nat.pow 10 (periodDigits + 1) ≤ numberLimit := pow_le_numberLimit (by decide)
  unfold periodLimit
  generalize periodDigits = digits at *
  have years : secondCount ≤ Nat.pow 10 digits :=
    calc secondCount ≤ Nat.pow 10 12 := by decide
      _ ≤ Nat.pow 10 digits := Nat.pow_le_pow_right (by decide) seconds
  have ten : Nat.pow 10 (digits + 1) = Nat.pow 10 digits * 10 := rfl
  omega

theorem Opened.mul_period_lt_numberLimit (opened : s.Opened) (zone : s.now.zone = some z)
    (short : s.period < periodLimit) (taken : (Run.start s).take n = (slices, ending, last))
    (le : k ≤ slices.length + 1) : k * s.period < numberLimit := by
  obtain ⟨a, edge⟩ := opened.exists_edge (reaches_of_take opened zone taken)
  have reached := opened.mul_period_lt zone edge
  have next : k * s.period ≤ slices.length * s.period + s.period := by
    rw [← Nat.succ_mul]
    exact Nat.mul_le_mul_right _ le
  have large := secondCount_add_periodLimit_le
  omega

theorem Opened.edge_error_or_reversed (opened : s.Opened) (zone : s.now.zone = some z)
    {a : Moment} (start : s.edge k = .ok a) (h : s.sliceAt k = .error fault) :
    s.edge (k + 1) = .error fault ∨ ∃ b, fault = .reversed a b := by
  rw [sliceAt, start, bind_eq_error_iff] at h
  obtain ⟨⟨⟩⟩ | ⟨a', same, h⟩ := h
  obtain rfl := Except.ok.inj same
  obtain stop | ⟨b, stop, h⟩ := bind_eq_error_iff.1 h
  · exact .inl stop
  · rw [opened.isAfter_limit zone stop, bind_eq_error_iff] at h
    obtain ⟨⟨⟩⟩ | ⟨after, -, h⟩ := h
    cases after with
    | true => cases h
    | false =>
      change some <$> Slice.make a b = .error fault at h
      rw [map_eq_error_iff, Slice.make_eq_error_iff, opened.isAfter_edge zone start stop] at h
      obtain ⟨⟨⟩⟩ | ⟨-, same⟩ := h
      exact .inr ⟨b, same.symm⟩

/-- Some slice is given, and behind those that are given is a fault. -/
def FailsLate (s : Slicing) (fault : Fault) : Prop :=
  ∃ k, 0 < k ∧ (∀ j < k, ∃ slice, s.sliceAt j = .ok (some slice)) ∧
    s.sliceAt k = .error fault

theorem Opened.failsLate_iff (opened : s.Opened) (zone : s.now.zone = some z) :
    s.FailsLate fault ↔ s.slices.1 ≠ [] ∧ s.slices.2 = .failed fault := by
  rcases all : (Run.start s).take (s.sliceBound + 1) with ⟨slices, ending, last⟩
  rw [slices_eq all]
  constructor
  · rintro ⟨k, pos, given, failed⟩
    have stops : ∀ slice, s.sliceAt k ≠ .ok (some slice) := by simp [failed]
    rcases early : (Run.start s).take (k + 1) with ⟨slices', ending', last'⟩
    have few := length_le_sliceBound opened zone early
    rw [(Run.length_of_take_start given stops (Nat.lt_succ_self k) early).1] at few
    obtain ⟨rfl, ended⟩ := Run.length_of_take_start given stops (Nat.lt_succ_of_le few) all
    exact ⟨List.length_pos_iff.1 pos, ((Run.ending_of_take_start all ended).2 fault).2 failed⟩
  · rintro ⟨filled, rfl⟩
    obtain ⟨taken, -, failed⟩ := Run.take_start_spec all
    refine ⟨slices.length, List.length_pos_iff.2 filled, ?_, failed fault rfl⟩
    intro j lt
    exact ⟨_, taken j _ (List.getElem?_eq_getElem lt)⟩

theorem Opened.move_of_failsLate {rejection : Rejection} (opened : s.Opened)
    (zone : s.now.zone = some z) (h : s.FailsLate (.rejected rejection)) :
    ∃ (origin : Bound) (amount : Duration) (cause : RangeFault),
      Bound.read s.origin s.now = .ok origin ∧
        rejection = .move origin.moment .plus amount cause ∧
          ¬∃ m, origin.moment.LandsAt .plus amount m := by
  obtain ⟨k, pos, given, failed⟩ := h
  obtain ⟨origin, there⟩ := opened.origin
  obtain ⟨d, u, more, -, moves⟩ := opened.exists_move there
  obtain ⟨slice, last⟩ := given (k - 1) (by omega)
  have start := (sliceAt_eq_some_iff.1 last).2.1
  rw [Nat.sub_add_cancel pos] at start
  obtain stop | ⟨b, reversed⟩ := opened.edge_error_or_reversed zone start failed
  · obtain ⟨⟨⟩⟩ | written := boundary_fault stop
    rw [moves, bind_eq_error_iff] at written
    obtain number | ⟨n, -, moved⟩ := written
    · obtain ⟨-, ⟨⟩⟩ := readNumber_eq_error_iff.1 number
    · obtain ⟨cause, moved, same⟩ := Moment.moveOrReject_eq_error_iff.1 moved
      injection same with same
      exact ⟨origin, _, cause, there, same.symm, Moment.not_landsAt_of_move moved⟩
  · cases reversed

/-- If the unit text does not begin with a digit, then the boundaries that a run comes to are where
a counted amount leads to, or it leads out of the calendar; and a run fails on such a boundary or on
a reversed slice. -/
theorem later_boundaries_land_or_leave {start stop unit : String} {period : Int} {now : Moment}
    (zone : now.zone = some z) (short : period < periodLimit)
    (head : ∀ c ∈ unit.toList.head?, c.isDigit = false)
    (h : ofRange start stop period unit now = .ok s) :
    ∃ (origin : Bound) (d : Duration) (u : TimeUnit), Bound.read start now = .ok origin ∧
      ∀ n slices ending last, (Run.start s).take n = (slices, ending, last) →
        (∀ k ≤ slices.length + 1,
          s.LandsOrLeaves origin.moment (k * s.period) (d.withAmount u (k * s.period))) ∧
        ∀ fault, ending = .failed fault →
          (∃ cause, fault = .rejected (.move origin.moment .plus
            (d.withAmount u ((slices.length + 1) * s.period)) cause)) ∨
              ∃ a b, fault = .reversed a b := by
  obtain ⟨opened, rfl⟩ := opened_of_ofRange h
  obtain ⟨⟨rfl, rfl, rfl, -⟩, ⟨origin, there⟩, -⟩ := ofRange_eq_ok_iff.1 h
  obtain ⟨d, u, boundaries⟩ := opened.exists_count there head
  refine ⟨origin, d, u, there, ?_⟩
  intro n slices ending last taken
  have each : ∀ k ≤ slices.length + 1,
      s.LandsOrLeaves origin.moment (k * s.period) (d.withAmount u (k * s.period)) := by
    intro k le
    exact landsOrLeaves_of_boundary (boundaries _
      (opened.mul_period_lt_numberLimit zone (Int.ofNat_lt.1 short) taken le))
  refine ⟨each, ?_⟩
  rintro fault rfl
  obtain ⟨a, edge⟩ := opened.exists_edge (reaches_of_take opened zone taken)
  obtain stop | ⟨b, reversed⟩ :=
    opened.edge_error_or_reversed zone edge ((Run.take_start_spec taken).2.2 fault rfl)
  · obtain ⟨m, there', -⟩ | ⟨cause, there', -⟩ := each _ (Nat.le_refl _)
    · cases stop.symm.trans there'
    · exact .inl ⟨cause, Except.error.inj (stop.symm.trans there')⟩
  · exact .inr ⟨a, b, reversed⟩

def lastDaysStart : Moment := ⟨⟨315537638400000000, by decide⟩, false, some (.region .utc)⟩

/-- Days of which each boundary lies three hours late. -/
def lastDays : Slicing :=
  ⟨"+9999:12:29", "days:3hours", 1, Nat.one_pos, firstMidnight,
    ⟨⟨315537894000000000, by decide⟩, false, some (.region .utc)⟩⟩

theorem ofRange_lastDays :
    ofRange "+9999:12:29" "+9999:12:31:23" 1 "days:3hours" firstMidnight = .ok lastDays := by
  have start : Bound.read "+9999:12:29" firstMidnight = .ok ⟨lastDaysStart, true⟩ := by
    decide +kernel
  have limit : Bound.read "+9999:12:31:23" firstMidnight = .ok ⟨lastDays.limit, true⟩ := by
    decide +kernel
  have first : lastDays.boundary 0 =
      .ok ⟨⟨315537649200000000, by decide⟩, false, some (.region .utc)⟩ := by decide +kernel
  exact ofRange_eq_ok_iff.2 ⟨⟨rfl, rfl, rfl, rfl⟩, ⟨_, start⟩, ⟨_, limit, rfl⟩, _, first⟩

theorem take_lastDays : ∃ slices last, (Run.start lastDays).take 4 = (slices, .failed (.rejected
    (.move lastDaysStart .plus ⟨0, 0, 0, 3, 3, 0, 0⟩ .instant)), last) ∧ slices.length = 2 := by
  have two : ((Run.start lastDays).take 4).1.length = 2 ∧ ((Run.start lastDays).take 4).2.1 =
      .failed (.rejected (.move lastDaysStart .plus ⟨0, 0, 0, 3, 3, 0, 0⟩ .instant)) := by
    decide +kernel
  rcases taken : (Run.start lastDays).take 4 with ⟨slices, ending, last⟩
  rw [taken] at two
  obtain ⟨two, rfl⟩ : slices.length = 2 ∧ _ := two
  exact ⟨slices, last, rfl, two⟩

theorem lastDays_leave :
    ofRange "+9999:12:29" "+9999:12:31:23" 1 "days:3hours" firstMidnight = .ok lastDays ∧
      ∃ slices last cause, (Run.start lastDays).take 4 = (slices, .failed (.rejected
          (.move lastDaysStart .plus ⟨0, 0, 0, 3, 3, 0, 0⟩ cause)), last) ∧ slices.length = 2 ∧
        ¬∃ m, lastDaysStart.LandsAt .plus ⟨0, 0, 0, 3, 3, 0, 0⟩ m := by
  have start : Bound.read "+9999:12:29" firstMidnight = .ok ⟨lastDaysStart, true⟩ := by
    decide +kernel
  have third : lastDays.boundary 3 =
      .error (.rejected (.move lastDaysStart .plus ⟨0, 0, 0, 3, 3, 0, 0⟩ .instant)) := by
    decide +kernel
  obtain ⟨origin, d, u, there, runs⟩ := later_boundaries_land_or_leave (z := .region .utc) rfl
    (Int.ofNat_lt.2 one_lt_periodLimit) (by simp) ofRange_lastDays
  obtain rfl := Except.ok.inj (there.symm.trans start)
  obtain ⟨slices, last, taken, two⟩ := take_lastDays
  refine ⟨ofRange_lastDays, slices, last, _, taken, two, ?_⟩
  obtain ⟨m, there', -⟩ | ⟨cause, there', leaves⟩ := (runs _ _ _ _ taken).1 3 (by omega)
  · cases third.symm.trans there'
  · injection third.symm.trans there' with same
    injection same with same
    injection same with _ _ same _
    rwa [same]

end Slicing
end CivilRange
