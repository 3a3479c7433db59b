import CivilRange.Proofs.Duration.Unit
import CivilRange.Proofs.Slicing.Boundary

set_option autoImplicit false

namespace CivilRange.Slicing

variable {s : Slicing} {u : TimeUnit}

theorem Opened.boundary_of_namesUnit {origin : Bound} (opened : s.Opened)
    (there : Bound.read s.origin s.now = .ok origin) (named : NamesUnit s.unit u) (k : Nat) :
    s.boundary k = writeNumber k >>= fun _ =>
      origin.moment.moveOrReject .plus (Duration.zero.withAmount u k) := by
  by_cases lt : k < numberLimit
  · rw [boundary_of_lt lt, opened.written_eq there,
      Duration.read_of_namesUnit named (isCount_toDigits k), readNumber_toDigits lt,
      writeNumber_eq_ok_iff.2 ⟨lt, rfl⟩]
    rfl
  · rw [boundary_of_not_lt lt, writeNumber_eq_error_iff.2 ⟨lt, rfl⟩]
    rfl

theorem Opened.exists_namesUnit (opened : s.Opened)
    (head : ∀ c ∈ s.unit.toList.head?, c.isDigit = false) (single : ':' ∉ unitField s.unit) :
    ∃ u, NamesUnit s.unit u := by
  obtain ⟨origin, there⟩ := opened.origin
  obtain ⟨m, first⟩ := opened.first
  have moves := opened.written_eq there 0
  obtain ⟨d, read, -⟩ := bind_eq_ok_iff.1 (moves.symm.trans (written_of_boundary first))
  exact Duration.exists_namesUnit_of_read (isCount_toDigits 0) head single read

/-- An accepted unit text names a unit if and only if it neither begins with a digit nor has a
colon before those at its end; and then each boundary is its count of that unit after the start. -/
theorem accepted_unit_named_iff {start stop unit : String} {period : Int} {now : Moment}
    (h : ofRange start stop period unit now = .ok s) :
    ((∃ u, NamesUnit unit u) ↔
        (∀ c ∈ unit.toList.head?, c.isDigit = false) ∧ ':' ∉ unitField unit) ∧
      ∀ u origin, NamesUnit unit u → Bound.read start now = .ok origin → ∀ k,
        s.boundary k = writeNumber k >>= fun _ =>
          origin.moment.moveOrReject .plus (Duration.zero.withAmount u k) := by
  obtain ⟨opened, -⟩ := opened_of_ofRange h
  obtain ⟨⟨rfl, rfl, -, rfl⟩, -⟩ := ofRange_eq_ok_iff.1 h
  refine ⟨⟨?_, ?_⟩, ?_⟩
  · rintro ⟨u, named⟩
    exact ⟨named.not_isDigit, named.colon_not_mem⟩
  · rintro ⟨head, single⟩
    exact opened.exists_namesUnit head single
  · intro u origin named there k
    exact opened.boundary_of_namesUnit there named k

def julyEvening : Moment := ⟨⟨63792830465000000, by decide⟩, false, some (.region .utc)⟩

def newYear (unit : String) : Slicing :=
  ⟨"+2020:01:01", unit, 1, by decide, julyEvening,
    ⟨⟨63716457600000000, by decide⟩, false, some (.region .utc)⟩⟩

theorem ofRange_newYear {unit : String} {m : Moment} (first : (newYear unit).boundary 0 = .ok m) :
    ofRange "+2020:01:01" "+2020:02:05" 1 unit julyEvening = .ok (newYear unit) := by
  have origin : Bound.read "+2020:01:01" julyEvening =
      .ok ⟨⟨⟨63713433600000000, by decide⟩, false, some (.region .utc)⟩, true⟩ := by
    decide +kernel
  have limit : Bound.read "+2020:02:05" julyEvening =
      .ok ⟨⟨⟨63716457600000000, by decide⟩, false, some (.region .utc)⟩, true⟩ := by
    decide +kernel
  exact ofRange_eq_ok_iff.2 ⟨⟨rfl, rfl, rfl, rfl⟩, ⟨_, origin⟩, ⟨_, limit, rfl⟩, m, first⟩

theorem spacedHours_named :
    ofRange "+2020:01:01" "+2020:02:05" 1 " Hours ::" julyEvening = .ok (newYear " Hours ::") ∧
      ∃ u, NamesUnit " Hours ::" u := by
  have first : (newYear " Hours ::").boundary 0 =
      .ok ⟨⟨63713433600000000, by decide⟩, false, some (.region .utc)⟩ := by decide +kernel
  have range := ofRange_newYear first
  exact ⟨range, (accepted_unit_named_iff range).1.2 ⟨by simp, by decide⟩⟩

/-- Five days for each one, so that the first slice starts with the sixth of January; and `5days` is
no unit. -/
theorem fiveDays_accepted :
    ofRange "+2020:01:01" "+2020:02:05" 1 "5days" julyEvening = .ok (newYear "5days") ∧
      (newYear "5days").boundary 0 =
        .ok ⟨⟨63713865600000000, by decide⟩, false, some (.region .utc)⟩ ∧
      ¬∃ u, NamesUnit "5days" u := by
  have first : (newYear "5days").boundary 0 =
      .ok ⟨⟨63713865600000000, by decide⟩, false, some (.region .utc)⟩ := by decide +kernel
  refine ⟨ofRange_newYear first, first, ?_⟩
  rintro ⟨u, named⟩
  exact absurd (named.not_isDigit '5' rfl) (by decide)

end CivilRange.Slicing
