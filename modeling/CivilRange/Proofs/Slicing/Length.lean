import CivilRange.Proofs.Slicing.Stop

set_option autoImplicit false

namespace CivilRange

theorem Moment.OnClock.instant_range {z : Zone} {m : Moment} (h : m.OnClock z) :
    0 ≤ m.instant ∧ m.instant < readingCount := by
  obtain ⟨utc, -, instant, -⟩ := h.exists_utc
  have lt := utc.micros_lt
  omega

namespace Slicing

variable {s : Slicing} {z : Zone} {n k : Nat} {slices : List Slice} {ending : Ending} {last : Run}
  {a : Moment}

theorem Opened.mul_period_lt (opened : s.Opened) (zone : s.now.zone = some z)
    (h : s.edge k = .ok a) : k * s.period < secondCount := by
  obtain ⟨first, start⟩ := opened.first
  have later := opened.instant_add_le zone (Nat.zero_le _) start h
  have range := (opened.onClock zone start).instant_range
  have range' := (opened.onClock_edge zone h).instant_range
  simp only [readingCount, microsPerDay, secondCount, microsOfSeconds, microsPerSecond,
    secondsPerDay] at *
  omega

theorem length_le_sliceBound (opened : s.Opened) (zone : s.now.zone = some z)
    (taken : (Run.start s).take n = (slices, ending, last)) : slices.length ≤ s.sliceBound := by
  obtain ⟨a, edge⟩ := opened.exists_edge (reaches_of_take opened zone taken)
  have lt := opened.mul_period_lt zone edge
  exact (Nat.le_div_iff_mul_le s.period_pos).2 (Nat.le_of_lt lt)

theorem slices_eq (taken : (Run.start s).take (s.sliceBound + 1) = (slices, ending, last)) :
    s.slices = (slices, ending) := by
  unfold Slicing.slices
  rw [taken]

theorem ended_of_sliceBound_lt (opened : s.Opened) (zone : s.now.zone = some z)
    (taken : (Run.start s).take n = (slices, ending, last)) (lt : s.sliceBound < n) :
    ending = .done ∨ ∃ fault, ending = .failed fault := by
  cases ending with
  | limit =>
    have length := (Run.length_of_take taken).2.1 rfl
    have bound := length_le_sliceBound opened zone taken
    omega
  | done => exact .inl rfl
  | failed fault => exact .inr ⟨fault, rfl⟩

/-- A run gives one slice at most for each period of seconds in the calendar, and then it has
ended. -/
theorem slicing_ends {start stop unit : String} {period : Int} {now : Moment}
    (zone : now.zone = some z) (h : ofRange start stop period unit now = .ok s) :
    (∀ n slices ending last, (Run.start s).take n = (slices, ending, last) →
        (slices.length : Int) ≤ 315537897600 / period ∧
          (315537897600 / period < n → ending = .done ∨ ∃ fault, ending = .failed fault)) ∧
      (s.slices.2 = .done ∨ ∃ fault, s.slices.2 = .failed fault) := by
  obtain ⟨opened, rfl⟩ := opened_of_ofRange h
  obtain ⟨⟨-, -, rfl, -⟩, -⟩ := ofRange_eq_ok_iff.1 h
  have bound : (315537897600 : Int) / s.period = s.sliceBound := rfl
  refine ⟨?_, ?_⟩
  · intro n slices ending last taken
    rw [bound]
    exact ⟨Int.ofNat_le.2 (length_le_sliceBound opened zone taken),
      fun lt => ended_of_sliceBound_lt opened zone taken (Int.ofNat_lt.1 lt)⟩
  · rcases taken : (Run.start s).take (s.sliceBound + 1) with ⟨slices, ending, last⟩
    rw [slices_eq taken]
    exact ended_of_sliceBound_lt opened zone taken (Nat.lt_succ_self _)

/-- The first midnight of the calendar, in UTC. -/
def firstMidnight : Moment := ⟨⟨0, by decide⟩, false, some (.region .utc)⟩

def longSeconds : Slicing :=
  ⟨"+0001", "seconds", 200000000000, by decide, firstMidnight,
    ⟨⟨315506361600000000, by decide⟩, false, some (.region .utc)⟩⟩

theorem longSeconds_end :
    ofRange "+0001" "+9999" 200000000000 "seconds" firstMidnight = .ok longSeconds ∧
      ∃ slices ending last, (Run.start longSeconds).take 2 = (slices, ending, last) ∧
        slices.length = 1 ∧ (ending = .done ∨ ∃ fault, ending = .failed fault) := by
  have origin : Bound.read "+0001" firstMidnight = .ok ⟨firstMidnight, true⟩ := by decide +kernel
  have limit : Bound.read "+9999" firstMidnight = .ok ⟨longSeconds.limit, true⟩ := by
    decide +kernel
  have first : longSeconds.boundary 0 = .ok firstMidnight := by decide +kernel
  have range : ofRange "+0001" "+9999" 200000000000 "seconds" firstMidnight = .ok longSeconds :=
    ofRange_eq_ok_iff.2 ⟨⟨rfl, rfl, rfl, rfl⟩, ⟨_, origin⟩, ⟨_, limit, rfl⟩, _, first⟩
  have one : ((Run.start longSeconds).take 2).1.length = 1 := by decide +kernel
  rcases taken : (Run.start longSeconds).take 2 with ⟨slices, ending, last⟩
  rw [taken] at one
  obtain ⟨-, ended⟩ := (slicing_ends (z := .region .utc) rfl range).1 _ _ _ _ taken
  exact ⟨range, slices, ending, last, rfl, one, ended (by decide)⟩

end Slicing

namespace Run

variable {run last : Run} {m n : Nat} {slices : List Slice} {ending : Ending}

theorem take_of_finished (n : Nat) (h : run.finished = true) :
    (take n run).1 = [] ∧ (take n run).2.2 = run := by
  cases n <;> simp [take, h]

theorem take_add (m n : Nat) (run : Run) :
    (take (m + n) run).1 = (take m run).1 ++ (take n (take m run).2.2).1 ∧
      (take (m + n) run).2.2 = (take n (take m run).2.2).2.2 := by
  induction m generalizing run with
  | zero =>
    rw [Nat.zero_add]
    exact ⟨rfl, rfl⟩
  | succ m ih =>
    rw [Nat.succ_add]
    cases going : run.finished with
    | true =>
      rw [(take_of_finished _ going).1, (take_of_finished _ going).1,
        (take_of_finished _ going).2, (take_of_finished _ going).2]
      obtain ⟨none, same⟩ := take_of_finished n going
      exact ⟨none.symm, same.symm⟩
    | false =>
      have ended : (take n { run with finished := true }).1 = [] ∧
          (take n { run with finished := true }).2.2 = { run with finished := true } :=
        take_of_finished n rfl
      cases turn : run.next with
      | error fault =>
        rw [take_succ_of_fault _ going turn, take_succ_of_fault _ going turn]
        exact ⟨ended.1.symm, ended.2.symm⟩
      | ok found =>
        cases found with
        | none =>
          rw [take_succ_of_last _ going turn, take_succ_of_last _ going turn]
          exact ⟨ended.1.symm, ended.2.symm⟩
        | some slice =>
          obtain ⟨slices, last⟩ := ih run.advance
          rw [take_succ_of_next going turn, take_succ_of_next going turn]
          exact ⟨congrArg (slice :: ·) slices, last⟩

theorem take_of_ended (h : take n run = (slices, ending, last)) (ended : ending ≠ .limit)
    (le : n ≤ m) : take m run = (slices, ending, last) := by
  induction n generalizing run m slices with
  | zero =>
    cases h
    exact absurd rfl ended
  | succ n ih =>
    obtain ⟨m, rfl⟩ := Nat.exists_eq_add_of_le' (Nat.zero_lt_of_lt le)
    cases going : run.finished with
    | true =>
      rw [← h]
      simp only [take, going, ↓reduceIte]
    | false =>
      cases turn : run.next with
      | error fault =>
        rw [take_succ_of_fault _ going turn] at h ⊢
        exact h
      | ok found =>
        cases found with
        | none =>
          rw [take_succ_of_last _ going turn] at h ⊢
          exact h
        | some slice =>
          rcases rest : take n run.advance with ⟨slices, ending', last'⟩
          rw [take_succ_of_next going turn, rest] at h
          cases h
          rw [take_succ_of_next going turn, ih rest (Nat.le_of_succ_le_succ le)]

end Run

namespace Slicing

variable {s : Slicing} {z : Zone} {n : Nat} {slices : List Slice} {ending : Ending} {last : Run}

theorem slices_of_take (opened : s.Opened) (zone : s.now.zone = some z)
    (taken : (Run.start s).take n = (slices, ending, last)) (ended : ending ≠ .limit) :
    s.slices = (slices, ending) := by
  rcases all : (Run.start s).take (s.sliceBound + 1) with ⟨slices', ending', last'⟩
  have same : (slices', ending', last') = (slices, ending, last) := by
    obtain le | lt := Nat.le_total n (s.sliceBound + 1)
    · exact all.symm.trans (Run.take_of_ended taken ended le)
    · have ended' : ending' ≠ .limit := by
        rintro rfl
        obtain done | ⟨fault, failed⟩ :=
          ended_of_sliceBound_lt opened zone all (Nat.lt_succ_self _)
        · cases done
        · cases failed
      exact (Run.take_of_ended all ended' lt).symm.trans taken
  cases same
  exact slices_eq all

def morningHours : Slicing :=
  ⟨"+2009:10:01:09", "hour", 1, Nat.one_pos, firstMidnight,
    ⟨⟨63389991600000000, by decide +kernel⟩, false, some (.region .utc)⟩⟩

theorem ofRange_morningHours :
    ofRange "+2009:10:01:09" "-2009:10:01:11" 1 "hour" firstMidnight = .ok morningHours := by
  have origin : Bound.read "+2009:10:01:09" firstMidnight =
      .ok ⟨⟨⟨63389984400000000, by decide⟩, false, some (.region .utc)⟩, true⟩ := by
    decide +kernel
  have limit : Bound.read "-2009:10:01:11" firstMidnight = .ok ⟨morningHours.limit, false⟩ := by
    decide +kernel
  have first : morningHours.boundary 0 =
      .ok ⟨⟨63389984400000000, by decide⟩, false, some (.region .utc)⟩ := by decide +kernel
  exact ofRange_eq_ok_iff.2 ⟨⟨rfl, rfl, rfl, rfl⟩, ⟨_, origin⟩, ⟨_, limit, rfl⟩, _, first⟩

end Slicing
end CivilRange
