import CivilRange.Proofs.Slicing.Stop

set_option autoImplicit false

namespace CivilRange.Slicing

variable {s : Slicing} {z : Zone} {n k : Nat} {slices : List Slice} {ending : Ending} {last : Run}

def Overshoots (s : Slicing) (k : Nat) : Prop :=
  ∃ stop, s.boundary ((k + 1) * s.period) = .ok stop ∧ stop.isAfter s.limit = .ok true

def FirstOvershoot (s : Slicing) (k : Nat) : Prop := s.Overshoots k ∧ ∀ j < k, ¬s.Overshoots j

theorem not_overshoots_of_sliceAt {slice : Slice}
    (h : s.sliceAt k = .ok (some slice)) : ¬s.Overshoots k := by
  obtain ⟨-, stop, within⟩ := sliceAt_eq_some_iff.1 h
  rintro ⟨stop', there, after⟩
  obtain rfl := Except.ok.inj (stop.symm.trans there)
  cases within.symm.trans after

theorem sliceAt_eq_none_iff_overshoots {a : Moment} (start : s.edge k = .ok a) :
    s.sliceAt k = .ok none ↔ s.Overshoots k := by
  rw [sliceAt_eq_none_iff]
  constructor
  · rintro ⟨-, stop, -, there, after⟩
    exact ⟨stop, there, after⟩
  · rintro ⟨stop, there, after⟩
    exact ⟨a, stop, start, there, after⟩

theorem contiguous_of_take {a b : Slice} (taken : (Run.start s).take n = (slices, ending, last))
    (ha : slices[k]? = some a) (hb : slices[k + 1]? = some b) : a.stop = b.start := by
  have given := (Run.take_start_spec taken).1
  obtain ⟨-, stop, -⟩ := sliceAt_eq_some_iff.1 (given k a ha)
  obtain ⟨start, -, -⟩ := sliceAt_eq_some_iff.1 (given (k + 1) b hb)
  exact Except.ok.inj (stop.symm.trans start)

theorem done_iff_firstOvershoot (opened : s.Opened) (zone : s.now.zone = some z)
    (taken : (Run.start s).take n = (slices, ending, last)) :
    ending = .done ↔ slices.length < n ∧ s.FirstOvershoot slices.length := by
  obtain ⟨-, done, -⟩ := Run.take_start_spec taken
  obtain ⟨le, limit⟩ := Run.length_of_take taken
  obtain ⟨a, start⟩ := opened.exists_edge (reaches_of_take opened zone taken)
  constructor
  · rintro rfl
    have short : slices.length ≠ n := fun full => nomatch limit.2 full
    refine ⟨by omega, (sliceAt_eq_none_iff_overshoots start).1 (done rfl), fun j lt => ?_⟩
    obtain ⟨slice, -, at_j⟩ := exists_slice_of_take taken j lt
    exact not_overshoots_of_sliceAt at_j
  · rintro ⟨lt, beyond, -⟩
    have ended : ending ≠ .limit := fun stopped => by
      have full := limit.1 stopped
      omega
    rw [(Run.ending_of_take_start taken ended).1]
    exact (sliceAt_eq_none_iff_overshoots start).2 beyond

/-- The slices that a run gives are those between the boundaries at whole periods, none stops after
the range or takes no time, and the run is done exactly at the first one that stops after it. -/
theorem slices_tile {start stop unit : String} {period : Int} {now : Moment}
    (zone : now.zone = some z) (h : ofRange start stop period unit now = .ok s) :
    ((∀ k m, s.boundary k = .ok m ↔
          ∃ b, Bound.read (start ++ "+" ++ Nat.repr k ++ unit) now = .ok b ∧ b.moment = m) ∧
        (∃ b, Bound.read stop now = .ok b ∧ b.moment = s.limit) ∧ (s.period : Int) = period) ∧
      ∀ n slices ending last, (Run.start s).take n = (slices, ending, last) →
        (∀ k slice, slices[k]? = some slice →
          (s.boundary (k * s.period) = .ok slice.start ∧
              s.boundary ((k + 1) * s.period) = .ok slice.stop) ∧
            slice.stop.isAfter s.limit = .ok false ∧
            slice.start.instant < slice.stop.instant) ∧
          (∀ k a b, slices[k]? = some a → slices[k + 1]? = some b → a.stop = b.start) ∧
          (ending = .limit ↔ slices.length = n) ∧
          (ending = .done ↔ slices.length < n ∧ s.FirstOvershoot slices.length) := by
  obtain ⟨opened, -⟩ := opened_of_ofRange h
  obtain ⟨⟨rfl, rfl, period, rfl⟩, -, limit, -⟩ := ofRange_eq_ok_iff.1 h
  refine ⟨⟨fun k m => opened.boundary_eq_ok_iff.trans written_eq_ok_iff, limit, period⟩, ?_⟩
  intro n slices ending last taken
  refine ⟨?_, fun k a b => contiguous_of_take taken, (Run.length_of_take taken).2,
    done_iff_firstOvershoot opened zone taken⟩
  intro k slice mem
  obtain ⟨first, second, within⟩ := sliceAt_eq_some_iff.1 ((Run.take_start_spec taken).1 k slice mem)
  exact ⟨⟨first, second⟩, within,
    opened.instant_lt_edge zone (Nat.lt_succ_self k) first second⟩

/-- Noon of the last day of February 1986 in Kathmandu. -/
def februaryNoon : Moment := ⟨⟨62645572800000000, by decide⟩, false, some (.region .kathmandu)⟩

def monthEnds : Slicing := ⟨"+1985:10:31", "month", 1, Nat.one_pos, februaryNoon, februaryNoon⟩

theorem monthEnds_tile :
    ofRange "+1985:10:31" "+NOW" 1 "month" februaryNoon = .ok monthEnds ∧
      ∃ slices last, (Run.start monthEnds).take 5 = (slices, .done, last) ∧ slices.length = 4 ∧
        ∀ k a b, slices[k]? = some a → slices[k + 1]? = some b → a.stop = b.start := by
  have origin : Bound.read "+1985:10:31" februaryNoon =
      .ok ⟨⟨⟨62635161600000000, by decide⟩, false, some (.region .kathmandu)⟩, true⟩ := by
    decide +kernel
  have first : monthEnds.boundary 0 =
      .ok ⟨⟨62635161600000000, by decide⟩, false, some (.region .kathmandu)⟩ := by decide +kernel
  have range : ofRange "+1985:10:31" "+NOW" 1 "month" februaryNoon = .ok monthEnds :=
    ofRange_eq_ok_iff.2
      ⟨⟨rfl, rfl, rfl, rfl⟩, ⟨_, origin⟩, ⟨_, Bound.read_present _, rfl⟩, _, first⟩
  obtain ⟨slices, last, taken, length⟩ :=
    exists_done (s := monthEnds) (n := 5) (m := 4) (by decide +kernel)
  exact ⟨range, slices, last, taken, length,
    ((slices_tile (z := .region .kathmandu) rfl range).2 _ _ _ _ taken).2.1⟩

end CivilRange.Slicing
