import CivilRange.Proofs.Slicing.Boundary

set_option autoImplicit false

namespace CivilRange

theorem Moment.isAfter_of_zone {z : Zone} {a b : Moment} (za : a.zone = some z)
    (zb : b.zone = some z) : a.isAfter b = .ok (b.reading.micros < a.reading.micros) := by
  unfold isAfter
  rw [za, zb]
  dsimp only
  rw [if_pos rfl]

namespace Slice

variable {a b : Moment} {slice : Slice}

theorem make_eq_ok_iff : make a b = .ok slice ↔ slice.start = a ∧ slice.stop = b := by
  unfold make
  constructor
  · intro h
    split at h
    · obtain rfl := Except.ok.inj h
      exact ⟨rfl, rfl⟩
    · cases h
    · cases h
  · rintro ⟨rfl, rfl⟩
    have ordered := slice.ordered
    split <;> simp_all

theorem make_eq_error_iff {fault : Fault} : make a b = .error fault ↔
    a.isAfter b = .error fault ∨ a.isAfter b = .ok true ∧ .reversed a b = fault := by
  unfold make
  split <;> simp_all

end Slice

namespace Slicing

variable {s : Slicing} {z : Zone} {k : Nat} {slice : Slice} {a b : Moment}

/-- The `k`-th boundary at whole periods: where slice `k` starts and the one before it stops. -/
def edge (s : Slicing) (k : Nat) : Except Fault Moment := s.boundary (k * s.period)

/-- The first `k` slices stop no later than the range, going by what the clock shows. -/
def Reaches (s : Slicing) (k : Nat) : Prop :=
  ∀ j < k, ∃ stop, s.edge (j + 1) = .ok stop ∧ stop.reading.micros ≤ s.limit.reading.micros

/-- What an attempt at slice `k` comes to: the slice from edge `k` to the next, or `none` if it stops
after the range. -/
def sliceAt (s : Slicing) (k : Nat) : Except Fault (Option Slice) := do
  let start ← s.edge k
  let stop ← s.edge (k + 1)
  if ← stop.isAfter s.limit then return none else some <$> Slice.make start stop

theorem sliceAt_eq_some_iff : s.sliceAt k = .ok (some slice) ↔
    s.edge k = .ok slice.start ∧ s.edge (k + 1) = .ok slice.stop ∧
      slice.stop.isAfter s.limit = .ok false := by
  simp only [sliceAt, bind_eq_ok_iff]
  constructor
  · rintro ⟨start, first, stop, second, after, within, h⟩
    cases after with
    | true => cases h
    | false =>
      obtain ⟨slice', made, same⟩ := map_eq_ok_iff.1 h
      obtain rfl := Option.some.inj same
      obtain ⟨rfl, rfl⟩ := Slice.make_eq_ok_iff.1 made
      exact ⟨first, second, within⟩
  · rintro ⟨first, second, within⟩
    exact ⟨_, first, _, second, false, within,
      map_eq_ok_iff.2 ⟨slice, Slice.make_eq_ok_iff.2 ⟨rfl, rfl⟩, rfl⟩⟩

theorem sliceAt_eq_none_iff : s.sliceAt k = .ok none ↔
    ∃ a b, s.edge k = .ok a ∧ s.edge (k + 1) = .ok b ∧ b.isAfter s.limit = .ok true := by
  simp only [sliceAt, bind_eq_ok_iff]
  constructor
  · rintro ⟨start, first, stop, second, after, beyond, h⟩
    cases after with
    | true => exact ⟨start, stop, first, second, beyond⟩
    | false =>
      obtain ⟨slice, -, same⟩ := map_eq_ok_iff.1 h
      cases same
  · rintro ⟨a, b, first, second, beyond⟩
    exact ⟨a, first, b, second, true, beyond, rfl⟩

theorem sliceAt_eq_error {fault : Fault} (start : s.edge k = .ok a)
    (stop : s.edge (k + 1) = .error fault) : s.sliceAt k = .error fault := by
  rw [sliceAt, start, stop]
  rfl

theorem Opened.onClock_edge (opened : s.Opened) (zone : s.now.zone = some z)
    (h : s.edge k = .ok a) : a.OnClock z := opened.onClock zone h

theorem Opened.instant_lt_edge {j : Nat} (opened : s.Opened) (zone : s.now.zone = some z)
    (lt : k < j) (ha : s.edge k = .ok a) (hb : s.edge j = .ok b) : a.instant < b.instant :=
  opened.instant_lt zone (Nat.mul_lt_mul_of_pos_right lt s.period_pos) ha hb

theorem Opened.edge_zero (opened : s.Opened) : ∃ m, s.edge 0 = .ok m := by
  unfold edge
  rw [Nat.zero_mul]
  exact opened.first

theorem Reaches.mono {j : Nat} (reaches : s.Reaches k) (le : j ≤ k) : s.Reaches j :=
  fun i lt => reaches i (Nat.lt_of_lt_of_le lt le)

theorem Opened.exists_edge (opened : s.Opened) (reaches : s.Reaches k) : ∃ a, s.edge k = .ok a := by
  cases k with
  | zero => exact opened.edge_zero
  | succ k =>
    obtain ⟨a, edge, -⟩ := reaches k (Nat.lt_succ_self k)
    exact ⟨a, edge⟩

theorem Opened.isAfter_limit (opened : s.Opened) (zone : s.now.zone = some z)
    (h : s.edge k = .ok b) :
    b.isAfter s.limit = .ok (s.limit.reading.micros < b.reading.micros) :=
  Moment.isAfter_of_zone (opened.onClock_edge zone h).zone_eq (opened.zone_limit zone)

theorem Opened.isAfter_edge {j : Nat} (opened : s.Opened) (zone : s.now.zone = some z)
    (ha : s.edge k = .ok a) (hb : s.edge j = .ok b) :
    a.isAfter b = .ok (b.reading.micros < a.reading.micros) :=
  Moment.isAfter_of_zone (opened.onClock_edge zone ha).zone_eq (opened.onClock_edge zone hb).zone_eq

theorem Opened.exists_slice (opened : s.Opened) (zone : s.now.zone = some z)
    (start : s.edge k = .ok a) (stop : s.edge (k + 1) = .ok b)
    (forth : a.reading.micros ≤ b.reading.micros)
    (within : b.reading.micros ≤ s.limit.reading.micros) :
    ∃ slice, s.sliceAt k = .ok (some slice) := by
  have ordered : a.isAfter b = .ok false := by
    rw [opened.isAfter_edge zone start stop]
    simpa using forth
  have before : b.isAfter s.limit = .ok false := by
    rw [opened.isAfter_limit zone stop]
    simpa using within
  exact ⟨⟨a, b, ordered⟩, sliceAt_eq_some_iff.2 ⟨start, stop, before⟩⟩

theorem edge_ne_reversed (zone : s.now.zone = some z) (j : Nat) :
    s.edge j ≠ .error (.reversed a b) := by
  intro h
  obtain ⟨⟨⟩⟩ | written := boundary_fault h
  cases Bound.read_fault zone (map_eq_error_iff.1 written)

theorem Opened.sliceAt_eq_reversed_iff (opened : s.Opened) (zone : s.now.zone = some z) :
    s.sliceAt k = .error (.reversed a b) ↔
      (s.edge k = .ok a ∧ s.edge (k + 1) = .ok b) ∧
        b.reading.micros ≤ s.limit.reading.micros ∧ b.reading.micros < a.reading.micros := by
  simp only [sliceAt, bind_eq_error_iff, edge_ne_reversed zone, false_or]
  constructor
  · rintro ⟨start, first, stop, second, rest⟩
    rw [opened.isAfter_limit zone second] at rest
    rcases rest with never | ⟨after, within, rest⟩
    · cases never
    obtain rfl := Except.ok.inj within
    split at rest
    · cases rest
    · rename_i within
      rw [map_eq_error_iff, Slice.make_eq_error_iff, opened.isAfter_edge zone first second] at rest
      obtain ⟨⟨⟩⟩ | ⟨back, same⟩ := rest
      cases same
      exact ⟨⟨first, second⟩, by simpa using within, by simpa using back⟩
  · rintro ⟨⟨first, second⟩, within, back⟩
    refine ⟨a, first, b, second, .inr ⟨false, ?_, ?_⟩⟩
    · rw [opened.isAfter_limit zone second]
      simpa using within
    · refine map_eq_error_iff.2 (Slice.make_eq_error_iff.2 (.inr ⟨?_, rfl⟩))
      rw [opened.isAfter_edge zone first second]
      simpa using back

end Slicing

namespace Run

variable {s : Slicing} {i n : Nat} {slice : Slice} {fault : Fault}

def after (s : Slicing) (k : Nat) : Run := ⟨s, k * s.period, s.edge k, false⟩

theorem start_eq (s : Slicing) : start s = after s 0 := by
  simp only [start, after, Slicing.edge, Nat.zero_mul]

/-- Each turn of a run finds the slice whose number it has come to, and counts it. -/
theorem next_after (s : Slicing) (k : Nat) :
    (after s k).next = s.sliceAt k ∧ (after s k).advance = after s (k + 1) := by
  have offset : k * s.period + s.period = (k + 1) * s.period := (Nat.succ_mul k s.period).symm
  simp only [next, advance, after, Slicing.sliceAt, Slicing.edge, offset, and_self]

section

variable {run : Run}

theorem take_succ_of_next (going : run.finished = false) (h : run.next = .ok (some slice)) :
    take (n + 1) run = (slice :: (take n run.advance).1, (take n run.advance).2) := by
  simp [take, going, h]

theorem take_succ_of_last (n : Nat) (going : run.finished = false) (h : run.next = .ok none) :
    take (n + 1) run = ([], .done, { run with finished := true }) := by
  simp [take, going, h]

theorem take_succ_of_fault (n : Nat) (going : run.finished = false)
    (h : run.next = .error fault) :
    take (n + 1) run = ([], .failed fault, { run with finished := true }) := by
  simp [take, going, h]

end

theorem take_succ_of_some {slices : List Slice} {ending : Ending} {last : Run}
    (h : s.sliceAt i = .ok (some slice)) (rest : take n (after s (i + 1)) = (slices, ending, last)) :
    take (n + 1) (after s i) = (slice :: slices, ending, last) := by
  obtain ⟨turn, counted⟩ := next_after s i
  rw [take_succ_of_next rfl (turn.trans h), counted, rest]

theorem take_succ_of_none (n : Nat) (h : s.sliceAt i = .ok none) :
    take (n + 1) (after s i) = ([], .done, { after s i with finished := true }) :=
  take_succ_of_last n rfl ((next_after s i).1.trans h)

theorem take_succ_of_error (n : Nat) (h : s.sliceAt i = .error fault) :
    take (n + 1) (after s i) = ([], .failed fault, { after s i with finished := true }) :=
  take_succ_of_fault n rfl ((next_after s i).1.trans h)

theorem take_spec {slices : List Slice} {ending : Ending} {last : Run}
    (h : take n (after s i) = (slices, ending, last)) :
    (∀ k slice, slices[k]? = some slice → s.sliceAt (i + k) = .ok (some slice)) ∧
      (ending = .done → s.sliceAt (i + slices.length) = .ok none) ∧
      ∀ fault, ending = .failed fault →
        s.sliceAt (i + slices.length) = .error fault := by
  induction n generalizing i slices with
  | zero =>
    cases h
    simp
  | succ n ih =>
    cases at_i : s.sliceAt i with
    | error fault =>
      rw [take_succ_of_error n at_i] at h
      cases h
      simp [at_i]
    | ok found =>
      cases found with
      | none =>
        rw [take_succ_of_none n at_i] at h
        cases h
        simp [at_i]
      | some slice =>
        rcases rest : take n (after s (i + 1)) with ⟨slices, ending, last⟩
        rw [take_succ_of_some at_i rest] at h
        cases h
        obtain ⟨slices, done, failed⟩ := ih rest
        refine ⟨?_, ?_, ?_⟩
        · intro k slice' mem
          cases k with
          | zero =>
            obtain rfl := Option.some.inj mem
            exact at_i
          | succ k =>
            rw [← Nat.succ_add_eq_add_succ]
            exact slices k slice' mem
        · rw [List.length_cons, ← Nat.succ_add_eq_add_succ]
          exact done
        · rw [List.length_cons, ← Nat.succ_add_eq_add_succ]
          exact failed

theorem take_start_spec {slices : List Slice} {ending : Ending} {last : Run}
    (h : (start s).take n = (slices, ending, last)) :
    (∀ k slice, slices[k]? = some slice → s.sliceAt k = .ok (some slice)) ∧
      (ending = .done → s.sliceAt slices.length = .ok none) ∧
      ∀ fault, ending = .failed fault → s.sliceAt slices.length = .error fault := by
  rw [start_eq] at h
  simpa only [Nat.zero_add] using take_spec h

theorem length_of_take_after {slices : List Slice} {ending : Ending} {last : Run}
    (h : take n (after s i) = (slices, ending, last)) :
    slices.length ≤ n ∧ (ending = .limit ↔ slices.length = n) := by
  induction n generalizing i slices with
  | zero =>
    cases h
    simp
  | succ n ih =>
    cases at_i : s.sliceAt i with
    | error fault =>
      rw [take_succ_of_error n at_i] at h
      cases h
      simp
    | ok found =>
      cases found with
      | none =>
        rw [take_succ_of_none n at_i] at h
        cases h
        simp
      | some slice =>
        rcases rest : take n (after s (i + 1)) with ⟨slices, ending, last⟩
        rw [take_succ_of_some at_i rest] at h
        cases h
        obtain ⟨le, limit⟩ := ih rest
        rw [List.length_cons, limit]
        omega

theorem length_of_take {slices : List Slice} {ending : Ending} {last : Run}
    (h : (start s).take n = (slices, ending, last)) :
    slices.length ≤ n ∧ (ending = .limit ↔ slices.length = n) :=
  length_of_take_after (start_eq s ▸ h)

theorem length_of_take_start {m : Nat} {slices : List Slice} {ending : Ending} {last : Run}
    (given : ∀ k < m, ∃ slice, s.sliceAt k = .ok (some slice))
    (stops : ∀ slice, s.sliceAt m ≠ .ok (some slice)) (lt : m < n)
    (h : (start s).take n = (slices, ending, last)) : slices.length = m ∧ ending ≠ .limit := by
  obtain ⟨taken, done, failed⟩ := take_start_spec h
  obtain ⟨-, limit⟩ := length_of_take h
  obtain less | rfl | more := Nat.lt_trichotomy slices.length m
  · obtain ⟨slice, next⟩ := given _ less
    cases ending with
    | limit => exact absurd (limit.1 rfl) (by omega)
    | done => cases next.symm.trans (done rfl)
    | failed fault => cases next.symm.trans (failed fault rfl)
  · exact ⟨rfl, fun stopped => absurd (limit.1 stopped) (by omega)⟩
  · exact absurd (taken m _ (List.getElem?_eq_getElem more)) (stops _)

theorem ending_of_take_start {slices : List Slice} {ending : Ending} {last : Run}
    (h : (start s).take n = (slices, ending, last)) (ended : ending ≠ .limit) :
    (ending = .done ↔ s.sliceAt slices.length = .ok none) ∧
      ∀ fault, ending = .failed fault ↔ s.sliceAt slices.length = .error fault := by
  obtain ⟨-, done, failed⟩ := take_start_spec h
  cases ending with
  | limit => exact absurd rfl ended
  | done => simp [done rfl]
  | failed fault => simp [failed fault rfl]

theorem exists_take_start_failed {m : Nat}
    (given : ∀ k < m, ∃ slice, s.sliceAt k = .ok (some slice))
    (h : s.sliceAt m = .error fault) :
    ∃ n slices last, (start s).take n = (slices, .failed fault, last) := by
  rcases taken : (start s).take (m + 1) with ⟨slices, ending, last⟩
  obtain ⟨rfl, ended⟩ := length_of_take_start given (by simp [h]) (Nat.lt_succ_self m) taken
  rw [((ending_of_take_start taken ended).2 fault).2 h] at taken
  exact ⟨_, slices, last, taken⟩

end Run
end CivilRange
