import CivilRange.Proofs.Slicing.Stop

set_option autoImplicit false

/-!
# When a slice is reversed

Each edge of a range lies at a later instant than the one before it, yet the ends of a slice are
put in order by what the clock shows. So a run fails on a reversed slice exactly if the clock goes
back by more than the time from one edge to the next, before the range is over on the clock.
-/
namespace CivilRange

theorem Zone.reading_lt_iff {z : Zone} {u v : Reading} {a b : Moment}
    (ha : z.momentAt u = .ok a) (hb : z.momentAt v = .ok b) :
    b.reading.micros < a.reading.micros ↔
      (v.micros - u.micros : Int) < microsOfSeconds ((z.phase u).offset - (z.phase v).offset) := by
  obtain ⟨r, first, rfl⟩ := momentAt_eq_ok_iff.1 ha
  obtain ⟨r', second, rfl⟩ := momentAt_eq_ok_iff.1 hb
  simp only [microsOfSeconds, microsPerSecond] at *
  omega

namespace Slicing

variable {s : Slicing} {z : Zone} {k : Nat} {a b : Moment}

theorem sliceAt_of_reaches (opened : s.Opened) (zone : s.now.zone = some z)
    (reaches : s.Reaches (k + 1)) :
    (∃ slice, s.sliceAt k = .ok (some slice)) ∨
      ∃ a b, s.sliceAt k = .error (.reversed a b) := by
  obtain ⟨a, start⟩ := opened.exists_edge (reaches.mono (Nat.le_succ k))
  obtain ⟨b, stop, within⟩ := reaches k (Nat.lt_succ_self k)
  obtain back | forth := Nat.lt_or_ge b.reading.micros a.reading.micros
  · exact .inr ⟨a, b, (opened.sliceAt_eq_reversed_iff zone).2 ⟨⟨start, stop⟩, within, back⟩⟩
  · exact .inl (opened.exists_slice zone start stop forth within)

theorem slices_or_reversed (opened : s.Opened) (zone : s.now.zone = some z)
    (reaches : s.Reaches k) :
    (∀ j < k, ∃ slice, s.sliceAt j = .ok (some slice)) ∨
      ∃ n slices a b last, (Run.start s).take n = (slices, .failed (.reversed a b), last) := by
  induction k with
  | zero => exact .inl fun j lt => absurd lt (Nat.not_lt_zero j)
  | succ k ih =>
    obtain slices | failed := ih (reaches.mono (Nat.le_succ k))
    · obtain slice | ⟨a, b, back⟩ := sliceAt_of_reaches opened zone reaches
      · refine .inl fun j lt => ?_
        obtain lt | rfl := Nat.lt_or_eq_of_le (Nat.le_of_lt_succ lt)
        · exact slices j lt
        · exact slice
      · obtain ⟨n, given, last, taken⟩ := Run.exists_take_start_failed slices back
        exact .inr ⟨n, given, a, b, last, taken⟩
    · exact .inr failed

theorem reversed_of_take {n : Nat} {slices : List Slice} {last : Run} (opened : s.Opened)
    (zone : s.now.zone = some z)
    (taken : (Run.start s).take n = (slices, .failed (.reversed a b), last)) :
    ∃ k, (s.edge k = .ok a ∧ s.edge (k + 1) = .ok b) ∧ s.Reaches (k + 1) ∧
      b.reading.micros < a.reading.micros := by
  have back := (Run.take_start_spec taken).2.2 _ rfl
  rw [opened.sliceAt_eq_reversed_iff zone] at back
  obtain ⟨⟨start, stop⟩, within, back⟩ := back
  have before := reaches_of_take opened zone taken
  refine ⟨slices.length, ⟨start, stop⟩, ?_, back⟩
  intro j lt
  obtain lt | rfl := Nat.lt_or_eq_of_le (Nat.le_of_lt_succ lt)
  · exact before j lt
  · exact ⟨b, stop, within⟩

/-- Edges advance in real time, and a run never fails on a reversed slice exactly if the clock never
goes back by more than the time from one edge that the range reaches to the next. -/
theorem never_reversed_iff {start stop unit : String} {period : Int} {now : Moment}
    (zone : now.zone = some z) (h : ofRange start stop period unit now = .ok s) :
    (∀ k a b, s.edge k = .ok a → s.edge (k + 1) = .ok b → a.instant < b.instant) ∧
      ((∀ n slices a b last, (Run.start s).take n ≠ (slices, .failed (.reversed a b), last)) ↔
        ∀ k u v a b, z.momentAt u = .ok a → z.momentAt v = .ok b → s.edge k = .ok a →
          s.edge (k + 1) = .ok b → s.Reaches (k + 1) →
            microsOfSeconds ((z.phase u).offset - (z.phase v).offset) ≤ v.micros - u.micros) := by
  obtain ⟨opened, rfl⟩ := opened_of_ofRange h
  refine ⟨fun k a b => opened.instant_lt_edge zone (Nat.lt_succ_self k), ?_, ?_⟩
  · intro never k u v a b at_u at_v start stop reaches
    have all : ∀ j < k + 1, ∃ slice, s.sliceAt j = .ok (some slice) := by
      obtain slices | ⟨n, slices, a, b, last, taken⟩ := slices_or_reversed opened zone reaches
      · exact slices
      · exact absurd taken (never n slices a b last)
    obtain ⟨slice, at_k⟩ := all k (Nat.lt_succ_self k)
    obtain ⟨start', stop', -⟩ := sliceAt_eq_some_iff.1 at_k
    have ordered := slice.ordered
    obtain rfl := Except.ok.inj (start'.symm.trans start)
    obtain rfl := Except.ok.inj (stop'.symm.trans stop)
    rw [opened.isAfter_edge zone start stop] at ordered
    have forth : ¬slice.stop.reading.micros < slice.start.reading.micros := by simpa using ordered
    rw [Zone.reading_lt_iff at_u at_v] at forth
    exact Int.not_lt.1 forth
  · intro small n slices a b last taken
    obtain ⟨k, ⟨start, stop⟩, reaches, back⟩ := reversed_of_take opened zone taken
    obtain ⟨-, u, -, -, at_u⟩ := opened.onClock_edge zone start
    obtain ⟨-, v, -, -, at_v⟩ := opened.onClock_edge zone stop
    rw [Zone.reading_lt_iff at_u at_v] at back
    exact Int.not_lt.2 (small k u v a b at_u at_v start stop reaches) back

theorem octoberHours_never_reversed :
    ofRange "+2021:10:31:00:30" "+2021:10:31:04" 1 "hour" julyMidnight =
        .ok (octoberHours octoberMorning) ∧
      ∀ n slices a b last, (Run.start (octoberHours octoberMorning)).take n ≠
        (slices, .failed (.reversed a b), last) := by
  have range := ofRange_octoberMorning
  have opened := (opened_of_ofRange range).1
  obtain ⟨slices, last, taken, length⟩ := exists_take_octoberMorning
  have forth : ∀ k < 4, ((octoberHours octoberMorning).edge k).bind (fun a =>
      ((octoberHours octoberMorning).edge (k + 1)).map fun b =>
        decide (a.reading.micros ≤ b.reading.micros)) = .ok true := by decide +kernel
  refine ⟨range, (never_reversed_iff (z := .region .paris) rfl range).2.2 ?_⟩
  intro k u v a b at_u at_v start stop reaches
  have le := (reaches_iff_le_length opened (z := .region .paris) rfl taken).1 reaches
  have ordered := forth k (by omega)
  rw [start, Except.bind, stop] at ordered
  have ordered : a.reading.micros ≤ b.reading.micros := of_decide_eq_true (Except.ok.inj ordered)
  rw [← Int.not_lt, ← Zone.reading_lt_iff at_u at_v]
  omega

/-- Half hours from half past two of the night in which Paris turns its clocks back. -/
def octoberHalfHours : Slicing :=
  halfHours "+2021:10:31:02:30" ⟨⟨63771246000000000, by decide⟩, false, some (.region .paris)⟩

/-- The first of them stops at the second two o'clock, and so the run fails. -/
theorem octoberHalfHours_reversed :
    ofRange "+2021:10:31:02:30" "+2021:10:31:03" 30 "minute" julyMidnight = .ok octoberHalfHours ∧
      ∃ b last, (Run.start octoberHalfHours).take 1 =
        ([], .failed (.reversed (Moment.autumnNight false) b), last) := by
  have origin : Bound.read "+2021:10:31:02:30" julyMidnight =
      .ok ⟨Moment.autumnNight false, true⟩ := by decide +kernel
  have limit : Bound.read "+2021:10:31:03" julyMidnight = .ok ⟨octoberHalfHours.limit, true⟩ := by
    decide +kernel
  have first : octoberHalfHours.boundary 0 = .ok (Moment.autumnNight false) := by decide +kernel
  have start : octoberHalfHours.edge 0 = .ok (Moment.autumnNight false) := first
  have stop : octoberHalfHours.edge 1 =
      .ok ⟨⟨63771242400000000, by decide⟩, true, some (.region .paris)⟩ := by decide +kernel
  have range : ofRange "+2021:10:31:02:30" "+2021:10:31:03" 30 "minute" julyMidnight =
      .ok octoberHalfHours :=
    ofRange_eq_ok_iff.2 ⟨⟨rfl, rfl, rfl, rfl⟩, ⟨_, origin⟩, ⟨_, limit, rfl⟩, _, first⟩
  have back := ((opened_of_ofRange range).1.sliceAt_eq_reversed_iff (z := .region .paris) (k := 0)
    rfl).2 ⟨⟨start, stop⟩, by decide, by decide⟩
  have failed := Run.take_succ_of_error 0 back
  rw [← Run.start_eq] at failed
  exact ⟨range, _, _, failed⟩

end Slicing
end CivilRange
