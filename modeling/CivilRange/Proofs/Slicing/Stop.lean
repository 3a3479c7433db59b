import CivilRange.Proofs.Moment.Elapsed
import CivilRange.Proofs.Slicing.Clock

set_option autoImplicit false

/-!
# Where a run stops

A run that ends well gives slice `k` exactly if no slice up to it stops after the range on the
clock. Going by instants, a slice is to be given exactly if it stops no later than the range. The
two agree on all slices exactly if the clock and the instants agree on each slice that is come to;
around a change that turns the clock back they need not.
-/
namespace CivilRange

def GivesSlice (slices : List Slice) (k : Nat) (a b : Moment) : Prop :=
  ∃ slice, slices[k]? = some slice ∧ slice.start = a ∧ slice.stop = b

namespace Slicing

variable {s : Slicing} {z : Zone} {n k : Nat} {slices : List Slice} {last : Run} {a b : Moment}

theorem stop_le_limit {slice : Slice} (opened : s.Opened) (zone : s.now.zone = some z)
    (h : s.sliceAt k = .ok (some slice)) :
    slice.stop.reading.micros ≤ s.limit.reading.micros := by
  obtain ⟨-, stop, within⟩ := sliceAt_eq_some_iff.1 h
  rw [opened.isAfter_limit zone stop] at within
  simpa using within

theorem limit_lt_stop (opened : s.Opened) (zone : s.now.zone = some z)
    (h : s.sliceAt k = .ok none) (stop : s.edge (k + 1) = .ok b) :
    s.limit.reading.micros < b.reading.micros := by
  obtain ⟨a, b', -, stop', beyond⟩ := sliceAt_eq_none_iff.1 h
  obtain rfl := Except.ok.inj (stop'.symm.trans stop)
  rw [opened.isAfter_limit zone stop'] at beyond
  simpa using beyond

theorem exists_slice_of_take {ending : Ending}
    (taken : (Run.start s).take n = (slices, ending, last)) :
    ∀ k < slices.length, ∃ slice, slices[k]? = some slice ∧
      s.sliceAt k = .ok (some slice) := by
  intro k lt
  have mem : slices[k]? = some slices[k] := List.getElem?_eq_getElem lt
  exact ⟨_, mem, (Run.take_start_spec taken).1 k _ mem⟩

theorem reaches_of_take {ending : Ending} (opened : s.Opened) (zone : s.now.zone = some z)
    (taken : (Run.start s).take n = (slices, ending, last)) : s.Reaches slices.length := by
  intro k lt
  obtain ⟨slice, -, at_k⟩ := exists_slice_of_take taken k lt
  exact ⟨slice.stop, (sliceAt_eq_some_iff.1 at_k).2.1, stop_le_limit opened zone at_k⟩

theorem sliceAt_length_of_done (done : (Run.start s).take n = (slices, .done, last)) :
    s.sliceAt slices.length = .ok none := (Run.take_start_spec done).2.1 rfl

theorem reaches_iff_le_length (opened : s.Opened) (zone : s.now.zone = some z)
    (done : (Run.start s).take n = (slices, .done, last)) :
    s.Reaches k ↔ k ≤ slices.length := by
  constructor
  · intro reaches
    obtain more | le := Nat.lt_or_ge slices.length k
    · obtain ⟨stop, edge, within⟩ := reaches slices.length more
      have beyond := limit_lt_stop opened zone (sliceAt_length_of_done done) edge
      omega
    · exact le
  · intro le
    exact (reaches_of_take opened zone done).mono le

theorem givesSlice_iff_lt_length (taken : (Run.start s).take n = (slices, .done, last))
    (start : s.edge k = .ok a) (stop : s.edge (k + 1) = .ok b) :
    GivesSlice slices k a b ↔ k < slices.length := by
  constructor
  · rintro ⟨slice, mem, -, -⟩
    exact (List.getElem?_eq_some_iff.1 mem).1
  · intro lt
    obtain ⟨slice, mem, at_k⟩ := exists_slice_of_take taken k lt
    obtain ⟨start', stop', -⟩ := sliceAt_eq_some_iff.1 at_k
    exact ⟨slice, mem, Except.ok.inj (start'.symm.trans start),
      Except.ok.inj (stop'.symm.trans stop)⟩

/-- Of the slices that a run comes to, all but the last one stop in time on the clock. -/
theorem stop_le_limit_iff_lt_length (opened : s.Opened) (zone : s.now.zone = some z)
    (done : (Run.start s).take n = (slices, .done, last)) (le : k ≤ slices.length)
    (stop : s.edge (k + 1) = .ok b) :
    b.reading.micros ≤ s.limit.reading.micros ↔ k < slices.length := by
  obtain lt | rfl := Nat.lt_or_eq_of_le le
  · obtain ⟨slice, -, at_k⟩ := exists_slice_of_take done k lt
    rw [Except.ok.inj (stop.symm.trans (sliceAt_eq_some_iff.1 at_k).2.1)]
    exact iff_of_true (stop_le_limit opened zone at_k) lt
  · have beyond := limit_lt_stop opened zone (sliceAt_length_of_done done) stop
    exact iff_of_false (Nat.not_le.2 beyond) (Nat.lt_irrefl _)

theorem exists_done {m : Nat} (h : ((Run.start s).take n).2.1 = .done ∧
    ((Run.start s).take n).1.length = m) :
    ∃ slices last, (Run.start s).take n = (slices, .done, last) ∧ slices.length = m := by
  rcases taken : (Run.start s).take n with ⟨slices, ending, last⟩
  rw [taken] at h
  obtain ⟨rfl, length⟩ := h
  exact ⟨slices, last, rfl, length⟩

/-- A run gives the slices that the clock does not show to stop after the range; these are the ones
that stop in time exactly if clock and instants say the same of each slice that is come to. -/
theorem gives_slices_by_instant_iff {start stop unit : String} {period : Int} {now : Moment}
    (zone : now.zone = some z) (h : ofRange start stop period unit now = .ok s)
    (done : (Run.start s).take n = (slices, .done, last)) :
    (∀ k a b, s.edge k = .ok a → s.edge (k + 1) = .ok b →
        (GivesSlice slices k a b ↔ s.Reaches (k + 1))) ∧
      ((∀ k a b, s.edge k = .ok a → s.edge (k + 1) = .ok b →
          (GivesSlice slices k a b ↔ b.instant ≤ s.limit.instant)) ↔
        ∀ k b, s.Reaches k → s.edge (k + 1) = .ok b →
          (b.reading.micros ≤ s.limit.reading.micros ↔ b.instant ≤ s.limit.instant)) := by
  obtain ⟨opened, rfl⟩ := opened_of_ofRange h
  have reaches := fun k => reaches_iff_le_length (k := k) opened zone done
  refine ⟨?_, ?_, ?_⟩
  · intro k a b start stop
    rw [givesSlice_iff_lt_length done start stop, reaches]
    exact Iff.rfl
  · intro given k b come stop
    obtain ⟨a, start⟩ := opened.exists_edge come
    rw [← given k a b start stop, givesSlice_iff_lt_length done start stop]
    exact stop_le_limit_iff_lt_length opened zone done ((reaches k).1 come) stop
  · intro agree k a b start stop
    rw [givesSlice_iff_lt_length done start stop]
    obtain beyond | le := Nat.lt_or_ge slices.length k
    · -- the first slice that is left out stops too late, and this one stops later still
      obtain ⟨_, first, -, stop', -⟩ := sliceAt_eq_none_iff.1 (sliceAt_length_of_done done)
      have late := limit_lt_stop opened zone (sliceAt_length_of_done done) stop'
      have same := agree _ first ((reaches _).2 (Nat.le_refl _)) stop'
      have later := opened.instant_lt_edge zone (Nat.succ_lt_succ beyond) stop' stop
      exact iff_of_false (by omega) (by omega)
    · rw [← agree k b ((reaches k).2 le) stop]
      exact (stop_le_limit_iff_lt_length opened zone done le stop).symm

/-- The hours from half past twelve of the night in which Paris turns its clocks back. -/
def octoberHours (limit : Moment) : Slicing :=
  ⟨"+2021:10:31:00:30", "hour", 1, Nat.one_pos, julyMidnight, limit⟩

theorem ofRange_octoberHours {stop : String} {b : Bound}
    (h : Bound.read stop julyMidnight = .ok b) :
    ofRange "+2021:10:31:00:30" stop 1 "hour" julyMidnight = .ok (octoberHours b.moment) := by
  have origin : Bound.read "+2021:10:31:00:30" julyMidnight =
      .ok ⟨⟨⟨63771237000000000, by decide⟩, false, some (.region .paris)⟩, true⟩ := by
    decide +kernel
  have first : (octoberHours julyMidnight).boundary 0 =
      .ok ⟨⟨63771237000000000, by decide⟩, false, some (.region .paris)⟩ := by decide +kernel
  exact ofRange_eq_ok_iff.2 ⟨⟨rfl, rfl, rfl, rfl⟩, ⟨_, origin⟩, ⟨b, h, rfl⟩, _, first⟩

def octoberMorning : Moment := ⟨⟨63771249600000000, by decide⟩, false, some (.region .paris)⟩

theorem ofRange_octoberMorning :
    ofRange "+2021:10:31:00:30" "+2021:10:31:04" 1 "hour" julyMidnight =
      .ok (octoberHours octoberMorning) :=
  ofRange_octoberHours (b := ⟨octoberMorning, true⟩) (by decide +kernel)

theorem exists_take_octoberMorning : ∃ slices last,
    (Run.start (octoberHours octoberMorning)).take 6 = (slices, .done, last) ∧
      slices.length = 4 :=
  exists_done (by decide +kernel)

theorem octoberHours_to_four :
    ofRange "+2021:10:31:00:30" "+2021:10:31:04" 1 "hour" julyMidnight =
        .ok (octoberHours octoberMorning) ∧
      ∃ slices last, (Run.start (octoberHours octoberMorning)).take 6 = (slices, .done, last) ∧
        slices.length = 4 ∧
        ∀ k a b, (octoberHours octoberMorning).edge k = .ok a →
          (octoberHours octoberMorning).edge (k + 1) = .ok b →
            (GivesSlice slices k a b ↔ b.instant ≤ octoberMorning.instant) := by
  have range := ofRange_octoberMorning
  obtain ⟨slices, last, taken, length⟩ := exists_take_octoberMorning
  have agree : ∀ k < 5, ((octoberHours octoberMorning).edge (k + 1)).map (fun b =>
      decide (b.reading.micros ≤ octoberMorning.reading.micros ↔
        b.instant ≤ octoberMorning.instant)) = .ok true := by decide +kernel
  refine ⟨range, slices, last, taken, length, ?_⟩
  refine (gives_slices_by_instant_iff (z := .region .paris) rfl range taken).2.2 ?_
  intro k b come stop
  have le := (reaches_iff_le_length (opened_of_ofRange range).1 (z := .region .paris) rfl taken).1
    come
  have same := agree k (by omega)
  rw [stop] at same
  exact of_decide_eq_true (Except.ok.inj same)

/-- Until the first half past two the hour to the second one is given too, which stops an hour
late. -/
theorem octoberHours_to_half_past_two :
    ofRange "+2021:10:31:00:30" "+2021:10:31:02:30" 1 "hour" julyMidnight =
        .ok (octoberHours (Moment.autumnNight false)) ∧
      ∃ slices last a b,
        (Run.start (octoberHours (Moment.autumnNight false))).take 4 = (slices, .done, last) ∧
        (octoberHours (Moment.autumnNight false)).edge 2 = .ok a ∧
        (octoberHours (Moment.autumnNight false)).edge 3 = .ok b ∧ GivesSlice slices 2 a b ∧
        ¬b.instant ≤ (Moment.autumnNight false).instant := by
  have range : ofRange "+2021:10:31:00:30" "+2021:10:31:02:30" 1 "hour" julyMidnight =
      .ok (octoberHours (Moment.autumnNight false)) :=
    ofRange_octoberHours (b := ⟨Moment.autumnNight false, true⟩) (by decide +kernel)
  obtain ⟨slices, last, taken, length⟩ :=
    exists_done (s := octoberHours (Moment.autumnNight false)) (n := 4) (m := 3)
      (by decide +kernel)
  have start : (octoberHours (Moment.autumnNight false)).edge 2 =
      .ok (Moment.autumnNight false) := by decide +kernel
  have stop : (octoberHours (Moment.autumnNight false)).edge 3 =
      .ok (Moment.autumnNight true) := by decide +kernel
  refine ⟨range, slices, last, _, _, taken, start, stop, ?_, by decide +kernel⟩
  exact (givesSlice_iff_lt_length taken start stop).2 (by omega)

end Slicing
end CivilRange
