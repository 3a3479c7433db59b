import CivilRange.Proofs.Slicing.Run

set_option autoImplicit false

namespace CivilRange

variable {z : Zone}

theorem Run.exists_sliceAt_of_mem {s : Slicing} {n : Nat} {slice : Slice}
    (h : slice ∈ ((start s).take n).1) : ∃ k, s.sliceAt k = .ok (some slice) := by
  rcases taken : (start s).take n with ⟨slices, ending, last⟩
  rw [taken] at h
  obtain ⟨k, at_k⟩ := List.mem_iff_getElem?.1 h
  exact ⟨k, (take_start_spec taken).1 k slice at_k⟩

theorem Slicing.mem_take_one {s : Slicing} {slice : Slice} (start : s.edge 0 = .ok slice.start)
    (stop : s.edge 1 = .ok slice.stop) (within : slice.stop.isAfter s.limit = .ok false) :
    slice ∈ ((Run.start s).take 1).1 := by
  rw [Run.start_eq, Run.take_succ_of_some (sliceAt_eq_some_iff.2 ⟨start, stop, within⟩) rfl]
  exact List.mem_cons_self

theorem Slicing.Opened.onTargetClock_of_mem {s : Slicing} {n : Nat} {slice : Slice}
    (opened : s.Opened) (h : slice ∈ ((Run.start s).take n).1) :
    slice.start.OnClock s.now.targetZone ∧ slice.stop.OnClock s.now.targetZone := by
  obtain ⟨k, at_k⟩ := Run.exists_sliceAt_of_mem h
  obtain ⟨start, stop, -⟩ := sliceAt_eq_some_iff.1 at_k
  exact ⟨opened.onTargetClock start, opened.onTargetClock stop⟩

theorem Slicing.Opened.onClock_of_mem {s : Slicing} {n : Nat} {slice : Slice} (opened : s.Opened)
    (zone : s.now.zone = some z) (h : slice ∈ ((Run.start s).take n).1) :
    slice.start.OnClock z ∧ slice.stop.OnClock z :=
  Moment.targetZone_eq zone ▸ opened.onTargetClock_of_mem h

/-- Reading and slicing at a moment of the zone's clock give moments of that clock alone. -/
theorem bounds_and_slices_onClock {utc : Reading} {now : Moment}
    (present : z.momentAt utc = .ok now) :
    (∀ text b, Bound.read? text now = .ok (some b) →
        b.moment.OnClock z ∧ b.moment.isShown = .ok true) ∧
      ∀ start stop period unit s n slice, Slicing.ofRange start stop period unit now = .ok s →
        slice ∈ ((Run.start s).take n).1 →
          (slice.start.OnClock z ∧ slice.start.isShown = .ok true) ∧
            slice.stop.OnClock z ∧ slice.stop.isShown = .ok true := by
  have onClock := Moment.onClock_of_momentAt present
  constructor
  · intro text b h
    have shown := Bound.onClock_of_read onClock (Bound.read?_eq_ok_some_iff.1 h)
    exact ⟨shown, shown.isShown⟩
  · intro start stop period unit s n slice h mem
    obtain ⟨opened, rfl⟩ := Slicing.opened_of_ofRange h
    obtain ⟨first, second⟩ := opened.onClock_of_mem onClock.zone_eq mem
    exact ⟨⟨first, first.isShown⟩, second, second.isShown⟩

/-- Midnight of 1 July 2021 in Paris. -/
def julyMidnight : Moment := ⟨⟨63760694400000000, by decide⟩, false, some (.region .paris)⟩

/-- Half past one in the night in which Paris puts its clocks forward. -/
def marchNight : Moment := ⟨⟨63752491800000000, by decide⟩, false, some (.region .paris)⟩

def marchHalfHour : Slice :=
  ⟨marchNight, ⟨⟨63752497200000000, by decide⟩, false, some (.region .paris)⟩, by decide +kernel⟩

/-- Slices of half an hour, opened at midnight of 1 July. -/
def Slicing.halfHours (origin : String) (limit : Moment) : Slicing :=
  ⟨origin, "minute", 30, Nat.succ_pos 29, julyMidnight, limit⟩

def marchHalfHours : Slicing :=
  .halfHours "+2021:03:28:01:30" ⟨⟨63752500800000000, by decide⟩, false, some (.region .paris)⟩

/-- The summer clock of Paris shows that midnight of July. From it a month and an hour lead to a
moment of the clock, and so do the half hours of a range in March. -/
theorem month_and_hour_onClock :
    (Zone.region .paris).momentAt ⟨63760687200000000, by decide⟩ = .ok julyMidnight ∧
      (∃ b, Bound.read? "+NOW+1month:1hour" julyMidnight = .ok (some b) ∧
        b.moment.OnClock (.region .paris) ∧ b.moment.isShown = .ok true) ∧
      Slicing.ofRange "+2021:03:28:01:30" "-2021:03:28:04" 30 "minute" julyMidnight =
        .ok marchHalfHours ∧
      marchHalfHour ∈ ((Run.start marchHalfHours).take 1).1 ∧
      marchHalfHour.start.OnClock (.region .paris) ∧
      marchHalfHour.stop.OnClock (.region .paris) ∧ marchHalfHour.stop.isShown = .ok true := by
  have present : (Zone.region .paris).momentAt ⟨63760687200000000, by decide⟩ =
      .ok julyMidnight := by decide +kernel
  have read : Bound.read? "+NOW+1month:1hour" julyMidnight = .ok (some
      ⟨⟨⟨63763376400000000, by decide⟩, false, some (.region .paris)⟩, true⟩) := by
    decide +kernel
  have origin : Bound.read "+2021:03:28:01:30" julyMidnight = .ok ⟨marchNight, true⟩ := by
    decide +kernel
  have limit : Bound.read "-2021:03:28:04" julyMidnight = .ok ⟨marchHalfHours.limit, false⟩ := by
    decide +kernel
  have start : marchHalfHours.boundary 0 = .ok marchNight := by decide +kernel
  have range : Slicing.ofRange "+2021:03:28:01:30" "-2021:03:28:04" 30 "minute" julyMidnight =
      .ok marchHalfHours :=
    Slicing.ofRange_eq_ok_iff.2 ⟨⟨rfl, rfl, rfl, rfl⟩, ⟨_, origin⟩, ⟨_, limit, rfl⟩, _, start⟩
  have mem : marchHalfHour ∈ ((Run.start marchHalfHours).take 1).1 :=
    Slicing.mem_take_one start (by decide +kernel) (by decide +kernel)
  obtain ⟨bounds, slices⟩ := bounds_and_slices_onClock present
  obtain ⟨⟨first, -⟩, second⟩ := slices _ _ _ _ _ _ _ range mem
  exact ⟨present, ⟨_, read, bounds _ _ read⟩, range, mem, first, second⟩

end CivilRange
