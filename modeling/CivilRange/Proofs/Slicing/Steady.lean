import CivilRange.Proofs.Moment.Further
import CivilRange.Proofs.Slicing.Totals

set_option autoImplicit false

namespace CivilRange

def stepCount (first last width : Int) : Nat :=
  if first ≤ last then ((last - first) / width).toNat else 0

theorem lt_stepCount_iff {first last width : Int} {k : Nat} (pos : 0 < width) :
    k < stepCount first last width ↔ first + (k + 1) * width ≤ last := by
  have fits : (k : Int) + 1 ≤ (last - first) / width ↔ (k + 1) * width ≤ last - first :=
    Int.le_ediv_iff_mul_le pos
  unfold stepCount
  split
  · omega
  · have ahead : 0 ≤ ((k : Int) + 1) * width := Int.mul_nonneg (by omega) (Int.le_of_lt pos)
    omega

namespace Slicing

variable {s : Slicing} {z : Zone} {u : TimeUnit} {step n k : Nat} {origin : Bound} {m : Moment}
  {slices : List Slice} {ending : Ending} {last : Run}

def width (s : Slicing) (step : Nat) : Int := microsOfSeconds (s.period * step : Nat)

theorem elapsed_eq_mul_width (seconds : u.seconds? = some step) (s : Slicing) (k : Nat) :
    microsOfSeconds (Duration.zero.withAmount u (k * s.period)).elapsed = k * s.width step := by
  rw [(Duration.elapsed_withAmount seconds _).2]
  simp only [width, microsOfSeconds]
  push_cast
  simp only [Int.mul_assoc]

/-- In any zone the edges of elapsed time are evenly spaced, from the instant of the start's reading
in the first fold on. -/
theorem Opened.instant_edge (opened : s.Opened) (zone : s.now.zone = some z)
    (there : Bound.read s.origin s.now = .ok origin) (named : NamesUnit s.unit u)
    (seconds : u.seconds? = some step) (h : s.edge k = .ok m) :
    m.instant = Moment.instant ⟨origin.moment.reading, false, some z⟩ + k * s.width step := by
  have still := (Duration.elapsed_withAmount seconds (k * s.period)).1
  have lands := (opened.boundary_eq_ok_iff_landsAt there named).1 h
  rw [← elapsed_eq_mul_width seconds]
  exact Moment.instant_of_elapsed_move (Bound.zone_of_read zone there) still
    (Moment.move_eq_ok_iff_landsAt.2 lands)

/-- A range in a zone without changes that counts a unit of `step` seconds. -/
structure Steady (s : Slicing) (z : Zone) (u : TimeUnit) (step : Nat) (origin : Bound) : Prop where
  opened : s.Opened
  zone : s.now.zone = some z
  still : z.Still
  there : Bound.read s.origin s.now = .ok origin
  start : z.Covers origin.moment.instant
  stop : z.Covers s.limit.instant
  named : NamesUnit s.unit u
  seconds : u.seconds? = some step
  short : s.period < numberLimit

def fitting (s : Slicing) (step : Nat) (origin : Bound) : Nat :=
  stepCount origin.moment.instant s.limit.instant (s.width step)

namespace Steady

variable (steady : s.Steady z u step origin)
include steady

theorem width_pos : 0 < s.width step := by
  have pos := Nat.mul_pos s.period_pos (TimeUnit.seconds_pos steady.seconds)
  simp only [width, microsOfSeconds, microsPerSecond]
  omega

theorem edge_eq (lt : k * s.period < numberLimit) : s.edge k =
    origin.moment.moveOrReject .plus (Duration.zero.withAmount u (k * s.period)) := by
  rw [edge, steady.opened.boundary_of_namesUnit steady.there steady.named,
    writeNumber_eq_ok_iff.2 ⟨lt, rfl⟩]
  exact pure_bind _ _

theorem zone_origin : origin.moment.zone = some z := Bound.zone_of_read steady.zone steady.there

theorem exists_edge_iff (lt : k * s.period < numberLimit) :
    (∃ m, s.edge k = .ok m) ↔ z.Covers (origin.moment.instant + k * s.width step) := by
  rw [steady.edge_eq lt, ← elapsed_eq_mul_width steady.seconds]
  simp only [Moment.moveOrReject_eq_ok_iff]
  exact Moment.exists_elapsed_move_iff_of_still steady.still steady.zone_origin steady.start
    (Duration.elapsed_withAmount steady.seconds _).1

theorem instant_edge (h : s.edge k = .ok m) :
    m.instant = origin.moment.instant + k * s.width step := by
  rw [steady.opened.instant_edge steady.zone steady.there steady.named steady.seconds h,
    Moment.instant_of_still steady.still steady.zone_origin,
    Moment.instant_of_still steady.still rfl]

theorem edge_eq_error (lt : k * s.period < numberLimit)
    (out : ¬z.Covers (origin.moment.instant + k * s.width step)) :
    ∃ cause, s.edge k = .error (.rejected
      (.move origin.moment .plus (Duration.zero.withAmount u (k * s.period)) cause)) := by
  rw [← steady.exists_edge_iff lt] at out
  rw [steady.edge_eq lt] at out ⊢
  unfold Moment.moveOrReject at out ⊢
  cases moved : origin.moment.move .plus (Duration.zero.withAmount u (k * s.period)) with
  | error cause => exact ⟨cause, rfl⟩
  | ok m => exact absurd ⟨m, by rw [moved]; rfl⟩ out

theorem lt_fitting_iff : k < s.fitting step origin ↔
    origin.moment.instant + (k + 1) * s.width step ≤ s.limit.instant :=
  lt_stepCount_iff steady.width_pos

theorem covers_of_le (le : k ≤ s.fitting step origin) :
    z.Covers (origin.moment.instant + k * s.width step) := by
  cases k with
  | zero => simpa using steady.start
  | succ k =>
    have within := steady.lt_fitting_iff.1 le
    have ahead : 0 ≤ ((k : Int) + 1) * s.width step :=
      Int.mul_nonneg (by omega) (Int.le_of_lt steady.width_pos)
    push_cast
    -- the edge lies between the ends of the range, and the clock can show both
    exact Zone.covers_of_between steady.start steady.stop (by omega) within

theorem short_of_le (le : k ≤ s.fitting step origin) : (k + 1) * s.period < numberLimit := by
  cases k with
  | zero => simpa using steady.short
  | succ k =>
    -- one slice fits into the calendar, so its period does, and the next count is twice this at most
    have last := (steady.still.covers_iff.1 (steady.covers_of_le le)).1.2
    have first := (steady.still.covers_iff.1 steady.start).1.1
    rw [← elapsed_eq_mul_width steady.seconds, (Duration.elapsed_withAmount steady.seconds _).2] at last
    have period : s.period ≤ (k + 1) * s.period := Nat.le_mul_of_pos_left _ (Nat.succ_pos k)
    have seconds : (k + 1) * s.period ≤ (k + 1) * s.period * step :=
      Nat.le_mul_of_pos_right _ (TimeUnit.seconds_pos steady.seconds)
    have large : 2 * readingCount ≤ numberLimit :=
      calc 2 * readingCount ≤ Nat.pow 10 20 := by decide
        _ ≤ numberLimit := pow_le_numberLimit (by decide)
    rw [Nat.succ_mul]
    simp only [microsOfSeconds, microsPerSecond] at last
    omega

theorem lt_of_le (le : k ≤ s.fitting step origin) : k * s.period < numberLimit :=
  Nat.lt_of_le_of_lt (Nat.mul_le_mul_right _ (Nat.le_succ k)) (steady.short_of_le le)

theorem exists_edge_of_le (le : k ≤ s.fitting step origin) : ∃ a, s.edge k = .ok a :=
  (steady.exists_edge_iff (steady.lt_of_le le)).2 (steady.covers_of_le le)

theorem reading_le_limit_iff (h : s.edge k = .ok m) :
    m.reading.micros ≤ s.limit.reading.micros ↔ m.instant ≤ s.limit.instant := by
  have shift := Moment.reading_sub_of_still steady.still
    (steady.opened.onClock_edge steady.zone h).zone_eq (steady.opened.zone_limit steady.zone)
  omega

theorem exists_slice (lt : k < s.fitting step origin) :
    ∃ slice, s.sliceAt k = .ok (some slice) := by
  obtain ⟨a, start⟩ := steady.exists_edge_of_le (Nat.le_of_lt lt)
  obtain ⟨b, stop⟩ := steady.exists_edge_of_le lt
  refine steady.opened.exists_slice steady.zone start stop ?_ ?_
  · have later := steady.opened.instant_lt_edge steady.zone (Nat.lt_succ_self k) start stop
    have shift := Moment.reading_sub_of_still steady.still
      (steady.opened.onClock_edge steady.zone start).zone_eq
      (steady.opened.onClock_edge steady.zone stop).zone_eq
    omega
  · rw [steady.reading_le_limit_iff stop, steady.instant_edge stop]
    push_cast
    exact steady.lt_fitting_iff.1 lt

theorem sliceAt_fitting (covers : z.Covers
      (origin.moment.instant + (s.fitting step origin + 1) * s.width step)) :
    s.sliceAt (s.fitting step origin) = .ok none := by
  have short := steady.short_of_le (Nat.le_refl _)
  obtain ⟨a, start⟩ := steady.exists_edge_of_le (Nat.le_refl _)
  obtain ⟨b, stop⟩ := (steady.exists_edge_iff short).2 (by push_cast; exact covers)
  have beyond : ¬b.instant ≤ s.limit.instant := by
    rw [steady.instant_edge stop]
    push_cast
    rw [← steady.lt_fitting_iff]
    exact Nat.lt_irrefl _
  refine sliceAt_eq_none_iff.2 ⟨a, b, start, stop, ?_⟩
  rw [steady.opened.isAfter_limit steady.zone stop]
  rw [← steady.reading_le_limit_iff stop] at beyond
  simpa using beyond

theorem sliceAt_fitting_eq_error (out : ¬z.Covers
      (origin.moment.instant + (s.fitting step origin + 1) * s.width step)) :
    ∃ cause, s.sliceAt (s.fitting step origin) =
      .error (.rejected (.move origin.moment .plus
        (Duration.zero.withAmount u ((s.fitting step origin + 1) * s.period)) cause)) := by
  obtain ⟨a, start⟩ := steady.exists_edge_of_le (Nat.le_refl _)
  obtain ⟨cause, stop⟩ := steady.edge_eq_error (steady.short_of_le (Nat.le_refl _))
    (by push_cast; exact out)
  exact ⟨cause, sliceAt_eq_error start stop⟩

theorem length_eq (lt : s.fitting step origin < n)
    (taken : (Run.start s).take n = (slices, ending, last)) :
    slices.length = s.fitting step origin ∧ ending ≠ .limit := by
  refine Run.length_of_take_start (fun k => steady.exists_slice) ?_ lt taken
  intro slice given
  by_cases covers : z.Covers
      (origin.moment.instant + (s.fitting step origin + 1) * s.width step)
  · cases given.symm.trans (steady.sliceAt_fitting covers)
  · obtain ⟨cause, failed⟩ := steady.sliceAt_fitting_eq_error covers
    cases given.symm.trans failed

theorem instants_of_slice {slice : Slice}
    (h : s.sliceAt k = .ok (some slice)) :
    slice.start.instant = origin.moment.instant + k * s.width step ∧
      slice.stop.instant = origin.moment.instant + (k + 1) * s.width step := by
  obtain ⟨start, stop, -⟩ := sliceAt_eq_some_iff.1 h
  refine ⟨steady.instant_edge start, ?_⟩
  rw [steady.instant_edge stop]
  push_cast
  rfl

end Steady

theorem covers_of_read {text : String} {now : Moment} {utc : Reading} {b : Bound}
    (zone : now.zone = some z) (still : z.Still) (present : now.utc = .ok utc)
    (h : Bound.read text now = .ok b) : z.Covers b.moment.instant := by
  obtain same | shown := Bound.present_or_onClock zone h
  · rw [same]
    exact Moment.covers_of_utc still zone present
  · exact shown.covers

theorem steady_of_ofRange {start stop unit : String} {period : Int} {now : Moment} {utc : Reading}
    (zone : now.zone = some z) (still : z.Still) (present : now.utc = .ok utc)
    (named : NamesUnit unit u) (seconds : u.seconds? = some step)
    (short : period < numberLimit) (h : ofRange start stop period unit now = .ok s)
    (there : Bound.read start now = .ok origin) : s.Steady z u step origin := by
  obtain ⟨opened, rfl⟩ := opened_of_ofRange h
  obtain ⟨⟨rfl, rfl, rfl, -⟩, -, ⟨limit, stop, same⟩, -⟩ := ofRange_eq_ok_iff.1 h
  exact ⟨opened, zone, still, there, covers_of_read zone still present there,
    same ▸ covers_of_read zone still present stop, named, seconds, Int.ofNat_lt.1 short⟩

/-- In a zone without changes a range gives as many slices of elapsed time as fit into it, evenly
spaced. It is then done if the clock can show where the next slice would stop, and else it fails by
the move that leads there. -/
theorem slices_evenly_spaced {start stop unit : String} {period width : Int} {count : Nat}
    {now : Moment} {utc : Reading} {limit : Bound} (zone : now.zone = some z)
    (still : z.Still) (present : now.utc = .ok utc) (named : NamesUnit unit u)
    (seconds : u.seconds? = some step) (short : period < numberLimit)
    (h : ofRange start stop period unit now = .ok s)
    (atStart : Bound.read start now = .ok origin) (atStop : Bound.read stop now = .ok limit)
    (width_eq : width = microsOfSeconds (period * step))
    (count_eq : count = stepCount origin.moment.instant limit.moment.instant width)
    (lt : count < n) (taken : (Run.start s).take n = (slices, ending, last)) :
    slices.length = count ∧
      (∀ (k : Nat) (slice : Slice), slices[k]? = some slice →
        slice.start.instant = origin.moment.instant + k * width ∧
          slice.stop.instant = origin.moment.instant + (k + 1) * width) ∧
      (z.Covers (origin.moment.instant + (count + 1) * width) → ending = .done) ∧
      (¬z.Covers (origin.moment.instant + (count + 1) * width) →
        ∃ cause, ending = .failed (.rejected (.move origin.moment .plus
          (Duration.zero.withAmount u ((count + 1) * s.period)) cause))) := by
  have steady := steady_of_ofRange zone still present named seconds short h atStart
  obtain ⟨⟨-, -, rfl, rfl⟩, -, ⟨limit', stop, same⟩, -⟩ := ofRange_eq_ok_iff.1 h
  obtain rfl := Except.ok.inj (atStop.symm.trans stop)
  obtain rfl : width = s.width step := by
    rw [width_eq, Slicing.width]
    push_cast
    rfl
  obtain rfl : count = s.fitting step origin := by
    rw [count_eq, fitting, same]
  obtain ⟨full, ended⟩ := steady.length_eq lt taken
  obtain ⟨done, failed⟩ := Run.ending_of_take_start taken ended
  rw [full] at done failed
  refine ⟨full, ?_, ?_, ?_⟩
  · intro k slice mem
    exact steady.instants_of_slice ((Run.take_start_spec taken).1 k slice mem)
  · intro covers
    exact done.2 (steady.sliceAt_fitting covers)
  · intro out
    obtain ⟨cause, fault⟩ := steady.sliceAt_fitting_eq_error out
    exact ⟨cause, (failed _).2 fault⟩

def firstHour : Moment := ⟨⟨3600000000, by decide⟩, false, some (.fixed 3600)⟩

/-- Eight and half past eleven in the last evening of the calendar, an hour east of UTC. -/
def lastEvening (half : Bool) : Moment :=
  if half then ⟨⟨315537895800000000, by decide⟩, false, some (.fixed 3600)⟩
  else ⟨⟨315537883200000000, by decide⟩, false, some (.fixed 3600)⟩

def lastHours : Slicing :=
  ⟨"+9999:12:31:20", "hour", 1, Nat.one_pos, firstHour, lastEvening true⟩

/-- Three hours are given, and no reading is left at which the one after could stop. -/
theorem lastHours_fail :
    ofRange "+9999:12:31:20" "+9999:12:31:23:30" 1 "hour" firstHour = .ok lastHours ∧
      ∃ slices last cause, (Run.start lastHours).take 4 =
          (slices, .failed (.rejected (.move (lastEvening false) .plus
            (Duration.zero.withAmount .hours 4) cause)), last) ∧
        slices.length = 3 := by
  have origin : Bound.read "+9999:12:31:20" firstHour = .ok ⟨lastEvening false, true⟩ := by
    decide +kernel
  have limit : Bound.read "+9999:12:31:23:30" firstHour = .ok ⟨lastEvening true, true⟩ := by
    decide +kernel
  have first : lastHours.boundary 0 = .ok (lastEvening false) := by decide +kernel
  have range : ofRange "+9999:12:31:20" "+9999:12:31:23:30" 1 "hour" firstHour = .ok lastHours :=
    ofRange_eq_ok_iff.2 ⟨⟨rfl, rfl, rfl, rfl⟩, ⟨_, origin⟩, ⟨_, limit, rfl⟩, _, first⟩
  have still : (Zone.fixed 3600).Still := Zone.still_of_utc_or_fixed (.inr (.inr ⟨3600, rfl⟩))
  have named : NamesUnit "hour" .hours := ⟨List.all_eq_true.1 (by decide), by decide⟩
  have present : firstHour.utc = .ok ⟨0, by decide⟩ := by decide +kernel
  have short : (1 : Int) < numberLimit :=
    Int.ofNat_lt.2 (Nat.lt_of_lt_of_le (by decide) (pow_le_numberLimit (k := 1) (by decide)))
  have count : 3 = stepCount (lastEvening false).instant (lastEvening true).instant
      (microsOfSeconds (1 * 3600)) := by decide +kernel
  have out : ¬(Zone.fixed 3600).Covers ((lastEvening false).instant +
      ((3 : Nat) + 1) * microsOfSeconds (1 * 3600)) := by
    rw [still.covers_iff]
    decide +kernel
  rcases taken : (Run.start lastHours).take 4 with ⟨slices, ending, last⟩
  obtain ⟨length, -, -, failed⟩ := slices_evenly_spaced rfl still present named rfl short range
    origin limit rfl count (by decide) taken
  obtain ⟨cause, rfl⟩ := failed out
  exact ⟨range, slices, last, cause, rfl, length⟩

end Slicing
end CivilRange
