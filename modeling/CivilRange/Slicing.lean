import CivilRange.Expression

set_option autoImplicit false

/-!
# Cutting a range into slices

The boundaries of a range are the expressions of its start moved by whole multiples of a period.
Slices run from one boundary to the next, as long as they stop no later than the range does. A
run takes them one by one.
-/
namespace CivilRange

/-- Moments of one zone are compared by their readings, whatever their folds and offsets; moments
of two zones by their instants. A floating moment compares with floating ones only. -/
def Moment.isAfter (a b : Moment) : Except Fault Bool :=
  match a.zone, b.zone with
  | none, none => .ok (b.reading.micros < a.reading.micros)
  | some z, some w =>
    .ok (if z = w then b.reading.micros < a.reading.micros else b.instant < a.instant)
  | _, _ => .error .mixed

/-- By instants the ends may be the other way round where clocks are turned back. -/
structure Slice where
  start : Moment
  stop : Moment
  ordered : start.isAfter stop = .ok false

namespace Slice

def make (start stop : Moment) : Except Fault Slice :=
  match h : start.isAfter stop with
  | .ok false => .ok ⟨start, stop, h⟩
  | .ok true => .error (.reversed start stop)
  | .error fault => .error fault

def text (s : Slice) : Except Fault String := do
  let seconds ← (s.start.secondsBetween s.stop).mapError .range
  return "Slice(" ++ s.start.text ++ "→" ++ s.stop.text ++ s!", {seconds}s)"

end Slice

structure Slicing where
  origin : String
  unit : String
  period : Nat
  period_pos : 0 < period
  now : Moment
  limit : Moment

namespace Slicing

def boundaryText (s : Slicing) (count : List Char) : String :=
  s.origin ++ "+" ++ String.ofList count ++ s.unit

def boundary (s : Slicing) (offset : Nat) : Except Fault Moment := do
  let count ← writeNumber offset
  Bound.moment <$> Bound.read (s.boundaryText count) s.now

def rejectPeriod (period : Int) : Except Fault Slicing := do
  let _ ← writeNumber period.natAbs
  .error (.rejected (.period period))

/-- Both ends of the range and the first boundary are read at once, so that a bad text is a fault
before the first slice. -/
def ofRange (start stop : String) (period : Int) (unit : String) (now : Moment) :
    Except Fault Slicing :=
  if h : 0 < period then do
    let _ ← Bound.read start now
    let limit ← Bound.read stop now
    let slicing : Slicing := ⟨start, unit, period.toNat, by omega, now, limit.moment⟩
    let _ ← slicing.boundary 0
    return slicing
  else rejectPeriod period

def secondCount : Nat := dayCount * secondsPerDay

/-- Each slice is at least as many seconds long as the period counts units. -/
def sliceBound (s : Slicing) : Nat := secondCount / s.period

end Slicing

inductive Ending
  | limit
  | done
  | failed (fault : Fault)
deriving DecidableEq

structure Run where
  slicing : Slicing
  /-- How far the next slice is from the start of the range. -/
  offset : Nat
  edge : Except Fault Moment
  finished : Bool

namespace Run

def start (s : Slicing) : Run := ⟨s, 0, s.boundary 0, false⟩

/-- The next slice, or `none` if it stops after the range. -/
def next (run : Run) : Except Fault (Option Slice) := do
  let start ← run.edge
  let stop ← run.slicing.boundary (run.offset + run.slicing.period)
  if ← stop.isAfter run.slicing.limit then return none else some <$> Slice.make start stop

def advance (run : Run) : Run :=
  let offset := run.offset + run.slicing.period
  { run with offset, edge := run.slicing.boundary offset }

/-- Takes `n` slices or as many as there are, and says why it stopped. A run that has ended, well
or not, gives no more slices. -/
def take : Nat → Run → List Slice × Ending × Run
  | 0, run => ([], .limit, run)
  | n + 1, run =>
    if run.finished then ([], .done, run)
    else
      match run.next with
      | .ok (some slice) =>
        let (slices, ending, last) := take n run.advance
        (slice :: slices, ending, last)
      | .ok none => ([], .done, { run with finished := true })
      | .error fault => ([], .failed fault, { run with finished := true })

end Run

def Slicing.slices (s : Slicing) : List Slice × Ending :=
  let (slices, ending, _) := (Run.start s).take (s.sliceBound + 1)
  (slices, ending)

end CivilRange
