import CivilRange.Reading
import CivilRange.Zone.Basic

set_option autoImplicit false

/-!
# Moments

A moment is a wall clock reading in a zone, with the fold that tells two equal readings of one
zone apart. Without a zone it is floating. The reading need not be one that the zone's clock
ever shows.
-/
namespace CivilRange

structure Moment where
  reading : Reading
  fold : Bool
  /-- `none` for a floating moment. -/
  zone : Option Zone
deriving DecidableEq

def microsOfSeconds (seconds : Int) : Int := seconds * microsPerSecond

namespace Zone

def offsetAt (z : Zone) (r : Reading) (fold : Bool) : Int :=
  z.history.offsetOfWall r.seconds fold

def momentAt (z : Zone) (utc : Reading) : Except RangeFault Moment :=
  let phase := z.history.phaseAt utc.seconds
  match Reading.ofMicros? (utc.micros + microsOfSeconds phase.offset) with
  | some reading => .ok ⟨reading, phase.fold, some z⟩
  | none => .error .instant

end Zone

namespace Moment

def isFloating (m : Moment) : Bool := m.zone.isNone

/-- The offset from UTC; a floating moment counts as UTC. -/
def offset (m : Moment) : Int :=
  match m.zone with
  | some z => z.offsetAt m.reading m.fold
  | none => 0

/-- Microseconds in UTC since the first midnight of year 1. -/
def instant (m : Moment) : Int := m.reading.micros - microsOfSeconds m.offset

/-- The year that the search for a floating moment's offset looks into, a day earlier for the
first fold and a day later for the second, when it is outside the calendar. -/
def searchFault? (m : Moment) : Option RangeFault :=
  if m.fold then
    if readingCount ≤ m.reading.micros + microsPerDay then some (.year (lastYear + 1)) else none
  else if m.reading.micros < microsPerDay then some (.year 0) else none

def utc (m : Moment) : Except RangeFault Reading :=
  match m.zone with
  | none =>
    match m.searchFault? with
    | some fault => .error fault
    | none => .ok m.reading
  | some _ =>
    match Reading.ofMicros? m.instant with
    | some reading => .ok reading
    | none => .error .instant

/-- The same instant in zone `z`; a moment that is in `z` already stays as it is. -/
def toZone (z : Zone) (m : Moment) : Except RangeFault Moment :=
  if m.zone = some z then .ok m else do z.momentAt (← m.utc)

/-- Whether a clock in the moment's zone ever shows its reading: going to UTC and back finds the
reading again. -/
def isShown (m : Moment) : Except RangeFault Bool :=
  match m.zone with
  | none => .ok true
  | some z => do return (← z.momentAt (← m.utc)).reading = m.reading

def text (m : Moment) : String :=
  m.reading.text 'T' ++ if m.isFloating then "" else offsetText m.offset

def fieldText (m : Moment) : String :=
  let f := m.reading.fields
  let micro := m.reading.micro
  let numbers := [f.year, f.month, f.day, f.hour, f.minute] ++
    (if f.second = 0 ∧ micro = 0 then [] else [f.second]) ++ if micro = 0 then [] else [micro]
  "datetime.datetime(" ++ ", ".intercalate (numbers.map Nat.repr) ++
    (if m.fold then ", fold=1)" else ")")

end Moment

def unixEpochDay : Nat := 719162

/-- The grains in a second. -/
def grain : Nat := Nat.pow 2 72

/-- The multiple of `step` that is nearest to `n / d`; of two, the even one. -/
def nearestMultiple (step n d : Nat) : Nat :=
  let unit := d * step
  let quotient := n / unit
  let twice := 2 * (n % unit)
  if unit < twice ∨ (twice = unit ∧ quotient % 2 = 1) then (quotient + 1) * step
  else quotient * step

/-- The nearest number to `n / d` of 53 significant bits. -/
def nearestFloat (n : Int) (d : Nat) : Int :=
  n.sign * nearestMultiple (Nat.pow 2 ((n.natAbs / d).log2 - 52)) n.natAbs d

namespace Moment

/-- Grains since the Unix epoch. In a zone all microseconds are rounded at once; those of a
floating moment are rounded before the whole seconds are added. -/
def timestamp (m : Moment) : Except RangeFault Int :=
  match m.zone with
  | some _ =>
    let micros := m.instant - unixEpochDay * microsPerDay
    .ok (nearestFloat (micros * grain) microsPerSecond)
  | none => do
    let utc ← m.utc
    let fraction := nearestFloat (utc.micro * grain) microsPerSecond
    let seconds := (utc.seconds : Int) - unixEpochDay * secondsPerDay
    return nearestFloat (seconds * grain + fraction) 1

def secondsBetween (start stop : Moment) : Except RangeFault Int := do
  let last ← stop.timestamp
  let first ← start.timestamp
  return (nearestFloat (last - first) 1).tdiv grain

end Moment
end CivilRange
