import CivilRange.Slicing

set_option autoImplicit false

/-!
# Observers

An observer has a zone and a clock. Each question takes one reading of the clock, converts it to the
zone, and is answered from that moment alone. So does the start of a run of slices, which keeps the
moment; taking slices from the run reads no clock.
-/
namespace CivilRange

abbrev Clock := Nat → Moment

inductive Query
  | now
  | bound? (text : String)
  | bound (text : String)
  | description? (text : String)
deriving DecidableEq

inductive Answer
  | moment (moment : Moment)
  | bound (bound : Option Bound)
  | description (text : Option String)

def Query.answer (now : Moment) : Query → Except Fault Answer
  | .now => .ok (.moment now)
  | .bound? text => .bound <$> Bound.read? text now
  | .bound text => (fun bound => .bound (some bound)) <$> Bound.read text now
  | .description? text => .description <$> Bound.description? text now

structure Observer where
  zone : Zone
  clock : Clock

namespace Observer

def localise (zone : Zone) (reading : Moment) : Except Fault Moment :=
  if reading.isFloating then .error (.floatingClock reading)
  else (reading.toZone zone).mapError .range

/-- The moment of the zone by a wall clock that shows `utc` in UTC, to the second. -/
def wallMoment (zone : Zone) (utc : Reading) : Except RangeFault Moment :=
  match Reading.ofMicros? (utc.seconds * microsPerSecond) with
  | some whole => zone.momentAt whole
  | none => .error .instant

/-- The moment of the reading taken after `reads` others. -/
def now (o : Observer) (reads : Nat) : Except Fault Moment := localise o.zone (o.clock reads)

def ask (o : Observer) (reads : Nat) (query : Query) : Except Fault Answer := do
  query.answer (← o.now reads)

end Observer

inductive Call
  | ask (query : Query)
  /-- Starts a run under a name, in place of an earlier one of that name. -/
  | start (name start stop : String) (period : Int) (unit : String)
  | take (name : String) (count : Nat)

inductive Reply
  | answer (answer : Except Fault Answer)
  | started (name : String)
  | refused (fault : Fault)
  | taken (slices : List Slice) (ending : Ending)
  | missing (name : String)

structure Session where
  observer : Observer
  reads : Nat
  runs : List (String × Run)

namespace Session

def start (o : Observer) : Session := ⟨o, 0, []⟩

def keep (s : Session) (name : String) (run : Run) : Session :=
  { s with runs := (name, run) :: s.runs.filter (·.1 != name) }

def call (s : Session) : Call → Reply × Session
  | .ask query => (.answer (s.observer.ask s.reads query), { s with reads := s.reads + 1 })
  | .start name start stop period unit =>
    let after := { s with reads := s.reads + 1 }
    match s.observer.now s.reads >>= Slicing.ofRange start stop period unit with
    | .ok slicing => (.started name, after.keep name (.start slicing))
    | .error fault => (.refused fault, after)
  | .take name count =>
    match s.runs.lookup name with
    | none => (.missing name, s)
    | some run =>
      let (slices, ending, last) := run.take count
      (.taken slices ending, s.keep name last)

end Session
end CivilRange
