import CivilRange.Slicing

set_option autoImplicit false

namespace CivilRange

inductive Event
  | noShape (text : String)
  | date (text : String) (moment : Moment)
  | duration (text : String) (duration : Duration)
  | slicing (start stop : String) (period : Int) (unit : String) (now : Moment)
  | slice (start stop : Moment)
  | stopping (stop limit : Moment)
  | slicingFailed

namespace Event

def line : Event → String
  | noShape text => "DEBUG dateslice.expression: Expression " ++ quoted text ++
      " does not match the date/duration grammar"
  | date text m => "DEBUG dateslice.dates: Parsed date " ++ quoted text ++ " as " ++ m.text
  | duration text d =>
      "DEBUG dateslice.duration: Parsed duration " ++ quoted text ++ " as " ++ d.text
  | slicing start stop period unit now => "DEBUG dateslice.resolver: Slicing " ++ start ++ ".." ++
      stop ++ s!" by {period}" ++ unit ++ " at " ++ now.text
  | slice start stop =>
      "DEBUG dateslice.slicer: Emitting slice " ++ start.text ++ " -> " ++ stop.text
  | stopping stop limit => "DEBUG dateslice.slicer: Slice end " ++ stop.text ++ " is after " ++
      limit.text ++ ", stopping"
  | slicingFailed => "DEBUG dateslice.cli: Slicing failed\n<traceback>"

end Event

namespace Shape

/-- `NOW` is not read as a date and leaves no event. -/
def baseTrace (s : Shape) (now : Moment) : List Event :=
  if lower s.date = "now".toList then []
  else
    match Date.read (String.ofList s.date) now with
    | .ok m => [.date (String.ofList s.date) m]
    | .error _ => []

def suffixTrace (s : Shape) (now : Moment) : List Event :=
  match s.base now, s.suffix with
  | .ok _, some (_, amount) =>
    match Duration.read (String.ofList amount) with
    | .ok d => [.duration (String.ofList amount) d]
    | .error _ => []
  | _, _ => []

end Shape

def expressionTrace (text : String) (now : Moment) : List Event :=
  match Shape.split? text.toList with
  | none => [.noShape text]
  | some shape => shape.baseTrace now ++ shape.suffixTrace now

/-- Expressions are read in turn until one fails. -/
def expressionTraces (now : Moment) : List String → List Event
  | [] => []
  | text :: rest =>
    expressionTrace text now ++
      match Bound.read text now with
      | .ok _ => expressionTraces now rest
      | .error _ => []

namespace Slicing

def openingTrace (start stop : String) (period : Int) (unit : String) (now : Moment) :
    List Event :=
  .slicing start stop period unit now ::
    if 0 < period then expressionTraces now [start, stop, start ++ "+0" ++ unit] else []

def boundaryTrace (s : Slicing) (offset : Nat) : List Event :=
  match writeNumber offset with
  | .ok count => expressionTrace (s.boundaryText count) s.now
  | .error _ => []

def stopTrace (s : Slicing) (start : Moment) (offset : Nat) : List Event :=
  s.boundaryTrace offset ++
    match s.boundary offset with
    | .error _ => []
    | .ok stop =>
      match stop.isAfter s.limit with
      | .ok true => [.stopping stop s.limit]
      | .ok false => [.slice start stop]
      | .error _ => []

/-- The slice at `offset`. The first boundary is known from opening. -/
def sliceTrace (s : Slicing) (offset : Nat) : List Event :=
  (if offset = 0 then [] else s.boundaryTrace offset) ++
    match s.boundary offset with
    | .error _ => []
    | .ok start => s.stopTrace start (offset + s.period)

def slicesTrace (s : Slicing) (count : Nat) : List Event :=
  (List.range (count + 1)).flatMap fun k => s.sliceTrace (k * s.period)

end Slicing
end CivilRange
