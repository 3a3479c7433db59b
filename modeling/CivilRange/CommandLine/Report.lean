import CivilRange.CommandLine.Options
import CivilRange.Observer
import CivilRange.Trace

set_option autoImplicit false

/-!
# The command line

A command line describes expressions, or prints one command for each slice of a range. What it
does is a report: the lines on both outputs, and an exit code or the fault that it does not
handle. Of the faults it handles the rejections.
-/
namespace CivilRange.CommandLine

/-- In ASCII the information separators do not count as space here. -/
def isMargin (c : Char) : Bool :=
  if c.toNat < 128 then c == ' ' || (9 ≤ c.toNat && c.toNat ≤ 13) else isBlank c

/-- The values of digits, with at most one underscore between two of them. -/
def digitValues? : List Char → Option (List Nat)
  | [] => none
  | [c] => (digitValue? c).map ([·])
  | c :: '_' :: rest => do return (← digitValue? c) :: (← digitValues? rest)
  | c :: rest => do return (← digitValue? c) :: (← digitValues? rest)

def readWhole? (text : String) : Option Int :=
  let s := ((text.toList.dropWhile isMargin).reverse.dropWhile isMargin).reverse
  let (negative, digits) :=
    match s with
    | '-' :: rest => (true, rest)
    | '+' :: rest => (false, rest)
    | rest => (false, rest)
  match digitValues? digits with
  | none => none
  | some values =>
    if maxDigits < values.length then none
    else
      let n : Nat := values.foldl (fun n digit => 10 * n + digit) 0
      some (if negative then -(n : Int) else n)

inductive Exit
  | code (code : Nat)
  | escaped (fault : Fault)
deriving DecidableEq

structure Report where
  output : List String
  errors : List String
  exit : Exit

namespace Report

def linesText (lines : List String) : String := String.join (lines.map (· ++ "\n"))

def fail (message : String) : Report := ⟨[], ["ERROR: " ++ message], .code 1⟩

def after (output errors : List String) (r : Report) : Report :=
  { r with output := output ++ r.output, errors := errors ++ r.errors }

def ofFault : Fault → Report
  | .rejected rejection => fail rejection.message
  | fault => ⟨[], [], .escaped fault⟩

end Report

def traceLines (verbose : Bool) (events : List Event) : List String :=
  if verbose then events.map Event.line else []

def traceAt (verbose : Bool) (now : Except Fault Moment) (events : Moment → List Event) :
    List String :=
  match now with
  | .ok now => traceLines verbose (events now)
  | .error _ => []

namespace Value

def bound (v : Value) (now : Moment) : Except Fault Bound :=
  match v with
  | text s => Bound.read s now
  | empty => .error .noExpression

def description? (v : Value) (now : Moment) : Except Fault (Option String) :=
  match v with
  | text s => Bound.description? s now
  | empty => .error .noExpression

def trace (v : Value) (now : Moment) : List Event :=
  match v with
  | text s => expressionTrace s now
  | empty => []

end Value

/-- Each expression takes a clock reading of its own; the first that fails is the last. -/
def describeAll (verbose : Bool) (observer : Observer) (reads : Nat) : List Value → Report
  | [] => ⟨[], [], .code 0⟩
  | value :: rest =>
    let now := observer.now reads
    Report.after [] (traceAt verbose now value.trace) <|
      match now >>= value.description? with
      | .ok (some description) =>
        (describeAll verbose observer (reads + 1) rest).after
          [value.shown ++ " => " ++ description] []
      | .ok none => .fail ("Invalid date specification (" ++ value.shown ++ ")")
      | .error fault => .ofFault fault

def sliceCommand (command : String) (s : Slice) : String :=
  command ++ " --dateFrom=" ++ Bound.text ⟨s.start, true⟩ ++
    " --dateTo=" ++ Bound.text ⟨s.stop, false⟩

def slicingFailure (verbose : Bool) : Fault → Report
  | .rejected rejection =>
    (Report.fail rejection.message).after [] (traceLines verbose [.slicingFailed])
  | fault => .ofFault fault

def sliceAll (verbose : Bool) (command : String) (s : Slicing) : Report :=
  let (slices, ending) := s.slices
  Report.after (slices.map (sliceCommand command))
      (traceLines verbose (s.slicesTrace slices.length)) <|
    match ending with
    | .failed fault => slicingFailure verbose fault
    | _ => ⟨[], [], .code 0⟩

/-- A range with an empty end is read up to that end, and then is a fault. -/
def openRange (start stop : Value) (period : Int) (unit : String) (now : Moment) :
    Except Fault Slicing :=
  match start, stop with
  | .text start, .text stop => Slicing.ofRange start stop period unit now
  | _, _ =>
    if 0 < period then do
      let _ ← start.bound now
      .error .noExpression
    else Slicing.rejectPeriod period

def openTrace (start stop : Value) (period : Int) (unit : String) (now : Moment) : List Event :=
  match start, stop with
  | .text start, .text stop => Slicing.openingTrace start stop period unit now
  | _, _ =>
    .slicing start.shown stop.shown period unit now ::
      if 0 < period then start.trace now else []

def sliceRange (verbose : Bool) (command : String) (observer : Observer) (start stop : Value)
    (period : Int) (unit : String) : Report :=
  let now := observer.now 0
  Report.after [] (traceAt verbose now (openTrace start stop period unit)) <|
    match now >>= openRange start stop period unit with
    | .ok slicing => sliceAll verbose command slicing
    | .error fault => slicingFailure verbose fault

def missing (name : String) : Report := .fail ("Missing command line argument <" ++ name ++ ">!")

def work (o : Options) (observer : Observer) : Report :=
  if o.describe.isEmpty then
    match o.dateFrom, o.dateTo, o.period, o.unit with
    | none, _, _, _ => missing "dateFrom"
    | _, none, _, _ => missing "dateTo"
    | _, _, none, _ => missing "period"
    | _, _, _, none => missing "unit"
    | some _, some _, some .empty, some _ => .ofFault .noNumber
    | some start, some stop, some (.text period), some unit =>
      match readWhole? period with
      | none => .fail ("Invalid period " ++ quoted period ++ ": expected an integer")
      | some period =>
        sliceRange o.verbose o.command.shown observer start stop period unit.shown
  else describeAll o.verbose observer 0 o.describe

/-- A folder in the place of a region is a fault of the file system, which is not handled. -/
def zoneFailure (tz : Option Value) : ZoneFault → Report
  | .folder name => .ofFault (.zone (.folder name))
  | fault => .fail ("Invalid timezone " ++ tz.elim "None" Value.cited ++ ": " ++ fault.message)

def report (arguments : List String) (environment : Option String) (clock : Clock) : Report :=
  match Options.read arguments with
  | .error fault =>
    ⟨[], usage ++ ["ERROR: Invalid command line: " ++ fault.message], .code 1⟩
  | .ok .help => ⟨help, [], .code 0⟩
  | .ok (.work options) =>
    match Zone.choose (options.tz.bind Value.text?) environment with
    | .error fault => zoneFailure options.tz fault
    | .ok zone => work options ⟨zone, clock⟩

end CivilRange.CommandLine
