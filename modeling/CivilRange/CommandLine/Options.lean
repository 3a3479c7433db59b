import CivilRange.Text.Quoted

set_option autoImplicit false

namespace CivilRange.CommandLine

def defaultCommand : String := "perl myCommand.pl"

def usage : List String := [
  "usage: dateslice [-h] [--dateFrom EXPR] [--dateTo EXPR] [--period N]",
  "                 [--unit UNIT] [--command COMMAND] [--tz ZONE]",
  "                 [--describe EXPR] [-v]"]

def help : List String := usage ++ [
  "",
  "Print one command per slice of a date range.",
  "",
  "options:",
  "  -h, --help         show this help message and exit",
  "  --dateFrom EXPR    Beginning of the range, e.g. +2010:10:01 or",
  "                     +2010:10:01:21:55:00",
  "  --dateTo EXPR      End of the range, e.g. -2010:10:02",
  "  --period N         Size of each slice, in --unit",
  "  --unit UNIT        Unit of --period (year, month, ..., second)",
  "  --command COMMAND  Command prefix of each generated line (default: 'perl",
  "                     myCommand.pl')",
  "  --tz ZONE          IANA timezone (default: $DATESLICE_TZ or local)",
  "  --describe EXPR    Print the resolved date of EXPR instead of slicing",
  "                     (repeatable)",
  "  -v, --verbose      Log debug output to stderr",
  "",
  "Expressions: (+|-)<date>((+|-)<duration>)?",
  "  <date>      NOW, or year[:month[:day[:hour[:minute[:second]]]]] where each",
  "              component is an integer or its own name (current value)",
  "  <duration>  e.g. 1year:2months:3days or 15minutes",
  "",
  "Values starting with '-' must be attached with '=', e.g. --dateTo=-2010:10:02",
  "",
  "Example:",
  "  python -m dateslice --dateFrom=+2010:11:01 --dateTo=+2011:01:01 --period=1 --unit=day"]

/-- A lone `--` that is attached to an option is taken out, and leaves the value empty. -/
inductive Value
  | text (text : String)
  | empty
deriving DecidableEq

namespace Value

def ofAttached (s : String) : Value := if s = "--" then empty else text s

def text? : Value → Option String
  | text s => some s
  | empty => none

def shown (v : Value) : String := v.text?.getD "[]"

def cited (v : Value) : String := v.text?.elim "[]" quoted

end Value

inductive Setting
  | dateFrom
  | dateTo
  | period
  | unit
  | command
  | tz
  | describe
deriving DecidableEq

inductive Flag
  | help
  | verbose
deriving DecidableEq

inductive OptionKind
  | flag (flag : Flag)
  | setting (setting : Setting)
deriving DecidableEq

structure Options where
  dateFrom : Option Value
  dateTo : Option Value
  period : Option Value
  unit : Option Value
  command : Value
  tz : Option Value
  describe : List Value
  verbose : Bool
deriving DecidableEq

inductive UsageFault
  | ambiguous (argument : String) (names : List String)
  | valueMissing (setting : Setting)
  | valueIgnored (flag : Flag) (value : String)
  | unrecognised (arguments : List String)
deriving DecidableEq

inductive Argument
  | value (text : String)
  | separator
  | flag (flag : Flag) (short : Bool) (attached : Option String)
  | setting (setting : Setting) (attached : Option String)
  | unknown (text : String)
deriving DecidableEq

inductive Request
  | help
  | work (options : Options)
deriving DecidableEq

def Setting.name : Setting → String
  | dateFrom => "--dateFrom"
  | dateTo => "--dateTo"
  | period => "--period"
  | unit => "--unit"
  | command => "--command"
  | tz => "--tz"
  | describe => "--describe"

def Flag.name : Flag → String
  | help => "-h/--help"
  | verbose => "-v/--verbose"

def Flag.ofLetter? (c : Char) : Option Flag :=
  if c = 'h' then some .help else if c = 'v' then some .verbose else none

/-- The names of all options, in the order of the usage. -/
def optionNames : List (String × OptionKind) := [
  ("-h", .flag .help),
  ("--help", .flag .help),
  ("--dateFrom", .setting .dateFrom),
  ("--dateTo", .setting .dateTo),
  ("--period", .setting .period),
  ("--unit", .setting .unit),
  ("--command", .setting .command),
  ("--tz", .setting .tz),
  ("--describe", .setting .describe),
  ("-v", .flag .verbose),
  ("--verbose", .flag .verbose)]

namespace UsageFault

def message : UsageFault → String
  | ambiguous argument names =>
      "ambiguous option: " ++ argument ++ " could match " ++ ", ".intercalate names
  | valueMissing setting => "argument " ++ setting.name ++ ": expected one argument"
  | valueIgnored flag value =>
      "argument " ++ flag.name ++ ": ignored explicit argument " ++ quoted value
  | unrecognised arguments => "unrecognized arguments: " ++ " ".intercalate arguments

end UsageFault

def splitValue (argument : List Char) : List Char × Option (List Char) :=
  let name := argument.takeWhile (· != '=')
  match argument.dropWhile (· != '=') with
  | [] => (name, none)
  | _ :: value => (name, some value)

def isDecimal (s : List Char) : Bool := !s.isEmpty && s.all fun c => (digitValue? c).isSome

/-- `-12`, `-1.5` or `-.5`, possibly before a line end. -/
def isNegativeNumber (argument : List Char) : Bool :=
  let line := if argument.getLast? = some '\n' then argument.dropLast else argument
  match line with
  | '-' :: number =>
    let whole := number.takeWhile (· != '.')
    match number.dropWhile (· != '.') with
    | [] => isDecimal whole
    | _ :: decimals => (whole.isEmpty || isDecimal whole) && isDecimal decimals
  | _ => false

namespace Argument

def ofOption (name : List Char) (attached : Option (List Char)) : OptionKind → Argument
  | .flag f => flag f (name.length == 2) (attached.map String.ofList)
  | .setting s => setting s (attached.map String.ofList)

/-- The options that an abbreviation may stand for, with the value attached to it. A long name may
be cut short; a short one may be followed by its value. -/
def candidates (argument : List Char) : List (String × Argument) :=
  match argument with
  | '-' :: '-' :: _ =>
    let (name, attached) := splitValue argument
    (optionNames.filter fun pair => name.isPrefixOf pair.1.toList).map fun pair =>
      (pair.1, ofOption pair.1.toList attached pair.2)
  | dash :: letter :: rest =>
    (optionNames.filter fun pair => pair.1.toList == [dash, letter]).map fun pair =>
      (pair.1, ofOption [dash, letter] (some rest) pair.2)
  | _ => []

def named? (name : List Char) : Option OptionKind :=
  optionNames.lookup (String.ofList name)

def classify (text : String) : Except UsageFault Argument :=
  let argument := text.toList
  let (name, attached) := splitValue argument
  if argument.head? ≠ some '-' then .ok (value text)
  else if let some kind := named? argument then .ok (ofOption argument none kind)
  else if argument.length = 1 then .ok (value text)
  else
    match attached, named? name with
    | some _, some kind => .ok (ofOption name attached kind)
    | _, _ =>
      match candidates argument with
      | [(_, found)] => .ok found
      | [] =>
        if isNegativeNumber argument || argument.contains ' ' then .ok (value text)
        else .ok (unknown text)
      | several => .error (.ambiguous text (several.map (·.1)))

def classifyAll : List String → Except UsageFault (List Argument)
  | [] => .ok []
  | text :: rest =>
    if text = "--" then .ok (separator :: rest.map value)
    else do
      let first ← classify text
      return first :: (← classifyAll rest)

end Argument

def flagChain (flag : Flag) : List Char → Except UsageFault (List Flag)
  | [] => .ok [flag]
  | letter :: rest =>
    match Flag.ofLetter? letter with
    | some next => (flag :: ·) <$> flagChain next rest
    | none => .error (.valueIgnored flag (String.ofList (letter :: rest)))

def flagsOf (flag : Flag) (short : Bool) : Option String → Except UsageFault (List Flag)
  | none => .ok [flag]
  | some value =>
    if short && value != "" then flagChain flag value.toList
    else .error (.valueIgnored flag value)

namespace Options

def initial : Options := ⟨none, none, none, none, .text defaultCommand, none, [], false⟩

def set (o : Options) (value : Value) : Setting → Options
  | .dateFrom => { o with dateFrom := some value }
  | .dateTo => { o with dateTo := some value }
  | .period => { o with period := some value }
  | .unit => { o with unit := some value }
  | .command => { o with command := value }
  | .tz => { o with tz := some value }
  | .describe => { o with describe := o.describe ++ [value] }

/-- What the arguments ask for, after some that gave `o` and left `extras`. Help is given as soon
as it is reached. -/
def readFrom (o : Options) (extras : List String) : List Argument → Except UsageFault Request
  | [] => if extras.isEmpty then .ok (.work o) else .error (.unrecognised extras)
  | .value text :: rest => readFrom o (extras ++ [text]) rest
  | .separator :: rest => readFrom o (extras ++ ["--"]) rest
  | .unknown text :: rest => readFrom o (extras ++ [text]) rest
  | .flag flag short attached :: rest => do
    let flags ← flagsOf flag short attached
    if flags.contains .help then .ok .help else readFrom { o with verbose := true } extras rest
  | .setting setting (some text) :: rest =>
    readFrom (o.set (.ofAttached text) setting) extras rest
  | .setting setting none :: .value text :: rest =>
    readFrom (o.set (.text text) setting) extras rest
  | .setting setting none :: _ => .error (.valueMissing setting)

def read (arguments : List String) : Except UsageFault Request := do
  readFrom initial [] (← Argument.classifyAll arguments)

end Options
end CivilRange.CommandLine
