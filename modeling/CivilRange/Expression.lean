import CivilRange.Written

set_option autoImplicit false

namespace CivilRange

/-- The least number that is rounded to infinity as a binary64 float. -/
def floatLimit : Nat := Nat.pow 2 1024 - Nat.pow 2 970

def maxDays : Nat := 999999999

namespace Duration

/-- The first amount that cannot be carried, before any moment is looked at. -/
def carryFault? (d : Duration) : Option RangeFault :=
  let days := d.elapsed / secondsPerDay
  if floatLimit ≤ d.months then some .monthsAboveFloat
  else if wordMax < days then some .daysAboveWord
  else if maxDays < days then some (.days days)
  else none

/-- Whole days taken back may be one more than the same time has put on. -/
def backFault? (d : Duration) (sign : Sign) : Option RangeFault :=
  let days := sign.apply d.elapsed / secondsPerDay
  if days < -(maxDays : Int) then some (.days days) else none

end Duration

namespace Moment

/-- The zone that a moved moment is in: a floating moment ends up in UTC. -/
def targetZone (m : Moment) : Zone := m.zone.getD (.fixed 0)

def move (sign : Sign) (d : Duration) (m : Moment) : Except RangeFault Moment :=
  match d.carryFault? with
  | some fault => .error fault
  | none => do
    let reading ← m.reading.addMonths (sign.apply d.totalMonths)
    let utc ← Moment.utc ⟨reading, false, m.zone⟩
    match d.backFault? sign with
    | some fault => .error fault
    | none =>
      match Reading.ofMicros? (utc.micros + microsOfSeconds (sign.apply d.elapsed)) with
      | some moved => m.targetZone.momentAt moved
      | none => .error .instant

def moveOrReject (sign : Sign) (d : Duration) (m : Moment) : Except Fault Moment :=
  (m.move sign d).mapError fun cause => .rejected (.move m sign d cause)

end Moment
def isSign (c : Char) : Bool := c == '+' || c == '-'

structure Shape where
  sign : Sign
  date : List Char
  suffix : Option (Sign × List Char)
deriving DecidableEq

namespace Shape

def suffix? : List Char → Option (Option (Sign × List Char))
  | [] => some none
  | c :: amount =>
    if amount.isEmpty || amount.any isSign then none
    else (Sign.ofSymbol? c).map fun sign => some (sign, amount)

def split? : List Char → Option Shape
  | [] => none
  | c :: rest => do
    let sign ← Sign.ofSymbol? c
    let date := rest.takeWhile (!isSign ·)
    if date.isEmpty then none
    else do
      let suffix ← suffix? (rest.dropWhile (!isSign ·))
      return ⟨sign, date, suffix⟩

def chars (s : Shape) : List Char :=
  s.sign.symbol :: s.date ++
    match s.suffix with
    | none => []
    | some (sign, amount) => sign.symbol :: amount

end Shape

structure Bound where
  moment : Moment
  included : Bool
deriving DecidableEq

def monthName (month : Nat) : String :=
  ["January", "February", "March", "April", "May", "June", "July", "August", "September",
    "October", "November", "December"].getD (month - 1) ""

def weekdayName (weekday : Nat) : String :=
  ["Monday", "Tuesday", "Wednesday", "Thursday", "Friday", "Saturday", "Sunday"].getD weekday ""

namespace Bound

def text (b : Bound) : String :=
  let f := b.moment.reading.fields
  (if b.included then "+" else "-") ++ padded 4 f.year ++ ":" ++ padded 2 f.month ++ ":" ++
    padded 2 f.day ++ ":" ++ padded 2 f.hour ++ ":" ++ padded 2 f.minute ++ ":" ++ padded 2 f.second

/-- The date in words; the year has as many digits as it needs. -/
def description (b : Bound) : String :=
  let r := b.moment.reading
  let f := r.fields
  weekdayName r.date.weekday ++ " " ++ padded 2 f.day ++ " " ++ monthName f.month ++ " " ++
    Nat.repr f.year ++ " - " ++ padded 2 f.hour ++ ":" ++ padded 2 f.minute ++ ":" ++
    padded 2 f.second ++ if b.included then " (included)" else " (excluded)"

end Bound

namespace Shape

def base (s : Shape) (now : Moment) : Except Fault Moment :=
  if lower s.date = "now".toList then .ok now else Date.read (String.ofList s.date) now

def moment (s : Shape) (now : Moment) : Except Fault Moment := do
  let base ← s.base now
  match s.suffix with
  | none => return base
  | some (sign, amount) =>
    let duration ← Duration.read (String.ofList amount)
    base.moveOrReject sign duration

def bound (s : Shape) (now : Moment) : Except Fault Bound := do
  return ⟨← s.moment now, s.sign = .plus⟩

end Shape

namespace Bound

def read? (text : String) (now : Moment) : Except Fault (Option Bound) :=
  match Shape.split? text.toList with
  | none => .ok none
  | some shape => some <$> shape.bound now

def read (text : String) (now : Moment) : Except Fault Bound :=
  match Shape.split? text.toList with
  | none => .error (.rejected (.shape text))
  | some shape => shape.bound now

def description? (text : String) (now : Moment) : Except Fault (Option String) :=
  Option.map description <$> read? text now

end Bound
end CivilRange
