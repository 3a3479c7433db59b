import CivilRange.Fault
import CivilRange.Text.Lower

set_option autoImplicit false

namespace CivilRange

/-- Trailing empty fields are dropped; empty fields in the middle stay. -/
def colonChars (s : List Char) : List (List Char) :=
  ((s.splitOn ':').reverse.dropWhile List.isEmpty).reverse

def colonFields (text : String) : List String := (colonChars text.toList).map String.ofList

def isDigits (s : List Char) : Bool := !s.isEmpty && s.all Char.isDigit

/-- Leading zeros count as digits of a number; one with more than `maxDigits` is not read. -/
def readNumber (digits : List Char) : Except Fault Nat :=
  if maxDigits < digits.length then .error (.longNumber digits.length)
  else .ok (Nat.ofDigitChars 10 digits 0)

/-- Nor is a number written with more digits than that. -/
def writeNumber (n : Nat) : Except Fault (List Char) :=
  let digits := Nat.toDigits 10 n
  if maxDigits < digits.length then .error .unwritten else .ok digits

def Place.of (f : Fields) : Place → Nat
  | year => f.year
  | month => f.month
  | day => f.day
  | hour => f.hour
  | minute => f.minute
  | second => f.second

/-- The fields of a date by its leading values; there is no date without a year. -/
def Fields.ofValues? : List Nat → Option Fields
  | [] => none
  | year :: rest =>
    some ⟨year, rest.getD 0 1, rest.getD 1 1, rest.getD 2 0, rest.getD 3 0, rest.getD 4 0⟩

def isKeyword (s : List Char) : Bool := !s.isEmpty && s.all Char.isAlpha

namespace Date

def readPlace (text : String) (now : Fields) (place : Place) (field : List Char) :
    Except Fault Nat :=
  if isKeyword field then
    if field.map Char.toLower = place.name.toList then .ok (place.of now)
    else .error (.rejected (.date text (.keyword place (String.ofList field))))
  else if isDigits field then readNumber field
  else .error (.rejected (.date text (.field place (String.ofList field))))

def readPlaces (text : String) (now : Fields) :
    List Place → List (List Char) → Except Fault (List Nat)
  | place :: places, field :: fields => do
    let value ← readPlace text now place field
    let values ← readPlaces text now places fields
    return value :: values
  | _, _ => .ok []

def readFields (text : String) (now : Fields) : Except Fault Fields :=
  let fields := colonChars text.toList
  if Place.all.length < fields.length then
    .error (.rejected (.date text (.tooMany fields.length)))
  else do
    match Fields.ofValues? (← readPlaces text now Place.all fields) with
    | some f => .ok f
    | none => .error (.rejected (.date text .missingYear))

def locate (f : Fields) (zone : Zone) : Except DateFault Moment := do
  let reading ← f.reading.mapError .range
  let moment : Moment := ⟨reading, false, some zone⟩
  if ← moment.isShown.mapError .range then .ok moment else .error (.skipped reading zone)

def read (text : String) (now : Moment) : Except Fault Moment :=
  match now.zone with
  | none => .error (.floatingNow now)
  | some zone => do
    let f ← readFields text now.reading.fields
    (locate f zone).mapError fun cause => .rejected (.date text cause)

end Date
/-- Lower case, ending in an `s`: one `s` at the end is taken off before one is put on. -/
def normalUnitChars (word : List Char) : List Char :=
  let unit := lower word
  let stem := if unit.getLast? = some 's' then unit.dropLast else unit
  if stem.getLast? = some 's' then stem else stem ++ ['s']

def normalUnit (word : String) : String := String.ofList (normalUnitChars word.toList)

structure Token where
  digits : List Char
  word : List Char
deriving DecidableEq

/-- The number takes all leading digits, but leaves the last one to be the word if there is
nothing else. -/
def Token.read? (field : List Char) : Option Token :=
  let s := trim field
  let digits := s.takeWhile Char.isDigit
  let rest := s.dropWhile Char.isDigit
  if rest.isEmpty then
    match digits.getLast? with
    | some last => if digits.length < 2 then none else some ⟨digits.dropLast, [last]⟩
    | none => none
  else
    let word := rest.dropWhile isBlank
    if !digits.isEmpty && !word.isEmpty && word.all isWord then some ⟨digits, word⟩ else none

namespace Duration

def readField (text : String) (d : Duration) (rank : Nat) (field : List Char) :
    Except Fault (Duration × Nat) :=
  let reject (cause : DurationFault) := Except.error (.rejected (.duration text cause))
  match Token.read? field with
  | none => reject (.token (String.ofList field))
  | some token =>
    match TimeUnit.find? (String.ofList (normalUnitChars token.word)) with
    | none => reject (.unit (String.ofList token.word))
    | some unit =>
      if unit.rank ≤ rank then reject (.order unit)
      else do
        let n ← readNumber token.digits
        return (d.withAmount unit n, unit.rank)

def readFields (text : String) (d : Duration) (rank : Nat) :
    List (List Char) → Except Fault Duration
  | [] => .ok d
  | field :: rest => do
    let (d, rank) ← readField text d rank field
    readFields text d rank rest

def read (text : String) : Except Fault Duration :=
  match colonChars text.toList with
  | [] => .error (.rejected (.duration text .empty))
  | fields => readFields text .zero 0 fields

/-- The duration with these amounts; the first negative one, in descending significance, is a
fault. -/
def ofInts (amount : TimeUnit → Int) : Except Fault Duration :=
  match TimeUnit.all.find? fun unit => amount unit < 0 with
  | some unit => .error (.negativeAmount unit (amount unit))
  | none => .ok (ofAmounts fun unit => (amount unit).toNat)

/-- The duration with the named amounts, the last one where a name comes twice. -/
def ofNamed (amounts : List (String × Int)) : Except Fault Duration :=
  match amounts.find? fun pair => (TimeUnit.find? pair.1).isNone with
  | some pair => .error (.unknownField pair.1)
  | none => ofInts fun unit =>
    ((amounts.reverse.find? fun pair => pair.1 == unit.name).map (·.2)).getD 0

end Duration
end CivilRange
