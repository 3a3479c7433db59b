set_option autoImplicit false

namespace CivilRange

inductive Sign
  | plus
  | minus
deriving DecidableEq

namespace Sign

def symbol : Sign → Char
  | plus => '+'
  | minus => '-'

def ofSymbol? (c : Char) : Option Sign :=
  if c = '+' then some plus else if c = '-' then some minus else none

def text (s : Sign) : String := s.symbol.toString

def apply (n : Nat) : Sign → Int
  | plus => n
  | minus => -n

theorem ofSymbol?_eq_some (c : Char) (s : Sign) : ofSymbol? c = some s ↔ c = s.symbol := by
  cases s <;> simp only [ofSymbol?, symbol] <;> split <;> simp_all

end Sign

inductive TimeUnit
  | years
  | months
  | weeks
  | days
  | hours
  | minutes
  | seconds
deriving DecidableEq

namespace TimeUnit

def all : List TimeUnit := [years, months, weeks, days, hours, minutes, seconds]

def name : TimeUnit → String
  | years => "years"
  | months => "months"
  | weeks => "weeks"
  | days => "days"
  | hours => "hours"
  | minutes => "minutes"
  | seconds => "seconds"

/-- The place of a unit in descending significance, from 1. -/
def rank : TimeUnit → Nat
  | years => 1
  | months => 2
  | weeks => 3
  | days => 4
  | hours => 5
  | minutes => 6
  | seconds => 7

def find? (name : String) : Option TimeUnit := all.find? fun unit => unit.name == name

theorem mem_all (unit : TimeUnit) : unit ∈ all := by cases unit <;> decide

theorem find?_name (unit : TimeUnit) : find? unit.name = some unit := by cases unit <;> decide

end TimeUnit

@[ext] structure Duration where
  years : Nat
  months : Nat
  weeks : Nat
  days : Nat
  hours : Nat
  minutes : Nat
  seconds : Nat
deriving DecidableEq

namespace Duration

def ofAmounts (amount : TimeUnit → Nat) : Duration :=
  ⟨amount .years, amount .months, amount .weeks, amount .days, amount .hours, amount .minutes,
    amount .seconds⟩

def amount (d : Duration) : TimeUnit → Nat
  | .years => d.years
  | .months => d.months
  | .weeks => d.weeks
  | .days => d.days
  | .hours => d.hours
  | .minutes => d.minutes
  | .seconds => d.seconds

def zero : Duration := ofAmounts fun _ => 0

def withAmount (d : Duration) (unit : TimeUnit) (n : Nat) : Duration :=
  ofAmounts fun u => if u = unit then n else d.amount u

def totalMonths (d : Duration) : Nat := 12 * d.years + d.months

def elapsed (d : Duration) : Nat :=
  (((d.weeks * 7 + d.days) * 24 + d.hours) * 60 + d.minutes) * 60 + d.seconds

def part (d : Duration) (unit : TimeUnit) : Option String :=
  if d.amount unit = 0 then none else some (Nat.repr (d.amount unit) ++ unit.name)

/-- The units that are not zero, from years down, joined by colons. -/
def text (d : Duration) : String :=
  match TimeUnit.all.filterMap d.part with
  | [] => "0seconds"
  | parts => ":".intercalate parts

@[simp] theorem amount_ofAmounts (amount : TimeUnit → Nat) :
    (ofAmounts amount).amount = amount := by
  funext unit
  cases unit <;> rfl

@[simp] theorem ofAmounts_amount (d : Duration) : ofAmounts d.amount = d := rfl

end Duration
end CivilRange
