import CivilRange.Duration
import CivilRange.Moment

set_option autoImplicit false

/-!
# Faults

A rejection is a fault of the text that a user wrote; the other faults are of the values that a
caller passed, or limits that no part of the text is blamed for.
-/
namespace CivilRange

inductive DateFault
  | tooMany (count : Nat)
  | field (place : Place) (field : String)
  | keyword (place : Place) (word : String)
  | missingYear
  | range (cause : RangeFault)
  | skipped (reading : Reading) (zone : Zone)
deriving DecidableEq

inductive DurationFault
  | empty
  | token (field : String)
  | unit (word : String)
  | order (repeated : TimeUnit)
deriving DecidableEq

inductive Rejection
  | shape (text : String)
  | date (text : String) (cause : DateFault)
  | duration (text : String) (cause : DurationFault)
  | move (moment : Moment) (sign : Sign) (amount : Duration) (cause : RangeFault)
  | period (period : Int)
deriving DecidableEq

inductive Fault
  | rejected (rejection : Rejection)
  /-- A number of more digits than are read. -/
  | longNumber (digits : Nat)
  /-- A number of more digits than are written. -/
  | unwritten
  | floatingNow (now : Moment)
  | floatingClock (reading : Moment)
  | reversed (start stop : Moment)
  /-- A comparison of a floating moment with one in a zone. -/
  | mixed
  | range (cause : RangeFault)
  | zone (cause : ZoneFault)
  | negativeAmount (unit : TimeUnit) (amount : Int)
  | unknownField (name : String)
  /-- No text where an expression is to be read. -/
  | noExpression
  | noNumber
deriving DecidableEq

def maxDigits : Nat := 4300

namespace DateFault

def message (text : String) : DateFault → String
  | tooMany count => "Too many date components in " ++ quoted text ++ s!": got {count}, " ++
      "at most 6 (year:month:day:hour:minute:second)"
  | field place found => "Invalid " ++ place.name ++ " component " ++ quoted found ++ " in " ++
      quoted text ++ "\nExpected an integer or the word '" ++ place.name ++ "'"
  | keyword place word => "Unexpected keyword " ++ quoted word ++ " at " ++ place.name ++
      " position in " ++ quoted text
  | missingYear => "Missing year in date " ++ quoted text
  | range cause => "Invalid date " ++ quoted text ++ ": " ++ cause.message
  | skipped reading zone =>
      "Local time " ++ reading.text ' ' ++ " does not exist in " ++ zone.name

end DateFault

namespace DurationFault

def message (text : String) : DurationFault → String
  | empty => "Empty duration: " ++ quoted text
  | token field => "Invalid duration token " ++ quoted field ++ " in " ++ quoted text ++
      "\nExpected <integer><unit>, e.g. '3days'"
  | unit word => "Unknown duration unit " ++ quoted word ++ " in " ++ quoted text ++
      ". Valid units: " ++ ", ".intercalate (TimeUnit.all.map TimeUnit.name)
  | order repeated => "Duration unit " ++ quoted repeated.name ++ " repeated or out of order in " ++
      quoted text ++ "\nHint: units must appear once each, from years down to seconds"

end DurationFault

namespace Rejection

def message : Rejection → String
  | shape text => "Invalid date specification: " ++ quoted text ++
      "\nExpected (+|-)<date>((+|-)<duration>)?, e.g. '+2010:10:01' or '-year:month:day+3hours'"
  | date text cause => cause.message text
  | duration text cause => cause.message text
  | move moment sign amount cause => moment.text ++ " " ++ sign.text ++ " " ++ amount.text ++
      " is out of range: " ++ cause.message
  | period n => s!"period must be positive, got {n}"

end Rejection

namespace Fault

def message : Fault → String
  | rejected rejection => rejection.message
  | longNumber digits => s!"Exceeds the limit ({maxDigits} digits) for integer string conversion: " ++
      s!"value has {digits} digits; use sys.set_int_max_str_digits() to increase the limit"
  | unwritten => s!"Exceeds the limit ({maxDigits} digits) for integer string conversion; " ++
      "use sys.set_int_max_str_digits() to increase the limit"
  | floatingNow now => "now must be a timezone-aware datetime, got " ++ now.fieldText
  | floatingClock reading => "Resolver clock must return a timezone-aware datetime.\n" ++
      "Got naive datetime: " ++ reading.fieldText
  | reversed start stop =>
      "Slice start (" ++ start.text ++ ") must be <= end (" ++ stop.text ++ ")"
  | mixed => "can't compare offset-naive and offset-aware datetimes"
  | range cause => cause.message
  | zone cause => cause.message
  | negativeAmount unit n => "Duration " ++ unit.name ++ s!" must be >= 0, got {n}"
  | unknownField name =>
      "Duration.__init__() got an unexpected keyword argument '" ++ name ++ "'"
  | noExpression => "expected string or bytes-like object, got 'list'"
  | noNumber =>
      "int() argument must be a string, a bytes-like object or a real number, not 'list'"

end Fault
end CivilRange
