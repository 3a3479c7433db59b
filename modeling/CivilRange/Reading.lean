import CivilRange.Calendar
import CivilRange.Text.Quoted

set_option autoImplicit false

namespace CivilRange

def wordMax : Nat := 2147483647

def longMax : Nat := 9223372036854775807

inductive RangeFault
  | fieldAboveLong
  | fieldAboveWord
  | fieldBelowWord
  | year (year : Int)
  | month
  | day
  | hour
  | minute
  | second
  | instant
  | monthsAboveFloat
  | daysAboveWord
  | days (days : Int)
deriving DecidableEq

namespace RangeFault

def message : RangeFault → String
  | fieldAboveLong => "Python int too large to convert to C long"
  | fieldAboveWord => "signed integer is greater than maximum"
  | fieldBelowWord => "signed integer is less than minimum"
  | year n => s!"year {n} is out of range"
  | month => "month must be in 1..12"
  | day => "day is out of range for month"
  | hour => "hour must be in 0..23"
  | minute => "minute must be in 0..59"
  | second => "second must be in 0..59"
  | instant => "date value out of range"
  | monthsAboveFloat => "int too large to convert to float"
  | daysAboveWord => "Python int too large to convert to C int"
  | days n => s!"days={n}; must have magnitude <= 999999999"

end RangeFault

def microsPerSecond : Nat := 1000000
def secondsPerDay : Nat := 86400
def microsPerDay : Nat := secondsPerDay * microsPerSecond
def readingCount : Nat := dayCount * microsPerDay

structure Reading where
  micros : Nat
  micros_lt : micros < readingCount
deriving DecidableEq

/-- Six numbers offered as a date and a time of day. -/
structure Fields where
  year : Nat
  month : Nat
  day : Nat
  hour : Nat
  minute : Nat
  second : Nat
deriving DecidableEq

namespace Reading

def ofMicros? (micros : Int) : Option Reading :=
  if h : 0 ≤ micros ∧ micros < readingCount then some ⟨micros.toNat, by omega⟩ else none

def ofDate (date : Date) (timeOfDay : Nat) (h : timeOfDay < microsPerDay) : Reading :=
  ⟨date.dayNumber * microsPerDay + timeOfDay, by
    have := date.dayNumber_lt
    simp only [readingCount, microsPerDay, secondsPerDay, microsPerSecond] at *
    omega⟩

theorem dayNumber_lt (r : Reading) : r.micros / microsPerDay < dayCount := by
  have := r.micros_lt
  simp only [readingCount, microsPerDay, secondsPerDay, microsPerSecond] at *
  omega

def date (r : Reading) : Date := Date.ofDayNumber (r.micros / microsPerDay) r.dayNumber_lt

def timeOfDay (r : Reading) : Nat := r.micros % microsPerDay

theorem timeOfDay_lt (r : Reading) : r.timeOfDay < microsPerDay := Nat.mod_lt _ (by decide)

def hour (r : Reading) : Nat := r.micros / (3600 * microsPerSecond) % 24
def minute (r : Reading) : Nat := r.micros / (60 * microsPerSecond) % 60
def second (r : Reading) : Nat := r.micros / microsPerSecond % 60
def micro (r : Reading) : Nat := r.micros % microsPerSecond

def seconds (r : Reading) : Nat := r.micros / microsPerSecond

def fields (r : Reading) : Fields :=
  let date := r.date
  ⟨date.year, date.month, date.day, r.hour, r.minute, r.second⟩

end Reading

namespace Fields

/-- The first number too wide for a machine word, in the order in which they are written. -/
def widthFault? (f : Fields) : Option RangeFault :=
  [f.year, f.month, f.day, f.hour, f.minute, f.second].findSome? fun n =>
    if longMax < n then some .fieldAboveLong
    else if wordMax < n then some .fieldAboveWord
    else none

def ValidTime (f : Fields) : Prop := f.hour < 24 ∧ f.minute < 60 ∧ f.second < 60

instance (f : Fields) : Decidable f.ValidTime := inferInstanceAs (Decidable (_ ∧ _))

def dateFault (f : Fields) : RangeFault :=
  if ¬(1 ≤ f.year ∧ f.year ≤ lastYear) then .year f.year
  else if ¬(1 ≤ f.month ∧ f.month ≤ 12) then .month
  else .day

def timeFault (f : Fields) : RangeFault :=
  if ¬f.hour < 24 then .hour else if ¬f.minute < 60 then .minute else .second

def timeOfDay (f : Fields) : Nat := ((f.hour * 60 + f.minute) * 60 + f.second) * microsPerSecond

theorem timeOfDay_lt (f : Fields) (h : f.ValidTime) : f.timeOfDay < microsPerDay := by
  obtain ⟨hour, minute, second⟩ := h
  simp only [timeOfDay, microsPerDay, secondsPerDay, microsPerSecond]
  omega

def reading (f : Fields) : Except RangeFault Reading :=
  match f.widthFault? with
  | some fault => .error fault
  | none =>
    if date : ValidDate f.year f.month f.day then
      if time : f.ValidTime then
        .ok (.ofDate ⟨f.year, f.month, f.day, date⟩ f.timeOfDay (f.timeOfDay_lt time))
      else .error f.timeFault
    else .error f.dateFault

end Fields

theorem Fields.eq_ofDate_of_reading {f : Fields} {r : Reading} (h : f.reading = .ok r) :
    ∃ (date : ValidDate f.year f.month f.day) (time : f.ValidTime),
      r = .ofDate ⟨f.year, f.month, f.day, date⟩ f.timeOfDay (f.timeOfDay_lt time) := by
  unfold reading at h
  split at h
  · cases h
  · split at h
    · rename_i date
      split at h
      · rename_i time
        exact ⟨date, time, (Except.ok.inj h).symm⟩
      · cases h
    · cases h

namespace Reading

theorem date_ofDate (date : Date) (timeOfDay : Nat) (h : timeOfDay < microsPerDay) :
    (ofDate date timeOfDay h).date = date := by
  have day : (date.dayNumber * microsPerDay + timeOfDay) / microsPerDay = date.dayNumber := by
    simp only [microsPerDay, secondsPerDay, microsPerSecond] at *
    omega
  rw [← date.ofDayNumber_dayNumber]
  simp only [Reading.date, ofDate, day, date.ofDayNumber_dayNumber]

theorem ofDate_date (r : Reading) : ofDate r.date r.timeOfDay r.timeOfDay_lt = r := by
  obtain ⟨micros, lt⟩ := r
  simp only [ofDate, date, Date.dayNumber_ofDayNumber, timeOfDay, mk.injEq]
  exact Nat.div_add_mod' micros microsPerDay

theorem fields_of_reading {f : Fields} {r : Reading} (h : f.reading = .ok r) :
    r.fields = f ∧ r.micro = 0 := by
  obtain ⟨date, time, rfl⟩ := Fields.eq_ofDate_of_reading h
  have shown := date_ofDate ⟨f.year, f.month, f.day, date⟩ f.timeOfDay (f.timeOfDay_lt time)
  obtain ⟨year, month, day, hour, minute, second⟩ := f
  obtain ⟨hour_lt, minute_lt, second_lt⟩ := time
  dsimp only at hour_lt minute_lt second_lt
  simp only [fields, shown]
  simp only [Reading.hour, Reading.minute, Reading.second, micro, ofDate, Fields.timeOfDay,
    microsPerDay, secondsPerDay, microsPerSecond, Fields.mk.injEq, true_and]
  omega

def text (separator : Char) (r : Reading) : String :=
  let f := r.fields
  padded 4 f.year ++ "-" ++ padded 2 f.month ++ "-" ++ padded 2 f.day ++ separator.toString ++
    padded 2 f.hour ++ ":" ++ padded 2 f.minute ++ ":" ++ padded 2 f.second ++
    if r.micro = 0 then "" else "." ++ padded 6 r.micro

end Reading

/-- A year that the machine word of a date cannot carry. -/
def yearFault? (year : Int) : Option RangeFault :=
  if longMax < year ∨ year < -(longMax : Int) - 1 then some .fieldAboveLong
  else if wordMax < year then some .fieldAboveWord
  else if year < -(wordMax : Int) - 1 then some .fieldBelowWord
  else none

theorem validDate_monthIndex {index : Int} {day : Nat}
    (range : 1 ≤ index / 12 ∧ index / 12 ≤ lastYear) (h : 1 ≤ day) :
    ValidDate (index / 12).toNat ((index % 12).toNat + 1)
      (min day (monthLength (index / 12).toNat ((index % 12).toNat + 1))) :=
  ⟨by omega, by omega, Nat.le_min.2 ⟨h, monthLength_pos _ _⟩, Nat.min_le_right _ _⟩

namespace Date

def monthIndex (date : Date) : Nat := 12 * date.year + (date.month - 1)

/-- The day of month `index`, or the month's last day if it is shorter. -/
def ofMonthIndex (index : Int) (day : Nat) (h : 1 ≤ day) : Except RangeFault Date :=
  match yearFault? (index / 12) with
  | some fault => .error fault
  | none =>
    if range : 1 ≤ index / 12 ∧ index / 12 ≤ lastYear then
      .ok ⟨_, _, _, validDate_monthIndex range h⟩
    else .error (.year (index / 12))

end Date

namespace Reading

/-- The same day of the month and time of day, `months` months later. -/
def addMonths (r : Reading) (months : Int) : Except RangeFault Reading := do
  let date ← Date.ofMonthIndex (r.date.monthIndex + months) r.date.day r.date.valid.2.2.1
  return .ofDate date r.timeOfDay r.timeOfDay_lt

end Reading

inductive Place
  | year
  | month
  | day
  | hour
  | minute
  | second
deriving DecidableEq

namespace Place

def all : List Place := [year, month, day, hour, minute, second]

def name : Place → String
  | year => "year"
  | month => "month"
  | day => "day"
  | hour => "hour"
  | minute => "minute"
  | second => "second"

end Place
end CivilRange
