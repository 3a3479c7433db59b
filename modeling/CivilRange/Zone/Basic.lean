import CivilRange.Text.Quoted
import CivilRange.Zone.Recorded

set_option autoImplicit false

namespace CivilRange

inductive Region
  | utc
  | paris
  | newYork
  | saoPaulo
  | lordHowe
  | apia
  | tokyo
  | kolkata
  | kathmandu
  | monrovia
  | kiritimati
  | gmtPlus12
  | gmtMinus14
  | troll
deriving DecidableEq

namespace Region

def all : List Region := [.utc, .paris, .newYork, .saoPaulo, .lordHowe, .apia, .tokyo, .kolkata,
  .kathmandu, .monrovia, .kiritimati, .gmtPlus12, .gmtMinus14, .troll]

def name : Region → String
  | utc => "UTC"
  | paris => "Europe/Paris"
  | newYork => "America/New_York"
  | saoPaulo => "America/Sao_Paulo"
  | lordHowe => "Australia/Lord_Howe"
  | apia => "Pacific/Apia"
  | tokyo => "Asia/Tokyo"
  | kolkata => "Asia/Kolkata"
  | kathmandu => "Asia/Kathmandu"
  | monrovia => "Africa/Monrovia"
  | kiritimati => "Pacific/Kiritimati"
  | gmtPlus12 => "Etc/GMT+12"
  | gmtMinus14 => "Etc/GMT-14"
  | troll => "Antarctica/Troll"

def history : Region → History
  | utc => .constant 0
  | paris => .paris
  | newYork => .newYork
  | saoPaulo => .saoPaulo
  | lordHowe => .lordHowe
  | apia => .apia
  | tokyo => .tokyo
  | kolkata => .kolkata
  | kathmandu => .kathmandu
  | monrovia => .monrovia
  | kiritimati => .kiritimati
  | gmtPlus12 => .constant (-43200)
  | gmtMinus14 => .constant 50400
  | troll => .troll

def find? (name : String) : Option Region := all.find? fun region => region.name == name

end Region

inductive Zone
  | region (region : Region)
  | fixed (offset : Int)
  | system
deriving DecidableEq

def offsetText (offset : Int) : String :=
  let total := offset.natAbs
  (if offset < 0 then "-" else "+") ++ padded 2 (total / 3600) ++ ":" ++ padded 2 (total / 60 % 60) ++
    if total % 60 = 0 then "" else ":" ++ padded 2 (total % 60)

namespace Zone

def name : Zone → String
  | region r => r.name
  | fixed offset => if offset = 0 then "UTC" else "UTC" ++ offsetText offset
  | system => "tzlocal()"

def history : Zone → History
  | region r => r.history
  | fixed offset => .constant offset
  | system => .constant 0

end Zone
inductive ZoneFault
  | absolute (name : String)
  | notNormal (name : String)
  | outside (name : String)
  | unknown (name : String)
  | null
  | folder (name : String)
deriving DecidableEq

namespace ZoneFault

def message : ZoneFault → String
  | absolute name => "ZoneInfo keys may not be absolute paths, got: " ++ name
  | notNormal name => "ZoneInfo keys must be normalized relative paths, got: " ++ name
  | outside name => "ZoneInfo keys must refer to subdirectories of TZPATH, got: " ++ name
  | unknown name => quoted ("No time zone found with key " ++ name)
  | null => "embedded null byte"
  | folder name => "[Errno 21] Is a directory: " ++ quoted name

end ZoneFault

/-- One step of a relative path, on the steps before it in reverse: empty steps and `.` go nowhere,
and `..` takes back the step before it if there is one. -/
def takeStep (done : List (List Char)) (step : List Char) : List (List Char) :=
  if step = [] ∨ step = ['.'] then done
  else if step = ['.', '.'] then
    match done with
    | [] => [step]
    | last :: before => if last = ['.', '.'] then step :: done else before
  else step :: done

def normalSteps (steps : List (List Char)) : List (List Char) :=
  (steps.foldl takeStep []).reverse

/-- A path with no steps left is the directory itself, `.`. -/
def pathLength (steps : List (List Char)) : Nat :=
  if steps.isEmpty then 1 else (['/'].intercalate steps).length

def folders : List String := [
  "Africa", "America", "America/Argentina", "America/Indiana", "America/Kentucky",
  "America/North_Dakota", "Antarctica", "Arctic", "Asia", "Atlantic", "Australia", "Brazil",
  "Canada", "Chile", "Etc", "Europe", "Indian", "Mexico", "Pacific", "US"]

/-- A package is the database or a folder of it, by the steps to it with dots between them. -/
def isPackage (steps : List (List Char)) : Bool :=
  steps.isEmpty || folders.any fun folder =>
    folder.toList.map (fun c => if c = '/' then '.' else c) == ['.'].intercalate steps

def ZoneFault.ofName (name : String) (steps : List (List Char)) : ZoneFault :=
  if folders.contains name then folder name
  else if isPackage steps.dropLast && (steps.getLast?.getD []).contains '\x00' then null
  else unknown name

namespace Zone

def find (name : String) : Except ZoneFault Zone :=
  let steps := name.toList.splitOn '/'
  let normal := normalSteps steps
  if name.toList.head? = some '/' then .error (.absolute name)
  else if pathLength normal ≠ name.length then .error (.notNormal name)
  else
    match normalSteps (['_'] :: normal) with
    | ['_'] :: _ :: _ =>
      match Region.find? name with
      | some found => .ok (.region found)
      | none => .error (.ofName name steps)
    | _ => .error (.outside name)

/-- The named zone, else the one of the environment, else the system's; an empty name is none. -/
def choose (named environment : Option String) : Except ZoneFault Zone :=
  match named.filter (· ≠ "") <|> environment.filter (· ≠ "") with
  | some name => find name
  | none => .ok .system

end Zone
end CivilRange
