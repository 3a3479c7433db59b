import CivilRange.CommandLine.Report
import CivilRange.Proofs.Slicing.Later
import CivilRange.Proofs.Slicing.Unit

set_option autoImplicit false

/-!
# What the command line prints for a range

Arguments that describe nothing print a command for each slice of the range that they open, and no
command otherwise. The commands of the slices before a fault are printed too.
-/
namespace CivilRange

def Ending.exit : Ending → CommandLine.Exit
  | .failed (.rejected _) => .code 1
  | .failed fault => .escaped fault
  | _ => .code 0

theorem Ending.exit_eq_zero_iff {ending : Ending} :
    ending.exit = .code 0 ↔ ∀ fault, ending ≠ .failed fault := by
  unfold exit
  split <;> simp_all

theorem Ending.exit_eq_one_iff {ending : Ending} :
    ending.exit = .code 1 ↔ ∃ rejection, ending = .failed (.rejected rejection) := by
  unfold exit
  split <;> simp_all

theorem Observer.zone_of_now {o : Observer} {k : Nat} {m : Moment} (h : o.now k = .ok m) :
    m.zone = some o.zone := by
  unfold now localise at h
  split at h
  · cases h
  · rw [mapError_eq_ok_iff] at h
    unfold Moment.toZone at h
    split at h
    · rename_i same
      exact Except.ok.inj h ▸ same
    · obtain ⟨utc, -, there⟩ := bind_eq_ok_iff.1 h
      exact Zone.zone_of_momentAt there

namespace CommandLine

open Slicing (julyEvening)

variable {arguments : List String} {environment : Option String} {clock : Clock} {o : Options}
  {s : Slicing} {verbose : Bool} {command : String}

@[simp] theorem Report.output_after (output errors : List String) (r : Report) :
    (r.after output errors).output = output ++ r.output := rfl

@[simp] theorem Report.exit_after (output errors : List String) (r : Report) :
    (r.after output errors).exit = r.exit := rfl

theorem slicingFailure_spec (verbose : Bool) (fault : Fault) :
    (slicingFailure verbose fault).output = [] ∧
      (slicingFailure verbose fault).exit = (Ending.failed fault).exit := by
  cases fault <;> exact ⟨rfl, rfl⟩

theorem sliceAll_spec :
    (sliceAll verbose command s).output = s.slices.1.map (sliceCommand command) ∧
      (sliceAll verbose command s).exit = s.slices.2.exit := by
  unfold sliceAll
  rcases s.slices with ⟨slices, ending⟩
  cases ending with
  | limit => simp [Ending.exit]
  | done => simp [Ending.exit]
  | failed fault =>
    obtain ⟨output, exit⟩ := slicingFailure_spec verbose fault
    simp [output, exit]

/-- The arguments open the range `s` by the clock. -/
structure Opens (arguments : List String) (environment : Option String) (clock : Clock)
    (o : Options) (s : Slicing) : Prop where
  work : Options.read arguments = .ok (.work o)
  present : ∃ zone, Zone.choose (o.tz.bind Value.text?) environment = .ok zone ∧
    Observer.now ⟨zone, clock⟩ 0 = .ok s.now
  range : ∃ start stop digits unit period,
    (o.dateFrom = some (.text start) ∧ o.dateTo = some (.text stop) ∧
      o.period = some (.text digits) ∧ o.unit = some unit) ∧
      readWhole? digits = some period ∧ Slicing.ofRange start stop period unit.shown s.now = .ok s

theorem Opens.opened (h : Opens arguments environment clock o s) :
    s.Opened ∧ ∃ z, s.now.zone = some z := by
  obtain ⟨zone, -, now⟩ := h.present
  obtain ⟨start, stop, digits, unit, period, -, -, range⟩ := h.range
  exact ⟨(Slicing.opened_of_ofRange range).1, zone, Observer.zone_of_now now⟩

def DescribesNothing (arguments : List String) : Prop :=
  ∀ o, Options.read arguments = .ok (.work o) → o.describe = []

theorem report_of_opens (none : DescribesNothing arguments)
    (h : Opens arguments environment clock o s) :
    (report arguments environment clock).output = s.slices.1.map (sliceCommand o.command.shown) ∧
      (report arguments environment clock).exit = s.slices.2.exit := by
  obtain ⟨work, ⟨zone, chosen, now⟩, start, stop, digits, unit, period, ⟨first, second, third, fourth⟩,
    whole, range⟩ := h
  have empty : o.describe.isEmpty := by rw [none o work]; rfl
  simp only [report, work, chosen, CommandLine.work, empty, ↓reduceIte, first, second, third, fourth,
    whole, sliceRange, now, openRange, bind, Except.bind, range, Report.output_after,
    Report.exit_after, List.nil_append]
  exact sliceAll_spec

theorem openRange_eq_ok_iff {start stop : Value} {period : Int} {unit : String} {now : Moment} :
    openRange start stop period unit now = .ok s ↔
      ∃ first last, (start = .text first ∧ stop = .text last) ∧
        Slicing.ofRange first last period unit now = .ok s := by
  unfold openRange
  split
  · simp
  · rename_i other
    constructor
    · intro h
      split at h
      · obtain ⟨b, -, ⟨⟩⟩ := bind_eq_ok_iff.1 h
      · exact absurd h (Slicing.rejectPeriod_ne_ok period)
    · rintro ⟨first, last, ⟨rfl, rfl⟩, -⟩
      exact absurd rfl (other first last rfl)

def Report.Silent (r : Report) : Prop := r.output = [] ∧ r.exit ≠ .code 0

theorem silent_fail (message : String) : (Report.fail message).Silent := ⟨rfl, nofun⟩

theorem silent_ofFault (fault : Fault) : (Report.ofFault fault).Silent := by
  cases fault <;> exact ⟨rfl, nofun⟩

theorem silent_zoneFailure (tz : Option Value) (fault : ZoneFault) :
    (zoneFailure tz fault).Silent := by
  cases fault with
  | folder name => exact silent_ofFault _
  | _ => exact silent_fail _

theorem silent_slicingFailure (verbose : Bool) (fault : Fault) :
    (slicingFailure verbose fault).Silent := by
  obtain ⟨output, exit⟩ := slicingFailure_spec verbose fault
  refine ⟨output, ?_⟩
  rw [exit, Ne, Ending.exit_eq_zero_iff]
  exact fun none => none fault rfl

theorem Report.Silent.after {r : Report} (h : r.Silent) (errors : List String) :
    (r.after [] errors).Silent := h

theorem sliceRange_silent {observer : Observer} {start stop : Value} {period : Int} {unit : String}
    (h : ∀ now s, observer.now 0 = .ok now → openRange start stop period unit now ≠ .ok s) :
    (sliceRange verbose command observer start stop period unit).Silent := by
  unfold sliceRange
  dsimp only
  split
  · rename_i s opens
    obtain ⟨now, there, range⟩ := bind_eq_ok_iff.1 opens
    exact absurd range (h now s there)
  · exact (silent_slicingFailure _ _).after _

theorem work_silent {zone : Zone} (none : DescribesNothing arguments)
    (read : Options.read arguments = .ok (.work o))
    (chosen : Zone.choose (o.tz.bind Value.text?) environment = .ok zone)
    (h : ∀ o s, ¬Opens arguments environment clock o s) : (work o ⟨zone, clock⟩).Silent := by
  have empty : o.describe.isEmpty := by rw [none o read]; rfl
  unfold work
  rw [if_pos empty]
  split
  · exact silent_fail _
  · exact silent_fail _
  · exact silent_fail _
  · exact silent_fail _
  · exact silent_ofFault _
  · rename_i start stop digits unit first second third fourth
    split
    · exact silent_fail _
    · rename_i period whole
      refine sliceRange_silent fun now s there range => ?_
      obtain ⟨first', last', ⟨rfl, rfl⟩, range⟩ := openRange_eq_ok_iff.1 range
      obtain ⟨-, rfl⟩ := Slicing.opened_of_ofRange range
      exact h o s ⟨read, ⟨zone, chosen, there⟩,
        ⟨_, _, _, _, _, ⟨first, second, third, fourth⟩, whole, range⟩⟩

theorem report_of_not_opens (none : DescribesNothing arguments)
    (h : ∀ o s, ¬Opens arguments environment clock o s) :
    (report arguments environment clock).Silent ∨
      report arguments environment clock = ⟨help, [], .code 0⟩ := by
  unfold report
  split
  · exact .inl ⟨rfl, nofun⟩
  · exact .inr rfl
  · rename_i o read
    split
    · exact .inl (silent_zoneFailure _ _)
    · rename_i zone chosen
      exact .inl (work_silent none read chosen h)

/-- Exits of a kind that success is not of come with no output, exactly if no range that is opened
fails late with one. -/
theorem silent_iff (none : DescribesNothing arguments) (kind : Exit → Prop)
    (failure : ¬kind (.code 0)) :
    (kind (report arguments environment clock).exit →
        (report arguments environment clock).output = []) ↔
      ∀ o s fault, Opens arguments environment clock o s → s.FailsLate fault →
        ¬kind (Ending.failed fault).exit := by
  constructor
  · intro silent o s fault opens late bad
    obtain ⟨opened, z, zone⟩ := opens.opened
    obtain ⟨filled, ending⟩ := (opened.failsLate_iff zone).1 late
    obtain ⟨output, exit⟩ := report_of_opens none opens
    rw [exit, output, ending] at silent
    exact filled (List.map_eq_nil_iff.1 (silent bad))
  · intro never bad
    by_cases opens : ∃ o s, Opens arguments environment clock o s
    · obtain ⟨o, s, opens⟩ := opens
      obtain ⟨opened, z, zone⟩ := opens.opened
      obtain ⟨output, exit⟩ := report_of_opens none opens
      rw [exit] at bad
      rw [output, List.map_eq_nil_iff]
      by_contra filled
      cases ending : s.slices.2 with
      | limit =>
        rw [ending] at bad
        exact failure bad
      | done =>
        rw [ending] at bad
        exact failure bad
      | failed fault =>
        rw [ending] at bad
        exact never o s fault opens ((opened.failsLate_iff zone).2 ⟨filled, ending⟩) bad
    · rcases report_of_not_opens none fun o s h => opens ⟨o, s, h⟩ with silent | success
      · exact silent.1
      · rw [success] at bad
        exact absurd bad failure

/-- Without descriptions, a command line that fails with code 1 has printed nothing, if no range
that it opens fails late on a rejection; and it prints in successful runs only, if none fails late
at all. Late rejections are of boundaries that lead out of the calendar. If no range is opened, then
nothing is printed, unless it is help. -/
theorem prints_all_or_nothing_iff (none : DescribesNothing arguments) :
    (((report arguments environment clock).exit = .code 1 →
        (report arguments environment clock).output = []) ↔
      ∀ o s rejection, Opens arguments environment clock o s → ¬s.FailsLate (.rejected rejection)) ∧
    (((report arguments environment clock).output ≠ [] →
        (report arguments environment clock).exit = .code 0) ↔
      ∀ o s fault, Opens arguments environment clock o s → ¬s.FailsLate fault) ∧
    (∀ o s, Opens arguments environment clock o s →
      (report arguments environment clock).output =
        s.slices.1.map (sliceCommand o.command.shown) ∧
      ∀ rejection, s.FailsLate (.rejected rejection) →
        ∃ (origin : Bound) (amount : Duration) (cause : RangeFault),
          Bound.read s.origin s.now = .ok origin ∧
            rejection = .move origin.moment .plus amount cause ∧
              ¬∃ m, origin.moment.LandsAt .plus amount m) ∧
    ((∀ o s, ¬Opens arguments environment clock o s) →
      (report arguments environment clock).Silent ∨
        report arguments environment clock = ⟨help, [], .code 0⟩) := by
  refine ⟨?_, ?_, ?_, report_of_not_opens none⟩
  · rw [silent_iff none (· = .code 1) nofun]
    constructor
    · intro never o s rejection opens late
      exact never o s _ opens late rfl
    · intro never o s fault opens late one
      obtain ⟨rejection, same⟩ := Ending.exit_eq_one_iff.1 one
      exact never o s rejection opens (Ending.failed.inj same ▸ late)
  · rw [← not_imp_not, not_not, silent_iff none (· ≠ .code 0) (by simp)]
    constructor
    · intro never o s fault opens late
      refine never o s fault opens late fun success => ?_
      exact Ending.exit_eq_zero_iff.1 success fault rfl
    · intro never o s fault opens late
      exact absurd late (never o s fault opens)
  · intro o s opens
    obtain ⟨opened, z, zone⟩ := opens.opened
    exact ⟨(report_of_opens none opens).1, fun rejection => opened.move_of_failsLate zone⟩

def dayArguments (start : String) : List String :=
  ["--dateFrom=" ++ start, "--dateTo=+9999:12:31:23", "--period=1", "--unit=day", "--tz=UTC"]

theorem dayArguments_read (start : String) (h : start = "+9999:12:30" ∨ start = "+9999:12:31") :
    DescribesNothing (dayArguments start) := by
  have read : Options.read (dayArguments start) = .ok (.work
      { Options.initial with
        dateFrom := some (.text start), dateTo := some (.text "+9999:12:31:23"),
        period := some (.text "1"), unit := some (.text "day"), tz := some (.text "UTC") }) := by
    rcases h with rfl | rfl <;> decide +kernel
  intro o work
  cases read.symm.trans work
  rfl

theorem lastDay_silent :
    DescribesNothing (dayArguments "+9999:12:31") ∧
      (report (dayArguments "+9999:12:31") none fun _ => julyEvening).exit = .code 1 ∧
      ∀ o s rejection, Opens (dayArguments "+9999:12:31") none (fun _ => julyEvening) o s →
        ¬s.FailsLate (.rejected rejection) := by
  have nothing : DescribesNothing (dayArguments "+9999:12:31") := dayArguments_read _ (.inr rfl)
  have silent : (report (dayArguments "+9999:12:31") none fun _ => julyEvening).exit = .code 1 ∧
      (report (dayArguments "+9999:12:31") none fun _ => julyEvening).output = [] := by
    decide +kernel
  exact ⟨nothing, silent.1, (prints_all_or_nothing_iff nothing).1.1 fun _ => silent.2⟩

/-- From the midnight before there is one, which is printed before the command line fails. -/
theorem lastDays_printed :
    DescribesNothing (dayArguments "+9999:12:30") ∧
      (report (dayArguments "+9999:12:30") none fun _ => julyEvening).exit = .code 1 ∧
      (report (dayArguments "+9999:12:30") none fun _ => julyEvening).output =
        ["perl myCommand.pl --dateFrom=+9999:12:30:00:00:00 --dateTo=-9999:12:31:00:00:00"] := by
  refine ⟨dayArguments_read _ (.inl rfl), ?_⟩
  decide +kernel

end CommandLine
end CivilRange
