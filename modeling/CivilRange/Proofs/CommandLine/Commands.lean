import CivilRange.Proofs.CommandLine.Printed
import CivilRange.Proofs.Expression.Text
import CivilRange.Proofs.Slicing.Tiling

set_option autoImplicit false

namespace CivilRange

/-- The slices of a range that may not have been opened, and the rejection that ends them. -/
inductive Slicing.Gives (opening : Except Fault Slicing) : List Slice → Option Rejection → Prop
  | refused {rejection : Rejection} (h : opening = .error (.rejected rejection)) :
      Gives opening [] (some rejection)
  | done {s : Slicing} {n : Nat} {slices : List Slice} {last : Run} (h : opening = .ok s)
      (taken : (Run.start s).take n = (slices, .done, last)) : Gives opening slices none
  | failed {s : Slicing} {n : Nat} {slices : List Slice} {last : Run} {rejection : Rejection}
      (h : opening = .ok s)
      (taken : (Run.start s).take n = (slices, .failed (.rejected rejection), last)) :
      Gives opening slices (some rejection)

theorem Slicing.Gives.exists_take {opening : Except Fault Slicing} {slices : List Slice}
    {rejection? : Option Rejection} (h : Gives opening slices rejection?) :
    slices = [] ∨ ∃ s n ending last, opening = .ok s ∧
      (Run.start s).take n = (slices, ending, last) := by
  cases h with
  | refused h => exact .inl rfl
  | done h taken => exact .inr ⟨_, _, _, _, h, taken⟩
  | failed h taken => exact .inr ⟨_, _, _, _, h, taken⟩

namespace Bound

variable {z : Zone} {m : Moment}

theorem newline_not_mem_text (b : Bound) : '\n' ∉ b.text.toList := by
  rw [toList_text]
  intro mem
  have date : '\n' ∈ Date.chars b.moment.reading.fields := by
    cases included : b.included <;> simpa [shape, Shape.chars, included, Sign.symbol] using mem
  rcases Date.mem_chars date with digit | colon
  · exact absurd digit (by decide)
  · exact absurd colon (by decide)

theorem exists_text_eq (m : Moment) :
    ∃ date, text ⟨m, false⟩ = "-" ++ date ∧ text ⟨m, true⟩ = "+" ++ date := by
  simp only [text, String.append_assoc]
  exact ⟨_, rfl, rfl⟩

/-- Wherever in the zone the text is read, it is a bound with the reading of `m`, to the second. -/
def ReadsBack (text : String) (z : Zone) (m : Moment) (included : Bool) : Prop :=
  ∀ now : Moment, now.zone = some z → ∃ b, read text now = .ok b ∧ b.included = included ∧
    b.moment.zone = some z ∧ b.moment.reading.fields = m.reading.fields ∧
    b.moment.reading.micro = 0

theorem readsBack_text (onClock : m.OnClock z) (included : Bool) :
    ReadsBack (text ⟨m, included⟩) z m included := by
  intro now zone
  have there := (read?_text_eq_ok_iff (b := ⟨m, included⟩) zone).2 ⟨onClock.shows, rfl⟩
  exact ⟨_, read?_eq_ok_some_iff.1 there, rfl, rfl, m.reading.fields_wholeSecond,
    m.reading.micro_wholeSecond⟩

end Bound

namespace CommandLine

variable {arguments : List String} {environment : Option String} {clock : Clock} {o : Options}
  {zone : Zone} {start stop : Value} {period : Int} {verbose : Bool} {unit command : String}
  {slices : List Slice} {rejection? : Option Rejection}

theorem digitValue?_lt {c : Char} {d : Nat} (h : digitValue? c = some d) : d < 10 := by
  unfold digitValue? at h
  split at h
  · split at h
    · rename_i digit
      have nine : c.toNat ≤ '9'.toNat := (Char.isDigit_iff_toNat.1 digit).2
      obtain rfl := Option.some.inj h
      change c.toNat ≤ 57 at nine
      change c.toNat - 48 < 10
      omega
    · cases h
  · obtain ⟨start, found, rfl⟩ := Option.map_eq_some_iff.1 h
    have within := List.find?_some found
    simp only [Bool.and_eq_true, decide_eq_true_eq] at within
    omega

theorem digitValues?_lt {s : List Char} {values : List Nat} (h : digitValues? s = some values) :
    ∀ d ∈ values, d < 10 := by
  fun_induction digitValues? s generalizing values with
  | case1 => cases h
  | case2 c =>
    obtain ⟨d, digit, rfl⟩ := Option.map_eq_some_iff.1 h
    simpa using digitValue?_lt digit
  | case3 c rest ih =>
    simp only [Option.bind_eq_bind, Option.bind_eq_some_iff] at h
    obtain ⟨d, digit, others, more, ⟨⟩⟩ := h
    exact List.forall_mem_cons.2 ⟨digitValue?_lt digit, ih more⟩
  | case4 c rest _ _ ih =>
    simp only [Option.bind_eq_bind, Option.bind_eq_some_iff] at h
    obtain ⟨d, digit, others, more, ⟨⟩⟩ := h
    exact List.forall_mem_cons.2 ⟨digitValue?_lt digit, ih more⟩

theorem foldl_digits_lt {values : List Nat} (h : ∀ d ∈ values, d < 10) (n : Nat) :
    values.foldl (fun n digit => 10 * n + digit) n < (n + 1) * Nat.pow 10 values.length := by
  induction values generalizing n with
  | nil => simp
  | cons d rest ih =>
    obtain ⟨digit, others⟩ := List.forall_mem_cons.1 h
    calc rest.foldl (fun n digit => 10 * n + digit) (10 * n + d)
        < (10 * n + d + 1) * Nat.pow 10 rest.length := ih others _
      _ ≤ ((n + 1) * 10) * Nat.pow 10 rest.length := Nat.mul_le_mul_right _ (by omega)
      _ = (n + 1) * Nat.pow 10 (d :: rest).length := by
        rw [Nat.mul_assoc, List.length_cons, Nat.mul_comm 10]
        rfl

theorem natAbs_lt_of_readWhole? {text : String} {n : Int} (h : readWhole? text = some n) :
    n.natAbs < numberLimit := by
  unfold readWhole? at h
  extract_lets s at h
  split at h
  rename_i negative digits _
  split at h
  · cases h
  · rename_i values found
    split at h
    · cases h
    · rename_i short
      have lt := foldl_digits_lt (digitValues?_lt found) 0
      rw [Nat.zero_add, Nat.one_mul] at lt
      have small := Nat.lt_of_lt_of_le lt (pow_le_numberLimit (Nat.not_lt.1 short))
      obtain rfl := Option.some.inj h
      split
      · rwa [Int.natAbs_neg]
      · exact small

/-- The arguments say which range is sliced, in which zone and under which options. A lone `--` that
is attached to the unit or to the command is the text `[]` there. -/
structure SpecifiesRange (arguments : List String) (environment : Option String) (o : Options)
    (zone : Zone) (start stop : Value) (unit command : String) (period : Int) : Prop where
  work : Options.read arguments = .ok (.work o)
  describe : o.describe = []
  zone : Zone.choose (o.tz.bind Value.text?) environment = .ok zone
  dateFrom : o.dateFrom = some start
  dateTo : o.dateTo = some stop
  unit : o.unit = some (.text unit) ∨ o.unit = some .empty ∧ unit = "[]"
  command : o.command = .text command ∨ o.command = .empty ∧ command = "[]"
  period : ∃ digits, o.period = some (.text digits) ∧ readWhole? digits = some period

theorem SpecifiesRange.report_eq
    (h : SpecifiesRange arguments environment o zone start stop unit command period) :
    report arguments environment clock =
      sliceRange o.verbose command ⟨zone, clock⟩ start stop period unit := by
  obtain ⟨digits, given, whole⟩ := h.period
  have empty : o.describe.isEmpty := by rw [h.describe]; rfl
  obtain ⟨unit', unit_eq, rfl⟩ : ∃ value, o.unit = some value ∧ value.shown = unit := by
    obtain text | ⟨empty, rfl⟩ := h.unit
    · exact ⟨_, text, rfl⟩
    · exact ⟨_, empty, rfl⟩
  obtain rfl : o.command.shown = command := by
    obtain text | ⟨empty, rfl⟩ := h.command
    · rw [text]; rfl
    · rw [empty]; rfl
  simp only [report, h.work, h.zone, CommandLine.work, empty, ↓reduceIte, h.dateFrom, h.dateTo,
    given, unit_eq, whole]

theorem newline_not_mem_sliceCommand (h : '\n' ∉ command.toList) (slice : Slice) :
    '\n' ∉ (sliceCommand command slice).toList := by
  have start := Bound.newline_not_mem_text ⟨slice.start, true⟩
  have stop := Bound.newline_not_mem_text ⟨slice.stop, false⟩
  simp [sliceCommand, h, start, stop]

theorem splitOn_linesText {lines : List String} (h : ∀ line ∈ lines, '\n' ∉ line.toList) :
    (Report.linesText lines).toList.splitOn '\n' = lines.map String.toList ++ [[]] := by
  induction lines with
  | nil => rfl
  | cons line rest ih =>
    obtain ⟨first, others⟩ := List.forall_mem_cons.1 h
    have text : (Report.linesText (line :: rest)).toList =
        line.toList ++ '\n' :: (Report.linesText rest).toList := by
      simp [Report.linesText]
    rw [text, List.splitOn_eq_splitOnP, List.splitOnP_append_cons _ _ (by simp),
      ← List.splitOn_eq_splitOnP, ← List.splitOn_eq_splitOnP, List.splitOn_eq_singleton first,
      ih others]
    rfl

/-- The output has a command for each slice, and the exit tells whether a rejection ended them; its
message is the last line on the other output. -/
structure Report.Prints (r : Report) (command : String) (slices : List Slice)
    (rejection? : Option Rejection) : Prop where
  output : r.output = slices.map (sliceCommand command)
  exit : r.exit = .code (if rejection?.isSome then 1 else 0)
  message : ∀ rejection, rejection? = some rejection →
    r.errors.getLast? = some ("ERROR: " ++ rejection.message)

theorem Report.Prints.after {r : Report} (h : r.Prints command slices rejection?)
    (earlier : List Slice) (errors : List String) :
    (r.after (earlier.map (sliceCommand command)) errors).Prints command (earlier ++ slices)
      rejection? := by
  refine ⟨?_, h.exit, ?_⟩
  · rw [output_after, h.output, List.map_append]
  · intro rejection given
    change (errors ++ r.errors).getLast? = _
    rw [List.getLast?_append, h.message rejection given]
    rfl

theorem prints_slicingFailure (rejection : Rejection) :
    (slicingFailure verbose (.rejected rejection)).Prints command [] (some rejection) := by
  refine Report.Prints.after ⟨rfl, rfl, ?_⟩ [] _
  rintro _ ⟨⟩
  rfl

theorem prints_success : Report.Prints ⟨[], [], .code 0⟩ command [] none :=
  ⟨rfl, rfl, fun _ given => nomatch given⟩

theorem prints_sliceAll {s : Slicing} {ending : Ending}
    (closes : Report.Prints
      (match ending with
        | .failed fault => slicingFailure verbose fault
        | _ => ⟨[], [], .code 0⟩) command [] rejection?)
    (h : s.slices = (slices, ending)) :
    (sliceAll verbose command s).Prints command slices rejection? := by
  have printed := closes.after slices (traceLines verbose (s.slicesTrace slices.length))
  rw [List.append_nil] at printed
  unfold sliceAll
  rwa [h]

theorem opened_of_openRange {observer : Observer} {text : String} {s : Slicing}
    (h : observer.now 0 >>= openRange start stop period text = .ok s) :
    s.Opened ∧ s.now.zone = some observer.zone := by
  obtain ⟨now, there, opens⟩ := bind_eq_ok_iff.1 h
  obtain ⟨first, last, -, range⟩ := openRange_eq_ok_iff.1 opens
  obtain ⟨opened, rfl⟩ := Slicing.opened_of_ofRange range
  exact ⟨opened, Observer.zone_of_now there⟩

theorem prints_sliceRange {observer : Observer} {text : String}
    (gives : Slicing.Gives (observer.now 0 >>= openRange start stop period text) slices
      rejection?) :
    (sliceRange verbose command observer start stop period text).Prints command slices
      rejection? := by
  unfold sliceRange
  dsimp only
  cases gives with
  | refused h =>
    rw [h]
    exact (prints_slicingFailure _).after [] _
  | done h taken =>
    obtain ⟨opened, zone⟩ := opened_of_openRange h
    rw [h]
    have all := Slicing.slices_of_take opened zone taken nofun
    refine (prints_sliceAll ?_ all).after [] _
    exact prints_success
  | failed h taken =>
    obtain ⟨opened, zone⟩ := opened_of_openRange h
    rw [h]
    have all := Slicing.slices_of_take opened zone taken nofun
    refine (prints_sliceAll ?_ all).after [] _
    exact prints_slicingFailure _

theorem onClock_of_gives {observer : Observer} {text : String} {slice : Slice}
    (gives : Slicing.Gives (observer.now 0 >>= openRange start stop period text) slices rejection?)
    (mem : slice ∈ slices) :
    slice.start.OnClock observer.zone ∧ slice.stop.OnClock observer.zone := by
  obtain rfl | ⟨s, n, ending, last, h, taken⟩ := gives.exists_take
  · cases mem
  · obtain ⟨opened, zone⟩ := opened_of_openRange h
    refine opened.onClock_of_mem zone (n := n) ?_
    rwa [taken]

theorem contiguous_of_gives {opening : Except Fault Slicing} {k : Nat} {a b : Slice}
    (gives : Slicing.Gives opening slices rejection?) (ha : slices[k]? = some a)
    (hb : slices[k + 1]? = some b) : a.stop = b.start := by
  obtain rfl | ⟨s, n, ending, last, -, taken⟩ := gives.exists_take
  · cases ha
  · exact Slicing.contiguous_of_take taken ha hb

def Report.Rejects (r : Report) (rejection : Rejection) : Prop :=
  r.output = [] ∧ r.exit = .code 1 ∧ r.errors.getLast? = some ("ERROR: " ++ rejection.message)

theorem Report.Prints.rejects {r : Report} {rejection : Rejection}
    (h : r.Prints command [] (some rejection)) : r.Rejects rejection :=
  ⟨h.output, h.exit, h.message rejection rfl⟩

theorem openRange_of_empty {now : Moment} (empty : start = .empty ∨ stop = .empty)
    (period : Int) (unit : String) : openRange start stop period unit now =
      if 0 < period then start.bound now >>= fun _ => .error .noExpression
      else Slicing.rejectPeriod period := by
  unfold openRange
  split
  · rcases empty with ⟨⟨⟩⟩ | ⟨⟨⟩⟩
  · rfl

theorem sliceRange_of_empty {observer : Observer} {now : Moment} (verbose : Bool)
    (command unit : String) (period : Int) (empty : start = .empty ∨ stop = .empty)
    (present : observer.now 0 = .ok now) :
    (period.natAbs < numberLimit → period ≤ 0 →
        (sliceRange verbose command observer start stop period unit).Rejects (.period period)) ∧
      (0 < period → (∀ rejection, start.bound now = .error (.rejected rejection) →
          (sliceRange verbose command observer start stop period unit).Rejects rejection) ∧
        (start = .empty ∨ (∃ b, start.bound now = .ok b) →
          (sliceRange verbose command observer start stop period unit).output = [] ∧
            (sliceRange verbose command observer start stop period unit).exit =
              .escaped .noExpression)) := by
  have opening : observer.now 0 >>= openRange start stop period unit =
      if 0 < period then start.bound now >>= fun _ => .error .noExpression
      else Slicing.rejectPeriod period := by
    rw [present]
    exact openRange_of_empty empty period unit
  refine ⟨fun small none => ?_, fun pos => ⟨fun rejection bad => ?_, fun good => ?_⟩⟩
  · rw [if_neg (by omega), Slicing.rejectPeriod_of_lt small] at opening
    exact (prints_sliceRange (.refused opening)).rejects
  · rw [if_pos pos, bad] at opening
    exact (prints_sliceRange (.refused opening)).rejects
  · rw [if_pos pos] at opening
    have failed : observer.now 0 >>= openRange start stop period unit = .error .noExpression := by
      rcases good with rfl | ⟨b, good⟩
      · exact opening
      · rw [opening, good]
        rfl
    unfold sliceRange
    dsimp only
    rw [failed]
    exact ⟨rfl, rfl⟩

/-- The output has a line for each slice, in order, and nothing else; the exit code and the last line
on the other output are those of the run's ending. In the zone the expressions of each line are read
as the ends of its slice, and one line's end is the next line's start. A lone `--` for an end of the
range is no text: nothing is printed, and after the period and the start have been checked that is a
fault which is not handled. -/
theorem commands_read_back
    (h : SpecifiesRange arguments environment o zone start stop unit command period)
    (line : '\n' ∉ command.toList) :
    (∀ first last slices rejection?, start = .text first → stop = .text last →
      Slicing.Gives (Observer.now ⟨zone, clock⟩ 0 >>= Slicing.ofRange first last period unit) slices
        rejection? →
      ((Report.linesText (report arguments environment clock).output).toList.splitOn '\n' =
            slices.map (fun slice => (command ++
              " --dateFrom=" ++ Bound.text ⟨slice.start, true⟩ ++
              " --dateTo=" ++ Bound.text ⟨slice.stop, false⟩).toList) ++ [[]] ∧
          (rejection? = none → (report arguments environment clock).exit = .code 0) ∧
          ∀ rejection, rejection? = some rejection →
            (report arguments environment clock).exit = .code 1 ∧
              (report arguments environment clock).errors.getLast? =
                some ("ERROR: " ++ rejection.message)) ∧
        (∀ slice ∈ slices,
          Bound.ReadsBack (Bound.text ⟨slice.start, true⟩) zone slice.start true ∧
            Bound.ReadsBack (Bound.text ⟨slice.stop, false⟩) zone slice.stop false) ∧
        ∀ k a b, slices[k]? = some a → slices[k + 1]? = some b → ∃ date,
          Bound.text ⟨a.stop, false⟩ = "-" ++ date ∧ Bound.text ⟨b.start, true⟩ = "+" ++ date) ∧
      (start = .empty ∨ stop = .empty → ∀ now, Observer.now ⟨zone, clock⟩ 0 = .ok now →
        (period ≤ 0 → (report arguments environment clock).Rejects (.period period)) ∧
          (0 < period → (∀ first rejection, start = .text first →
              Bound.read first now = .error (.rejected rejection) →
              (report arguments environment clock).Rejects rejection) ∧
            (start = .empty ∨ (∃ first b, start = .text first ∧ Bound.read first now = .ok b) →
              (report arguments environment clock).output = [] ∧
                (report arguments environment clock).exit = .escaped .noExpression))) := by
  rw [h.report_eq]
  refine ⟨?_, ?_⟩
  · rintro first last slices rejection? rfl rfl gives
    change Slicing.Gives (_ >>= openRange (.text first) (.text last) period unit) _ _ at gives
    have printed : (sliceRange o.verbose command ⟨zone, clock⟩ (.text first) (.text last) period
        unit).Prints command slices rejection? := prints_sliceRange gives
    refine ⟨⟨?_, ?_, ?_⟩, ?_, ?_⟩
    · rw [printed.output, splitOn_linesText, List.map_map]
      · rfl
      · intro text mem
        obtain ⟨slice, -, rfl⟩ := List.mem_map.1 mem
        exact newline_not_mem_sliceCommand line slice
    · rintro rfl
      exact printed.exit
    · rintro rejection rfl
      exact ⟨printed.exit, printed.message rejection rfl⟩
    · intro slice mem
      obtain ⟨start, stop⟩ := onClock_of_gives gives mem
      exact ⟨Bound.readsBack_text start true, Bound.readsBack_text stop false⟩
    · intro k a b ha hb
      rw [← contiguous_of_gives gives ha hb]
      exact Bound.exists_text_eq a.stop
  · intro empty now present
    obtain ⟨digits, -, whole⟩ := h.period
    obtain ⟨none, some⟩ := sliceRange_of_empty o.verbose command unit period empty present
    refine ⟨none (natAbs_lt_of_readWhole? whole), fun pos => ⟨?_, ?_⟩⟩
    · rintro first rejection rfl bad
      exact (some pos).1 rejection bad
    · rintro (rfl | ⟨first, b, rfl, good⟩)
      · exact (some pos).2 (.inl rfl)
      · exact (some pos).2 (.inr ⟨b, good⟩)

def rangeArguments (start stop unit : String) : List String :=
  ["--dateFrom=" ++ start, "--dateTo=" ++ stop, "--period=1", "--unit=" ++ unit, "--tz=UTC"]

def rangeOptions (start stop : Value) (unit : String) : Options :=
  { Options.initial with
    dateFrom := some start, dateTo := some stop, period := some (.text "1"),
    unit := some (.text unit), tz := some (.text "UTC") }

theorem specifiesRange_of_read (first last unit : String) (start stop : Value)
    (h : Options.read (rangeArguments first last unit) =
      .ok (.work (rangeOptions start stop unit))) :
    SpecifiesRange (rangeArguments first last unit) none (rangeOptions start stop unit)
      (.region .utc) start stop unit defaultCommand 1 := by
  have chosen : Zone.choose (some "UTC") none = .ok (.region .utc) := by decide +kernel
  exact ⟨h, rfl, chosen, rfl, rfl, .inl rfl, .inl rfl, "1", rfl, by decide +kernel⟩

/-- Two hours of a morning are two commands, which are read again; the last days of the calendar are
two commands as well, and then a rejection; and from a lone `--` there is no range. -/
theorem rangeCommands_read_back :
    (SpecifiesRange (rangeArguments "+2009:10:01:09" "-2009:10:01:11" "hour") none
        (rangeOptions (.text "+2009:10:01:09") (.text "-2009:10:01:11") "hour") (.region .utc)
        (.text "+2009:10:01:09") (.text "-2009:10:01:11") "hour" defaultCommand 1 ∧
      '\n' ∉ defaultCommand.toList ∧
      ∃ slices, Slicing.Gives (Observer.now ⟨.region .utc, fun _ => Slicing.firstMidnight⟩ 0 >>=
          Slicing.ofRange "+2009:10:01:09" "-2009:10:01:11" 1 "hour") slices none ∧
        slices.length = 2 ∧
        (report (rangeArguments "+2009:10:01:09" "-2009:10:01:11" "hour") none
          fun _ => Slicing.firstMidnight).exit = .code 0 ∧
        ∀ slice ∈ slices,
          Bound.ReadsBack (Bound.text ⟨slice.start, true⟩) (.region .utc) slice.start true ∧
            Bound.ReadsBack (Bound.text ⟨slice.stop, false⟩) (.region .utc) slice.stop false) ∧
      (∃ slices rejection,
        Slicing.Gives (Observer.now ⟨.region .utc, fun _ => Slicing.firstMidnight⟩ 0 >>=
          Slicing.ofRange "+9999:12:29" "+9999:12:31:23" 1 "days:3hours") slices
            (some rejection) ∧
        slices.length = 2 ∧
        (report (rangeArguments "+9999:12:29" "+9999:12:31:23" "days:3hours") none
          fun _ => Slicing.firstMidnight).exit = .code 1 ∧
        (report (rangeArguments "+9999:12:29" "+9999:12:31:23" "days:3hours") none
          fun _ => Slicing.firstMidnight).errors.getLast? =
            some ("ERROR: " ++ rejection.message)) ∧
      (report (rangeArguments "--" "+9999" "hour") none fun _ => Slicing.firstMidnight).exit =
        .escaped .noExpression := by
  have line : '\n' ∉ defaultCommand.toList := by decide +kernel
  have hours := specifiesRange_of_read "+2009:10:01:09" "-2009:10:01:11" "hour"
    (.text "+2009:10:01:09") (.text "-2009:10:01:11") (by decide +kernel)
  have days := specifiesRange_of_read "+9999:12:29" "+9999:12:31:23" "days:3hours"
    (.text "+9999:12:29") (.text "+9999:12:31:23") (by decide +kernel)
  have lone := specifiesRange_of_read "--" "+9999" "hour" .empty (.text "+9999")
    (by decide +kernel)
  have present : Observer.now ⟨.region .utc, fun _ => Slicing.firstMidnight⟩ 0 =
      .ok Slicing.firstMidnight := rfl
  refine ⟨⟨hours, line, ?_⟩, ?_, ?_⟩
  · obtain ⟨slices, last, taken, length⟩ :=
      Slicing.exists_done (s := Slicing.morningHours) (n := 3) (m := 2) (by decide +kernel)
    have gives := Slicing.Gives.done
      (bind_eq_ok_iff.2 ⟨_, present, Slicing.ofRange_morningHours⟩) taken
    obtain ⟨⟨-, success, -⟩, back, -⟩ := (commands_read_back hours line).1 _ _ _ _ rfl rfl gives
    exact ⟨slices, gives, length, success rfl, back⟩
  · obtain ⟨slices, last, taken, length⟩ := Slicing.take_lastDays
    have gives := Slicing.Gives.failed
      (bind_eq_ok_iff.2 ⟨_, present, Slicing.ofRange_lastDays⟩) taken
    obtain ⟨⟨-, -, failure⟩, -⟩ := (commands_read_back days line).1 _ _ _ _ rfl rfl gives
    exact ⟨slices, _, gives, length, failure _ rfl⟩
  · exact (((commands_read_back lone line).2 (.inl rfl) _ present).2 (by decide)).2 (.inl rfl) |>.2

end CommandLine
end CivilRange
