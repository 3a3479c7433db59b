import CivilRange.Proofs.CommandLine.Printed
import CivilRange.Proofs.Expression.LongNumber

set_option autoImplicit false

namespace CivilRange.CommandLine

open Slicing (julyEvening)

variable {arguments : List String} {environment : Option String} {clock : Clock} {o : Options}
  {zone : Zone} {observer : Observer} {reads n : Nat} {verbose : Bool} {values : List Value}
  {text line message : String} {texts traced : List String} {now : Moment} {b : Bound}
  {bounds : List Bound} {r : Report}

def Value.written (v : Value) : String := v.text?.getD "--"

/-- The bounds of the expressions before the first that stands for none, each at the moment of its
own clock reading. -/
structure LongestPrefix (observer : Observer) (reads : Nat) (texts : List String)
    (bounds : List Bound) : Prop where
  bound : ∀ k b, bounds[k]? = some b → ∃ text now, texts[k]? = some text ∧
    observer.now (reads + k) = .ok now ∧ Bound.read? text now = .ok (some b)
  stops : ∀ text now b, texts[bounds.length]? = some text →
    observer.now (reads + bounds.length) = .ok now → Bound.read? text now ≠ .ok (some b)

/-- What is said of a text that stands for no bound: why it is rejected, or that it is no expression
at all. -/
inductive Complaint (text : String) (now : Moment) : String → Prop
  | rejected {rejection : Rejection} (h : Bound.read? text now = .error (.rejected rejection)) :
      Complaint text now rejection.message
  | noExpression (h : Bound.read? text now = .ok none) :
      Complaint text now ("Invalid date specification (" ++ text ++ ")")

def IsTrace (line : String) : Prop := "DEBUG ".toList <+: line.toList

instance : DecidablePred IsTrace := fun line => inferInstanceAs (Decidable (_ <+: line.toList))

theorem IsTrace.append (h : IsTrace line) (more : String) : IsTrace (line ++ more) := by
  rw [IsTrace, String.toList_append]
  exact List.IsPrefix.trans h (List.prefix_append _ _)

theorem isTrace_line (event : Event) : IsTrace event.line := by
  cases event with
  | noShape text =>
    have front : IsTrace "DEBUG dateslice.expression: Expression " := by decide
    exact (front.append _).append _
  | date text m =>
    have front : IsTrace "DEBUG dateslice.dates: Parsed date " := by decide
    exact ((front.append _).append _).append _
  | duration text d =>
    have front : IsTrace "DEBUG dateslice.duration: Parsed duration " := by decide
    exact ((front.append _).append _).append _
  | slicing start stop period unit now =>
    have front : IsTrace "DEBUG dateslice.resolver: Slicing " := by decide
    exact ((((((front.append _).append _).append _).append _).append _).append _).append _
  | slice start stop =>
    have front : IsTrace "DEBUG dateslice.slicer: Emitting slice " := by decide
    exact ((front.append _).append _).append _
  | stopping stop limit =>
    have front : IsTrace "DEBUG dateslice.slicer: Slice end " := by decide
    exact (((front.append _).append _).append _).append _
  | slicingFailed => decide

theorem isTrace_of_mem_traceAt {events : Moment → List Event} {now : Except Fault Moment}
    (h : line ∈ traceAt verbose now events) : IsTrace line := by
  unfold traceAt traceLines at h
  split at h
  · split at h
    · obtain ⟨event, -, rfl⟩ := List.mem_map.1 h
      exact isTrace_line event
    · cases h
  · cases h

/-- The exit and the errors after `n` of the texts are described: success if there are no more, and
otherwise a failure with one message, which is about the next. -/
structure Report.EndsAfter (r : Report) (observer : Observer) (reads : Nat) (texts : List String)
    (n : Nat) : Prop where
  success : n = texts.length → r.exit = .code 0 ∧ ∀ line ∈ r.errors, IsTrace line
  failure : ∀ text now, texts[n]? = some text → observer.now (reads + n) = .ok now →
    r.exit = .code 1 ∧ ∃ traced message, Complaint text now message ∧
      r.errors = traced ++ ["ERROR: " ++ message] ∧ ∀ line ∈ traced, IsTrace line

theorem Report.EndsAfter.after (h : r.EndsAfter observer (reads + 1) texts n)
    (trace : ∀ line ∈ traced, IsTrace line) (text : String) (output : List String) :
    (r.after output traced).EndsAfter observer reads (text :: texts) (n + 1) := by
  constructor
  · intro all
    obtain ⟨exit, errors⟩ := h.success (Nat.succ.inj all)
    refine ⟨exit, fun line mem => ?_⟩
    exact (List.mem_append.1 mem).elim (trace line) (errors line)
  · intro next now there present
    rw [← Nat.add_assoc, Nat.add_right_comm] at present
    obtain ⟨exit, later, message, complaint, errors, traces⟩ := h.failure next now there present
    refine ⟨exit, traced ++ later, message, complaint, ?_, fun line mem => ?_⟩
    · rw [List.append_assoc, ← errors]
      rfl
    · exact (List.mem_append.1 mem).elim (trace line) (traces line)

theorem LongestPrefix.cons (present : observer.now reads = .ok now)
    (there : Bound.read? text now = .ok (some b))
    (h : LongestPrefix observer (reads + 1) texts bounds) :
    LongestPrefix observer reads (text :: texts) (b :: bounds) := by
  constructor
  · intro k c at_k
    cases k with
    | zero =>
      obtain rfl := Option.some.inj at_k
      exact ⟨text, now, rfl, present, there⟩
    | succ k =>
      rw [← Nat.add_assoc, Nat.add_right_comm]
      exact h.bound k c at_k
  · intro next now' c at_end present'
    rw [List.length_cons, ← Nat.add_assoc, Nat.add_right_comm] at present'
    exact h.stops next now' c at_end present'

theorem longestPrefix_nil : LongestPrefix observer reads [] [] := by
  refine ⟨nofun, ?_⟩
  rintro _ _ _ ⟨⟩

theorem longestPrefix_of_bad (present : observer.now reads = .ok now)
    (bad : ∀ b, Bound.read? text now ≠ .ok (some b)) :
    LongestPrefix observer reads (text :: texts) [] := by
  refine ⟨nofun, ?_⟩
  rintro _ now' b ⟨⟩ present'
  obtain rfl := Except.ok.inj (present.symm.trans present')
  exact bad b

theorem endsAfter_success : Report.EndsAfter ⟨[], [], .code 0⟩ observer reads [] 0 := by
  refine ⟨fun _ => ⟨rfl, nofun⟩, ?_⟩
  rintro _ _ ⟨⟩

theorem endsAfter_of_complaint (present : observer.now reads = .ok now)
    (complaint : Complaint text now message) (trace : ∀ line ∈ traced, IsTrace line) :
    ((Report.fail message).after [] traced).EndsAfter observer reads (text :: texts) 0 := by
  constructor
  · rintro ⟨⟩
  · rintro _ now' ⟨⟩ present'
    obtain rfl := Except.ok.inj (present.symm.trans present')
    exact ⟨rfl, traced, message, complaint, rfl, trace⟩

theorem read?_dashes (now : Moment) : Bound.read? "--" now = .ok none :=
  Bound.read?_eq_none_iff.2 <| by
    rintro ⟨s, whole⟩
    have split := Shape.of_iff_split?.1 whole
    rw [show Shape.split? "--".toList = none by decide] at split
    cases split

theorem describeAll_text (verbose : Bool) (text : String) (values : List Value)
    (present : observer.now reads = .ok now) (short : ∀ n, ¬LongRun text.toList n) :
    (∃ b, Bound.read? text now = .ok (some b) ∧
        describeAll verbose observer reads (.text text :: values) =
          (describeAll verbose observer (reads + 1) values).after
            [text ++ " => " ++ b.description] (traceAt verbose (.ok now) (expressionTrace text))) ∨
      ((∀ b, Bound.read? text now ≠ .ok (some b)) ∧ ∃ message, Complaint text now message ∧
        describeAll verbose observer reads (.text text :: values) =
          (Report.fail message).after [] (traceAt verbose (.ok now) (expressionTrace text))) := by
  have zone := Observer.zone_of_now present
  have step : observer.now reads >>= (Value.text text).description? = Bound.description? text now := by
    rw [present]
    rfl
  rw [describeAll, step, present, Bound.description?]
  cases read : Bound.read? text now with
  | error fault =>
    right
    obtain ⟨s, rejection, whole, kind, rfl⟩ | ⟨k, rfl⟩ := Bound.read?_fault zone read
    · exact ⟨nofun, _, .rejected read, rfl⟩
    · obtain ⟨s, whole, long⟩ := (Bound.read?_eq_longNumber_iff zone).1 read
      exact absurd (whole.2 ▸ long.longRun) (short k)
  | ok bound? =>
    cases bound? with
    | none => exact .inr ⟨nofun, _, .noExpression read, rfl⟩
    | some b => exact .inl ⟨b, rfl, rfl⟩

theorem describeAll_empty (verbose : Bool) (values : List Value)
    (present : observer.now reads = .ok now) :
    describeAll verbose observer reads (.empty :: values) =
      ⟨[], traceAt verbose (.ok now) fun _ => [], .escaped .noExpression⟩ := by
  rw [describeAll, present]
  exact congrArg (Report.mk [] · _) (List.append_nil _)

def describingLines (texts : List String) (bounds : List Bound) : List String :=
  List.zipWith (fun text bound => text ++ " => " ++ bound.description) texts bounds

structure Describes (observer : Observer) (reads : Nat) (values : List Value) (bounds : List Bound)
    (r : Report) : Prop where
  longest : LongestPrefix observer reads (values.map Value.written) bounds
  output : r.output = describingLines (values.map Value.written) bounds
  ends : values[bounds.length]? ≠ some .empty →
    r.EndsAfter observer reads (values.map Value.written) bounds.length
  escapes : values[bounds.length]? = some .empty → r.exit = .escaped .noExpression

theorem exists_describes (verbose : Bool) (clocked : ∀ k, ∃ now, observer.now k = .ok now)
    (short : ∀ v ∈ values, ∀ n, ¬LongRun v.written.toList n) (reads : Nat) :
    ∃ bounds, Describes observer reads values bounds
      (describeAll verbose observer reads values) := by
  -- every expression takes a reading, so what is left begins at another count of them
  induction values generalizing reads with
  | nil =>
    refine ⟨[], longestPrefix_nil, rfl, fun _ => endsAfter_success, ?_⟩
    rintro ⟨⟩
  | cons value values ih =>
    obtain ⟨now, present⟩ := clocked reads
    obtain ⟨first, others⟩ := List.forall_mem_cons.1 short
    cases value with
    | empty =>
      rw [describeAll_empty verbose values present]
      have bad : ∀ b, Bound.read? "--" now ≠ .ok (some b) := by
        intro b read
        cases (read?_dashes now).symm.trans read
      exact ⟨[], longestPrefix_of_bad present bad, rfl, fun other => absurd rfl other, fun _ => rfl⟩
    | text text =>
      obtain ⟨b, read, eq⟩ | ⟨bad, message, complaint, eq⟩ :=
        describeAll_text verbose text values present first
      · obtain ⟨bounds, rest⟩ := ih others (reads + 1)
        rw [eq]
        refine ⟨b :: bounds, rest.longest.cons present read, ?_, fun other => ?_, fun at_end => ?_⟩
        · rw [Report.output_after, rest.output]
          rfl
        · exact (rest.ends other).after (fun _ mem => isTrace_of_mem_traceAt mem) text _
        · exact rest.escapes at_end
      · rw [eq]
        refine ⟨[], longestPrefix_of_bad present bad, rfl, fun _ => ?_, ?_⟩
        · exact endsAfter_of_complaint present complaint fun _ mem => isTrace_of_mem_traceAt mem
        · rintro ⟨⟩

/-- Whatever else the arguments say, the expressions before the first that stands for no bound are
described, in order, and nothing after them is. The command line then ends with success if these are
all and otherwise with one message about the next, exactly if the next is not a lone `--`; that one
ends it with a fault. -/
theorem describes_up_to_first_bad (work : Options.read arguments = .ok (.work o))
    (given : o.describe ≠ [])
    (chosen : Zone.choose (o.tz.bind Value.text?) environment = .ok zone)
    (clocked : ∀ k, ∃ now, Observer.now ⟨zone, clock⟩ k = .ok now)
    (short : ∀ v ∈ o.describe, ∀ n, ¬LongRun v.written.toList n) :
    ∃ bounds, LongestPrefix ⟨zone, clock⟩ 0 (o.describe.map Value.written) bounds ∧
      (report arguments environment clock).output =
        describingLines (o.describe.map Value.written) bounds ∧
      ((report arguments environment clock).EndsAfter ⟨zone, clock⟩ 0
          (o.describe.map Value.written) bounds.length ↔
        o.describe[bounds.length]? ≠ some .empty) ∧
      (o.describe[bounds.length]? = some .empty →
        (report arguments environment clock).exit = .escaped .noExpression) := by
  have same : report arguments environment clock =
      describeAll o.verbose ⟨zone, clock⟩ 0 o.describe := by
    simp [report, work, chosen, CommandLine.work, given]
  obtain ⟨bounds, longest, output, ends, escapes⟩ := exists_describes o.verbose clocked short 0
  rw [same]
  refine ⟨bounds, longest, output, ⟨fun h empty => ?_, ends⟩, escapes⟩
  obtain ⟨now, present⟩ := clocked (0 + bounds.length)
  have next : (o.describe.map Value.written)[bounds.length]? = some "--" := by
    rw [List.getElem?_map, empty]
    rfl
  have code := (h.failure _ now next present).1
  rw [escapes empty] at code
  cases code

def describingArguments : List String :=
  ["--describe=+NOW", "--describe=-2022:07:07:22+1day", "--describe=12", "--describe=+2022",
    "--period=x", "--tz=UTC"]

def describingOptions : Options :=
  { Options.initial with
    describe := [.text "+NOW", .text "-2022:07:07:22+1day", .text "12", .text "+2022"],
    period := some (.text "x"), tz := some (.text "UTC") }

theorem describing_stops_at_number :
    (Options.read describingArguments = .ok (.work describingOptions) ∧
        describingOptions.describe ≠ [] ∧
        Zone.choose (describingOptions.tz.bind Value.text?) none = .ok (.region .utc) ∧
        (∀ k, ∃ now, Observer.now ⟨.region .utc, fun _ => julyEvening⟩ k = .ok now) ∧
        ∀ v ∈ describingOptions.describe, ∀ n, ¬LongRun v.written.toList n) ∧
      (report describingArguments none fun _ => julyEvening).output =
        ["+NOW => Thursday 07 July 2022 - 22:41:05 (included)",
          "-2022:07:07:22+1day => Friday 08 July 2022 - 22:00:00 (excluded)"] ∧
      (report describingArguments none fun _ => julyEvening).EndsAfter
        ⟨.region .utc, fun _ => julyEvening⟩ 0 (describingOptions.describe.map Value.written) 2 := by
  have work : Options.read describingArguments = .ok (.work describingOptions) := by decide +kernel
  have given : describingOptions.describe ≠ [] := List.cons_ne_nil _ _
  have chosen : Zone.choose (describingOptions.tz.bind Value.text?) none = .ok (.region .utc) := by
    decide +kernel
  have clocked : ∀ k, ∃ now, Observer.now ⟨.region .utc, fun _ => julyEvening⟩ k = .ok now :=
    fun _ => ⟨julyEvening, rfl⟩
  have lengths : ∀ v ∈ describingOptions.describe, v.written.toList.length ≤ maxDigits := by decide
  have short : ∀ v ∈ describingOptions.describe, ∀ n, ¬LongRun v.written.toList n :=
    fun v mem n run => absurd run.maxDigits_lt (Nat.not_lt.2 (lengths v mem))
  have printed : (report describingArguments none fun _ => julyEvening).output =
      ["+NOW => Thursday 07 July 2022 - 22:41:05 (included)",
        "-2022:07:07:22+1day => Friday 08 July 2022 - 22:00:00 (excluded)"] := by decide +kernel
  obtain ⟨bounds, -, output, ends, -⟩ := describes_up_to_first_bad work given chosen clocked short
  have two : bounds.length = 2 := by
    have count := congrArg List.length (printed.symm.trans output)
    simp only [describingLines, List.length_zipWith, List.length_map] at count
    change 2 = min 4 bounds.length at count
    omega
  rw [two] at ends
  exact ⟨⟨work, given, chosen, clocked, short⟩, printed, ends.2 (by decide)⟩

/-- A lone `--` is not said to be no expression. -/
theorem dashes_escape :
    Options.read ["--describe=--", "--tz=UTC"] = .ok (.work
        { Options.initial with describe := [.empty], tz := some (.text "UTC") }) ∧
      Value.written .empty = "--" ∧ Bound.read? "--" julyEvening = .ok none ∧
      (report ["--describe=--", "--tz=UTC"] none fun _ => julyEvening).exit =
        .escaped .noExpression ∧
      ¬(report ["--describe=--", "--tz=UTC"] none fun _ => julyEvening).EndsAfter
        ⟨.region .utc, fun _ => julyEvening⟩ 0 ["--"] 0 := by
  have exit : (report ["--describe=--", "--tz=UTC"] none fun _ => julyEvening).exit =
      .escaped .noExpression := by decide +kernel
  refine ⟨by decide +kernel, rfl, read?_dashes _, exit, fun ends => ?_⟩
  have code := (ends.failure "--" julyEvening rfl rfl).1
  rw [exit] at code
  cases code

end CivilRange.CommandLine
