import CivilRange.Proofs.Slicing.Length
import CivilRange.Proofs.Slicing.Unit

set_option autoImplicit false

namespace CivilRange

namespace Duration

variable {u u' : TimeUnit} {count : Nat}

structure SameTotals (d e : Duration) : Prop where
  months : d.totalMonths = e.totalMonths
  elapsed : d.elapsed = e.elapsed

theorem totals_withAmount (u : TimeUnit) (n : Nat) :
    (zero.withAmount u n).totalMonths = n * (zero.withAmount u 1).totalMonths ∧
      (zero.withAmount u n).elapsed = n * (zero.withAmount u 1).elapsed := by
  cases u <;>
    simp only [zero, withAmount, ofAmounts, amount, totalMonths, elapsed, reduceCtorEq,
      ↓reduceIte] <;>
    omega

theorem le_totals_withAmount (u : TimeUnit) (n : Nat) :
    n ≤ (zero.withAmount u n).totalMonths + (zero.withAmount u n).elapsed := by
  have more := (zero.shorterBy_withAmount u (Nat.zero_le n)).total
  omega

theorem withAmount_zero (u : TimeUnit) : zero.withAmount u 0 = zero := by cases u <;> rfl

theorem SameTotals.mul (same : (zero.withAmount u 1).SameTotals (zero.withAmount u' count))
    (n : Nat) : (zero.withAmount u n).SameTotals (zero.withAmount u' (n * count)) := by
  obtain ⟨months, elapsed⟩ := totals_withAmount u n
  obtain ⟨months', elapsed'⟩ := totals_withAmount u' count
  obtain ⟨months'', elapsed''⟩ := totals_withAmount u' (n * count)
  constructor
  · rw [months, same.months, months', months'', Nat.mul_assoc]
  · rw [elapsed, same.elapsed, elapsed', elapsed'', Nat.mul_assoc]

theorem SameTotals.count_pos (same : (zero.withAmount u 1).SameTotals (zero.withAmount u' count)) :
    0 < count := by
  obtain rfl | pos := Nat.eq_zero_or_pos count
  · have one := le_totals_withAmount u 1
    rw [same.months, same.elapsed, withAmount_zero] at one
    exact absurd one (by decide)
  · exact pos

end Duration

namespace Moment

variable {m moved : Moment} {sign : Sign} {d e : Duration}

theorem landsAt_iff_of_sameTotals (same : d.SameTotals e) :
    m.LandsAt sign d moved ↔ m.LandsAt sign e moved := by
  unfold LandsAt
  rw [same.months, same.elapsed]

/-- Both moves end at one moment, or each is rejected as itself. -/
def MovesAlike (m : Moment) (sign : Sign) (d e : Duration) : Prop :=
  (∃ moved, m.moveOrReject sign d = .ok moved ∧ m.moveOrReject sign e = .ok moved) ∨
    ∃ cause cause', m.moveOrReject sign d = .error (.rejected (.move m sign d cause)) ∧
      m.moveOrReject sign e = .error (.rejected (.move m sign e cause'))

theorem movesAlike_of_sameTotals (m : Moment) (sign : Sign) (same : d.SameTotals e) :
    m.MovesAlike sign d e := by
  have lands {moved : Moment} : m.move sign d = .ok moved ↔ m.move sign e = .ok moved := by
    rw [move_eq_ok_iff_landsAt, move_eq_ok_iff_landsAt]
    exact landsAt_iff_of_sameTotals same
  cases one : m.move sign d with
  | ok moved =>
    exact .inl ⟨moved, moveOrReject_eq_ok_iff.2 one, moveOrReject_eq_ok_iff.2 (lands.1 one)⟩
  | error cause =>
    cases other : m.move sign e with
    | ok moved => cases one.symm.trans (lands.2 other)
    | error cause' =>
      exact .inr ⟨cause, cause', moveOrReject_eq_error_iff.2 ⟨cause, one, rfl⟩,
        moveOrReject_eq_error_iff.2 ⟨cause', other, rfl⟩⟩

end Moment

inductive Ending.Alike : Ending → Ending → Prop
  | limit : Alike .limit .limit
  | done : Alike .done .done
  | failed (fault fault' : Fault) : Alike (.failed fault) (.failed fault')

namespace Slicing

variable {s s' : Slicing} {u u' : TimeUnit} {k n i : Nat} {origin : Bound} {m : Moment}
  {slice : Slice}

structure SameEdges (s s' : Slicing) : Prop where
  edge : ∀ k m, s.edge k = .ok m ↔ s'.edge k = .ok m
  limit : s.limit = s'.limit

namespace SameEdges

variable (same : s.SameEdges s')
include same

theorem sliceAt_eq_some_iff_sliceAt : s.sliceAt k = .ok (some slice) ↔
    s'.sliceAt k = .ok (some slice) := by
  simp only [sliceAt_eq_some_iff, same.edge, same.limit]

theorem sliceAt_eq_none_iff_sliceAt : s.sliceAt k = .ok none ↔
    s'.sliceAt k = .ok none := by
  simp only [sliceAt_eq_none_iff, same.edge, same.limit]

theorem take_eq : (Run.take n (Run.after s i)).1 = (Run.take n (Run.after s' i)).1 ∧
    (Run.take n (Run.after s i)).2.1.Alike (Run.take n (Run.after s' i)).2.1 := by
  induction n generalizing i with
  | zero => exact ⟨rfl, .limit⟩
  | succ n ih =>
    cases one : s.sliceAt i with
    | error fault =>
      cases other : s'.sliceAt i with
      | error fault' =>
        rw [Run.take_succ_of_error n one, Run.take_succ_of_error n other]
        exact ⟨rfl, .failed fault fault'⟩
      | ok found =>
        cases found with
        | none => cases one.symm.trans (same.sliceAt_eq_none_iff_sliceAt.2 other)
        | some slice => cases one.symm.trans (same.sliceAt_eq_some_iff_sliceAt.2 other)
    | ok found =>
      cases found with
      | none =>
        have other := same.sliceAt_eq_none_iff_sliceAt.1 one
        rw [Run.take_succ_of_none n one, Run.take_succ_of_none n other]
        exact ⟨rfl, .done⟩
      | some slice =>
        have other := same.sliceAt_eq_some_iff_sliceAt.1 one
        obtain ⟨slices, ending⟩ := ih (i := i + 1)
        rw [Run.take_succ_of_some one rfl, Run.take_succ_of_some other rfl]
        exact ⟨congrArg (slice :: ·) slices, ending⟩

end SameEdges

/-- However many slices are asked for, the two ranges give the same ones and end alike; and so they
do when all are asked for, at a moment of a zone. -/
structure SlicesAlike (s s' : Slicing) : Prop where
  taken : ∀ n, ((Run.start s).take n).1 = ((Run.start s').take n).1 ∧
    ((Run.start s).take n).2.1.Alike ((Run.start s').take n).2.1
  slices : ∀ z, s.now.zone = some z →
    s.slices.1 = s'.slices.1 ∧ s.slices.2.Alike s'.slices.2

theorem SameEdges.slicesAlike (same : s.SameEdges s') (opened : s.Opened) (opened' : s'.Opened)
    (now : s.now = s'.now) : s.SlicesAlike s' := by
  have alike (n : Nat) : ((Run.start s).take n).1 = ((Run.start s').take n).1 ∧
      ((Run.start s).take n).2.1.Alike ((Run.start s').take n).2.1 := by
    rw [Run.start_eq, Run.start_eq]
    exact same.take_eq
  refine ⟨alike, fun z zone => ?_⟩
  rcases one : (Run.start s).take (s.sliceBound + 1) with ⟨slices, ending, last⟩
  rcases other : (Run.start s').take (s.sliceBound + 1) with ⟨slices', ending', last'⟩
  have alike := alike (s.sliceBound + 1)
  rw [one, other] at alike
  obtain ⟨rfl, alike⟩ : slices = slices' ∧ ending.Alike ending' := alike
  have ended : ending ≠ .limit := by
    rintro rfl
    obtain ⟨⟨⟩⟩ | ⟨fault, ⟨⟩⟩ := ended_of_sliceBound_lt opened zone one (Nat.lt_succ_self _)
  have ended' : ending' ≠ .limit := by
    rintro rfl
    cases alike
    exact ended rfl
  rw [slices_of_take opened zone one ended, slices_of_take opened' (now ▸ zone) other ended']
  exact ⟨rfl, alike⟩

theorem not_isSign_of_namesUnit {unit : String} (named : NamesUnit unit u) :
    ∀ c ∈ unit.toList, isSign c = false := by
  obtain ⟨front, back, hf, hb, field, -⟩ := exists_unitField unit
  have whole : unit.toList = unitField unit ++ unit.toList.rtakeWhile (· == ':') :=
    List.rdropWhile_append_rtakeWhile.symm
  intro c mem
  apply Bool.eq_false_iff.2
  intro signed
  obtain rfl | rfl : c = '+' ∨ c = '-' := by simpa [isSign] using signed
  all_goals
    rw [whole, field, List.mem_append, List.mem_append, List.mem_append] at mem
    obtain (mem | mem | mem) | mem := mem
    · exact absurd (hf _ mem) (by decide)
    · exact absurd (named.word _ mem) (by decide)
    · exact absurd (hb _ mem) (by decide)
    · exact absurd (List.mem_rtakeWhile_imp mem) (by decide)

/-- The boundary of a named unit is where its count leads to: a number that is too long to be read
would lead out of the calendar as well. -/
theorem written_eq_ok_iff_landsAt {shape : Shape}
    (split : Shape.split? s.origin.toList = some shape) (bare : shape.suffix = none)
    (there : Bound.read s.origin s.now = .ok origin) (named : NamesUnit s.unit u) :
    s.written k = .ok m ↔ origin.moment.LandsAt .plus (Duration.zero.withAmount u k) m := by
  rw [written_eq_of_bare split bare (not_isSign_of_namesUnit named) there,
    Duration.read_of_namesUnit named (isCount_toDigits k)]
  simp only [bind_eq_ok_iff, map_eq_ok_iff, Moment.moveOrReject_eq_ok_iff,
    Moment.move_eq_ok_iff_landsAt]
  constructor
  · rintro ⟨d, ⟨n, number, rfl⟩, lands⟩
    rw [readNumber_eq_ok_iff, Nat.ofDigitChars_ten_toDigits] at number
    exact number.2 ▸ lands
  · intro lands
    have months := lands.totalMonths_lt
    have elapsed := lands.elapsed_lt
    have amount := Duration.le_totals_withAmount u k
    have large : 12 * (lastYear + 1) + dayCount * secondsPerDay ≤ numberLimit :=
      calc 12 * (lastYear + 1) + dayCount * secondsPerDay ≤ Nat.pow 10 12 := by decide
        _ ≤ numberLimit := pow_le_numberLimit (by decide)
    exact ⟨_, ⟨k, readNumber_toDigits (by omega), rfl⟩, lands⟩

theorem Opened.boundary_eq_ok_iff_landsAt (opened : s.Opened)
    (there : Bound.read s.origin s.now = .ok origin) (named : NamesUnit s.unit u) :
    s.boundary k = .ok m ↔ origin.moment.LandsAt .plus (Duration.zero.withAmount u k) m := by
  obtain ⟨shape, split, bare, -⟩ := opened.exists_bare
  rw [opened.boundary_eq_ok_iff]
  exact written_eq_ok_iff_landsAt split bare there named

theorem exists_ofRange_of_namesUnit {start stop unit unit' : String} {period period' : Int}
    {now : Moment} (named : NamesUnit unit u) (named' : NamesUnit unit' u') (pos : 0 < period')
    (h : ofRange start stop period unit now = .ok s) :
    ∃ s', ofRange start stop period' unit' now = .ok s' := by
  obtain ⟨opened, -⟩ := opened_of_ofRange h
  obtain ⟨⟨rfl, rfl, -, rfl⟩, ⟨origin, there⟩, limit, m, first⟩ := ofRange_eq_ok_iff.1 h
  obtain ⟨shape, split, bare, -⟩ := opened.exists_bare
  let s' : Slicing := ⟨s.origin, unit', period'.toNat, by omega, s.now, s.limit⟩
  have first' : s'.boundary 0 = .ok m := by
    rw [opened.boundary_eq_ok_iff_landsAt there named, Duration.withAmount_zero] at first
    rw [boundary_of_lt numberLimit_pos, written_eq_ok_iff_landsAt (s := s') split bare there named',
      Duration.withAmount_zero]
    exact first
  exact ⟨s', ofRange_eq_ok_iff.2
    ⟨⟨rfl, rfl, Int.toNat_of_nonneg (Int.le_of_lt pos), rfl⟩, ⟨origin, there⟩, limit, m, first'⟩⟩

theorem sameEdges_of_sameTotals {start stop unit unit' : String} {period : Int} {count : Nat}
    {now : Moment}
    (same : (Duration.zero.withAmount u 1).SameTotals (Duration.zero.withAmount u' count))
    (named : NamesUnit unit u) (named' : NamesUnit unit' u')
    (h : ofRange start stop period unit now = .ok s)
    (h' : ofRange start stop (period * count) unit' now = .ok s') : s.SameEdges s' := by
  obtain ⟨opened, -⟩ := opened_of_ofRange h
  obtain ⟨opened', -⟩ := opened_of_ofRange h'
  obtain ⟨⟨rfl, rfl, rfl, rfl⟩, ⟨origin, there⟩, ⟨limit, read, eq⟩, -⟩ := ofRange_eq_ok_iff.1 h
  obtain ⟨⟨start', rfl, period', now'⟩, -, ⟨limit', read', eq'⟩, -⟩ := ofRange_eq_ok_iff.1 h'
  have there' : Bound.read s'.origin s'.now = .ok origin := start' ▸ now' ▸ there
  have periods : s'.period = s.period * count := Int.ofNat.inj period'
  constructor
  · intro k m
    rw [edge, edge, opened.boundary_eq_ok_iff_landsAt there named,
      opened'.boundary_eq_ok_iff_landsAt there' named', periods, ← Nat.mul_assoc]
    exact Moment.landsAt_iff_of_sameTotals (same.mul _)
  · rw [← eq, ← eq', Except.ok.inj (read.symm.trans read')]

/-- Durations of the same totals move every moment alike. Where one unit is `count` of another, a
range that is sliced by the one can be sliced by `count` times as many of the other, and the slices
are the same; a year is twelve months, and a week is seven days or 168 hours. -/
theorem sameTotals_act_alike :
    (∀ d e : Duration, d.SameTotals e → ∀ (m : Moment) (sign : Sign), m.MovesAlike sign d e) ∧
      (∀ (u u' : TimeUnit) (count : Nat),
        (Duration.zero.withAmount u 1).SameTotals (Duration.zero.withAmount u' count) →
        ∀ (start stop unit unit' : String) (period : Int) (now : Moment),
          NamesUnit unit u → NamesUnit unit' u' →
          ((∃ s, ofRange start stop period unit now = .ok s) ↔
            ∃ s', ofRange start stop (period * count) unit' now = .ok s') ∧
          ∀ s s', ofRange start stop period unit now = .ok s →
            ofRange start stop (period * count) unit' now = .ok s' → s.SlicesAlike s') ∧
      (Duration.zero.withAmount .years 1).SameTotals (Duration.zero.withAmount .months 12) ∧
      (Duration.zero.withAmount .weeks 1).SameTotals (Duration.zero.withAmount .days 7) ∧
      (Duration.zero.withAmount .weeks 1).SameTotals (Duration.zero.withAmount .hours 168) := by
  refine ⟨fun d e same m sign => Moment.movesAlike_of_sameTotals m sign same, ?_,
    ⟨rfl, rfl⟩, ⟨rfl, rfl⟩, ⟨rfl, rfl⟩⟩
  intro u u' count same start stop unit unit' period now named named'
  have pos := Int.ofNat_lt.2 same.count_pos
  refine ⟨⟨?_, ?_⟩, ?_⟩
  · rintro ⟨s, h⟩
    obtain ⟨⟨-, -, rfl, -⟩, -⟩ := ofRange_eq_ok_iff.1 h
    exact exists_ofRange_of_namesUnit named named'
      (Int.mul_pos (Int.ofNat_lt.2 s.period_pos) pos) h
  · rintro ⟨s', h'⟩
    obtain ⟨⟨-, -, period', -⟩, -⟩ := ofRange_eq_ok_iff.1 h'
    have many : 0 < period * count := period' ▸ Int.ofNat_lt.2 s'.period_pos
    exact exists_ofRange_of_namesUnit named' named (Int.pos_of_mul_pos_left many pos) h'
  · intro s s' h h'
    obtain ⟨opened, now⟩ := opened_of_ofRange h
    obtain ⟨opened', now'⟩ := opened_of_ofRange h'
    exact (sameEdges_of_sameTotals same named named' h h').slicesAlike opened opened'
      (now.trans now'.symm)

def leapYears : Slicing :=
  ⟨"+2020:02:29", "years", 1, Nat.one_pos, julyEvening,
    ⟨⟨63813225600000000, by decide⟩, false, some (.region .utc)⟩⟩

def leapMonths : Slicing :=
  { leapYears with unit := "Month", period := 12, period_pos := by decide }

/-- Three years are given, each from the end of one February to the end of the next, and so are
three times twelve months. -/
theorem leapYears_alike :
    ((Duration.zero.withAmount .years 1).SameTotals (Duration.zero.withAmount .months 12) ∧
        NamesUnit "years" .years ∧ NamesUnit "Month" .months ∧
        ofRange "+2020:02:29" "-2023:03:01" 1 "years" julyEvening = .ok leapYears ∧
        ofRange "+2020:02:29" "-2023:03:01" 12 "Month" julyEvening = .ok leapMonths) ∧
      leapYears.SlicesAlike leapMonths ∧ ((Run.start leapMonths).take 4).1.length = 3 ∧
      julyEvening.MovesAlike .minus ⟨1, 1, 0, 0, 0, 0, 0⟩ ⟨0, 13, 0, 0, 0, 0, 0⟩ := by
  have origin : Bound.read "+2020:02:29" julyEvening =
      .ok ⟨⟨⟨63718531200000000, by decide⟩, false, some (.region .utc)⟩, true⟩ := by
    decide +kernel
  have limit : Bound.read "-2023:03:01" julyEvening = .ok ⟨leapYears.limit, false⟩ := by
    decide +kernel
  have first : leapYears.boundary 0 = .ok ⟨⟨63718531200000000, by decide⟩, false,
      some (.region .utc)⟩ := by decide +kernel
  have first' : leapMonths.boundary 0 = .ok ⟨⟨63718531200000000, by decide⟩, false,
      some (.region .utc)⟩ := by decide +kernel
  have years : ofRange "+2020:02:29" "-2023:03:01" 1 "years" julyEvening = .ok leapYears :=
    ofRange_eq_ok_iff.2 ⟨⟨rfl, rfl, rfl, rfl⟩, ⟨_, origin⟩, ⟨_, limit, rfl⟩, _, first⟩
  have months : ofRange "+2020:02:29" "-2023:03:01" 12 "Month" julyEvening = .ok leapMonths :=
    ofRange_eq_ok_iff.2 ⟨⟨rfl, rfl, rfl, rfl⟩, ⟨_, origin⟩, ⟨_, limit, rfl⟩, _, first'⟩
  have named : NamesUnit "years" .years := ⟨List.all_eq_true.1 (by decide), by decide⟩
  have named' : NamesUnit "Month" .months := ⟨List.all_eq_true.1 (by decide), by decide⟩
  obtain ⟨moves, slices, year, -⟩ := sameTotals_act_alike
  have alike : leapYears.SlicesAlike leapMonths :=
    (slices .years .months 12 year _ _ _ _ 1 _ named named').2 _ _ years months
  have three : ((Run.start leapMonths).take 4).1.length = 3 := by decide +kernel
  have same : Duration.SameTotals ⟨1, 1, 0, 0, 0, 0, 0⟩ ⟨0, 13, 0, 0, 0, 0, 0⟩ := ⟨rfl, rfl⟩
  exact ⟨⟨year, named, named', years, months⟩, alike, three, moves _ _ same julyEvening .minus⟩

end Slicing
end CivilRange
