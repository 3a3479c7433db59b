import CivilRange.Proofs.Date.Written
import CivilRange.Proofs.Slicing.Clock

set_option autoImplicit false

/-!
# The text of a bound

The text of a bound gives the wall clock reading to the second, and no fold. So reading it leads to
the first instant at which the zone's clock shows that reading, if there is one at all: what is lost
are the microseconds, the second showing of a repeated reading, and a reading that is never shown.
-/
namespace CivilRange

variable {now now' m : Moment} {z : Zone} {r : Reading} {f : Fields} {field : List Char}
  {included : Bool} {b back : Bound}

def Fields.widths (f : Fields) : List (Nat × Nat) :=
  [(4, f.year), (2, f.month), (2, f.day), (2, f.hour), (2, f.minute), (2, f.second)]

def Fields.written (f : Fields) : List (List Char) :=
  f.widths.map fun number => (padded number.1 number.2).toList

theorem Fields.isCount_of_mem_written (h : field ∈ f.written) : IsCount field := by
  obtain ⟨number, -, rfl⟩ := List.mem_map.1 h
  exact isCount_padded number.1 number.2

theorem Fields.length_le_of_mem_written (h : field ∈ r.fields.written) :
    field.length ≤ maxDigits := by
  obtain ⟨⟨-, year⟩, ⟨-, month⟩, -, day⟩ := r.validDate_fields
  obtain ⟨hour, minute, second⟩ := r.validTime_fields
  have length := monthLength_le r.fields.year r.fields.month
  have four : Nat.pow 10 4 = 10000 := rfl
  have most : 4 ≤ maxDigits := by decide
  have small : ∀ number ∈ r.fields.widths, number.1 ≤ 4 ∧ number.2 < Nat.pow 10 4 := by
    simp only [lastYear] at year
    simp only [widths, List.forall_mem_cons, List.not_mem_nil, false_imp_iff, implies_true,
      and_true]
    omega
  obtain ⟨number, mem, rfl⟩ := List.mem_map.1 h
  obtain ⟨wide, lt⟩ := small number mem
  exact Nat.le_trans (length_padded_le (by decide) wide lt) most

theorem Place.has_padded (shows : Fields) (place : Place) (width n : Nat) :
    place.Has shows (some (padded width n).toList) n := by
  have number : place.Has shows _ _ := .number (isDigits_padded width n)
  rwa [ofDigitChars_padded] at number

namespace Date

def chars (f : Fields) : List Char := [':'].intercalate f.written

theorem mem_chars {c : Char} (h : c ∈ chars f) : c.isDigit = true ∨ c = ':' := by
  obtain colon | ⟨field, written, mem⟩ := mem_of_mem_intercalate h
  · exact .inr (List.mem_singleton.1 colon)
  · exact .inl ((Fields.isCount_of_mem_written written).2 c mem)

theorem hasFields_chars (f : Fields) : HasFields (chars f) f.written := by
  refine ⟨?_, ?_, 0, by simp [chars]⟩
  · intro field mem
    exact (Fields.isCount_of_mem_written mem).colon_not_mem
  · intro field mem
    exact (Fields.isCount_of_mem_written (List.mem_of_getLast? mem)).1

theorem chars_ne_nil (f : Fields) : chars f ≠ [] := by
  intro nil
  have fields := (hasFields_chars f).colonChars_eq
  rw [nil] at fields
  exact absurd fields.symm (List.cons_ne_nil _ _)

theorem writes_chars (shows f : Fields) : Writes (String.ofList (chars f)) shows f := by
  refine ⟨f.written, ?_, Nat.le_refl 6, ?_⟩
  · rw [String.toList_ofList]
    exact hasFields_chars f
  · intro place
    cases place
    all_goals exact Place.has_padded shows _ _ _

theorem readFields_chars (shows : Fields) (r : Reading) :
    readFields (String.ofList (chars r.fields)) shows = .ok r.fields := by
  refine readFields_eq_ok_iff.2 ⟨writes_chars shows r.fields, ?_⟩
  intro field mem _
  rw [String.toList_ofList, (hasFields_chars r.fields).colonChars_eq] at mem
  exact Fields.length_le_of_mem_written mem

theorem locatedAt_fields_iff :
    r.fields.LocatedAt z m ↔ z.Shows r ∧ m = ⟨r.wholeSecond, false, some z⟩ := by
  constructor
  · intro h
    have whole : m.reading = r.wholeSecond := Reading.eq_wholeSecond_iff.1 h.fields
    have shown := h.shown
    rw [whole] at shown
    refine ⟨shown.of_seconds r.seconds_wholeSecond.symm, ?_⟩
    rw [← whole, ← h.first, ← h.zone]
  · rintro ⟨shown, rfl⟩
    have shown := shown.of_seconds r.seconds_wholeSecond
    obtain ⟨utc, there, -⟩ := (Zone.shows_iff_onClock.1 shown).exists_utc
    exact ⟨⟨r.validDate_fields, r.validTime_fields⟩, ⟨r.fields_wholeSecond, r.micro_wholeSecond⟩,
      rfl, rfl, ⟨utc, there⟩, shown⟩

theorem read_chars_eq_ok_iff (zone : now.zone = some z) :
    read (String.ofList (chars r.fields)) now = .ok m ↔
      z.Shows r ∧ m = ⟨r.wholeSecond, false, some z⟩ := by
  simp only [read_eq_ok_iff zone, readFields_chars, Except.ok.injEq, exists_eq_left',
    locate_eq_ok_iff_locatedAt, locatedAt_fields_iff]

end Date

namespace Bound

def shape (b : Bound) : Shape :=
  ⟨if b.included then .plus else .minus, Date.chars b.moment.reading.fields, none⟩

theorem shape_date (b : Bound) : b.shape.date = Date.chars b.moment.reading.fields := by
  simp only [shape]

theorem toList_text (b : Bound) : b.text.toList = b.shape.chars := by
  obtain ⟨m, included⟩ := b
  cases included <;> simp [text, shape, Shape.chars, Date.chars, Fields.written,
    Fields.widths, List.intercalate_cons_cons, Sign.symbol]

theorem shape_of_text (b : Bound) : b.shape.Of b.text := by
  refine ⟨⟨⟨?_, ?_⟩, by simp [shape]⟩, (toList_text b).symm⟩
  · rw [shape_date]
    exact Date.chars_ne_nil _
  · intro c mem
    rw [shape_date] at mem
    rcases Date.mem_chars mem with digit | rfl
    · simpa using of_isDigit (p := fun c => !isSign c) (by decide) digit
    · rfl

theorem shape_date_ne_now (b : Bound) : b.shape.date.map Char.toLower ≠ "now".toList := by
  intro same
  have mem : 'n' ∈ b.shape.date.map Char.toLower := by
    rw [same]
    decide
  obtain ⟨c, there, lowered⟩ := List.mem_map.1 mem
  rw [shape_date] at there
  rcases Date.mem_chars there with digit | rfl
  · have ne := of_isDigit (p := fun c => c.toLower != 'n') (by decide) digit
    simp [lowered] at ne
  · exact absurd lowered (by decide)

/-- The text of a bound is read if the zone's clock shows its reading, and as the first instant that
does. -/
theorem read?_text_eq_ok_iff (zone : now.zone = some z) : read? b.text now = .ok (some back) ↔
    z.Shows b.moment.reading ∧
      back = ⟨⟨b.moment.reading.wholeSecond, false, some z⟩, b.included⟩ := by
  have sign : decide (b.shape.sign = .plus) = b.included := by
    cases included : b.included <;> simp [shape, included]
  have moment : ∀ m, b.shape.moment now = .ok m ↔
      z.Shows b.moment.reading ∧ m = ⟨b.moment.reading.wholeSecond, false, some z⟩ := by
    intro m
    rw [Shape.moment_of_bare rfl b.shape_date_ne_now, shape_date]
    exact Date.read_chars_eq_ok_iff zone
  simp only [read?_of b.shape_of_text, map_eq_ok_iff, moment, sign, Option.some.injEq]
  constructor
  · rintro ⟨m, ⟨shown, rfl⟩, rfl⟩
    exact ⟨shown, rfl⟩
  · rintro ⟨shown, rfl⟩
    exact ⟨_, ⟨shown, rfl⟩, rfl⟩

/-- The text is read as the same instant, but for its microseconds. -/
def KeepsInstant (b : Bound) (now : Moment) : Prop :=
  ∃ back, read? b.text now = .ok (some back) ∧ back.included = b.included ∧
    back.moment.instant = b.moment.instant - b.moment.reading.micro

theorem instant_wholeSecond (z : Zone) (r : Reading) :
    Moment.instant ⟨r.wholeSecond, false, some z⟩ =
      Moment.instant ⟨r, false, some z⟩ - r.micro := by
  have offset : z.offsetAt r.wholeSecond false = z.offsetAt r false := by
    rw [Zone.offsetAt, r.seconds_wholeSecond]
    rfl
  have micros := r.micros_wholeSecond
  simp only [Moment.instant, Moment.offset, offset]
  omega

theorem keepsInstant_iff (zone : b.moment.zone = some z) (zone' : now.zone = some z) :
    b.KeepsInstant now ↔
      z.Shows b.moment.reading ∧ ¬(b.moment.fold = true ∧ z.Repeats b.moment.reading) := by
  have whole := instant_wholeSecond z b.moment.reading
  constructor
  · rintro ⟨back, there, -, instant⟩
    obtain ⟨shown, rfl⟩ := (read?_text_eq_ok_iff zone').1 there
    refine ⟨shown, (Moment.instant_first_eq_iff zone shown).1 ?_⟩
    dsimp only at instant
    omega
  · rintro ⟨shown, first⟩
    refine ⟨_, (read?_text_eq_ok_iff zone').2 ⟨shown, rfl⟩, rfl, ?_⟩
    have instant := (Moment.instant_first_eq_iff zone shown).2 first
    dsimp only
    omega

end Bound

/-- The moment is one that an expression stands for at `now`, or an end of a slice of a range that
is opened then. -/
inductive Moment.Yields (now : Moment) : Moment → Prop
  | read {text : String} {b : Bound} (there : Bound.read? text now = .ok (some b)) :
      Yields now b.moment
  | start {start stop : String} {period : Int} {unit : String} {s : Slicing} {n : Nat}
      {slice : Slice} (opened : Slicing.ofRange start stop period unit now = .ok s)
      (mem : slice ∈ ((Run.start s).take n).1) : Yields now slice.start
  | stop {start stop : String} {period : Int} {unit : String} {s : Slicing} {n : Nat}
      {slice : Slice} (opened : Slicing.ofRange start stop period unit now = .ok s)
      (mem : slice ∈ ((Run.start s).take n).1) : Yields now slice.stop

namespace Moment

theorem Yields.present_or_onTargetClock (yields : now.Yields m) :
    m = now ∨ m.OnClock now.targetZone := by
  cases yields with
  | read there => exact Bound.present_or_onTargetClock (Bound.read?_eq_ok_some_iff.1 there)
  | start opened mem =>
    obtain ⟨own, rfl⟩ := Slicing.opened_of_ofRange opened
    exact .inr (own.onTargetClock_of_mem mem).1
  | stop opened mem =>
    obtain ⟨own, rfl⟩ := Slicing.opened_of_ofRange opened
    exact .inr (own.onTargetClock_of_mem mem).2

theorem OnClock.shows (h : m.OnClock z) : z.Shows m.reading := by
  obtain ⟨utc, -, -, there⟩ := h.exists_utc
  exact ⟨utc, m, there, rfl⟩

end Moment

namespace Bound

/-- The text of a moment that comes out is read as its instant exactly if the zone's clock shows its
reading, and does not show it a second time then. Only the present moment can fail to be shown. -/
theorem text_keeps_instant_iff (yields : now.Yields m) (zone : m.zone = some z)
    (zone' : now'.zone = some z) (included : Bool) :
    (KeepsInstant ⟨m, included⟩ now' ↔
        z.Shows m.reading ∧ ¬(m.fold = true ∧ z.Repeats m.reading)) ∧
      (m ≠ now → z.Shows m.reading) ∧
      ∀ back, read? (text ⟨m, included⟩) now' = .ok (some back) ↔
        z.Shows m.reading ∧ back = ⟨⟨m.reading.wholeSecond, false, some z⟩, included⟩ := by
  refine ⟨keepsInstant_iff zone zone', fun ne => ?_, fun back => read?_text_eq_ok_iff zone'⟩
  have onClock := yields.present_or_onTargetClock.resolve_left ne
  obtain rfl := Option.some.inj (onClock.zone_eq.symm.trans zone)
  exact onClock.shows

theorem autumnNight_first_kept :
    (julyMidnight.Yields (Moment.autumnNight false) ∧
        (Moment.autumnNight false).zone = some (.region .paris) ∧
        (Moment.autumnNight true).zone = some (.region .paris)) ∧
      KeepsInstant ⟨Moment.autumnNight false, false⟩ (Moment.autumnNight true) := by
  have there : read? "+2021:10:31:01:30+1hour" julyMidnight =
      .ok (some ⟨Moment.autumnNight false, true⟩) := by decide +kernel
  have yields : julyMidnight.Yields (Moment.autumnNight false) := .read there
  have zone (fold : Bool) : (Moment.autumnNight fold).zone = some (.region .paris) := rfl
  have kept := (text_keeps_instant_iff yields (zone false) (zone true) false).1
  refine ⟨⟨yields, zone false, zone true⟩, kept.2 ⟨Moment.autumnNight_shown false, ?_⟩⟩
  exact fun second => Bool.false_ne_true second.1

theorem autumnNight_second_lost :
    julyMidnight.Yields (Moment.autumnNight true) ∧
      ¬KeepsInstant ⟨Moment.autumnNight true, true⟩ julyMidnight := by
  have there : read? "+2021:10:31:01:30+2hours" julyMidnight =
      .ok (some ⟨Moment.autumnNight true, true⟩) := by decide +kernel
  have shown := Moment.autumnNight_shown true
  refine ⟨.read there, fun kept => ?_⟩
  refine ((keepsInstant_iff (z := .region .paris) rfl rfl).1 kept).2 ⟨rfl, ?_⟩
  exact (Zone.repeats_iff shown).2 (by decide +kernel)

end Bound
end CivilRange
