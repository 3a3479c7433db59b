import CivilRange.Proofs.Expression.Text

set_option autoImplicit false

namespace CivilRange

variable {now : Moment} {z : Zone} {m : Moment} {f shows : Fields} {line : String}
  {group : List Char} {groups : List (List Char)} {sign : Sign} {b : Bound} {n : Nat}

namespace Place

def width : Place → Nat
  | year => 4
  | _ => 2

theorem of_lt (r : Reading) (place : Place) :
    place.of r.fields < Nat.pow 10 place.width := by
  obtain ⟨⟨-, year⟩, ⟨-, month⟩, -, day⟩ := r.validDate_fields
  obtain ⟨hour, minute, second⟩ := r.validTime_fields
  have length := monthLength_le r.fields.year r.fields.month
  have four : Nat.pow 10 4 = 10000 := rfl
  have two : Nat.pow 10 2 = 100 := rfl
  simp only [lastYear] at year
  cases place <;> simp only [of, width] <;> omega

theorem Has.padded_eq {place : Place} (h : place.Has shows (some group) n)
    (digits : isDigits group) : (padded group.length n).toList = group := by
  cases h with
  | named name => exact absurd (isKeyword_of_name name) (not_isKeyword_of_isDigits digits)
  | number _ =>
    obtain ⟨ne, all⟩ := isDigits_iff.1 digits
    exact padded_ofDigitChars ne all

end Place

theorem Fields.written_eq (f : Fields) :
    f.written = Place.all.map fun place => (padded place.width (place.of f)).toList := rfl

/-- Runs of four, two, two, two, two and two digits. -/
structure IsFullDate (groups : List (List Char)) : Prop where
  digits : ∀ group ∈ groups, isDigits group
  widths : groups.map List.length = [4, 2, 2, 2, 2, 2]

namespace IsFullDate

theorem getElem?_width (full : IsFullDate groups) (place : Place) :
    ∃ group, groups[place.index]? = some group ∧ isDigits group ∧ group.length = place.width := by
  have width : (groups.map List.length)[place.index]? = some place.width := by
    rw [full.widths]
    cases place <;> rfl
  rw [List.getElem?_map, Option.map_eq_some_iff] at width
  obtain ⟨group, there, length⟩ := width
  exact ⟨group, there, full.digits group (List.mem_of_getElem? there), length⟩

theorem length_eq (full : IsFullDate groups) : groups.length = 6 := by
  simpa using congrArg List.length full.widths

theorem written_eq (full : IsFullDate groups)
    (has : ∀ place : Place, place.Has shows groups[place.index]? (place.of f)) :
    f.written = groups := by
  refine List.ext_getElem? fun i => ?_
  obtain lt | ge := Nat.lt_or_ge i 6
  · obtain ⟨place, rfl⟩ := Place.exists_index lt
    obtain ⟨group, there, digits, width⟩ := full.getElem?_width place
    have value := has place
    rw [there] at value ⊢
    rw [f.written_eq, List.getElem?_map, place.all_index, Option.map_some, ← width,
      value.padded_eq digits]
  · rw [List.getElem?_eq_none ge, List.getElem?_eq_none (full.length_eq ▸ ge)]

theorem hasFields (full : IsFullDate groups) (cs : List Char)
    (joined : cs = [':'].intercalate groups) : HasFields cs groups := by
  have count : ∀ group ∈ groups, IsCount group := fun group mem =>
    isDigits_iff.1 (full.digits group mem)
  refine ⟨fun group mem => (count group mem).colon_not_mem, ?_, 0, by simp [joined]⟩
  exact fun group mem => (count group (List.mem_of_getLast? mem)).1

theorem length_intercalate (full : IsFullDate groups) :
    ([':'].intercalate groups).length = 19 := by
  have widths := full.widths
  rcases groups with _ | ⟨a, _ | ⟨b, _ | ⟨c, _ | ⟨d, _ | ⟨e, _ | ⟨g, _ | _⟩⟩⟩⟩⟩⟩ <;>
    simp [List.intercalate_cons_cons] at widths ⊢
  omega

theorem plain_intercalate (full : IsFullDate groups) :
    Shape.Plain ([':'].intercalate groups) := by
  constructor
  · intro nil
    have length := full.length_intercalate
    rw [nil] at length
    cases length
  · intro c mem
    rcases mem_of_mem_intercalate mem with colon | ⟨group, there, own⟩
    · rw [List.mem_singleton.1 colon]
      rfl
    · exact Slicing.not_isSign_of_isDigit ((isDigits_iff.1 (full.digits group there)).2 c own)

theorem written_of_read (full : IsFullDate groups)
    (h : Date.read (String.ofList ([':'].intercalate groups)) now = .ok m) :
    m.reading.fields.written = groups := by
  cases zone : now.zone with
  | none =>
    rw [Date.read, zone] at h
    cases h
  | some z =>
    obtain ⟨f, fields, there⟩ := (Date.read_eq_ok_iff zone).1 h
    obtain ⟨own, has, -, values⟩ := (Date.readFields_eq_ok_iff.1 fields).1
    rw [String.toList_ofList] at has
    obtain rfl := has.colonChars_eq.symm.trans (full.hasFields _ rfl).colonChars_eq
    rw [(Date.locate_eq_ok_iff_locatedAt.1 there).fields.1]
    exact full.written_eq values

end IsFullDate

theorem isFullDate_written (r : Reading) : IsFullDate r.fields.written := by
  have width (place : Place) :
      (padded place.width (place.of r.fields)).toList.length = place.width :=
    length_padded (by cases place <;> decide) (place.of_lt r)
  constructor
  · intro group mem
    exact isDigits_iff.2 (Fields.isCount_of_mem_written mem)
  · rw [Fields.written_eq, List.map_map]
    exact List.map_congr_left fun place _ => width place

namespace Bound

/-- A sign and a date of all six fields in their full widths. -/
def IsCanonical (line : String) : Prop :=
  ∃ (sign : Sign) (groups : List (List Char)), IsFullDate groups ∧
    line.toList = sign.symbol :: [':'].intercalate groups

theorem isCanonical_text (b : Bound) : IsCanonical b.text := by
  refine ⟨b.shape.sign, _, isFullDate_written b.moment.reading, ?_⟩
  rw [toList_text, Shape.chars, shape_date]
  exact List.append_nil _

theorem IsCanonical.length_eq (canonical : IsCanonical line) : line.length = 20 := by
  obtain ⟨sign, groups, full, whole⟩ := canonical
  rw [← String.length_toList, whole, List.length_cons, full.length_intercalate]

theorem text_of_canonical (canonical : IsCanonical line) (h : read? line now = .ok (some b)) :
    b.text = line := by
  obtain ⟨sign, groups, full, whole⟩ := canonical
  let s : Shape := ⟨sign, [':'].intercalate groups, none⟩
  have parts : s.Of line :=
    ⟨⟨full.plain_intercalate, by simp [s]⟩, by simp [s, Shape.chars, whole]⟩
  have other : s.date.map Char.toLower ≠ "now".toList := by
    intro same
    have length := congrArg List.length same
    rw [List.length_map, full.length_intercalate] at length
    cases length
  rw [read?_of parts, Shape.moment_of_bare rfl other, map_eq_ok_iff] at h
  obtain ⟨m, there, same⟩ := h
  obtain rfl := Option.some.inj same
  apply String.toList_injective
  rw [toList_text, whole, ← full.written_of_read there]
  cases sign <;> simp [Shape.chars, shape, s, Date.chars]

/-- Texts of bounds and canonical texts: the text of any reading that the zone's clock shows has
twenty characters and is read as that reading to the second, in its first showing; and a canonical
text that is read at all is the text of what it is read as. -/
theorem canonical_texts_inverse :
    (∀ (m now : Moment) (included : Bool) (z : Zone), now.zone = some z → z.Shows m.reading →
        (text ⟨m, included⟩).length = 20 ∧ IsCanonical (text ⟨m, included⟩) ∧
          read? (text ⟨m, included⟩) now =
            .ok (some ⟨⟨m.reading.wholeSecond, false, some z⟩, included⟩)) ∧
      ∀ (line : String) (now : Moment) (b : Bound), IsCanonical line →
        read? line now = .ok (some b) → b.text = line := by
  constructor
  · intro m now included z zone shown
    have canonical := isCanonical_text ⟨m, included⟩
    exact ⟨canonical.length_eq, canonical, (read?_text_eq_ok_iff zone).2 ⟨shown, rfl⟩⟩
  · intro line now b canonical there
    exact text_of_canonical canonical there

/-- The last second of the leap day of the year 400, in Paris. -/
def leapDayEnd : Moment :=
  ⟨⟨12596342399000000, by decide⟩, false, some (.region .paris)⟩

theorem leapDayEnd_inverse :
    ((julyMidnight.zone = some (.region .paris) ∧
          (Zone.region .paris).Shows (Moment.autumnNight true).reading) ∧
        IsCanonical "-0400:02:29:23:59:59" ∧
        read? "-0400:02:29:23:59:59" julyMidnight = .ok (some ⟨leapDayEnd, false⟩)) ∧
      (text ⟨Moment.autumnNight true, true⟩).length = 20 ∧
      read? (text ⟨Moment.autumnNight true, true⟩) julyMidnight = .ok (some
        ⟨⟨(Moment.autumnNight true).reading.wholeSecond, false, some (.region .paris)⟩, true⟩) ∧
      text ⟨leapDayEnd, false⟩ = "-0400:02:29:23:59:59" := by
  have shown := Moment.autumnNight_shown true
  have groups : IsFullDate ["0400".toList, "02".toList, "29".toList, "23".toList, "59".toList,
      "59".toList] := ⟨by decide, rfl⟩
  have canonical : IsCanonical "-0400:02:29:23:59:59" := ⟨.minus, _, groups, by decide⟩
  have there : read? "-0400:02:29:23:59:59" julyMidnight = .ok (some ⟨leapDayEnd, false⟩) := by
    decide +kernel
  obtain ⟨texts, bounds⟩ := canonical_texts_inverse
  obtain ⟨length, -, back⟩ := texts (Moment.autumnNight true) julyMidnight true _ rfl shown
  exact ⟨⟨⟨rfl, shown⟩, canonical, there⟩, length, back, bounds _ _ _ canonical there⟩

end Bound
end CivilRange
