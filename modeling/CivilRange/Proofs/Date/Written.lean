import CivilRange.Proofs.Expression.LongNumber
import CivilRange.Proofs.Reading
import CivilRange.Proofs.Text.Fields

set_option autoImplicit false

namespace CivilRange

variable {text : String} {now : Moment} {m : Moment} {z : Zone} {shows f : Fields} {place : Place}
  {field : List Char} {n : Nat}

theorem isAlpha_of_toLower {c : Char} (h : c.toLower.isLower = true) : c.isAlpha = true := by
  unfold Char.toLower at h
  split at h
  · rename_i capital
    have upper : c.isUpper = true := decide_eq_true capital
    exact Bool.or_eq_true_iff.2 (.inl upper)
  · exact Bool.or_eq_true_iff.2 (.inr h)

namespace Place

def index : Place → Nat
  | year => 0
  | month => 1
  | day => 2
  | hour => 3
  | minute => 4
  | second => 5

def start? : Place → Option Nat
  | year => none
  | month | day => some 1
  | hour | minute | second => some 0

/-- The value that a field gives to its place when the clock shows `shows`. -/
inductive Has (shows : Fields) (place : Place) : Option (List Char) → Nat → Prop
  | named {field : List Char} (name : field.map Char.toLower = place.name.toList) :
      Has shows place (some field) (place.of shows)
  | number {field : List Char} (digits : isDigits field) :
      Has shows place (some field) (Nat.ofDigitChars 10 field 0)
  | left {n : Nat} (start : place.start? = some n) : Has shows place none n

theorem all_index (place : Place) : all[place.index]? = some place := by cases place <;> rfl

theorem exists_index {i : Nat} (h : i < 6) : ∃ place : Place, place.index = i := by
  have all : ∀ i < 6, ∃ place ∈ Place.all, place.index = i := by decide
  obtain ⟨place, -, index⟩ := all i h
  exact ⟨place, index⟩

theorem index_eq_of_all {i : Nat} (h : all[i]? = some place) : place.index = i := by
  obtain ⟨lt, -⟩ := List.getElem?_eq_some_iff.1 h
  obtain ⟨place', rfl⟩ := exists_index lt
  obtain rfl := Option.some.inj (place'.all_index.symm.trans h)
  rfl

theorem isKeyword_of_name (h : field.map Char.toLower = place.name.toList) : isKeyword field := by
  have letters : place.name.toList ≠ [] ∧ place.name.toList.all Char.isLower = true := by
    cases place <;> decide
  rw [← h, List.all_eq_true] at letters
  simp only [isKeyword, Bool.and_eq_true, Bool.not_eq_true', List.isEmpty_eq_false_iff,
    List.all_eq_true]
  exact ⟨fun nil => letters.1 (by rw [nil]; rfl),
    fun c mem => isAlpha_of_toLower (letters.2 _ (List.mem_map_of_mem mem))⟩

end Place

namespace Fields

theorem ofValues?_eq_some_iff {values : List Nat} : ofValues? values = some f ↔
    ∀ place : Place, values[place.index]?.or place.start? = some (place.of f) := by
  cases values with
  | nil =>
    constructor
    · rintro ⟨⟩
    · intro h
      cases h .year
  | cons year rest =>
    constructor
    · intro h place
      obtain rfl := Option.some.inj h
      cases place <;> simp [Place.index, Place.start?, Place.of, List.getD_eq_getElem?_getD]
    · intro h
      have hm := h .month
      have hd := h .day
      have hh := h .hour
      have hi := h .minute
      have hs := h .second
      have hy := h .year
      simp [Place.index, Place.start?, Place.of] at hy hm hd hh hi hs
      simp [ofValues?, List.getD_eq_getElem?_getD, hm, hd, hh, hi, hs, hy]

end Fields

/-- The zone's clock shows the fields to the second at the moment, which is of the first fold. -/
structure Fields.LocatedAt (f : Fields) (z : Zone) (m : Moment) : Prop where
  valid : ValidDate f.year f.month f.day ∧ f.ValidTime
  fields : m.reading.fields = f ∧ m.reading.micro = 0
  first : m.fold = false
  zone : m.zone = some z
  utc : ∃ utc, m.utc = .ok utc
  shown : z.Shows m.reading

namespace Date

/-- The fields of the text, one for a place at most, give every place its value in `f`. -/
def Writes (text : String) (shows f : Fields) : Prop :=
  ∃ fields, HasFields text.toList fields ∧ fields.length ≤ 6 ∧
    ∀ place : Place, place.Has shows fields[place.index]? (place.of f)

def ShortNumbers (text : String) : Prop :=
  ∀ fields, HasFields text.toList fields →
    ∀ field ∈ fields, isDigits field → field.length ≤ maxDigits

theorem readPlace_eq_ok_iff : readPlace text shows place field = .ok n ↔
    place.Has shows (some field) n ∧ (isDigits field → field.length ≤ maxDigits) := by
  constructor
  · intro h
    obtain ⟨cause, rejected⟩ | ⟨word, named⟩ | digits :=
      rejects_or_names_or_digits text shows place field
    · cases h.symm.trans rejected
    · rw [readPlace_of_keyword word named] at h
      obtain rfl := Except.ok.inj h
      exact ⟨.named named, fun digits => absurd word (not_isKeyword_of_isDigits digits)⟩
    · rw [readPlace_of_isDigits digits, readNumber_eq_ok_iff] at h
      obtain ⟨short, rfl⟩ := h
      exact ⟨.number digits, fun _ => short⟩
  · rintro ⟨named | digits, short⟩
    · exact readPlace_of_keyword (Place.isKeyword_of_name named) named
    · rw [readPlace_of_isDigits digits, readNumber_eq_ok_iff]
      exact ⟨short digits, rfl⟩

theorem getElem?_of_readPlaces {places : List Place} {fields : List (List Char)}
    {values : List Nat} (h : readPlaces text shows places fields = .ok values) {i : Nat}
    (there : places[i]? = some place) :
    (fields[i]? = none ∧ values[i]? = none) ∨ ∃ field n, fields[i]? = some field ∧
      values[i]? = some n ∧ readPlace text shows place field = .ok n := by
  induction places generalizing fields values i with
  | nil => cases there
  | cons first places ih =>
    cases fields with
    | nil =>
      obtain rfl := Except.ok.inj h
      exact .inl ⟨rfl, rfl⟩
    | cons field fields =>
      simp only [readPlaces, bind_eq_ok_iff, pure_eq_ok_iff] at h
      obtain ⟨n, head, rest, tail, rfl⟩ := h
      cases i with
      | zero =>
        obtain rfl := Option.some.inj there
        exact .inr ⟨field, n, rfl, rfl, head⟩
      | succ i => exact ih tail there

theorem exists_readPlaces {places : List Place} {fields : List (List Char)}
    (h : ∀ (i : Nat) (place : Place) (field : List Char), places[i]? = some place →
      fields[i]? = some field → ∃ n, readPlace text shows place field = .ok n) :
    ∃ values, readPlaces text shows places fields = .ok values := by
  induction places generalizing fields with
  | nil => exact ⟨[], by simp [readPlaces]⟩
  | cons place places ih =>
    cases fields with
    | nil => exact ⟨[], rfl⟩
    | cons field fields =>
      obtain ⟨n, head⟩ := h 0 place field rfl rfl
      obtain ⟨rest, tail⟩ := ih fun i => h (i + 1)
      simp only [readPlaces, bind_eq_ok_iff, pure_eq_ok_iff]
      exact ⟨_, n, head, rest, tail, rfl⟩

theorem readFields_eq_ok_iff_readPlaces : readFields text shows = .ok f ↔
    (colonChars text.toList).length ≤ 6 ∧
      ∃ values, readPlaces text shows Place.all (colonChars text.toList) = .ok values ∧
        Fields.ofValues? values = some f := by
  unfold readFields
  dsimp only
  split
  · rename_i many
    have many' : ¬(colonChars text.toList).length ≤ 6 := Nat.not_le.2 many
    simp [many']
  · rename_i few
    have few' : (colonChars text.toList).length ≤ 6 := Nat.not_lt.1 few
    rw [and_iff_right few', bind_eq_ok_iff]
    refine exists_congr fun values => and_congr_right fun _ => ?_
    cases Fields.ofValues? values <;> simp

theorem readFields_eq_ok_iff : readFields text shows = .ok f ↔
    Writes text shows f ∧
      ∀ field ∈ colonChars text.toList, isDigits field → field.length ≤ maxDigits := by
  simp only [readFields_eq_ok_iff_readPlaces, Writes, hasFields_iff, exists_eq_left',
    Fields.ofValues?_eq_some_iff]
  generalize colonChars text.toList = fields
  constructor
  · rintro ⟨few, values, places, whole⟩
    refine ⟨⟨few, fun place => ?_⟩, fun field mem => ?_⟩
    · have value := whole place
      obtain ⟨none, none'⟩ | ⟨field, n, field', value', read⟩ :=
        getElem?_of_readPlaces places place.all_index
      · rw [none', Option.none_or] at value
        rw [none]
        exact .left value
      · rw [value', Option.some_or, Option.some.injEq] at value
        rw [field', ← value]
        exact (readPlace_eq_ok_iff.1 read).1
    · obtain ⟨i, lt, rfl⟩ := List.mem_iff_getElem.1 mem
      obtain ⟨place, rfl⟩ := Place.exists_index (Nat.lt_of_lt_of_le lt few)
      obtain ⟨none, -⟩ | ⟨field, n, field', -, read⟩ :=
        getElem?_of_readPlaces places place.all_index
      · rw [List.getElem?_eq_getElem lt] at none
        cases none
      · rw [List.getElem?_eq_getElem lt] at field'
        obtain rfl := Option.some.inj field'
        exact (readPlace_eq_ok_iff.1 read).2
  · rintro ⟨⟨few, has⟩, short⟩
    have readable : ∀ place field, fields[place.index]? = some field →
        readPlace text shows place field = .ok (place.of f) := by
      intro place field there
      have value := has place
      rw [there] at value
      exact readPlace_eq_ok_iff.2 ⟨value, short field (List.mem_of_getElem? there)⟩
    obtain ⟨values, places⟩ : ∃ values, readPlaces text shows Place.all fields = .ok values :=
      exists_readPlaces fun i place field at_i there =>
        ⟨_, readable place field (Place.index_eq_of_all at_i ▸ there)⟩
    refine ⟨few, values, places, fun place => ?_⟩
    have value := has place
    obtain ⟨none, none'⟩ | ⟨field, n, field', value', read⟩ :=
      getElem?_of_readPlaces places place.all_index
    · rw [none] at value
      cases value with
      | left start => rw [none', Option.none_or, start]
    · rw [value', Option.some_or, ← Except.ok.inj (read.symm.trans (readable place field field'))]

/-- A reading that is shown at all is shown by the first fold, so going to UTC and back finds it. -/
theorem locate_eq_ok_iff_locatedAt : locate f z = .ok m ↔ f.LocatedAt z m := by
  rw [locate_eq_ok_iff]
  constructor
  · rintro ⟨reading, there, rfl, shown⟩
    obtain ⟨valid, fields⟩ := Fields.reading_eq_ok_iff.1 there
    have onClock := Moment.onClock_of_isShown rfl rfl shown
    obtain ⟨utc, there, -⟩ := onClock.exists_utc
    exact ⟨valid, fields, rfl, rfl, ⟨utc, there⟩, Zone.shows_iff_onClock.2 onClock⟩
  · rintro ⟨valid, fields, first, zone, -, shown⟩
    have same : m = ⟨m.reading, false, some z⟩ := by rw [← first, ← zone]
    refine ⟨m.reading, Fields.reading_eq_ok_iff.2 ⟨valid, fields⟩, same, ?_⟩
    rw [same]
    exact (Zone.shows_iff_onClock.1 shown).isShown

theorem shortNumbers_of_length (h : text.toList.length ≤ maxDigits) : ShortNumbers text := by
  intro fields has field mem _
  rw [hasFields_iff] at has
  exact Nat.le_trans (infix_of_mem_colonChars (has ▸ mem)).length_le h

theorem ShortNumbers.fault (short : ShortNumbers text) (zone : now.zone = some z) {fault : Fault}
    (h : read text now = .error fault) : ∃ cause, fault = .rejected (.date text cause) := by
  cases read_fault zone h with
  | rejected kind =>
    obtain ⟨cause, rfl⟩ := kind
    exact ⟨cause, rfl⟩
  | longNumber =>
    obtain ⟨-, long⟩ := (read_eq_longNumber_iff zone).1 h
    obtain ⟨field, mem, digits, many, -⟩ := long.exists_number
    exact absurd (short _ (hasFields_colonChars _) field mem digits) (Nat.not_le.2 many)

/-- Which texts are dates, and of which moments. -/
theorem reads_written_date (zone : now.zone = some z) (short : ShortNumbers text) :
    (∀ m, read text now = .ok m ↔
        ∃ f, Writes text now.reading.fields f ∧ f.LocatedAt z m) ∧
      ∀ fault, read text now = .error fault → ∃ cause, fault = .rejected (.date text cause) := by
  refine ⟨fun m => ?_, fun fault => short.fault zone⟩
  simp only [read_eq_ok_iff zone, readFields_eq_ok_iff, locate_eq_ok_iff_locatedAt,
    and_iff_left (short _ (hasFields_colonChars text.toList))]

/-- In the second showing of half past two, its own numbers name the first. -/
theorem halfPastTwo_of_autumnNight :
    ((Moment.autumnNight true).zone = some (.region .paris) ∧
        ShortNumbers "YEAR:10:day:02:Minute::") ∧
      ∃ f, Writes "YEAR:10:day:02:Minute::" (Moment.autumnNight true).reading.fields f ∧
        f.LocatedAt (.region .paris) (Moment.autumnNight false) := by
  have zone : (Moment.autumnNight true).zone = some (.region .paris) := rfl
  have short : ShortNumbers "YEAR:10:day:02:Minute::" := shortNumbers_of_length (by decide)
  have there : read "YEAR:10:day:02:Minute::" (Moment.autumnNight true) =
      .ok (Moment.autumnNight false) := by decide +kernel
  exact ⟨⟨zone, short⟩, ((reads_written_date zone short).1 _).1 there⟩

end Date
end CivilRange
