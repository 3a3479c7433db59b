import CivilRange.Proofs.Date.Written

set_option autoImplicit false

namespace CivilRange

variable {text : String} {shows shows' f : Fields} {place : Place} {field : List Char}
  {places : List Place} {fields : List (List Char)} {now now' m : Moment} {z : Zone}

theorem Place.Has.eq_of_name {n : Nat} (has : place.Has shows (some field) n)
    (named : field.map Char.toLower = place.name.toList) : n = place.of shows := by
  cases has with
  | named => rfl
  | number digits => exact absurd (Place.isKeyword_of_name named) (not_isKeyword_of_isDigits digits)

namespace Date

def Names (date : List Char) (place : Place) : Prop :=
  ∃ fields field, HasFields date fields ∧ fields[place.index]? = some field ∧
    field.map Char.toLower = place.name.toList

theorem names_iff {date : List Char} : Names date place ↔
    (colonChars date)[place.index]?.map (·.map Char.toLower) = some place.name.toList := by
  unfold Names
  simp only [hasFields_iff, Option.map_eq_some_iff]
  constructor
  · rintro ⟨_, field, rfl, there, named⟩
    exact ⟨field, there, named⟩
  · rintro ⟨field, there, named⟩
    exact ⟨_, field, rfl, there, named⟩

instance (date : List Char) (place : Place) : Decidable (Names date place) :=
  decidable_of_iff _ names_iff.symm

theorem readPlace_congr (text : String)
    (agree : field.map Char.toLower = place.name.toList → place.of shows = place.of shows') :
    readPlace text shows place field = readPlace text shows' place field := by
  unfold readPlace
  split
  · split
    · rename_i named
      rw [agree named]
    · rfl
  · rfl

theorem readPlaces_congr (text : String) (agree : ∀ (i : Nat) (place : Place) (field : List Char),
      places[i]? = some place → fields[i]? = some field →
        field.map Char.toLower = place.name.toList → place.of shows = place.of shows') :
    readPlaces text shows places fields = readPlaces text shows' places fields := by
  induction places generalizing fields with
  | nil => rfl
  | cons place places ih =>
    cases fields with
    | nil => rfl
    | cons field fields =>
      have head := readPlace_congr text (agree 0 place field rfl rfl)
      have tail := ih fun i place field => agree (i + 1) place field
      simp only [readPlaces, head, tail]

theorem readFields_congr
    (agree : ∀ place, Names text.toList place → place.of shows = place.of shows') :
    readFields text shows = readFields text shows' := by
  have places : readPlaces text shows Place.all (colonChars text.toList) =
      readPlaces text shows' Place.all (colonChars text.toList) :=
    readPlaces_congr text fun i place field at_i there named =>
      agree place ⟨_, field, hasFields_colonChars _, Place.index_eq_of_all at_i ▸ there, named⟩
  unfold readFields
  simp only [places]

theorem read_congr (zone : now.zone = some z) (zone' : now'.zone = some z)
    (agree : ∀ place, Names text.toList place →
      place.of now.reading.fields = place.of now'.reading.fields) :
    read text now = read text now' := by
  unfold read
  rw [zone, zone']
  dsimp only
  rw [readFields_congr agree]

theorem of_fields_of_read (zone : now.zone = some z) (h : read text now = .ok m)
    (named : Names text.toList place) :
    place.of m.reading.fields = place.of now.reading.fields := by
  obtain ⟨f, read, there⟩ := (read_eq_ok_iff zone).1 h
  obtain ⟨⟨fields, has, -, values⟩, -⟩ := readFields_eq_ok_iff.1 read
  obtain ⟨fields', field, has', there', name⟩ := named
  rw [hasFields_iff] at has has'
  obtain rfl := has.symm.trans has'
  have value := values place
  rw [there'] at value
  rw [(locate_eq_ok_iff_locatedAt.1 there).fields.1]
  exact value.eq_of_name name

end Date

namespace Shape

variable {s : Shape} {now now' : Moment} {z : Zone}

theorem moment_congr (zone : now.zone = some z) (zone' : now'.zone = some z)
    (dated : s.date.map Char.toLower ≠ "now".toList)
    (agree : ∀ place, Date.Names s.date place →
      place.of now.reading.fields = place.of now'.reading.fields) :
    s.moment now = s.moment now' := by
  have read : Date.read (String.ofList s.date) now = Date.read (String.ofList s.date) now' :=
    Date.read_congr zone zone' (by rwa [String.toList_ofList])
  unfold moment base
  rw [if_neg (mt lower_eq_now_iff.1 dated), if_neg (mt lower_eq_now_iff.1 dated), read]

end Shape

namespace Bound

variable {now now' : Moment} {z : Zone}

theorem of_fields_of_read? {text : String} {s : Shape} {b : Bound} {place : Place}
    (zone : now.zone = some z) (split : s.Of text) (bare : s.suffix = none)
    (dated : s.date.map Char.toLower ≠ "now".toList) (h : read? text now = .ok (some b))
    (named : Date.Names s.date place) :
    place.of b.moment.reading.fields = place.of now.reading.fields := by
  rw [read?_of split, Shape.moment_of_bare bare dated] at h
  obtain ⟨m, there, same⟩ := map_eq_ok_iff.1 h
  obtain rfl := Option.some.inj same
  exact Date.of_fields_of_read zone there (by rwa [String.toList_ofList])

/-- Two present moments of one zone come to the same, the faults included, if they agree on the
places that a date names; and by a date alone they come to the same bound only if they do. -/
theorem outcome_of_named_places (zone : now.zone = some z) (zone' : now'.zone = some z)
    (text : String)
    (dated : ∀ s : Shape, s.Of text → s.date.map Char.toLower ≠ "now".toList) :
    ((∀ s : Shape, s.Of text → ∀ place, Date.Names s.date place →
        place.of now.reading.fields = place.of now'.reading.fields) →
      read? text now = read? text now') ∧
    ∀ (s : Shape) (b : Bound), s.Of text → s.suffix = none → read? text now = .ok (some b) →
      read? text now' = .ok (some b) → ∀ place, Date.Names s.date place →
        place.of now.reading.fields = place.of now'.reading.fields := by
  constructor
  · intro agree
    by_cases split : ∃ s : Shape, s.Of text
    · obtain ⟨s, split⟩ := split
      rw [read?_of split, read?_of split, Shape.moment_congr zone zone' (dated s split)
        (agree s split)]
    · rw [read?_eq_none_iff.2 split, read?_eq_none_iff.2 split]
  · intro s b split bare h h' place named
    rw [← of_fields_of_read? zone split bare (dated s split) h named,
      of_fields_of_read? zone' split bare (dated s split) h' named]

def juneNoon : Moment := ⟨⟨63759355200123456, by decide⟩, false, some (.region .paris)⟩

/-- Christmas of this year is the same at a noon in June and at the second half past two of an
autumn night. -/
theorem christmas_of_juneNoon :
    (juneNoon.zone = some (.region .paris) ∧ (Moment.autumnNight true).zone = some (.region .paris) ∧
        Shape.Of ⟨.plus, "YEAR:12:25".toList, some (.minus, "2hours".toList)⟩ "+YEAR:12:25-2hours" ∧
        ∀ place, Date.Names "YEAR:12:25".toList place →
          place.of juneNoon.reading.fields = place.of (Moment.autumnNight true).reading.fields) ∧
      read? "+YEAR:12:25-2hours" juneNoon = read? "+YEAR:12:25-2hours" (Moment.autumnNight true) := by
  have shape : Shape.Of ⟨.plus, "YEAR:12:25".toList, some (.minus, "2hours".toList)⟩
      "+YEAR:12:25-2hours" := Shape.of_iff_split?.2 (by decide)
  have agree : ∀ place, Date.Names "YEAR:12:25".toList place →
      place.of juneNoon.reading.fields = place.of (Moment.autumnNight true).reading.fields := by
    intro place
    cases place <;> decide +kernel
  have zone : juneNoon.zone = some (.region .paris) := rfl
  have zone' : (Moment.autumnNight true).zone = some (.region .paris) := rfl
  have dated : ∀ s : Shape, s.Of "+YEAR:12:25-2hours" →
      s.date.map Char.toLower ≠ "now".toList := by
    intro s split
    obtain rfl := split.unique shape
    decide
  refine ⟨⟨zone, zone', shape, agree⟩, (outcome_of_named_places zone zone' _ dated).1 ?_⟩
  intro s split
  obtain rfl := split.unique shape
  exact agree

end Bound
end CivilRange
