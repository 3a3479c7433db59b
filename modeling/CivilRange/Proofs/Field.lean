import CivilRange.Proofs.Outcome
import CivilRange.Proofs.Text.Number

set_option autoImplicit false

namespace CivilRange

variable {text : String} {f : Fields} {place : Place} {field : List Char}

/-- A field that can be read at its place. -/
inductive Place.Written (place : Place) (field : List Char) : Prop
  | keyword (word : isKeyword field) (named : field.map Char.toLower = place.name.toList)
  | number (digits : isDigits field) (short : field.length ≤ maxDigits)

theorem not_isKeyword_of_isDigits (h : isDigits field) : ¬isKeyword field := by
  intro word
  cases field with
  | nil => cases h
  | cons c field =>
    simp only [isDigits, isKeyword, List.all_cons, Bool.and_eq_true] at h word
    have other := of_isDigit (p := fun c => !c.isAlpha) (by decide) h.2.1
    simp [word.2.1] at other

namespace Date

theorem readPlace_of_keyword (word : isKeyword field)
    (named : field.map Char.toLower = place.name.toList) :
    readPlace text f place field = .ok (place.of f) := by
  rw [readPlace, if_pos word, if_pos named]

theorem readPlace_of_isDigits (digits : isDigits field) :
    readPlace text f place field = readNumber field := by
  rw [readPlace, if_neg (not_isKeyword_of_isDigits digits), if_pos digits]

theorem rejects_or_names_or_digits (text : String) (f : Fields) (place : Place)
    (field : List Char) :
    (∃ cause, readPlace text f place field = .error (.rejected (.date text cause))) ∨
      (isKeyword field ∧ field.map Char.toLower = place.name.toList) ∨ isDigits field := by
  unfold readPlace
  by_cases word : isKeyword field
  · by_cases named : field.map Char.toLower = place.name.toList
    · exact .inr (.inl ⟨word, named⟩)
    · exact .inl ⟨_, by rw [if_pos word, if_neg named]⟩
  · by_cases digits : isDigits field
    · exact .inr (.inr digits)
    · exact .inl ⟨_, by rw [if_neg word, if_neg digits]⟩

theorem readPlace_written_iff :
    (∃ value, readPlace text f place field = .ok value) ↔ place.Written field := by
  constructor
  · rintro ⟨value, h⟩
    obtain ⟨cause, rejected⟩ | ⟨word, named⟩ | digits := rejects_or_names_or_digits text f place field
    · cases h.symm.trans rejected
    · exact .keyword word named
    · rw [readPlace_of_isDigits digits] at h
      exact .number digits (readNumber_eq_ok_iff.1 h).1
  · rintro (⟨word, named⟩ | ⟨digits, short⟩)
    · exact ⟨_, readPlace_of_keyword word named⟩
    · exact ⟨_, (readPlace_of_isDigits digits).trans (readNumber_eq_ok_iff.2 ⟨short, rfl⟩)⟩

end Date
end CivilRange

namespace CivilRange.Duration

variable {text : String} {d d' : Duration} {rank rank' : Nat} {u : TimeUnit}
  {field digits : List Char}

/-- The field counts a unit behind rank `rank` in these digits. -/
def Counts (rank : Nat) (field digits : List Char) (u : TimeUnit) : Prop :=
  ∃ word, Token.read? field = some ⟨digits, word⟩ ∧
    TimeUnit.find? (String.ofList (normalUnitChars word)) = some u ∧ rank < u.rank

theorem Counts.rank_lt (h : Counts rank field digits u) : rank < u.rank := by
  obtain ⟨-, -, -, behind⟩ := h
  exact behind

theorem readField_of_counts (h : Counts rank field digits u) : readField text d rank field =
    (fun n => (d.withAmount u n, u.rank)) <$> readNumber digits := by
  obtain ⟨word, token, unit, behind⟩ := h
  simp only [readField, token, unit, if_neg (Nat.not_le.2 behind)]
  cases readNumber digits <;> rfl

theorem rejects_or_counts (text : String) (d : Duration) (rank : Nat) (field : List Char) :
    (∃ cause, readField text d rank field = .error (.rejected (.duration text cause))) ∨
      ∃ digits u, Counts rank field digits u := by
  unfold readField
  dsimp only
  cases token : Token.read? field with
  | none => exact .inl ⟨_, rfl⟩
  | some token' =>
    dsimp only
    cases unit : TimeUnit.find? (String.ofList (normalUnitChars token'.word)) with
    | none => exact .inl ⟨_, rfl⟩
    | some u =>
      by_cases behind : rank < u.rank
      · exact .inr ⟨token'.digits, u, token'.word, token, unit, behind⟩
      · exact .inl ⟨_, if_pos (Nat.not_lt.1 behind)⟩

theorem readField_eq_ok_iff : readField text d rank field = .ok (d', rank') ↔
    ∃ digits u n, Counts rank field digits u ∧ readNumber digits = .ok n ∧
      d.withAmount u n = d' ∧ u.rank = rank' := by
  constructor
  · intro h
    obtain ⟨cause, rejected⟩ | ⟨digits, u, counts⟩ := rejects_or_counts text d rank field
    · cases h.symm.trans rejected
    · rw [readField_of_counts counts, map_eq_ok_iff] at h
      obtain ⟨n, number, same⟩ := h
      cases same
      exact ⟨digits, u, n, counts, number, rfl, rfl⟩
  · rintro ⟨digits, u, n, counts, number, rfl, rfl⟩
    rw [readField_of_counts counts, map_eq_ok_iff]
    exact ⟨n, number, rfl⟩

end CivilRange.Duration
