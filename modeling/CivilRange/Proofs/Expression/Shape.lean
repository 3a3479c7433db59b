import CivilRange.Expression

set_option autoImplicit false

namespace CivilRange.Shape

variable {s t : Shape} {sign : Sign} {date rest amount cs : List Char}

def Plain (cs : List Char) : Prop := cs ≠ [] ∧ ∀ c ∈ cs, isSign c = false

theorem isSign_symbol (sign : Sign) : isSign sign.symbol = true := by cases sign <;> rfl

structure Proper (s : Shape) : Prop where
  date : Plain s.date
  amount : ∀ sign amount, s.suffix = some (sign, amount) → Plain amount

theorem takeWhile_plain (plain : Plain date) (h : ∀ c ∈ rest.head?, isSign c = true) :
    (date ++ rest).takeWhile (!isSign ·) = date ∧ (date ++ rest).dropWhile (!isSign ·) = rest := by
  have all : ∀ c ∈ date, (!isSign c) = true := fun c mem => by simp [plain.2 c mem]
  rw [List.takeWhile_append_of_pos all, List.dropWhile_append_of_pos all]
  cases rest with
  | nil => simp
  | cons c rest => simp [h c rfl]

theorem split?_append (plain : Plain date) (h : ∀ c ∈ rest.head?, isSign c = true) :
    split? (sign.symbol :: (date ++ rest)) = (suffix? rest).map (Shape.mk sign date) := by
  obtain ⟨taken, dropped⟩ := takeWhile_plain plain h
  unfold split?
  dsimp only
  rw [(Sign.ofSymbol?_eq_some _ _).2 rfl, taken, dropped]
  simp only [Option.bind_eq_bind, Option.bind_some, List.isEmpty_iff, plain.1, ↓reduceIte]
  cases suffix? rest <;> rfl

theorem suffix?_cons_eq_some_iff {c : Char} {suffix : Option (Sign × List Char)} :
    suffix? (c :: amount) = some suffix ↔
      ∃ sign, c = sign.symbol ∧ Plain amount ∧ suffix = some (sign, amount) := by
  unfold suffix?
  dsimp only
  split
  · rename_i bad
    simp only [Bool.or_eq_true, List.isEmpty_iff, List.any_eq_true] at bad
    constructor
    · rintro ⟨⟩
    · rintro ⟨sign, rfl, plain, rfl⟩
      rcases bad with rfl | ⟨c, mem, signed⟩
      · exact absurd rfl plain.1
      · exact absurd signed (by simp [plain.2 c mem])
  · rename_i good
    simp only [Bool.or_eq_true, List.isEmpty_iff, List.any_eq_true, not_or, not_exists, not_and,
      Bool.not_eq_true] at good
    simp only [Option.map_eq_some_iff, Sign.ofSymbol?_eq_some]
    constructor
    · rintro ⟨sign, rfl, rfl⟩
      exact ⟨sign, rfl, good, rfl⟩
    · rintro ⟨sign, rfl, -, rfl⟩
      exact ⟨sign, rfl, rfl⟩

theorem split?_chars (proper : s.Proper) : split? s.chars = some s := by
  obtain ⟨sign, date, suffix⟩ := s
  unfold chars
  rw [List.cons_append]
  cases suffix with
  | none =>
    rw [split?_append proper.date (by simp)]
    rfl
  | some suffix =>
    obtain ⟨second, amount⟩ := suffix
    rw [split?_append proper.date (by simp [isSign_symbol]),
      suffix?_cons_eq_some_iff.2 ⟨second, rfl, proper.amount second amount rfl, rfl⟩]
    rfl

theorem split?_eq_some_iff : split? cs = some s ↔ s.Proper ∧ s.chars = cs := by
  constructor
  · intro h
    cases cs with
    | nil => cases h
    | cons c cs =>
      have parts : cs.takeWhile (!isSign ·) ++ cs.dropWhile (!isSign ·) = cs :=
        List.takeWhile_append_dropWhile
      have plain : ∀ c ∈ cs.takeWhile (!isSign ·), isSign c = false := fun c mem => by
        simpa using List.all_eq_true.1 List.all_takeWhile c mem
      simp only [split?, Option.bind_eq_bind, Option.bind_eq_some_iff, Sign.ofSymbol?_eq_some] at h
      obtain ⟨sign, rfl, h⟩ := h
      split at h
      · cases h
      · rename_i filled
        obtain ⟨suffix, tail, done⟩ := Option.bind_eq_some_iff.1 h
        cases done
        have date : Plain (cs.takeWhile (!isSign ·)) := ⟨fun nil => filled (by simp [nil]), plain⟩
        cases behind : cs.dropWhile (!isSign ·) with
        | nil =>
          rw [behind] at tail parts
          obtain rfl := Option.some.inj tail
          exact ⟨⟨date, by simp⟩, congrArg (sign.symbol :: ·) parts⟩
        | cons c amount =>
          rw [behind] at tail parts
          obtain ⟨second, rfl, amount', rfl⟩ := suffix?_cons_eq_some_iff.1 tail
          refine ⟨⟨date, ?_⟩, congrArg (sign.symbol :: ·) parts⟩
          rintro _ _ ⟨⟩
          exact amount'
  · rintro ⟨proper, rfl⟩
    exact split?_chars proper

/-- What a second sign and an amount make of a text that has a shape without them. -/
theorem split?_append_amount (h : split? cs = some s)
    (longer : split? (cs ++ sign.symbol :: amount) = some t) :
    s.suffix = none ∧ Plain amount := by
  obtain ⟨proper, rfl⟩ := split?_eq_some_iff.1 h
  obtain ⟨first, date, suffix⟩ := s
  cases suffix with
  | none =>
    simp only [chars, List.append_nil, List.cons_append] at longer
    rw [split?_append proper.date (by simp [isSign_symbol]), Option.map_eq_some_iff] at longer
    obtain ⟨suffix, tail, -⟩ := longer
    obtain ⟨-, -, plain, -⟩ := suffix?_cons_eq_some_iff.1 tail
    exact ⟨rfl, plain⟩
  | some suffix =>
    obtain ⟨second, own⟩ := suffix
    simp only [chars, List.cons_append, List.append_assoc] at longer
    rw [split?_append proper.date (by simp [isSign_symbol]), Option.map_eq_some_iff] at longer
    obtain ⟨suffix, tail, -⟩ := longer
    obtain ⟨-, -, plain, -⟩ := suffix?_cons_eq_some_iff.1 tail
    exact absurd (plain.2 sign.symbol (by simp)) (by simp [isSign_symbol])

theorem split?_append_plain (h : split? cs = some s) (bare : s.suffix = none)
    (plain : Plain amount) :
    split? (cs ++ sign.symbol :: amount) = some ⟨s.sign, s.date, some (sign, amount)⟩ := by
  obtain ⟨proper, rfl⟩ := split?_eq_some_iff.1 h
  refine split?_eq_some_iff.2 ⟨⟨proper.date, ?_⟩, ?_⟩
  · rintro _ _ ⟨⟩
    exact plain
  · simp [chars, bare]

end CivilRange.Shape
