import CivilRange.Proofs.Duration.Counted
import CivilRange.Proofs.Text.Fields

set_option autoImplicit false

namespace CivilRange

variable {digits front back w s : List Char} {unit : String} {u : TimeUnit}

def unitField (unit : String) : List Char := unit.toList.rdropWhile (· == ':')

def unitWord (unit : String) : List Char := trim (unitField unit)

/-- One word, whose normal form is the name of the unit. -/
structure NamesUnit (unit : String) (u : TimeUnit) : Prop where
  word : ∀ c ∈ unitWord unit, isWord c = true
  name : TimeUnit.find? (normalUnit (String.ofList (unitWord unit))) = some u

theorem colonChars_digits_append (count : IsCount digits) (single : ':' ∉ unitField unit) :
    colonChars (digits ++ unit.toList) = [digits ++ unitField unit] := by
  have colons : unit.toList.rtakeWhile (· == ':') =
      List.replicate (unit.toList.rtakeWhile (· == ':')).length ':' :=
    List.eq_replicate_iff.2 ⟨rfl, fun c mem => by simpa using List.mem_rtakeWhile_imp mem⟩
  have joined : ∃ colons, digits ++ unit.toList =
      [':'].intercalate [digits ++ unitField unit] ++ List.replicate colons ':' := by
    refine ⟨(unit.toList.rtakeWhile (· == ':')).length, ?_⟩
    rw [List.intercalate_singleton, ← colons, List.append_assoc, unitField,
      List.rdropWhile_append_rtakeWhile]
  refine HasFields.colonChars_eq ⟨?_, ?_, joined⟩
  · simp [count.colon_not_mem, single]
  · simp [count.1]

namespace Token

theorem read?_append_word (count : IsCount digits) (hf : AllBlank front) (hb : AllBlank back)
    (trimmed : Trimmed w) (ne : w ≠ []) (head : ∀ c ∈ (front ++ w).head?, c.isDigit = false) :
    read? (digits ++ (front ++ (w ++ back))) = if w.all isWord then some ⟨digits, w⟩ else none := by
  have kept : (front ++ (w ++ back)).rdropWhile isBlank = front ++ w := by
    rw [← List.append_assoc, rdropWhile_append_of_pos hb, rdropWhile_eq_self]
    rw [List.getLast?_append_of_ne_nil _ ne]
    exact trimmed.last
  obtain ⟨c, rest, eq⟩ := List.exists_cons_of_ne_nil (show front ++ w ≠ [] by simp [ne])
  have stops : c.isDigit = false := head c (by rw [eq]; rfl)
  have own : (digits ++ (front ++ w)).takeWhile Char.isDigit = digits := by
    rw [List.takeWhile_append_of_pos count.2, eq, List.takeWhile_cons_of_neg (by simp [stops]),
      List.append_nil]
  have behind : (digits ++ (front ++ w)).dropWhile Char.isDigit = front ++ w := by
    rw [List.dropWhile_append_of_pos count.2, eq, List.dropWhile_cons_of_neg (by simp [stops])]
  have word : (front ++ w).dropWhile isBlank = w := by
    rw [List.dropWhile_append_of_pos hf, dropWhile_eq_self trimmed.head]
  rw [read?_eq_ofSplit, count.trim_append, kept, own, behind]
  simp [ofSplit, word, ne, count.1]

theorem read?_append_blank (count : IsCount digits) (blank : AllBlank s) :
    read? (digits ++ s) = ofSplit digits [] := by
  rw [read?_eq_ofSplit, count.trim_append, List.rdropWhile_eq_nil_iff.2 blank, List.append_nil,
    List.takeWhile_eq_self_iff.2 count.2, List.dropWhile_eq_nil_iff.2 count.2]

end Token

theorem exists_unitField (unit : String) : ∃ front back, AllBlank front ∧ AllBlank back ∧
    unitField unit = front ++ (unitWord unit ++ back) ∧ Trimmed (unitWord unit) :=
  exists_eq_append_trim (unitField unit)

theorem head?_toList_of_unitField {c : Char} (h : (unitField unit).head? = some c) :
    unit.toList.head? = some c := by
  obtain ⟨rest, same⟩ := List.rdropWhile_prefix (· == ':') (l := unit.toList)
  rw [← same, List.head?_append, show (List.rdropWhile _ _).head? = some c from h]
  rfl

namespace Token

theorem read?_append_unitField (count : IsCount digits) (ne : unitWord unit ≠ [])
    (head : ∀ c ∈ unit.toList.head?, c.isDigit = false) : read? (digits ++ unitField unit) =
      if (unitWord unit).all isWord then some ⟨digits, unitWord unit⟩ else none := by
  obtain ⟨front, back, hf, hb, field, trimmed⟩ := exists_unitField unit
  rw [field]
  refine read?_append_word count hf hb trimmed ne fun c mem => ?_
  refine head c (head?_toList_of_unitField ?_)
  rw [field, ← List.append_assoc, List.head?_append_of_ne_nil _ (by simp [ne])]
  exact mem

theorem read?_append_unitField_nil (count : IsCount digits) (nil : unitWord unit = []) :
    read? (digits ++ unitField unit) = ofSplit digits [] := by
  obtain ⟨front, back, hf, hb, field, -⟩ := exists_unitField unit
  rw [nil, List.nil_append] at field
  rw [field]
  exact read?_append_blank count fun c mem => (List.mem_append.1 mem).elim (hf c) (hb c)

end Token

namespace NamesUnit

theorem ne_nil (named : NamesUnit unit u) : unitWord unit ≠ [] := by
  intro nil
  have name := named.name
  rw [nil, show TimeUnit.find? (normalUnit (String.ofList [])) = none by decide] at name
  cases name

theorem colon_not_mem (named : NamesUnit unit u) : ':' ∉ unitField unit := by
  obtain ⟨front, back, hf, hb, field, -⟩ := exists_unitField unit
  rw [field, List.mem_append, List.mem_append]
  rintro (mem | mem | mem)
  · exact absurd (hf _ mem) (by decide)
  · exact absurd (named.word _ mem) (by decide)
  · exact absurd (hb _ mem) (by decide)

theorem word_not_isDigit (named : NamesUnit unit u) :
    ∀ c ∈ (unitWord unit).head?, c.isDigit = false := by
  intro c mem
  obtain ⟨rest, word⟩ := List.head?_eq_some_iff.1 mem
  apply Bool.eq_false_iff.2
  intro digit
  have name := named.name
  rw [word, normalUnit, String.toList_ofList, find?_normalUnitChars_cons digit] at name
  cases name

theorem not_isDigit (named : NamesUnit unit u) :
    ∀ c ∈ unit.toList.head?, c.isDigit = false := by
  intro c mem
  obtain ⟨front, back, hf, -, field, -⟩ := exists_unitField unit
  obtain ⟨e, rest, word⟩ := List.exists_cons_of_ne_nil named.ne_nil
  have letter := named.word_not_isDigit e (by rw [word]; rfl)
  rw [word] at field
  cases front with
  | nil =>
    have same : unit.toList.head? = some e := head?_toList_of_unitField (by rw [field]; rfl)
    obtain rfl := Option.some.inj (same.symm.trans mem)
    exact letter
  | cons b front =>
    have same : unit.toList.head? = some b := head?_toList_of_unitField (by rw [field]; rfl)
    obtain rfl := Option.some.inj (same.symm.trans mem)
    exact not_isDigit_of_isBlank (hf b List.mem_cons_self)

end NamesUnit

namespace Duration

variable {d : Duration}

theorem read_append_of_single (count : IsCount digits) (single : ':' ∉ unitField unit) :
    read (String.ofList (digits ++ unit.toList)) = Prod.fst <$>
      readField (String.ofList (digits ++ unit.toList)) .zero 0 (digits ++ unitField unit) := by
  rw [read_ofList_cons (colonChars_digits_append count single)]
  unfold readFields
  cases readField _ .zero 0 (digits ++ unitField unit) <;> rfl

theorem read_of_namesUnit (named : NamesUnit unit u) (count : IsCount digits) :
    read (String.ofList (digits ++ unit.toList)) = zero.withAmount u <$> readNumber digits := by
  have token : Token.read? (digits ++ unitField unit) = some ⟨digits, unitWord unit⟩ := by
    rw [Token.read?_append_unitField count named.ne_nil named.not_isDigit,
      if_pos (List.all_eq_true.2 named.word)]
  have found := named.name
  rw [normalUnit, String.toList_ofList] at found
  have counts : Counts 0 (digits ++ unitField unit) digits u :=
    ⟨unitWord unit, token, found, by cases u <;> decide⟩
  rw [read_append_of_single count named.colon_not_mem, readField_of_counts counts]
  cases readNumber digits <;> rfl

/-- Without digits at the front and colons in between, only a named unit can be read. -/
theorem exists_namesUnit_of_read (count : IsCount digits)
    (head : ∀ c ∈ unit.toList.head?, c.isDigit = false) (single : ':' ∉ unitField unit)
    (h : read (String.ofList (digits ++ unit.toList)) = .ok d) : ∃ u, NamesUnit unit u := by
  rw [read_append_of_single count single] at h
  obtain ⟨⟨d', rank⟩, field, rfl⟩ := map_eq_ok_iff.1 h
  obtain ⟨counted, u, n, ⟨word, read, found, -⟩, -⟩ := readField_eq_ok_iff.1 field
  by_cases nil : unitWord unit = []
  · rw [Token.read?_append_unitField_nil count nil] at read
    obtain ⟨c, digit, last⟩ := Token.word_of_ofSplit_nil count.2 read
    obtain rfl : word = [c] := last
    rw [find?_normalUnitChars_cons digit] at found
    cases found
  · rw [Token.read?_append_unitField count nil head] at read
    split at read
    · rename_i letters
      cases read
      refine ⟨u, List.all_eq_true.1 letters, ?_⟩
      rw [normalUnit, String.toList_ofList]
      exact found
    · cases read

end Duration

def TimeUnit.seconds? : TimeUnit → Option Nat
  | years | months => none
  | weeks => some 604800
  | days => some 86400
  | hours => some 3600
  | minutes => some 60
  | seconds => some 1

theorem TimeUnit.seconds_pos {u : TimeUnit} {step : Nat} (h : u.seconds? = some step) :
    0 < step := by
  cases u <;> cases h <;> decide

theorem Duration.elapsed_withAmount {u : TimeUnit} {step : Nat} (h : u.seconds? = some step)
    (n : Nat) :
    (zero.withAmount u n).totalMonths = 0 ∧ (zero.withAmount u n).elapsed = n * step := by
  cases u <;> cases h <;>
    simp [zero, withAmount, totalMonths, elapsed, ofAmounts, amount] <;> omega

end CivilRange
