import CivilRange.Proofs.Field
import CivilRange.Proofs.Text.Colons

set_option autoImplicit false

namespace CivilRange

variable {digits : List Char}

def IsCount (digits : List Char) : Prop := digits ≠ [] ∧ ∀ c ∈ digits, c.isDigit = true

theorem isDigits_iff : isDigits digits ↔ IsCount digits := by
  simp only [isDigits, IsCount, Bool.and_eq_true, Bool.not_eq_true', List.isEmpty_eq_false_iff,
    List.all_eq_true, ne_eq]

theorem isCount_toDigits (n : Nat) : IsCount (Nat.toDigits 10 n) :=
  ⟨Nat.toDigits_ne_nil, fun _ h => Nat.isDigit_of_mem_toDigits (by decide) (by decide) h⟩

theorem isCount_padded (width n : Nat) : IsCount (padded width n).toList :=
  isDigits_iff.1 (isDigits_padded width n)

theorem not_isBlank_of_isDigit {c : Char} (h : c.isDigit = true) : isBlank c = false := by
  simpa using of_isDigit (p := fun c => !isBlank c) (by decide) h

theorem not_isDigit_of_isBlank {c : Char} (h : isBlank c = true) : c.isDigit = false := by
  apply Bool.eq_false_iff.2
  intro digit
  rw [not_isBlank_of_isDigit digit] at h
  cases h

theorem IsCount.colon_not_mem (h : IsCount digits) : ':' ∉ digits := fun mem =>
  absurd (h.2 _ mem) (by decide)

theorem IsCount.blank_not_mem (h : IsCount digits) : ' ' ∉ digits :=
  fun mem => absurd (h.2 _ mem) (by decide)

theorem IsCount.trim_append (count : IsCount digits) (field : List Char) :
    trim (digits ++ field) = digits ++ field.rdropWhile isBlank := by
  have solid : ∀ c ∈ digits, isBlank c = false := fun c mem =>
    not_isBlank_of_isDigit (count.2 c mem)
  have front : (digits ++ field).dropWhile isBlank = digits ++ field := by
    apply dropWhile_eq_self
    rw [List.head?_append_of_ne_nil _ count.1]
    exact fun c mem => solid c (List.mem_of_head? mem)
  change ((digits ++ field).dropWhile isBlank).rdropWhile isBlank = _
  rw [front]
  exact rdropWhile_append_of_last field fun c mem => solid c (List.mem_of_getLast? mem)

theorem TimeUnit.find?_eq_some {u : TimeUnit} {name : String} (h : find? name = some u) :
    u.name = name := by
  simpa using List.find?_some h

theorem TimeUnit.not_isDigit_of_head? {u : TimeUnit} {c : Char} (h : u.name.toList.head? = some c) :
    c.isDigit = false := by
  have all : TimeUnit.all.all (fun u => (u.name.toList.head?.map Char.isDigit) == some false) :=
    by decide
  have own := List.all_eq_true.1 all u u.mem_all
  rw [h] at own
  simpa using own

theorem head?_normalUnitChars {w : List Char} {c : Char} (ne : c ≠ 's')
    (h : (lower w).head? = some c) : (normalUnitChars w).head? = some c := by
  have stem : (if (lower w).getLast? = some 's' then (lower w).dropLast else lower w).head? =
      some c := by
    split
    · rename_i plural
      obtain ⟨rest, eq⟩ := List.head?_eq_some_iff.1 h
      cases rest with
      | nil =>
        rw [eq] at plural
        exact absurd (Option.some.inj plural) ne
      | cons e rest =>
        rw [eq]
        rfl
    · exact h
  unfold normalUnitChars
  dsimp only
  generalize (if (lower w).getLast? = some 's' then (lower w).dropLast else lower w) = root
    at stem ⊢
  split
  · exact stem
  · rw [List.head?_append, stem]
    rfl

theorem find?_normalUnitChars_cons {c : Char} (digit : c.isDigit = true) (w : List Char) :
    TimeUnit.find? (String.ofList (normalUnitChars (c :: w))) = none := by
  have own : lowerChar c = [c] := by
    simpa using of_isDigit (p := fun c => lowerChar c == [c]) (by decide +kernel) digit
  have ne : c ≠ 'Σ' := by
    rintro rfl
    exact absurd digit (by decide)
  have front : (lower (c :: w)).head? = some c := by
    rw [lower, lowerAfter, if_neg ne, own]
    rfl
  have ne' : c ≠ 's' := by
    rintro rfl
    exact absurd digit (by decide)
  have head := head?_normalUnitChars ne' front
  cases found : TimeUnit.find? (String.ofList (normalUnitChars (c :: w))) with
  | none => rfl
  | some u =>
    rw [← String.toList_ofList (l := normalUnitChars (c :: w)),
      ← TimeUnit.find?_eq_some found] at head
    rw [TimeUnit.not_isDigit_of_head? head] at digit
    cases digit

namespace Token

def ofSplit (digits rest : List Char) : Option Token :=
  if rest.isEmpty then
    match digits.getLast? with
    | some last => if digits.length < 2 then none else some ⟨digits.dropLast, [last]⟩
    | none => none
  else
    let word := rest.dropWhile isBlank
    if !digits.isEmpty && !word.isEmpty && word.all isWord then some ⟨digits, word⟩ else none

theorem read?_eq_ofSplit (field : List Char) : read? field =
    ofSplit ((trim field).takeWhile Char.isDigit) ((trim field).dropWhile Char.isDigit) := rfl

theorem exists_ofSplit_append (field : List Char) :
    ∃ more rest, more <+: field ∧ (∀ c ∈ more, c.isDigit = true) ∧
      ∀ digits, IsCount digits → read? (digits ++ field) = ofSplit (digits ++ more) rest := by
  let kept := field.rdropWhile isBlank
  refine ⟨kept.takeWhile Char.isDigit, kept.dropWhile Char.isDigit,
    (List.takeWhile_prefix _).trans (List.rdropWhile_prefix isBlank _),
    List.all_eq_true.1 List.all_takeWhile, ?_⟩
  intro digits count
  rw [read?_eq_ofSplit, count.trim_append, List.takeWhile_append_of_pos count.2,
    List.dropWhile_append_of_pos count.2]

theorem digits_of_read? {field : List Char} {token : Token} (h : read? field = some token) :
    token.digits <:+: field ∧ ∀ c ∈ token.digits, c.isDigit = true := by
  have front : token.digits <+: (trim field).takeWhile Char.isDigit := by
    rw [read?_eq_ofSplit] at h
    unfold ofSplit at h
    dsimp only at h
    split at h
    · split at h
      · split at h
        · cases h
        · cases h
          exact List.dropLast_prefix _
      · cases h
    · split at h
      · cases h
        exact List.prefix_refl _
      · cases h
  refine ⟨front.isInfix.trans ((List.takeWhile_prefix _).isInfix.trans (infix_trim field)), ?_⟩
  exact fun c mem => List.all_eq_true.1 List.all_takeWhile c (front.subset mem)

theorem word_of_ofSplit_nil {digits : List Char} {token : Token}
    (all : ∀ c ∈ digits, c.isDigit = true) (h : ofSplit digits [] = some token) :
    ∃ c, c.isDigit = true ∧ token.word = [c] := by
  simp only [ofSplit, List.isEmpty_nil, ↓reduceIte] at h
  split at h
  · rename_i last eq
    split at h
    · cases h
    · obtain rfl := Option.some.inj h
      exact ⟨last, all _ (List.mem_of_getLast? eq), rfl⟩
  · cases h

theorem ofSplit_eq_some_iff {digits rest : List Char} {token : Token} (ne : rest ≠ []) :
    ofSplit digits rest = some token ↔
      (digits ≠ [] ∧ rest.dropWhile isBlank ≠ [] ∧
        ∀ c ∈ rest.dropWhile isBlank, isWord c = true) ∧
          (⟨digits, rest.dropWhile isBlank⟩ : Token) = token := by
  simp only [ofSplit, List.isEmpty_iff, ne, ↓reduceIte]
  split
  · rename_i letters
    simp only [Bool.and_eq_true, Bool.not_eq_true', List.isEmpty_eq_false_iff,
      List.all_eq_true, and_assoc] at letters
    rw [Option.some.injEq, and_iff_right letters]
  · rename_i other
    simp only [Bool.and_eq_true, Bool.not_eq_true', List.isEmpty_eq_false_iff,
      List.all_eq_true, and_assoc] at other
    simp only [reduceCtorEq, false_iff, not_and]
    exact fun letters => absurd letters other

theorem ofSplit_of_ne_nil {digits zero rest : List Char} {token : Token} (ne : rest ≠ [])
    (filled : digits ≠ []) (h : ofSplit zero rest = some token) :
    ofSplit digits rest = some ⟨digits, token.word⟩ := by
  obtain ⟨⟨-, word⟩, rfl⟩ := (ofSplit_eq_some_iff ne).1 h
  exact (ofSplit_eq_some_iff ne).2 ⟨⟨filled, word⟩, rfl⟩

/-- A field that has a unit behind some count has it behind every count; `more` are the digits that
it begins with itself. -/
theorem exists_read?_append {field zero : List Char} {token : Token} {unit : TimeUnit}
    (count : IsCount zero) (h : read? (zero ++ field) = some token)
    (found : TimeUnit.find? (String.ofList (normalUnitChars token.word)) = some unit) :
    ∃ more, more <+: field ∧ (∀ c ∈ more, c.isDigit = true) ∧
      ∀ digits, IsCount digits → read? (digits ++ field) = some ⟨digits ++ more, token.word⟩ := by
  obtain ⟨more, rest, front, own, split⟩ := exists_ofSplit_append field
  rw [split zero count] at h
  have ne : rest ≠ [] := by
    rintro rfl
    obtain ⟨c, digit, word⟩ := word_of_ofSplit_nil
      (fun c mem => (List.mem_append.1 mem).elim (count.2 c) (own c)) h
    rw [word, find?_normalUnitChars_cons digit] at found
    cases found
  refine ⟨more, front, own, ?_⟩
  intro digits count
  rw [split digits count]
  exact ofSplit_of_ne_nil ne (by simp [count.1]) h

end Token

namespace Duration

variable {text : String} {d d' e : Duration} {unit other : TimeUnit} {rank rank' n k : Nat}
  {field : List Char} {fields : List (List Char)}

theorem withAmount_comm (d : Duration) (h : unit ≠ other) (n k : Nat) :
    (d.withAmount unit n).withAmount other k = (d.withAmount other k).withAmount unit n := by
  unfold withAmount
  congr 1
  funext u
  simp only [amount_ofAmounts]
  split
  · rename_i eq
    rw [if_neg (by rintro rfl; exact h eq)]
  · rfl

theorem withAmount_withAmount (d : Duration) (unit : TimeUnit) (n k : Nat) :
    (d.withAmount unit n).withAmount unit k = d.withAmount unit k := by
  unfold withAmount
  congr 1
  funext u
  simp only [amount_ofAmounts]
  split <;> rfl

theorem readField_withAmount (text' : String) (above : unit.rank ≤ rank) (n : Nat)
    (h : readField text d rank field = .ok (d', rank')) :
    readField text' (d.withAmount unit n) rank field = .ok (d'.withAmount unit n, rank') ∧
      rank ≤ rank' := by
  obtain ⟨digits, other, k, counts, number, rfl, rfl⟩ := readField_eq_ok_iff.1 h
  have below := counts.rank_lt
  have ne : unit ≠ other := by
    rintro rfl
    omega
  exact ⟨readField_eq_ok_iff.2 ⟨digits, other, k, counts, number, withAmount_comm d ne n k, rfl⟩,
    Nat.le_of_lt below⟩

theorem readFields_withAmount (text' : String) (above : unit.rank ≤ rank) (n : Nat)
    (h : readFields text d rank fields = .ok e) :
    readFields text' (d.withAmount unit n) rank fields = .ok (e.withAmount unit n) := by
  induction fields generalizing d rank with
  | nil =>
    obtain rfl := Except.ok.inj h
    rfl
  | cons field fields ih =>
    obtain ⟨⟨d', rank'⟩, first, rest⟩ := bind_eq_ok_iff.1 h
    obtain ⟨first', le⟩ := readField_withAmount text' above n first
    refine bind_eq_ok_iff.2 ⟨_, first', ?_⟩
    exact ih (Nat.le_trans above le) rest

theorem read_ofList_cons {s : List Char} (h : colonChars s = field :: fields) :
    read (String.ofList s) = readFields (String.ofList s) .zero 0 (field :: fields) := by
  unfold read
  rw [String.toList_ofList, h]

/-- What a text with a count in front is as a duration: one unit has the counted amount, and the
count decides nothing else. The digits that the text itself begins with go on from the count. -/
theorem exists_read_append {zero t : List Char} (count : IsCount zero)
    (h : read (String.ofList (zero ++ t)) = .ok d) :
    ∃ unit more, (more <+: t ∧ ∀ c ∈ more, c.isDigit = true) ∧ ∀ digits, IsCount digits →
      read (String.ofList (digits ++ t)) = d.withAmount unit <$> readNumber (digits ++ more) := by
  obtain ⟨first, rest, front, fields⟩ := exists_colonChars_append t
  rw [read_ofList_cons (fields zero count.1 count.colon_not_mem)] at h
  obtain ⟨⟨d₁, rank⟩, start, others⟩ := bind_eq_ok_iff.1 h
  obtain ⟨counted, unit, n, ⟨word, token, found, pos⟩, number, rfl, rfl⟩ :=
    readField_eq_ok_iff.1 start
  obtain ⟨more, start', own, token'⟩ := Token.exists_read?_append count token found
  refine ⟨unit, more, ⟨start'.trans front, own⟩, ?_⟩
  intro digits count'
  rw [read_ofList_cons (fields digits count'.1 count'.colon_not_mem)]
  have counts : Counts 0 (digits ++ first) (digits ++ more) unit :=
    ⟨word, token' digits count', found, pos⟩
  unfold readFields
  rw [readField_of_counts counts]
  cases readNumber (digits ++ more) with
  | error fault => rfl
  | ok k =>
    have counted := readFields_withAmount (String.ofList (digits ++ t)) (Nat.le_refl _) k others
    rw [withAmount_withAmount] at counted
    exact counted

end Duration
end CivilRange
