import CivilRange.Proofs.Expression.LongNumber
import CivilRange.Proofs.Text.Fields
import Mathlib.Data.List.Forall2

set_option autoImplicit false

namespace CivilRange

variable {text : String} {d e : Duration} {rank : Nat} {u : TimeUnit}
  {field word stem digits : List Char} {fields : List (List Char)}

theorem not_isWord_of_isBlank {c : Char} (h : isBlank c = true) : isWord c = false := by
  have ascii : ∀ n < 128, isBlank (Char.ofNat n) = true → isWord (Char.ofNat n) = false := by
    decide +kernel
  have apart : ∀ span ∈ blankSpans, ∀ other ∈ wordSpans,
      span.last < other.first ∨ other.last < span.first := by decide +kernel
  by_cases lt : c.toNat < 128
  · have own := ascii c.toNat lt
    rw [Char.ofNat_toNat] at own
    exact own h
  · rw [isWord, if_neg lt]
    apply Bool.eq_false_iff.2
    intro letter
    obtain ⟨span, mem, holds⟩ := List.any_eq_true.1 h
    obtain ⟨other, mem', holds'⟩ := List.any_eq_true.1 letter
    simp only [Bool.and_eq_true, decide_eq_true_eq] at holds holds'
    have ne := apart span mem other mem'
    omega

theorem normalUnitChars_eq_iff (bare : stem.getLast? ≠ some 's') :
    normalUnitChars word = stem ++ ['s'] ↔
      lower word = stem ∨ lower word = stem ++ ['s'] ∨ lower word = stem ++ ['s'] ++ ['s'] := by
  unfold normalUnitChars
  dsimp only
  generalize lower word = unit
  by_cases plural : unit.getLast? = some 's'
  · obtain ⟨one, rfl⟩ := List.getLast?_eq_some_iff.1 plural
    have ne : one ++ ['s'] ≠ stem := by
      rintro rfl
      exact bare plural
    rw [if_pos plural, List.dropLast_concat, or_iff_right ne, List.append_left_inj,
      List.append_left_inj]
    -- without its last letter the word may still end in one
    by_cases more : one.getLast? = some 's'
    · have ne : one ≠ stem := by
        rintro rfl
        exact bare more
      rw [if_pos more, or_iff_right ne]
    · have ne : one ≠ stem ++ ['s'] := by
        rintro rfl
        exact more List.getLast?_concat
      rw [if_neg more, or_iff_left ne, List.append_left_inj]
  · have ne : unit ≠ stem ++ ['s'] ∧ unit ≠ stem ++ ['s'] ++ ['s'] := by
      constructor
      all_goals
        rintro rfl
        exact plural List.getLast?_concat
    rw [if_neg plural, if_neg plural, List.append_left_inj, or_iff_left (not_or.2 ne)]

namespace TimeUnit

/-- The word is the unit's name in some letter case, without its last `s`, or with one more. -/
def Spelled (u : TimeUnit) (word : List Char) : Prop :=
  lower word = u.name.toList.dropLast ∨ lower word = u.name.toList ∨
    lower word = u.name.toList ++ ['s']

theorem find?_eq_some_iff {name : String} : find? name = some u ↔ u.name = name := by
  constructor
  · exact find?_eq_some
  · rintro rfl
    exact find?_name u

theorem find?_normalUnitChars_iff :
    find? (String.ofList (normalUnitChars word)) = some u ↔ u.Spelled word := by
  have stem : u.name.toList.dropLast ++ ['s'] = u.name.toList ∧
      u.name.toList.dropLast.getLast? ≠ some 's' := by cases u <;> decide
  have same : u.name = String.ofList (normalUnitChars word) ↔
      normalUnitChars word = u.name.toList.dropLast ++ ['s'] := by
    rw [stem.1, ← String.toList_inj, String.toList_ofList, eq_comm]
  rw [find?_eq_some_iff, same, normalUnitChars_eq_iff stem.2, stem.1]
  rfl

theorem Spelled.ne_nil (h : u.Spelled word) : word ≠ [] := by
  rintro rfl
  have none : ∀ u : TimeUnit, ¬(lower [] = u.name.toList.dropLast ∨ lower [] = u.name.toList ∨
      lower [] = u.name.toList ++ ['s']) := by
    intro u
    cases u <;> decide
  exact none u h

theorem Spelled.not_isDigit (h : u.Spelled word) : ∀ c ∈ word.head?, c.isDigit = false := by
  intro c mem
  obtain ⟨rest, rfl⟩ := List.head?_eq_some_iff.1 mem
  apply Bool.eq_false_iff.2
  intro digit
  have named := find?_normalUnitChars_iff.2 h
  rw [find?_normalUnitChars_cons digit] at named
  cases named

end TimeUnit

structure Count where
  digits : List Char
  unit : TimeUnit

namespace Count

variable {count count' : Count} {counts counts' : List Count}

def number (count : Count) : Nat := Nat.ofDigitChars 10 count.digits 0

/-- The field is the digits and a spelling of the unit, with white space between and around. -/
def Entry (field : List Char) (count : Count) : Prop :=
  IsCount count.digits ∧ ∃ blanks word, trim field = count.digits ++ (blanks ++ word) ∧
    AllBlank blanks ∧ (∀ c ∈ word, isWord c = true) ∧ count.unit.Spelled word

theorem Entry.split (h : Entry field count) : IsCount count.digits ∧
    (trim field).takeWhile Char.isDigit = count.digits ∧ ∃ word,
      (trim field).dropWhile Char.isDigit ≠ [] ∧
      ((trim field).dropWhile Char.isDigit).dropWhile isBlank = word ∧
      (∀ c ∈ word, isWord c = true) ∧ count.unit.Spelled word := by
  obtain ⟨digits, blanks, word, whole, blank, letters, spelled⟩ := h
  have stops : ∀ c ∈ (blanks ++ word).head?, c.isDigit = false := by
    intro c mem
    cases blanks with
    | nil => exact spelled.not_isDigit c mem
    | cons b blanks =>
      obtain rfl := Option.some.inj mem
      exact not_isDigit_of_isBlank (blank b List.mem_cons_self)
  have solid : ∀ c ∈ word.head?, isBlank c = false := by
    intro c mem
    apply Bool.eq_false_iff.2
    intro blank
    have letter := letters c (List.mem_of_head? mem)
    rw [not_isWord_of_isBlank blank] at letter
    cases letter
  have behind : (trim field).dropWhile Char.isDigit = blanks ++ word := by
    rw [whole, List.dropWhile_append_of_pos digits.2, dropWhile_eq_self stops]
  have front : (trim field).takeWhile Char.isDigit = count.digits := by
    have both := List.takeWhile_append_dropWhile (p := Char.isDigit) (l := trim field)
    rw [behind, whole] at both
    rw [whole]
    exact List.append_cancel_right both
  refine ⟨digits, front, word, ?_, ?_, letters, spelled⟩
  · rw [behind]
    exact List.append_ne_nil_of_right_ne_nil _ spelled.ne_nil
  · rw [behind, List.dropWhile_append_of_pos blank, dropWhile_eq_self solid]

theorem Entry.unique (h : Entry field count) (h' : Entry field count') : count = count' := by
  obtain ⟨-, digits, word, -, behind, -, spelled⟩ := h.split
  obtain ⟨-, digits', word', -, behind', -, spelled'⟩ := h'.split
  obtain rfl := behind.symm.trans behind'
  have unit := TimeUnit.find?_normalUnitChars_iff.2 spelled
  rw [TimeUnit.find?_normalUnitChars_iff.2 spelled'] at unit
  cases count
  cases count'
  cases digits.symm.trans digits'
  cases unit
  rfl

theorem counts_iff_entry : Duration.Counts rank field digits u ↔
    Entry field ⟨digits, u⟩ ∧ rank < u.rank := by
  constructor
  · rintro ⟨word, token, unit, behind⟩
    refine ⟨?_, behind⟩
    rw [Token.read?_eq_ofSplit] at token
    have own : ∀ c ∈ (trim field).takeWhile Char.isDigit, c.isDigit = true :=
      List.all_eq_true.1 List.all_takeWhile
    by_cases nil : (trim field).dropWhile Char.isDigit = []
    · rw [nil] at token
      obtain ⟨c, digit, last⟩ := Token.word_of_ofSplit_nil own token
      obtain rfl : word = [c] := last
      rw [find?_normalUnitChars_cons digit] at unit
      cases unit
    · obtain ⟨⟨filled, -, letters⟩, same⟩ := (Token.ofSplit_eq_some_iff nil).1 token
      cases same
      refine ⟨⟨filled, own⟩, ((trim field).dropWhile Char.isDigit).takeWhile isBlank, _, ?_,
        List.all_eq_true.1 List.all_takeWhile, letters, TimeUnit.find?_normalUnitChars_iff.1 unit⟩
      rw [List.takeWhile_append_dropWhile, List.takeWhile_append_dropWhile]
  · rintro ⟨entry, behind⟩
    obtain ⟨count, front, word, ne, rfl, letters, spelled⟩ := entry.split
    refine ⟨_, ?_, TimeUnit.find?_normalUnitChars_iff.2 spelled, behind⟩
    rw [Token.read?_eq_ofSplit, front, Token.ofSplit_eq_some_iff ne]
    exact ⟨⟨count.1, spelled.ne_nil, letters⟩, rfl⟩

theorem exists_entry_of_mem (entries : List.Forall₂ Entry fields counts) (h : count ∈ counts) :
    ∃ field ∈ fields, Entry field count := by
  induction entries with
  | nil => cases h
  | cons entry entries ih =>
    rcases List.mem_cons.1 h with rfl | later
    · exact ⟨_, List.mem_cons_self, entry⟩
    · obtain ⟨field, mem, own⟩ := ih later
      exact ⟨field, List.mem_cons_of_mem _ mem, own⟩

def Descending (counts : List Count) : Prop :=
  counts.Pairwise fun count count' => count.unit.rank < count'.unit.rank

/-- The fields of the text are these counts, one at least. -/
def Write (counts : List Count) (text : String) : Prop :=
  ∃ fields, HasFields text.toList fields ∧ fields ≠ [] ∧ List.Forall₂ Entry fields counts ∧
    Descending counts

theorem Write.descending (h : Write counts text) : Descending counts := by
  obtain ⟨-, -, -, -, descending⟩ := h
  exact descending

theorem Write.unique (h : Write counts text) (h' : Write counts' text) :
    counts = counts' := by
  obtain ⟨fields, has, -, entries, -⟩ := h
  obtain ⟨fields', has', -, entries', -⟩ := h'
  obtain rfl := has.colonChars_eq.symm.trans has'.colonChars_eq
  have unique : Relator.RightUnique Entry := fun _ _ _ => Entry.unique
  exact unique.forall₂ entries entries'

end Count

namespace Duration

variable {count : Count} {counts counts' : List Count}

/-- The counted units have the amounts that they are counted with, and the others have none. -/
def Collects (d : Duration) (counts : List Count) : Prop :=
  (∀ count ∈ counts, d.amount count.unit = count.number) ∧
    ∀ u, (∀ count ∈ counts, count.unit ≠ u) → d.amount u = 0

def ShortNumbers (text : String) : Prop :=
  ∀ fields, HasFields text.toList fields →
    ∀ field ∈ fields, ((trim field).takeWhile Char.isDigit).length ≤ maxDigits

def withCounts (d : Duration) (counts : List Count) : Duration :=
  counts.foldl (fun d count => d.withAmount count.unit count.number) d

theorem amount_withAmount (d : Duration) (u other : TimeUnit) (n : Nat) :
    (d.withAmount u n).amount other = if other = u then n else d.amount other := by
  rw [withAmount, amount_ofAmounts]

theorem amount_withCounts_of_ne (h : ∀ count ∈ counts, count.unit ≠ u) :
    (d.withCounts counts).amount u = d.amount u := by
  induction counts generalizing d with
  | nil => rfl
  | cons count counts ih =>
    have rest := ih (d := d.withAmount count.unit count.number) fun count mem =>
      h count (List.mem_cons_of_mem _ mem)
    have other := (h count List.mem_cons_self).symm
    rw [amount_withAmount, if_neg other] at rest
    exact rest

theorem amount_withCounts (descending : Count.Descending counts) (h : count ∈ counts) :
    (d.withCounts counts).amount count.unit = count.number := by
  induction counts generalizing d with
  | nil => cases h
  | cons first counts ih =>
    obtain ⟨below, rest⟩ := List.pairwise_cons.1 descending
    rcases List.mem_cons.1 h with rfl | later
    · have others : ∀ other ∈ counts, other.unit ≠ count.unit := by
        intro other mem same
        have lt := below other mem
        rw [same] at lt
        exact Nat.lt_irrefl _ lt
      have own := amount_withCounts_of_ne (d := d.withAmount count.unit count.number) others
      rw [amount_withAmount, if_pos rfl] at own
      exact own
    · exact ih rest later

theorem eq_of_amount (h : ∀ u, d.amount u = e.amount u) : d = e := by
  rw [← ofAmounts_amount d, ← ofAmounts_amount e, funext h]

theorem collects_iff (descending : Count.Descending counts) :
    d.Collects counts ↔ zero.withCounts counts = d := by
  have collects : (zero.withCounts counts).Collects counts := by
    constructor
    · intro count mem
      exact amount_withCounts descending mem
    · intro u others
      rw [amount_withCounts_of_ne others, zero, amount_ofAmounts]
  constructor
  · rintro ⟨counted, left⟩
    apply eq_of_amount
    intro u
    by_cases there : ∃ count ∈ counts, count.unit = u
    · obtain ⟨count, mem, rfl⟩ := there
      rw [counted count mem, collects.1 count mem]
    · have others : ∀ count ∈ counts, count.unit ≠ u := fun count mem same =>
        there ⟨count, mem, same⟩
      rw [left u others, collects.2 u others]
  · rintro rfl
    exact collects

theorem readFields_eq_ok_iff : readFields text d rank fields = .ok e ↔
    ∃ counts, List.Forall₂ Count.Entry fields counts ∧ Count.Descending counts ∧
      (∀ count ∈ counts, rank < count.unit.rank) ∧
        (∀ count ∈ counts, count.digits.length ≤ maxDigits) ∧ d.withCounts counts = e := by
  -- each field raises the rank that all later ones have to pass
  induction fields generalizing d rank with
  | nil =>
    simp only [readFields, Except.ok.injEq, List.forall₂_nil_left_iff, exists_eq_left]
    simp [Count.Descending, withCounts]
  | cons field fields ih =>
    constructor
    · intro h
      obtain ⟨⟨d', rank'⟩, first, rest⟩ := bind_eq_ok_iff.1 h
      obtain ⟨digits, u, n, found, number, rfl, rfl⟩ := readField_eq_ok_iff.1 first
      obtain ⟨entry, behind⟩ := Count.counts_iff_entry.1 found
      obtain ⟨short, rfl⟩ := readNumber_eq_ok_iff.1 number
      obtain ⟨counts, entries, descending, below, shorts, rfl⟩ := ih.1 rest
      refine ⟨⟨digits, u⟩ :: counts, .cons entry entries, List.pairwise_cons.2 ⟨below, descending⟩,
        List.forall_mem_cons.2 ⟨behind, ?_⟩, List.forall_mem_cons.2 ⟨short, shorts⟩, rfl⟩
      intro count mem
      exact Nat.lt_trans behind (below count mem)
    · rintro ⟨counts, entries, descending, behind, shorts, rfl⟩
      cases entries with
      | cons entry entries =>
        rename_i count counts
        obtain ⟨below, descending⟩ := List.pairwise_cons.1 descending
        obtain ⟨short, shorts⟩ := List.forall_mem_cons.1 shorts
        have found := Count.counts_iff_entry.2 ⟨entry, behind count List.mem_cons_self⟩
        have number := readNumber_eq_ok_iff.2 ⟨short, rfl⟩
        refine bind_eq_ok_iff.2 ⟨(d.withAmount count.unit count.number, count.unit.rank),
          readField_eq_ok_iff.2 ⟨_, _, _, found, number, rfl, rfl⟩, ?_⟩
        exact ih.2 ⟨counts, entries, descending, below, shorts, rfl⟩

theorem read_eq_ok_iff : read text = .ok d ↔
    ∃ counts, Count.Write counts text ∧ (∀ count ∈ counts, count.digits.length ≤ maxDigits) ∧
      d.Collects counts := by
  have all : ∀ counts : List Count, ∀ count ∈ counts, 0 < count.unit.rank := by
    intro counts count _
    cases count.unit <;> decide
  have fields : read text = .ok d ↔ colonChars text.toList ≠ [] ∧
      readFields text zero 0 (colonChars text.toList) = .ok d := by
    unfold read
    split
    · rename_i empty
      simp [empty]
    · rename_i ne
      exact (and_iff_right ne).symm
  rw [fields, readFields_eq_ok_iff]
  constructor
  · rintro ⟨ne, counts, entries, descending, -, short, collected⟩
    exact ⟨counts, ⟨_, hasFields_colonChars _, ne, entries, descending⟩, short,
      (collects_iff descending).2 collected⟩
  · rintro ⟨counts, ⟨fields, has, ne, entries, descending⟩, short, collected⟩
    obtain rfl := has.colonChars_eq
    exact ⟨ne, counts, entries, descending, all counts, short,
      (collects_iff descending).1 collected⟩

theorem shortNumbers_of_length (h : text.toList.length ≤ maxDigits) : ShortNumbers text := by
  intro fields has field mem
  obtain rfl := has.colonChars_eq
  have within : (trim field).takeWhile Char.isDigit <:+: text.toList :=
    (List.takeWhile_prefix _).isInfix.trans
      ((infix_trim field).trans (infix_of_mem_colonChars mem))
  exact Nat.le_trans within.length_le h

theorem ShortNumbers.of_write (short : ShortNumbers text) (h : Count.Write counts text) :
    ∀ count ∈ counts, count.digits.length ≤ maxDigits := by
  intro count mem
  obtain ⟨fields, has, -, entries, -⟩ := h
  obtain ⟨field, there, entry⟩ := Count.exists_entry_of_mem entries mem
  have few := short fields has field there
  rwa [entry.split.2.1] at few

theorem ShortNumbers.fault (short : ShortNumbers text) {fault : Fault}
    (h : read text = .error fault) : ∃ cause, fault = .rejected (.duration text cause) := by
  cases read_fault h with
  | rejected kind =>
    obtain ⟨cause, rfl⟩ := kind
    exact ⟨cause, rfl⟩
  | longNumber =>
    obtain ⟨field, mem, rank, digits, u, found, long, -⟩ :=
      (read_eq_longNumber_iff.1 h).exists_counts
    have few := short _ (hasFields_colonChars _) field mem
    have entry := (Count.counts_iff_entry.1 found).1
    rw [entry.split.2.1] at few
    exact absurd long (Nat.not_lt.2 few)

/-- Which texts are durations, and of what amounts. -/
theorem reads_written_duration (short : ShortNumbers text) :
    ((∃ d, read text = .ok d) ↔ ∃ counts, Count.Write counts text) ∧
      (∀ counts, Count.Write counts text → ∀ d, (read text = .ok d ↔ d.Collects counts)) ∧
        ∀ fault, read text = .error fault →
          ∃ cause, fault = .rejected (.duration text cause) := by
  have reads : ∀ counts, Count.Write counts text → ∀ d,
      (read text = .ok d ↔ d.Collects counts) := by
    intro counts write d
    rw [read_eq_ok_iff]
    constructor
    · rintro ⟨counts', write', -, collected⟩
      rwa [write.unique write']
    · intro collected
      exact ⟨counts, write, short.of_write write, collected⟩
  refine ⟨⟨?_, ?_⟩, reads, fun fault => short.fault⟩
  · rintro ⟨d, there⟩
    obtain ⟨counts, write, -⟩ := read_eq_ok_iff.1 there
    exact ⟨counts, write⟩
  · rintro ⟨counts, write⟩
    exact ⟨_, (reads counts write _).2 ((collects_iff write.descending).2 rfl)⟩

/-- Two weeks may be written with the sign of the kelvin. -/
theorem kelvinWeeks_read : ShortNumbers " 1YEAR: 02 wee\u212A\t:30secondss::" ∧
    ∃ counts, Count.Write counts " 1YEAR: 02 wee\u212A\t:30secondss::" ∧
      (⟨1, 0, 2, 0, 0, 0, 30⟩ : Duration).Collects counts := by
  have short : ShortNumbers " 1YEAR: 02 wee\u212A\t:30secondss::" :=
    shortNumbers_of_length (by decide)
  have there : read " 1YEAR: 02 wee\u212A\t:30secondss::" = .ok ⟨1, 0, 2, 0, 0, 0, 30⟩ := by
    decide +kernel
  obtain ⟨exists_iff, collects, -⟩ := reads_written_duration short
  obtain ⟨counts, write⟩ := exists_iff.1 ⟨_, there⟩
  exact ⟨short, counts, write, (collects counts write _).1 there⟩

end Duration
end CivilRange
