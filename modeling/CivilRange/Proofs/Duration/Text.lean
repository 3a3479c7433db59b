import CivilRange.Proofs.Duration.Written

set_option autoImplicit false

namespace CivilRange

variable {text : String} {d e : Duration} {count : Count}

def Count.chars (count : Count) : List Char := count.digits ++ count.unit.name.toList

theorem Count.entry_chars (digits : IsCount count.digits) : Count.Entry count.chars count := by
  obtain ⟨last, letters, own⟩ : count.unit.name.toList.getLast? = some 's' ∧
      count.unit.name.toList.all isWord = true ∧
        lower count.unit.name.toList = count.unit.name.toList := by
    cases count.unit <;> decide +kernel
  have solid : ∀ c ∈ count.unit.name.toList.getLast?, isBlank c = false := by
    intro c mem
    obtain rfl := Option.some.inj (last.symm.trans mem)
    decide
  refine ⟨digits, [], count.unit.name.toList, ?_, fun c mem => (List.not_mem_nil mem).elim,
    List.all_eq_true.1 letters, .inr (.inl own)⟩
  rw [chars, digits.trim_append, rdropWhile_eq_self solid, List.nil_append]

theorem Count.colon_not_mem_chars (digits : IsCount count.digits) : ':' ∉ count.chars := by
  have name : ':' ∉ count.unit.name.toList := by cases count.unit <;> decide
  simp [chars, digits.colon_not_mem, name]

namespace Duration

def count? (d : Duration) (u : TimeUnit) : Option Count :=
  if d.amount u = 0 then none else some ⟨Nat.toDigits 10 (d.amount u), u⟩

def counts (d : Duration) : List Count :=
  match TimeUnit.all.filterMap d.count? with
  | [] => [⟨['0'], .seconds⟩]
  | counts => counts

theorem count?_eq_some_iff {u : TimeUnit} : d.count? u = some count ↔
    d.amount u ≠ 0 ∧ count = ⟨Nat.toDigits 10 (d.amount u), u⟩ := by
  unfold count?
  split
  · rename_i zero
    simp [zero]
  · rename_i ne
    rw [Option.some.injEq, and_iff_right ne, eq_comm]

theorem part_eq (d : Duration) (u : TimeUnit) :
    d.part u = (d.count? u).map fun count => String.ofList count.chars := by
  unfold part count?
  split
  · rfl
  · rw [Option.map_some, Option.some.injEq, ← String.toList_inj, String.toList_append,
      Nat.toList_repr, String.toList_ofList]
    rfl

theorem toList_text (d : Duration) :
    d.text.toList = [':'].intercalate (d.counts.map Count.chars) := by
  have parts : TimeUnit.all.filterMap d.part =
      (TimeUnit.all.filterMap d.count?).map fun count => String.ofList count.chars := by
    rw [List.map_filterMap, funext (part_eq d)]
  unfold text counts
  rw [parts]
  cases TimeUnit.all.filterMap d.count? with
  | nil => decide
  | cons first rest =>
    have chars : String.toList ∘ (fun count : Count => String.ofList count.chars) =
        Count.chars := by
      funext count
      exact String.toList_ofList
    change (":".intercalate ((first :: rest).map _)).toList = _
    rw [String.toList_intercalate, List.map_map, chars]
    rfl

/-- The text's counts are those of units that are not zero, or the zero of no unit at all. -/
theorem mem_counts_iff : count ∈ d.counts ↔
    (∃ u, d.amount u ≠ 0 ∧ count = ⟨Nat.toDigits 10 (d.amount u), u⟩) ∨
      (∀ u, d.amount u = 0) ∧ count = ⟨['0'], .seconds⟩ := by
  have counted : count ∈ TimeUnit.all.filterMap d.count? ↔
      ∃ u, d.amount u ≠ 0 ∧ count = ⟨Nat.toDigits 10 (d.amount u), u⟩ := by
    simp only [List.mem_filterMap, count?_eq_some_iff, TimeUnit.mem_all, true_and]
  have none : TimeUnit.all.filterMap d.count? = [] ↔ ∀ u, d.amount u = 0 := by
    rw [List.filterMap_eq_nil_iff]
    constructor
    · intro h u
      have own := h u u.mem_all
      unfold count? at own
      split at own
      · assumption
      · cases own
    · intro h u _
      rw [count?, if_pos (h u)]
  rw [← counted, ← none]
  unfold counts
  cases TimeUnit.all.filterMap d.count? with
  | nil => simp
  | cons first rest => simp

theorem counts_ne_nil (d : Duration) : d.counts ≠ [] := by
  unfold counts
  cases TimeUnit.all.filterMap d.count? with
  | nil => exact List.cons_ne_nil _ _
  | cons first rest => exact List.cons_ne_nil _ _

theorem isCount_of_mem_counts (h : count ∈ d.counts) : IsCount count.digits := by
  rcases mem_counts_iff.1 h with ⟨u, -, rfl⟩ | ⟨-, rfl⟩
  · exact isCount_toDigits (d.amount u)
  · exact isCount_toDigits 0

theorem descending_counts (d : Duration) : Count.Descending d.counts := by
  have down : TimeUnit.all.Pairwise fun u other => u.rank < other.rank := by decide
  have kept : Count.Descending (TimeUnit.all.filterMap d.count?) := by
    refine down.filterMap d.count? ?_
    intro u other below count there count' there'
    obtain ⟨-, rfl⟩ := count?_eq_some_iff.1 there
    obtain ⟨-, rfl⟩ := count?_eq_some_iff.1 there'
    exact below
  unfold counts
  generalize TimeUnit.all.filterMap d.count? = counts at kept
  cases counts with
  | nil => exact List.pairwise_singleton _ _
  | cons first rest => exact kept

theorem write_text (d : Duration) : Count.Write d.counts d.text := by
  refine ⟨d.counts.map Count.chars, ⟨?_, ?_, 0, ?_⟩, by simp [counts_ne_nil], ?_,
    descending_counts d⟩
  · intro field mem
    obtain ⟨count, there, rfl⟩ := List.mem_map.1 mem
    exact Count.colon_not_mem_chars (isCount_of_mem_counts there)
  · intro field mem
    obtain ⟨count, there, rfl⟩ := List.mem_map.1 (List.mem_of_getLast? mem)
    exact List.append_ne_nil_of_left_ne_nil (isCount_of_mem_counts there).1 _
  · rw [toList_text, List.replicate_zero, List.append_nil]
  · rw [List.forall₂_map_left_iff, List.forall₂_same]
    intro count mem
    exact Count.entry_chars (isCount_of_mem_counts mem)

theorem collects_counts (d : Duration) : d.Collects d.counts := by
  constructor
  · intro count mem
    rcases mem_counts_iff.1 mem with ⟨u, -, rfl⟩ | ⟨zero, rfl⟩
    · exact Nat.ofDigitChars_ten_toDigits.symm
    · exact zero .seconds
  · intro u others
    by_contra ne
    exact others _ (mem_counts_iff.2 (.inl ⟨u, ne, rfl⟩)) rfl

theorem amount_lt_of_read (h : read text = .ok d) (u : TimeUnit) : d.amount u < numberLimit := by
  obtain ⟨counts, ⟨fields, -, -, entries, -⟩, short, counted, left⟩ := read_eq_ok_iff.1 h
  by_cases there : ∃ count ∈ counts, count.unit = u
  · obtain ⟨count, mem, rfl⟩ := there
    obtain ⟨field, -, entry⟩ := Count.exists_entry_of_mem entries mem
    rw [counted count mem]
    exact Nat.lt_of_lt_of_le (ofDigitChars_zero_lt entry.1.2) (pow_le_numberLimit (short count mem))
  · have others : ∀ count ∈ counts, count.unit ≠ u := fun count mem same => there ⟨count, mem, same⟩
    rw [left u others]
    exact Nat.lt_of_lt_of_le Nat.one_pos (pow_le_numberLimit (Nat.zero_le _))

theorem read_text (h : ∀ u, d.amount u < numberLimit) : read d.text = .ok d := by
  refine read_eq_ok_iff.2 ⟨d.counts, write_text d, ?_, collects_counts d⟩
  intro count mem
  rcases mem_counts_iff.1 mem with ⟨u, -, rfl⟩ | ⟨-, rfl⟩
  · exact (readNumber_eq_ok_iff.1 (readNumber_toDigits (h u))).1
  · decide

/-- Reading undoes writing, and no two durations are written alike. -/
theorem text_reads_back :
    (∀ d : Duration, (∀ u, d.amount u < numberLimit) → read d.text = .ok d) ∧
      (∀ text d, read text = .ok d → read d.text = .ok d) ∧
        Function.Injective Duration.text := by
  refine ⟨fun d => read_text, fun text d h => read_text (amount_lt_of_read h), ?_⟩
  intro d e same
  have write : Count.Write e.counts d.text := same ▸ write_text e
  have counts : d.counts = e.counts := (write_text d).unique write
  have collected := (collects_iff (descending_counts d)).1 (collects_counts d)
  have collected' := (collects_iff (descending_counts e)).1 (collects_counts e)
  rw [← collected, ← collected', counts]

theorem spacedHours_read_back :
    (∀ u, (⟨0, 14, 0, 0, 0, 0, 3600⟩ : Duration).amount u < numberLimit) ∧
      read " 5 HOUR" = .ok ⟨0, 0, 0, 0, 5, 0, 0⟩ ∧
      read (Duration.text ⟨0, 14, 0, 0, 0, 0, 3600⟩) = .ok ⟨0, 14, 0, 0, 0, 0, 3600⟩ ∧
      read (Duration.text ⟨0, 0, 0, 0, 5, 0, 0⟩) = .ok ⟨0, 0, 0, 0, 5, 0, 0⟩ := by
  have small : ∀ u, (⟨0, 14, 0, 0, 0, 0, 3600⟩ : Duration).amount u < numberLimit := by
    intro u
    have four : Nat.pow 10 4 ≤ numberLimit := pow_le_numberLimit (by decide)
    have most : (⟨0, 14, 0, 0, 0, 0, 3600⟩ : Duration).amount u < Nat.pow 10 4 := by
      cases u <;> decide
    exact Nat.lt_of_lt_of_le most four
  have there : read " 5 HOUR" = .ok ⟨0, 0, 0, 0, 5, 0, 0⟩ := by decide +kernel
  exact ⟨small, there, text_reads_back.1 _ small, text_reads_back.2.1 _ _ there⟩

end Duration
end CivilRange
