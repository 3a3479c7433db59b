import CivilRange.Written
import Mathlib.Data.List.DropRight

set_option autoImplicit false

namespace CivilRange

def AllBlank (s : List Char) : Prop := ∀ c ∈ s, isBlank c = true

structure Trimmed (s : List Char) : Prop where
  head : ∀ c ∈ s.head?, isBlank c = false
  last : ∀ c ∈ s.getLast?, isBlank c = false

theorem rdropWhile_append_of_pos {α : Type} {p : α → Bool} {xs ys : List α}
    (h : ∀ y ∈ ys, p y = true) : (xs ++ ys).rdropWhile p = xs.rdropWhile p := by
  unfold List.rdropWhile
  rw [List.reverse_append, List.dropWhile_append_of_pos]
  intro y mem
  exact h y (List.mem_reverse.1 mem)

theorem rdropWhile_eq_self {α : Type} {p : α → Bool} {xs : List α}
    (h : ∀ x ∈ xs.getLast?, p x = false) : xs.rdropWhile p = xs := by
  rw [List.rdropWhile_eq_self_iff]
  intro ne
  rw [h _ (List.getLast?_eq_some_getLast ne)]
  exact Bool.false_ne_true

theorem dropWhile_eq_self {α : Type} {p : α → Bool} {xs : List α}
    (h : ∀ x ∈ xs.head?, p x = false) : xs.dropWhile p = xs := by
  cases xs with
  | nil => rfl
  | cons x xs => exact List.dropWhile_cons_of_neg (by simp [h x rfl])

theorem rdropWhile_append_of_last {α : Type} {p : α → Bool} {xs : List α} (ys : List α)
    (h : ∀ x ∈ xs.getLast?, p x = false) : (xs ++ ys).rdropWhile p = xs ++ ys.rdropWhile p := by
  have stays : ∀ x ∈ (xs ++ ys.rdropWhile p).getLast?, p x = false := by
    intro x mem
    by_cases nil : ys.rdropWhile p = []
    · rw [nil, List.append_nil] at mem
      exact h x mem
    · rw [List.getLast?_append_of_ne_nil _ nil, List.getLast?_eq_some_getLast nil] at mem
      obtain rfl := Option.some.inj mem
      exact Bool.eq_false_iff.2 (List.rdropWhile_last_not p ys nil)
  calc (xs ++ ys).rdropWhile p
      = ((xs ++ ys.rdropWhile p) ++ ys.rtakeWhile p).rdropWhile p := by
        rw [List.append_assoc, List.rdropWhile_append_rtakeWhile]
    _ = (xs ++ ys.rdropWhile p).rdropWhile p :=
        rdropWhile_append_of_pos fun y => List.mem_rtakeWhile_imp
    _ = xs ++ ys.rdropWhile p := rdropWhile_eq_self stays

theorem exists_eq_append_trim (s : List Char) :
    ∃ front back, AllBlank front ∧ AllBlank back ∧ s = front ++ (trim s ++ back) ∧
      Trimmed (trim s) := by
  have whole : s.takeWhile isBlank ++
      (trim s ++ (s.dropWhile isBlank).rtakeWhile isBlank) = s := by
    change _ ++ ((s.dropWhile isBlank).rdropWhile isBlank ++ _) = s
    rw [List.rdropWhile_append_rtakeWhile, List.takeWhile_append_dropWhile]
  refine ⟨_, _, List.all_eq_true.1 List.all_takeWhile, fun c => List.mem_rtakeWhile_imp, whole.symm,
    ?_, ?_⟩
  · intro c mem
    obtain ⟨rest, same⟩ := List.rdropWhile_prefix isBlank (l := s.dropWhile isBlank)
    have first : (s.dropWhile isBlank).head? = some c := by
      rw [← same, List.head?_append, show (List.rdropWhile isBlank _).head? = some c from mem]
      rfl
    have stops := List.head?_dropWhile_not isBlank s
    rw [first] at stops
    simpa using stops
  · intro c mem
    obtain ⟨ne, rfl⟩ := List.mem_getLast?_eq_getLast mem
    exact Bool.eq_false_iff.2 (List.rdropWhile_last_not isBlank _ ne)

theorem infix_trim (s : List Char) : trim s <:+: s := by
  obtain ⟨front, back, -, -, whole, -⟩ := exists_eq_append_trim s
  exact ⟨front, back, by rw [List.append_assoc, ← whole]⟩

variable {field cs : List Char} {fields : List (List Char)}

theorem infix_intercalate {sep : List Char} (h : field ∈ fields) :
    field <:+: sep.intercalate fields := by
  induction fields with
  | nil => cases h
  | cons first fields ih =>
    cases fields with
    | nil =>
      obtain rfl := List.mem_singleton.1 h
      exact ⟨[], [], by simp [List.intercalate_singleton]⟩
    | cons second rest =>
      rw [List.intercalate_cons_cons]
      rcases List.mem_cons.1 h with rfl | later
      · rw [List.append_assoc]
        exact (List.prefix_append _ _).isInfix
      · exact (ih later).trans (List.suffix_append _ _).isInfix

theorem infix_of_mem_colonChars (h : field ∈ colonChars cs) : field <:+: cs := by
  have kept : colonChars cs <+: cs.splitOn ':' := List.rdropWhile_prefix _ _
  have joined : [':'].intercalate (cs.splitOn ':') = cs := List.intercalate_splitOn ':'
  exact joined ▸ infix_intercalate (kept.subset h)

theorem colonChars_of_not_mem (ne : cs ≠ []) (h : ':' ∉ cs) : colonChars cs = [cs] := by
  unfold colonChars
  rw [List.splitOn_eq_singleton h]
  simp [ne]

theorem splitOn_colons {s : List Char} (h : ∀ c ∈ s, (c == ':') = true) :
    s.splitOn ':' = List.replicate (s.length + 1) [] := by
  induction s with
  | nil => rfl
  | cons c s ih =>
    rw [List.splitOn_cons_eq_if_modifyHead, if_pos (h c List.mem_cons_self),
      ih fun c mem => h c (List.mem_cons_of_mem _ mem)]
    rfl

theorem splitOn_append {s t first : List Char} {rest : List (List Char)} (h : ':' ∉ s)
    (fields : t.splitOn ':' = first :: rest) : (s ++ t).splitOn ':' = (s ++ first) :: rest := by
  induction s with
  | nil => exact fields
  | cons c s ih =>
    have ne : (c == ':') = false := by
      simp only [beq_eq_false_iff_ne, ne_eq]
      rintro rfl
      exact h (List.mem_cons_self ..)
    rw [List.cons_append, List.splitOn_cons_eq_if_modifyHead, ne,
      ih fun mem => h (List.mem_cons_of_mem _ mem)]
    rfl

theorem prefix_of_splitOn {t first : List Char} {rest : List (List Char)}
    (fields : t.splitOn ':' = first :: rest) : first <+: t := by
  have joined : [':'].intercalate (t.splitOn ':') = t := List.intercalate_splitOn ':'
  rw [fields] at joined
  cases rest with
  | nil => exact ⟨[], by simpa [List.intercalate] using joined⟩
  | cons second rest => exact ⟨_, by simpa [List.intercalate] using joined⟩

theorem exists_colonChars_append (t : List Char) :
    ∃ first rest, first <+: t ∧
      ∀ s, s ≠ [] → ':' ∉ s → colonChars (s ++ t) = (s ++ first) :: rest := by
  obtain ⟨first, rest, fields⟩ := List.exists_cons_of_ne_nil (List.splitOn_ne_nil ':' t)
  refine ⟨first, rest.rdropWhile List.isEmpty, prefix_of_splitOn fields, ?_⟩
  intro s ne colon
  have filled : ∀ field ∈ [s ++ first].getLast?, field.isEmpty = false := by simp [ne]
  change ((s ++ t).splitOn ':').rdropWhile List.isEmpty = _
  rw [splitOn_append colon fields]
  exact rdropWhile_append_of_last rest filled

end CivilRange
