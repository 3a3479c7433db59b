import CivilRange.Proofs.Text.Colons

set_option autoImplicit false

namespace CivilRange

variable {field cs : List Char} {fields : List (List Char)}

/-- The text is the fields with colons between them, and any number of colons behind. -/
structure HasFields (cs : List Char) (fields : List (List Char)) : Prop where
  colonless : ∀ field ∈ fields, ':' ∉ field
  last : ∀ field ∈ fields.getLast?, field ≠ []
  joined : ∃ colons, cs = [':'].intercalate fields ++ List.replicate colons ':'

theorem colon_not_mem_of_mem_splitOn (h : field ∈ cs.splitOn ':') : ':' ∉ field := by
  induction cs generalizing field with
  | nil =>
    obtain rfl := List.mem_singleton.1 h
    exact List.not_mem_nil
  | cons c cs ih =>
    rw [List.splitOn_cons_eq_if_modifyHead] at h
    split at h
    · rcases List.mem_cons.1 h with rfl | later
      · exact List.not_mem_nil
      · exact ih later
    · rename_i other
      obtain ⟨first, rest, fields⟩ := List.exists_cons_of_ne_nil (List.splitOn_ne_nil ':' cs)
      rw [fields] at h ih
      rcases List.mem_cons.1 h with rfl | later
      · rintro (_ | mem)
        · exact other rfl
        · exact ih List.mem_cons_self (by assumption)
      · exact ih (List.mem_cons_of_mem _ later)

theorem intercalate_concat {sep last : List Char} (ne : fields ≠ []) :
    sep.intercalate (fields ++ [last]) = sep.intercalate fields ++ (sep ++ last) := by
  induction fields with
  | nil => exact absurd rfl ne
  | cons first fields ih =>
    cases fields with
    | nil => simp
    | cons second rest =>
      rw [List.cons_append, List.cons_append, List.intercalate_cons_cons,
        List.intercalate_cons_cons, ← List.cons_append, ih (List.cons_ne_nil _ _)]
      simp only [List.append_assoc]

theorem mem_of_mem_intercalate {sep : List Char} {c : Char} (h : c ∈ sep.intercalate fields) :
    c ∈ sep ∨ ∃ field ∈ fields, c ∈ field := by
  induction fields with
  | nil => cases h
  | cons first fields ih =>
    cases fields with
    | nil =>
      rw [List.intercalate_singleton] at h
      exact .inr ⟨first, List.mem_cons_self, h⟩
    | cons second rest =>
      rw [List.intercalate_cons_cons, List.mem_append, List.mem_append] at h
      rcases h with (own | between) | later
      · exact .inr ⟨first, List.mem_cons_self, own⟩
      · exact .inl between
      · obtain between | ⟨field, mem, own⟩ := ih later
        · exact .inl between
        · exact .inr ⟨field, List.mem_cons_of_mem _ mem, own⟩

theorem intercalate_append_empty (ne : fields ≠ []) (n : Nat) :
    [':'].intercalate (fields ++ List.replicate n []) =
      [':'].intercalate fields ++ List.replicate n ':' := by
  induction n with
  | zero => simp
  | succ n ih =>
    rw [List.replicate_succ', ← List.append_assoc, intercalate_concat (by simp [ne]), ih,
      List.replicate_succ', List.append_nil, List.append_assoc]

theorem hasFields_colonChars (cs : List Char) : HasFields cs (colonChars cs) := by
  have kept : colonChars cs ++ (cs.splitOn ':').rtakeWhile List.isEmpty = cs.splitOn ':' :=
    List.rdropWhile_append_rtakeWhile
  have joined : [':'].intercalate (cs.splitOn ':') = cs := List.intercalate_splitOn ':'
  refine ⟨?_, ?_, ?_⟩
  · intro field mem
    exact colon_not_mem_of_mem_splitOn (kept ▸ List.mem_append_left _ mem)
  · intro field mem
    obtain ⟨ne, rfl⟩ := List.mem_getLast?_eq_getLast mem
    have filled := List.rdropWhile_last_not List.isEmpty (cs.splitOn ':') ne
    exact fun nil => filled (List.isEmpty_iff.2 nil)
  · have empty : (cs.splitOn ':').rtakeWhile List.isEmpty =
        List.replicate ((cs.splitOn ':').rtakeWhile List.isEmpty).length [] :=
      List.eq_replicate_iff.2 ⟨rfl, fun field mem => List.isEmpty_iff.1 (List.mem_rtakeWhile_imp mem)⟩
    rw [empty] at kept
    generalize ((cs.splitOn ':').rtakeWhile List.isEmpty).length = n at kept
    by_cases none : colonChars cs = []
    · -- colons alone are one empty field more than there are colons
      cases n with
      | zero => exact absurd kept.symm (by simp [none, List.splitOn_ne_nil])
      | succ n =>
        refine ⟨n, ?_⟩
        rw [none, ← joined, ← kept, none]
        exact intercalate_append_empty (List.cons_ne_nil [] []) n
    · exact ⟨n, by rw [← intercalate_append_empty none, kept, joined]⟩

theorem HasFields.colonChars_eq (h : HasFields cs fields) : colonChars cs = fields := by
  obtain ⟨colonless, last, colons, rfl⟩ := h
  change ((_ : List Char).splitOn ':').rdropWhile List.isEmpty = fields
  have empty : ∀ n, (List.replicate n []).rdropWhile (List.isEmpty (α := Char)) = [] := by
    intro n
    rw [List.rdropWhile_eq_nil_iff]
    intro field mem
    rw [List.eq_of_mem_replicate mem]
    rfl
  by_cases none : fields = []
  · subst none
    rw [List.intercalate_nil, List.nil_append, splitOn_colons (by simp), empty]
  · have colonless' : ∀ field ∈ fields ++ List.replicate colons [], ':' ∉ field := by
      intro field mem
      rcases List.mem_append.1 mem with mem | mem
      · exact colonless field mem
      · rw [List.eq_of_mem_replicate mem]
        exact List.not_mem_nil
    rw [← intercalate_append_empty none, List.splitOn_intercalate ':' colonless' (by simp [none]),
      rdropWhile_append_of_last _ (by simpa using last), empty, List.append_nil]

theorem hasFields_iff : HasFields cs fields ↔ colonChars cs = fields :=
  ⟨HasFields.colonChars_eq, fun h => h ▸ hasFields_colonChars cs⟩

theorem colonChars_eq_nil_iff : colonChars cs = [] ↔ ∀ c ∈ cs, c = ':' := by
  rw [← hasFields_iff]
  constructor
  · rintro ⟨-, -, colons, rfl⟩ c mem
    rw [List.intercalate_nil, List.nil_append] at mem
    exact List.eq_of_mem_replicate mem
  · intro colons
    refine ⟨by simp, by simp, cs.length, ?_⟩
    rw [List.intercalate_nil, List.nil_append]
    exact List.eq_replicate_iff.2 ⟨rfl, colons⟩

theorem map_toList_colonFields (text : String) :
    (colonFields text).map String.toList = colonChars text.toList := by
  simp [colonFields]

theorem colonFields_eq_nil_iff {text : String} :
    colonFields text = [] ↔ ∀ c ∈ text.toList, c = ':' := by
  rw [colonFields, List.map_eq_nil_iff, colonChars_eq_nil_iff]

theorem colonFields_eq_iff_hasFields {text : String} {fields : List String} :
    colonFields text = fields ↔ HasFields text.toList (fields.map String.toList) := by
  rw [hasFields_iff, ← map_toList_colonFields]
  exact (List.map_inj_right fun _ _ => String.toList_injective).symm

theorem toList_joined (fields : List String) (colons : Nat) :
    (":".intercalate fields ++ String.ofList (List.replicate colons ':')).toList =
      [':'].intercalate (fields.map String.toList) ++ List.replicate colons ':' := by
  simp

theorem colonFields_eq_iff {text : String} {fields : List String} :
    colonFields text = fields ↔
      (∀ field ∈ fields, ':' ∉ field.toList) ∧ (∀ last ∈ fields.getLast?, last ≠ "") ∧
        ∃ colons, text = ":".intercalate fields ++ String.ofList (List.replicate colons ':') := by
  have colonless : (∀ field ∈ fields.map String.toList, ':' ∉ field) ↔
      ∀ field ∈ fields, ':' ∉ field.toList := List.forall_mem_map
  have filled : (∀ last ∈ (fields.map String.toList).getLast?, last ≠ []) ↔
      ∀ last ∈ fields.getLast?, last ≠ "" := by simp [List.getLast?_map]
  simp only [← @String.toList_inj text, toList_joined]
  rw [colonFields_eq_iff_hasFields, ← colonless, ← filled]
  exact ⟨fun h => ⟨h.colonless, h.last, h.joined⟩, fun ⟨own, last, whole⟩ => ⟨own, last, whole⟩⟩

/-- Splitting and joining are inverse, but for the colons at the end of the text. -/
theorem colonFields_inverse_intercalate :
    (∀ text : String,
      (∀ field ∈ colonFields text, ':' ∉ field.toList) ∧
      (∀ last ∈ (colonFields text).getLast?, last ≠ "") ∧
      (∃ colons, text =
        ":".intercalate (colonFields text) ++ String.ofList (List.replicate colons ':')) ∧
      (colonFields text = [] ↔ ∀ c ∈ text.toList, c = ':')) ∧
    ∀ fields : List String, (∀ field ∈ fields, ':' ∉ field.toList) →
      (∀ last ∈ fields.getLast?, last ≠ "") → ∀ colons : Nat,
        colonFields (":".intercalate fields ++ String.ofList (List.replicate colons ':')) =
          fields := by
  constructor
  · intro text
    obtain ⟨colonless, last, joined⟩ := colonFields_eq_iff.1 (rfl : colonFields text = _)
    exact ⟨colonless, last, joined, colonFields_eq_nil_iff⟩
  · intro fields colonless last colons
    exact colonFields_eq_iff.2 ⟨colonless, last, colons, rfl⟩

theorem emptyMonth_kept :
    (∀ field ∈ ["2020", "", "01"], ':' ∉ field.toList) ∧
      (∀ last ∈ ["2020", "", "01"].getLast?, last ≠ "") ∧
      colonFields "2020::01::" = ["2020", "", "01"] :=
  ⟨by decide, by decide,
    colonFields_inverse_intercalate.2 ["2020", "", "01"] (by decide) (by decide) 2⟩

end CivilRange
