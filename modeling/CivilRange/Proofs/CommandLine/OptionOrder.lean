import CivilRange.Proofs.CommandLine.Printed

set_option autoImplicit false

namespace CivilRange.CommandLine

variable {l l' : List (Setting × String)}

def attached (p : Setting × String) : String := p.1.name ++ "=" ++ p.2

theorem toList_attached (p : Setting × String) :
    (attached p).toList = p.1.name.toList ++ '=' :: p.2.toList := by
  simp [attached]

theorem Setting.equals_not_mem_name (s : Setting) : '=' ∉ s.name.toList := by
  cases s <;> decide

theorem splitValue_attached (p : Setting × String) :
    splitValue (attached p).toList = (p.1.name.toList, some p.2.toList) := by
  have name : ∀ c ∈ p.1.name.toList, (c != '=') = true := fun c mem =>
    bne_iff_ne.2 (ne_of_mem_of_not_mem mem p.1.equals_not_mem_name)
  rw [toList_attached, splitValue, List.takeWhile_append_of_pos name,
    List.dropWhile_append_of_pos name]
  simp

namespace Argument

theorem named?_name (s : Setting) : named? s.name.toList = some (.setting s) := by
  cases s <;> decide

theorem named?_of_equals {argument : List Char} (h : '=' ∈ argument) : named? argument = none := by
  have names : ∀ pair ∈ optionNames, '=' ∉ pair.1.toList := by decide
  rw [named?, List.lookup_eq_none_iff]
  intro pair mem
  rw [bne_iff_ne]
  intro same
  exact names pair mem (by rwa [← same, String.toList_ofList])

theorem classify_attached (p : Setting × String) :
    classify (attached p) = .ok (.setting p.1 (some p.2)) := by
  have whole : named? (attached p).toList = none :=
    named?_of_equals (by simp [toList_attached])
  have dash : (attached p).toList.head? = some '-' := by
    obtain ⟨s, text⟩ := p
    cases s <;> simp [toList_attached, Setting.name]
  have long : (attached p).toList.length ≠ 1 := by
    obtain ⟨s, text⟩ := p
    cases s <;> simp [toList_attached, Setting.name]
  unfold classify
  simp only [splitValue_attached, whole, named?_name, dash, long, ne_eq, not_true_eq_false, ↓reduceIte,
    ofOption, Option.map_some, String.ofList_toList]

theorem classifyAll_attached (l : List (Setting × String)) :
    classifyAll (l.map attached) = .ok (l.map fun p => .setting p.1 (some p.2)) := by
  induction l with
  | nil => rfl
  | cons p l ih =>
    have other : attached p ≠ "--" := by
      intro same
      have mem : '=' ∈ (attached p).toList := by simp [toList_attached]
      rw [same] at mem
      exact absurd mem (by decide)
    rw [List.map_cons, classifyAll, if_neg other, classify_attached, ih]
    rfl

end Argument

def valuesOf (l : List (Setting × String)) (s : Setting) : List Value :=
  (l.filter (·.1 = s)).map fun p => .ofAttached p.2

namespace Options

/-- The options once each has been given its values: the last one counts, or all of them if they are
descriptions. -/
def withValues (o : Options) (given : Setting → List Value) : Options where
  dateFrom := (given .dateFrom).getLast?.or o.dateFrom
  dateTo := (given .dateTo).getLast?.or o.dateTo
  period := (given .period).getLast?.or o.period
  unit := (given .unit).getLast?.or o.unit
  command := (given .command).getLast?.getD o.command
  tz := (given .tz).getLast?.or o.tz
  describe := o.describe ++ given .describe
  verbose := o.verbose

theorem withValues_set (o : Options) (v : Value) (s : Setting) (given : Setting → List Value) :
    (o.set v s).withValues given =
      o.withValues fun t => if s = t then v :: given t else given t := by
  have last (values : List Value) (before : Option Value) :
      (v :: values).getLast?.or before = values.getLast?.or (some v) := by
    rw [List.getLast?_cons]
    cases values.getLast? <;> rfl
  have command (values : List Value) (before : Value) :
      (v :: values).getLast?.getD before = values.getLast?.getD v := by
    rw [List.getLast?_cons]
    rfl
  cases s <;> simp [set, withValues, last, command]

theorem readFrom_attached (o : Options) (l : List (Setting × String)) :
    readFrom o [] (l.map fun p => .setting p.1 (some p.2)) =
      .ok (.work (o.withValues (valuesOf l))) := by
  induction l generalizing o with
  | nil => simp [readFrom, withValues, valuesOf]
  | cons p l ih =>
    have given : (fun t => if p.1 = t then .ofAttached p.2 :: valuesOf l t else valuesOf l t) =
        valuesOf (p :: l) := by
      funext t
      by_cases own : p.1 = t <;> simp [valuesOf, own]
    rw [List.map_cons, readFrom, ih, withValues_set, given]

theorem read_attached (l : List (Setting × String)) :
    read (l.map attached) = .ok (.work (initial.withValues (valuesOf l))) := by
  rw [read, Argument.classifyAll_attached]
  exact readFrom_attached initial l

end Options

theorem valuesOf_eq_of_perm (perm : l.Perm l')
    (once : ∀ s, s ≠ .describe → (l.filter (·.1 = s)).length ≤ 1)
    (described : l.filter (·.1 = .describe) = l'.filter (·.1 = .describe)) :
    valuesOf l = valuesOf l' := by
  funext s
  by_cases own : s = .describe
  · rw [own, valuesOf, valuesOf, described]
  · have alike := perm.filter (·.1 = s)
    have few := once s own
    have same : l.filter (·.1 = s) = l'.filter (·.1 = s) := by
      cases values : l.filter (·.1 = s) with
      | nil => exact (List.nil_perm.1 (values ▸ alike)).symm
      | cons p rest =>
        obtain rfl : rest = [] := by simpa [values] using few
        exact List.singleton_perm.1 (values ▸ alike)
    rw [valuesOf, valuesOf, same]

/-- Attached options, each given once at most save for descriptions, are read as their own values in
every order that leaves the descriptions in theirs; so the command line does the same. -/
theorem report_of_reordered_options (perm : l.Perm l')
    (once : ∀ s, s ≠ .describe → (l.filter (·.1 = s)).length ≤ 1)
    (described : l.filter (·.1 = .describe) = l'.filter (·.1 = .describe)) :
    (Options.read (l.map attached) = .ok (.work (Options.initial.withValues (valuesOf l))) ∧
        Options.read (l'.map attached) = .ok (.work (Options.initial.withValues (valuesOf l)))) ∧
      ∀ environment clock,
        report (l.map attached) environment clock = report (l'.map attached) environment clock := by
  have first := Options.read_attached l
  have second := Options.read_attached l'
  rw [← valuesOf_eq_of_perm perm once described] at second
  refine ⟨⟨first, second⟩, fun environment clock => ?_⟩
  rw [report, report, first, second]

def mixedOptions : List (Setting × String) :=
  [(.describe, "+2022:07:07"), (.period, ""), (.command, "a=b"), (.describe, "-NOW"),
    (.dateTo, "-1"), (.tz, "UTC")]

def mixedOptions' : List (Setting × String) :=
  [(.tz, "UTC"), (.dateTo, "-1"), (.describe, "+2022:07:07"), (.command, "a=b"),
    (.describe, "-NOW"), (.period, "")]

theorem mixedOptions_reordered :
    (mixedOptions.Perm mixedOptions' ∧
        (∀ s, s ≠ .describe → (mixedOptions.filter (·.1 = s)).length ≤ 1) ∧
        mixedOptions.filter (·.1 = .describe) = mixedOptions'.filter (·.1 = .describe)) ∧
      mixedOptions'.map attached = ["--tz=UTC", "--dateTo=-1", "--describe=+2022:07:07",
        "--command=a=b", "--describe=-NOW", "--period="] ∧
      (report (mixedOptions.map attached) none (fun _ => Slicing.julyEvening) =
        report (mixedOptions'.map attached) none fun _ => Slicing.julyEvening) ∧
      (report (mixedOptions'.map attached) none fun _ => Slicing.julyEvening).output =
        ["+2022:07:07 => Thursday 07 July 2022 - 00:00:00 (included)",
          "-NOW => Thursday 07 July 2022 - 22:41:05 (excluded)"] := by
  have perm : mixedOptions.Perm mixedOptions' := by decide
  have once : ∀ s, s ≠ .describe → (mixedOptions.filter (·.1 = s)).length ≤ 1 := by
    intro s
    cases s <;> decide
  have described : mixedOptions.filter (·.1 = .describe) =
      mixedOptions'.filter (·.1 = .describe) := by decide
  exact ⟨⟨perm, once, described⟩, by decide,
    (report_of_reordered_options perm once described).2 none _, by decide +kernel⟩

end CivilRange.CommandLine
