import CivilRange.Proofs.Duration.Counted
import CivilRange.Proofs.Expression.Grammar

set_option autoImplicit false

namespace CivilRange

variable {text : String} {n : Nat} {fields : List (List Char)} {field digits cs cs' : List Char}

/-- More digits in a row than are read as a number. -/
def LongRun (cs : List Char) (n : Nat) : Prop :=
  ∃ digits, digits <:+: cs ∧ (∀ c ∈ digits, c.isDigit = true) ∧ digits.length = n ∧ maxDigits < n

theorem LongRun.mono (h : LongRun cs n) (within : cs <:+: cs') : LongRun cs' n := by
  obtain ⟨digits, own, rest⟩ := h
  exact ⟨digits, own.trans within, rest⟩

theorem LongRun.maxDigits_lt (h : LongRun cs n) : maxDigits < cs.length := by
  obtain ⟨digits, own, -, rfl, long⟩ := h
  exact Nat.lt_of_lt_of_le long own.length_le

namespace Date

variable {f : Fields} {place : Place} {places : List Place} {now : Moment} {z : Zone}

theorem readPlace_eq_longNumber_iff : readPlace text f place field = .error (.longNumber n) ↔
    isDigits field ∧ maxDigits < field.length ∧ field.length = n := by
  constructor
  · intro h
    obtain ⟨cause, rejected⟩ | ⟨word, named⟩ | digits := rejects_or_names_or_digits text f place field
    · cases h.symm.trans rejected
    · cases h.symm.trans (readPlace_of_keyword word named)
    · rw [readPlace_of_isDigits digits] at h
      exact ⟨digits, readNumber_eq_longNumber_iff.1 h⟩
  · rintro ⟨digits, long⟩
    rw [readPlace_of_isDigits digits]
    exact readNumber_eq_longNumber_iff.2 long

inductive ComesToLong : List Place → List (List Char) → Nat → Prop
  | here {place : Place} {places : List Place} {field : List Char} {fields : List (List Char)}
      (digits : isDigits field) (long : maxDigits < field.length) :
      ComesToLong (place :: places) (field :: fields) field.length
  | later {place : Place} {places : List Place} {field : List Char} {fields : List (List Char)}
      {n : Nat} (written : place.Written field) (rest : ComesToLong places fields n) :
      ComesToLong (place :: places) (field :: fields) n

theorem readPlaces_eq_longNumber_iff :
    readPlaces text f places fields = .error (.longNumber n) ↔ ComesToLong places fields n := by
  induction places generalizing fields with
  | nil =>
    constructor
    · simp [readPlaces]
    · rintro ⟨⟩
  | cons place places ih =>
    cases fields with
    | nil =>
      constructor
      · simp [readPlaces]
      · rintro ⟨⟩
    | cons field fields =>
      simp only [readPlaces, bind_eq_error_iff, pure, Except.pure, reduceCtorEq, and_false,
        exists_false, or_false, ih, readPlace_eq_longNumber_iff]
      constructor
      · rintro (⟨digits, long, rfl⟩ | ⟨value, first, rest⟩)
        · exact .here digits long
        · exact .later (readPlace_written_iff.1 ⟨value, first⟩) rest
      · rintro (⟨digits, long⟩ | ⟨written, rest⟩)
        · exact .inl ⟨digits, long, rfl⟩
        · obtain ⟨value, first⟩ := readPlace_written_iff.2 written
          exact .inr ⟨value, first, rest⟩

theorem ComesToLong.exists_number (h : ComesToLong places fields n) :
    ∃ field ∈ fields, isDigits field ∧ maxDigits < field.length ∧ field.length = n := by
  induction h with
  | here digits long => exact ⟨_, List.mem_cons_self, digits, long, rfl⟩
  | later written rest ih =>
    obtain ⟨field, mem, number⟩ := ih
    exact ⟨field, List.mem_cons_of_mem _ mem, number⟩

theorem ComesToLong.longRun (h : ComesToLong places fields n) : ∃ field ∈ fields, LongRun field n := by
  obtain ⟨field, mem, digits, long, rfl⟩ := h.exists_number
  exact ⟨field, mem, field, List.infix_refl _, (isDigits_iff.1 digits).2, rfl, long⟩

theorem readFields_eq_longNumber_iff : readFields text f = .error (.longNumber n) ↔
    (colonChars text.toList).length ≤ Place.all.length ∧
      ComesToLong Place.all (colonChars text.toList) n := by
  unfold readFields
  dsimp only
  split
  · rename_i many
    simp [Nat.not_le.2 many]
  · rename_i few
    rw [bind_eq_error_iff, readPlaces_eq_longNumber_iff, and_iff_right (Nat.not_lt.1 few)]
    refine or_iff_left ?_
    rintro ⟨values, -, missing⟩
    split at missing <;> cases missing

theorem read_eq_longNumber_iff (zone : now.zone = some z) :
    read text now = .error (.longNumber n) ↔
      (colonChars text.toList).length ≤ Place.all.length ∧
        ComesToLong Place.all (colonChars text.toList) n := by
  unfold read
  rw [zone]
  simp [bind_eq_error_iff, mapError_eq_error_iff, readFields_eq_longNumber_iff]

end Date

namespace Duration

variable {d : Duration} {rank : Nat} {u : TimeUnit}

theorem readField_eq_longNumber_iff : readField text d rank field = .error (.longNumber n) ↔
    ∃ digits u, Counts rank field digits u ∧ maxDigits < digits.length ∧ digits.length = n := by
  constructor
  · intro h
    obtain ⟨cause, rejected⟩ | ⟨digits, u, counts⟩ := rejects_or_counts text d rank field
    · cases h.symm.trans rejected
    · rw [readField_of_counts counts, map_eq_error_iff] at h
      exact ⟨digits, u, counts, readNumber_eq_longNumber_iff.1 h⟩
  · rintro ⟨digits, u, counts, long⟩
    rw [readField_of_counts counts, map_eq_error_iff]
    exact readNumber_eq_longNumber_iff.2 long

inductive ComesToLong : Nat → List (List Char) → Nat → Prop
  | here {rank : Nat} {field digits : List Char} {u : TimeUnit} {fields : List (List Char)}
      (counts : Counts rank field digits u) (long : maxDigits < digits.length) :
      ComesToLong rank (field :: fields) digits.length
  | later {rank : Nat} {field digits : List Char} {u : TimeUnit} {fields : List (List Char)}
      {n : Nat} (counts : Counts rank field digits u) (short : digits.length ≤ maxDigits)
      (rest : ComesToLong u.rank fields n) : ComesToLong rank (field :: fields) n

theorem readFields_eq_longNumber_iff :
    readFields text d rank fields = .error (.longNumber n) ↔ ComesToLong rank fields n := by
  induction fields generalizing d rank with
  | nil =>
    constructor <;> rintro ⟨⟩
  | cons field fields ih =>
    simp only [readFields, bind_eq_error_iff, ih, readField_eq_longNumber_iff]
    constructor
    · rintro (⟨digits, u, counts, long, rfl⟩ | ⟨⟨d', rank'⟩, first, rest⟩)
      · exact .here counts long
      · obtain ⟨digits, u, k, counts, number, -, rfl⟩ := readField_eq_ok_iff.1 first
        exact .later counts (readNumber_eq_ok_iff.1 number).1 rest
    · rintro (⟨counts, long⟩ | ⟨counts, short, rest⟩)
      · exact .inl ⟨_, _, counts, long, rfl⟩
      · have number := readNumber_eq_ok_iff.2 ⟨short, rfl⟩
        exact .inr ⟨_, readField_eq_ok_iff.2 ⟨_, _, _, counts, number, rfl, rfl⟩, rest⟩

theorem ComesToLong.exists_counts (h : ComesToLong rank fields n) :
    ∃ field ∈ fields, ∃ rank digits u, Counts rank field digits u ∧
      maxDigits < digits.length ∧ digits.length = n := by
  induction h with
  | here counts long => exact ⟨_, List.mem_cons_self, _, _, _, counts, long, rfl⟩
  | later counts short rest ih =>
    obtain ⟨field, mem, number⟩ := ih
    exact ⟨field, List.mem_cons_of_mem _ mem, number⟩

theorem ComesToLong.longRun (h : ComesToLong rank fields n) : ∃ field ∈ fields, LongRun field n := by
  obtain ⟨field, mem, -, digits, -, ⟨word, read, -⟩, long, rfl⟩ := h.exists_counts
  obtain ⟨own, all⟩ := Token.digits_of_read? read
  exact ⟨field, mem, digits, own, all, rfl, long⟩

theorem read_eq_longNumber_iff : read text = .error (.longNumber n) ↔
    ComesToLong 0 (colonChars text.toList) n := by
  unfold read
  split
  · rename_i empty
    rw [empty]
    constructor <;> rintro ⟨⟩
  · exact readFields_eq_longNumber_iff

end Duration

namespace Shape

variable {s : Shape} {now : Moment} {z : Zone}

/-- Reading the expression comes to a number of `n` digits, more than are read, in its date or, when
the date can be read, in its duration. -/
inductive ComesToLong (s : Shape) (now : Moment) (n : Nat) : Prop
  | date (other : s.date.map Char.toLower ≠ "now".toList)
      (few : (colonChars s.date).length ≤ Place.all.length)
      (long : Date.ComesToLong Place.all (colonChars s.date) n)
  | duration {sign : Sign} {amount : List Char} {base : Moment}
      (suffix : s.suffix = some (sign, amount)) (dated : s.Dates now (.ok base))
      (long : Duration.ComesToLong 0 (colonChars amount) n)

theorem base_eq_longNumber_iff (zone : now.zone = some z) :
    s.base now = .error (.longNumber n) ↔ s.date.map Char.toLower ≠ "now".toList ∧
      (colonChars s.date).length ≤ Place.all.length ∧
        Date.ComesToLong Place.all (colonChars s.date) n := by
  unfold base
  split
  · rename_i present
    simp [lower_eq_now_iff.1 present]
  · rename_i other
    rw [Date.read_eq_longNumber_iff zone, String.toList_ofList,
      and_iff_right (mt lower_eq_now_iff.2 other)]

theorem bound_eq_longNumber_iff (zone : now.zone = some z) :
    s.bound now = .error (.longNumber n) ↔ s.ComesToLong now n := by
  rw [bound_eq_error_iff, base_eq_longNumber_iff zone]
  constructor
  · rintro (⟨other, few, long⟩ | ⟨base, sign, amount, dated, suffix, long | ⟨d, -, moved⟩⟩)
    · exact .date other few long
    · rw [Duration.read_eq_longNumber_iff, String.toList_ofList] at long
      exact .duration suffix (dates_iff.2 dated) long
    · obtain ⟨cause, -, ⟨⟩⟩ := Moment.moveOrReject_eq_error_iff.1 moved
  · rintro (⟨other, few, long⟩ | ⟨suffix, dated, long⟩)
    · exact .inl ⟨other, few, long⟩
    · refine .inr ⟨_, _, _, dates_iff.1 dated, suffix, .inl ?_⟩
      rwa [Duration.read_eq_longNumber_iff, String.toList_ofList]

theorem ComesToLong.longRun (h : s.ComesToLong now n) : LongRun s.chars n := by
  rcases h with ⟨-, -, long⟩ | ⟨suffix, -, long⟩
  · obtain ⟨field, mem, run⟩ := long.longRun
    refine run.mono ((infix_of_mem_colonChars mem).trans ?_)
    exact ⟨[s.sign.symbol], _, rfl⟩
  · obtain ⟨field, mem, run⟩ := long.longRun
    refine run.mono ((infix_of_mem_colonChars mem).trans (List.IsSuffix.isInfix ?_))
    rw [chars, suffix]
    exact (List.suffix_cons _ _).trans (List.suffix_append _ _)

theorem comesToLong_ones (long : maxDigits < n) :
    ComesToLong ⟨.plus, List.replicate n '1', none⟩ now n := by
  have three : 3 ≤ maxDigits := by decide
  have fields : colonChars (List.replicate n '1') = [List.replicate n '1'] :=
    colonChars_of_not_mem (by simp; omega) (by simp)
  refine .date ?_ ?_ ?_
  · intro h
    have length := congrArg List.length h
    simp only [List.length_map, List.length_replicate] at length
    change n = 3 at length
    omega
  · simp [fields, Place.all]
  · have digits : isDigits (List.replicate n '1') := by
      simp [isDigits]
      omega
    have here : Date.ComesToLong Place.all [List.replicate n '1'] _ :=
      .here digits (by rwa [List.length_replicate])
    rwa [List.length_replicate, ← fields] at here

end Shape

namespace Bound

variable {now : Moment} {z : Zone}

theorem read?_eq_longNumber_iff (zone : now.zone = some z) :
    read? text now = .error (.longNumber n) ↔ ∃ s : Shape, s.Of text ∧ s.ComesToLong now n := by
  simp only [read?_eq_error_iff, Shape.of_iff_split?, Shape.bound_eq_longNumber_iff zone]

def RejectsPart (text : String) (now : Moment) (fault : Fault) : Prop :=
  ∃ (s : Shape) (rejection : Rejection),
    s.Of text ∧ s.Rejects now rejection ∧ fault = .rejected rejection

theorem read?_fault (zone : now.zone = some z) {fault : Fault} (h : read? text now = .error fault) :
    RejectsPart text now fault ∨ ∃ n, fault = .longNumber n := by
  obtain ⟨s, split, bound⟩ := read?_eq_error_iff.1 h
  cases Shape.bound_fault zone bound with
  | rejected kind => exact .inl ⟨s, _, Shape.of_iff_split?.2 split, kind, rfl⟩
  | longNumber => exact .inr ⟨_, rfl⟩

theorem forall_rejectsPart_iff (zone : now.zone = some z) :
    (∀ fault, read? text now = .error fault → RejectsPart text now fault) ↔
      ¬∃ (s : Shape) (n : Nat), s.Of text ∧ s.ComesToLong now n := by
  constructor
  · rintro parts ⟨s, n, whole, long⟩
    obtain ⟨-, -, -, -, ⟨⟩⟩ := parts _ ((read?_eq_longNumber_iff zone).2 ⟨s, whole, long⟩)
  · intro none fault h
    obtain part | ⟨n, rfl⟩ := read?_fault zone h
    · exact part
    · obtain ⟨s, whole, long⟩ := (read?_eq_longNumber_iff zone).1 h
      exact absurd ⟨s, n, whole, long⟩ none

/-- Reading fails on the parts of an expression only, exactly if it does not come to a number that
is too long; and it does not, if the text has nowhere so many digits in a row. -/
theorem rejects_part_unless_long (zone : now.zone = some z) (text : String) :
    ((∀ fault, read? text now = .error fault → RejectsPart text now fault) ↔
        ¬∃ (s : Shape) (n : Nat), s.Of text ∧ s.ComesToLong now n) ∧
      (∀ n, read? text now = .error (.longNumber n) ↔
        ∃ s : Shape, s.Of text ∧ s.ComesToLong now n) ∧
      ((∀ n, ¬LongRun text.toList n) → ∀ fault, read? text now = .error fault →
        RejectsPart text now fault) := by
  refine ⟨forall_rejectsPart_iff zone, fun n => read?_eq_longNumber_iff zone, ?_⟩
  intro short
  refine (forall_rejectsPart_iff zone).2 ?_
  rintro ⟨s, n, whole, long⟩
  exact short n (whole.2 ▸ long.longRun)

theorem februaryThirtieth_rejected :
    (Moment.autumnNight false).zone = some (.region .paris) ∧
      RejectsPart "+2021:02:30" (Moment.autumnNight false)
        (.rejected (.date "2021:02:30" (.range .day))) := by
  have zone : (Moment.autumnNight false).zone = some (.region .paris) := rfl
  have length : "+2021:02:30".toList.length ≤ maxDigits := by decide
  have fault : read? "+2021:02:30" (Moment.autumnNight false) =
      .error (.rejected (.date "2021:02:30" (.range .day))) := by decide +kernel
  have parts := (rejects_part_unless_long zone "+2021:02:30").2.2
    fun n run => absurd run.maxDigits_lt (Nat.not_lt.2 length)
  exact ⟨zone, parts _ fault⟩

theorem read?_ones (zone : now.zone = some z) (long : maxDigits < n) :
    read? (String.ofList ('+' :: List.replicate n '1')) now = .error (.longNumber n) := by
  have pos : n ≠ 0 := by omega
  refine (read?_eq_longNumber_iff zone).2 ⟨_, ⟨⟨⟨?_, ?_⟩, by simp⟩, ?_⟩,
    Shape.comesToLong_ones long⟩
  · simp [pos]
  · simp [isSign]
  · simp [Shape.chars, Sign.symbol]

/-- A year of one digit too many is rejected as no part of the text. -/
theorem longYear_escapes :
    read? (String.ofList ('+' :: List.replicate 4301 '1')) (Moment.autumnNight false) =
        .error (.longNumber 4301) ∧
      ¬RejectsPart (String.ofList ('+' :: List.replicate 4301 '1')) (Moment.autumnNight false)
        (.longNumber 4301) := by
  refine ⟨read?_ones rfl (by decide), ?_⟩
  rintro ⟨-, -, -, -, ⟨⟩⟩

end Bound
end CivilRange
