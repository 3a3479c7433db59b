import CivilRange.Proofs.Expression.Text
import CivilRange.Proofs.Moment.Still
import CivilRange.Proofs.Slicing.Unit

set_option autoImplicit false

namespace CivilRange

variable {r s : Reading} {n w : Nat} {text : String} {now m moved : Moment} {z : Zone}
  {b b' : Bound}

namespace Reading

theorem weekday_of_days (h : s.micros = r.micros + n * microsPerDay) :
    s.date.weekday = (r.date.weekday + n) % 7 := by
  have pos : 0 < microsPerDay := by decide
  rw [Date.weekday, Date.weekday, dayNumber_date, dayNumber_date, h,
    Nat.add_mul_div_right _ _ pos, Nat.mod_add_mod]

end Reading

theorem weekday_lt (date : Date) : date.weekday < 7 := Nat.mod_lt _ (by decide)

theorem blank_not_mem_weekdayName (h : w < 7) : ' ' ∉ (weekdayName w).toList := by
  have all : ∀ w < 7, ' ' ∉ (weekdayName w).toList := by decide
  exact all w h

theorem blank_not_mem_monthName (h : n ≤ 12) : ' ' ∉ (monthName n).toList := by
  have all : ∀ n ≤ 12, ' ' ∉ (monthName n).toList := by decide
  exact all n h

theorem monthName_inj {month month' : Nat} (h : 1 ≤ month ∧ month ≤ 12)
    (h' : 1 ≤ month' ∧ month' ≤ 12)
    (same : (monthName month).toList = (monthName month').toList) : month = month' := by
  have all : ∀ month ≤ 12, ∀ month' ≤ 12, 1 ≤ month → 1 ≤ month' →
      (monthName month).toList = (monthName month').toList → month = month' := by decide
  exact all month h.2 month' h'.2 h.1 h'.1 same

namespace Fields

variable {f g : Fields}

def clock (f : Fields) : List (List Char) :=
  [(padded 2 f.hour).toList, (padded 2 f.minute).toList, (padded 2 f.second).toList]

theorem isCount_of_mem_clock {number : List Char} (h : number ∈ f.clock) : IsCount number := by
  simp only [clock, List.mem_cons, List.not_mem_nil, or_false] at h
  rcases h with rfl | rfl | rfl <;> exact isCount_padded 2 _

theorem clock_of_intercalate (h : [':'].intercalate f.clock = [':'].intercalate g.clock) :
    f.clock = g.clock := by
  have parts (f : Fields) : ([':'].intercalate f.clock).splitOn ':' = f.clock :=
    List.splitOn_intercalate ':' (fun _ mem => (isCount_of_mem_clock mem).colon_not_mem)
      (List.cons_ne_nil _ _)
  rw [← parts f, h, parts g]

theorem blank_not_mem_intercalate_clock (f : Fields) : ' ' ∉ [':'].intercalate f.clock := by
  intro mem
  rcases mem_of_mem_intercalate mem with colon | ⟨number, written, own⟩
  · cases List.mem_singleton.1 colon
  · exact (isCount_of_mem_clock written).blank_not_mem own

end Fields

namespace Bound

def ending (b : Bound) : String := if b.included then "(included)" else "(excluded)"

def words (b : Bound) : List (List Char) :=
  let r := b.moment.reading
  let f := r.fields
  [(weekdayName r.date.weekday).toList, (padded 2 f.day).toList, (monthName f.month).toList,
    Nat.toDigits 10 f.year, ['-'], [':'].intercalate f.clock, b.ending.toList]

theorem toList_description (b : Bound) : b.description.toList = [' '].intercalate b.words := by
  cases included : b.included <;>
    simp [description, words, ending, Fields.clock, included, Nat.repr]

theorem blank_not_mem_words (b : Bound) : ∀ word ∈ b.words, ' ' ∉ word := by
  obtain ⟨-, ⟨-, month⟩, -⟩ := b.moment.reading.validDate_fields
  have ending : ' ' ∉ b.ending.toList := by
    unfold ending
    split <;> decide
  simp only [words, List.forall_mem_cons, List.not_mem_nil, false_imp_iff, implies_true, and_true]
  exact ⟨blank_not_mem_weekdayName (weekday_lt _), (isCount_padded 2 _).blank_not_mem,
    blank_not_mem_monthName month, (isCount_toDigits _).blank_not_mem, by decide,
    Fields.blank_not_mem_intercalate_clock _, ending⟩

theorem splitOn_description (b : Bound) : b.description.toList.splitOn ' ' = b.words := by
  rw [toList_description]
  exact List.splitOn_intercalate ' ' b.blank_not_mem_words (List.cons_ne_nil _ _)

theorem included_of_ending (h : b.ending.toList = b'.ending.toList) : b.included = b'.included := by
  unfold ending at h
  cases included : b.included <;> cases included' : b'.included
  · rfl
  · simp [included, included'] at h
  · simp [included, included'] at h
  · rfl

theorem fields_of_words (h : b.words = b'.words) :
    b.moment.reading.fields = b'.moment.reading.fields ∧ b.included = b'.included := by
  simp only [words, List.cons.injEq, and_true, true_and] at h
  obtain ⟨-, day, month, year, time, ending⟩ := h
  have clock := Fields.clock_of_intercalate time
  simp only [Fields.clock, List.cons.injEq, and_true] at clock
  obtain ⟨hour, minute, second⟩ := clock
  have months := monthName_inj b.moment.reading.validDate_fields.2.1
    b'.moment.reading.validDate_fields.2.1 month
  refine ⟨?_, included_of_ending ending⟩
  rw [Fields.mk.injEq]
  exact ⟨toDigits_inj year, months, padded_inj day, padded_inj hour, padded_inj minute,
    padded_inj second⟩

/-- A description tells the reading to the second and whether the bound is included, and nothing
else. -/
theorem description_eq_iff : b.description = b'.description ↔
    b.moment.reading.seconds = b'.moment.reading.seconds ∧ b.included = b'.included := by
  rw [← Reading.fields_eq_iff]
  constructor
  · intro same
    apply fields_of_words
    rw [← b.splitOn_description, same, b'.splitOn_description]
  · rintro ⟨fields, included⟩
    simp only [description, fields, Reading.date_eq_of_fields fields, included]

def firstWord (line : String) : String := String.ofList (line.toList.takeWhile (· ≠ ' '))

theorem firstWord_description (b : Bound) :
    firstWord b.description = weekdayName b.moment.reading.date.weekday := by
  have blankless := blank_not_mem_weekdayName (weekday_lt b.moment.reading.date)
  rw [firstWord, toList_description, words, List.intercalate_cons_cons, List.append_assoc,
    List.takeWhile_append_of_pos (by simpa using fun c mem => ne_of_mem_of_not_mem mem blankless)]
  simp [String.ofList_toList]

/-- A second sign and an amount behind a text that is read without them move what it stands for. -/
theorem move_of_read_append {sign : Sign} {amount : List Char} {longer : String}
    (joined : longer.toList = text.toList ++ sign.symbol :: amount) (h : read text now = .ok b)
    (h' : read longer now = .ok b') : ∃ d, Duration.read (String.ofList amount) = .ok d ∧
      b.moment.move sign d = .ok b'.moment := by
  obtain ⟨s, split, -⟩ := read_eq_ok_iff.1 h
  obtain ⟨t, split', -⟩ := read_eq_ok_iff.1 h'
  rw [joined] at split'
  obtain ⟨bare, plain⟩ := Shape.split?_append_amount split split'
  have moved := moment_read_append joined split bare plain h
  rw [h'] at moved
  obtain ⟨d, amount, move⟩ := bind_eq_ok_iff.1 moved.symm
  exact ⟨d, amount, Moment.moveOrReject_eq_ok_iff.1 move⟩

end Bound

theorem Duration.read_days {d : Duration}
    (h : read (String.ofList (Nat.toDigits 10 n ++ "days".toList)) = .ok d) :
    d = zero.withAmount .days n := by
  have named : NamesUnit "days" .days := ⟨List.all_eq_true.1 (by decide), by decide⟩
  rw [read_of_namesUnit named (isCount_toDigits n)] at h
  obtain ⟨k, number, rfl⟩ := map_eq_ok_iff.1 h
  rw [← (readNumber_eq_ok_iff.1 number).2, Nat.ofDigitChars_ten_toDigits]

theorem Moment.micros_of_days (still : z.Still) (zone : m.zone = some z)
    (h : m.move .plus (Duration.zero.withAmount .days n) = .ok moved) :
    moved.reading.micros = m.reading.micros + n * microsPerDay := by
  obtain ⟨months, elapsed⟩ := Duration.elapsed_withAmount (u := .days) rfl n
  have instant := instant_of_elapsed_move_of_still still zone months h
  have apart := reading_sub_of_still still zone (onClock_of_move zone h).zone_eq
  rw [instant, elapsed] at apart
  simp only [microsOfSeconds, microsPerDay, secondsPerDay, microsPerSecond] at *
  omega

namespace Bound

theorem weekday_of_read_days (still : z.Still) (zone : now.zone = some z)
    (h : read text now = .ok b) (h' : read (text ++ "+" ++ Nat.repr n ++ "days") now = .ok b') :
    b'.moment.reading.date.weekday = (b.moment.reading.date.weekday + n) % 7 := by
  have joined : (text ++ "+" ++ Nat.repr n ++ "days").toList =
      text.toList ++ Sign.plus.symbol :: (Nat.toDigits 10 n ++ "days".toList) := by
    simp [Nat.repr, Sign.symbol]
  obtain ⟨d, amount, move⟩ := move_of_read_append joined h h'
  rw [Duration.read_days amount] at move
  exact Reading.weekday_of_days (Moment.micros_of_days still (zone_of_read zone h) move)

theorem description?_of_read (h : read? text now = .ok (some b)) :
    description? text now = .ok (some b.description) := by
  rw [description?, h]
  rfl

/-- A description says what its expression stands for. There is none exactly where the text is no
expression, and none can be given exactly where the text cannot be read, for the same fault. Two are
equal exactly if they are of the same wall clock reading to the second and of the same inclusion.
And in a zone without changes, as UTC is one, days put behind an expression go on in the week from
the weekday that is named for it, of the seven different ones; an expression that can be read with
them has no other amount. -/
theorem description_faithful :
    (∀ text now, (description? text now = .ok none ↔ read? text now = .ok none) ∧
        ∀ fault, description? text now = .error fault ↔ read? text now = .error fault) ∧
      (∀ text text' now now' b b', read? text now = .ok (some b) →
        read? text' now' = .ok (some b') →
        ∃ line line', description? text now = .ok (some line) ∧
          description? text' now' = .ok (some line') ∧
          (line = line' ↔ b.moment.reading.seconds = b'.moment.reading.seconds ∧
            b.included = b'.included)) ∧
      (∀ text now z n b b', now.zone = some z → z.Still → read? text now = .ok (some b) →
        read? (text ++ "+" ++ Nat.repr n ++ "days") now = .ok (some b') →
        ∃ line line', description? text now = .ok (some line) ∧
          description? (text ++ "+" ++ Nat.repr n ++ "days") now = .ok (some line') ∧
          b.moment.reading.date.weekday < 7 ∧
          firstWord line = weekdayName b.moment.reading.date.weekday ∧
          firstWord line' = weekdayName ((b.moment.reading.date.weekday + n) % 7)) ∧
      ∀ v < 7, ∀ w < 7, weekdayName v = weekdayName w → v = w := by
  refine ⟨fun text now => ⟨?_, fun fault => map_eq_error_iff⟩, ?_, ?_, by decide⟩
  · rw [description?, map_eq_ok_iff]
    simp only [Option.map_eq_none_iff, exists_eq_right]
  · intro text text' now now' b b' there there'
    exact ⟨_, _, description?_of_read there, description?_of_read there', description_eq_iff⟩
  · intro text now z n b b' zone still there there'
    have weekday := weekday_of_read_days still zone (read?_eq_ok_some_iff.1 there)
      (read?_eq_ok_some_iff.1 there')
    refine ⟨_, _, description?_of_read there, description?_of_read there', weekday_lt _,
      firstWord_description b, ?_⟩
    rw [firstWord_description, weekday]

/-- Ten in the evening of a Thursday and of the Sunday ten days later. -/
def julyThursday : Moment := ⟨⟨63792828000000000, by decide⟩, false, some (.region .utc)⟩
def julySunday : Moment := ⟨⟨63793692000000000, by decide⟩, false, some (.region .utc)⟩

theorem julyThursday_described :
    (read? "+2022:07:07:22" Slicing.julyEvening = .ok (some ⟨julyThursday, true⟩) ∧
        read? "+year:month:day+22hours" Slicing.julyEvening = .ok (some ⟨julyThursday, true⟩) ∧
        read? ("+2022:07:07:22" ++ "+" ++ Nat.repr 10 ++ "days") Slicing.julyEvening =
          .ok (some ⟨julySunday, true⟩)) ∧
      description? "+2022:07:07:22" Slicing.julyEvening =
        .ok (some "Thursday 07 July 2022 - 22:00:00 (included)") ∧
      description? "+year:month:day+22hours" Slicing.julyEvening =
        .ok (some "Thursday 07 July 2022 - 22:00:00 (included)") ∧
      ∃ line, description? ("+2022:07:07:22" ++ "+" ++ Nat.repr 10 ++ "days") Slicing.julyEvening =
        .ok (some line) ∧ firstWord line = "Sunday" := by
  have bare : read? "+2022:07:07:22" Slicing.julyEvening = .ok (some ⟨julyThursday, true⟩) := by
    decide +kernel
  have named : read? "+year:month:day+22hours" Slicing.julyEvening =
      .ok (some ⟨julyThursday, true⟩) := by
    decide +kernel
  have later : read? ("+2022:07:07:22" ++ "+" ++ Nat.repr 10 ++ "days") Slicing.julyEvening =
      .ok (some ⟨julySunday, true⟩) := by
    decide +kernel
  have shown : description? "+2022:07:07:22" Slicing.julyEvening =
      .ok (some "Thursday 07 July 2022 - 22:00:00 (included)") := by
    decide +kernel
  obtain ⟨-, equal, week, -⟩ := description_faithful
  obtain ⟨line, line', there, there', iff⟩ := equal _ _ _ _ _ _ bare named
  obtain ⟨start, stop, -, second, -, -, name⟩ :=
    week _ _ _ 10 _ _ rfl (Zone.still_of_utc_or_fixed (.inl rfl)) bare later
  have thursday : julyThursday.reading.date.weekday = 3 := by decide +kernel
  rw [thursday] at name
  obtain rfl : _ = line := Option.some.inj (Except.ok.inj (shown.symm.trans there))
  refine ⟨⟨bare, named, later⟩, shown, ?_, stop, second, name⟩
  rw [there', iff.2 ⟨rfl, rfl⟩]

end Bound
end CivilRange
