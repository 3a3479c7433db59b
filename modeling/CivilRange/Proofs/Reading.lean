import CivilRange.Reading

set_option autoImplicit false

namespace CivilRange

variable {f : Fields} {r : Reading}

theorem monthLength_le (year month : Nat) : monthLength year month ≤ 31 := by
  unfold monthLength
  split
  · split <;> decide
  all_goals decide

namespace Reading

theorem validDate_fields (r : Reading) :
    ValidDate r.fields.year r.fields.month r.fields.day := r.date.valid

theorem validTime_fields (r : Reading) : r.fields.ValidTime :=
  ⟨Nat.mod_lt _ (by decide), Nat.mod_lt _ (by decide), Nat.mod_lt _ (by decide)⟩

theorem timeOfDay_eq (r : Reading) : r.timeOfDay = r.fields.timeOfDay + r.micro := by
  simp only [timeOfDay, Fields.timeOfDay, fields, hour, minute, second, micro, microsPerDay,
    secondsPerDay, microsPerSecond]
  omega

theorem ofDate_fields (h : r.micro = 0) :
    ofDate ⟨_, _, _, r.validDate_fields⟩ r.fields.timeOfDay
      (r.fields.timeOfDay_lt r.validTime_fields) = r := by
  have time := r.timeOfDay_eq
  rw [h, Nat.add_zero] at time
  refine Eq.trans ?_ r.ofDate_date
  simp only [time]
  rfl

end Reading

namespace Fields

theorem widthFault?_eq_none (date : ValidDate f.year f.month f.day) (time : f.ValidTime) :
    f.widthFault? = none := by
  obtain ⟨⟨-, year⟩, ⟨-, month⟩, -, day⟩ := date
  obtain ⟨hour, minute, second⟩ := time
  have length := monthLength_le f.year f.month
  have word : lastYear ≤ wordMax := by decide
  have long : wordMax ≤ longMax := by decide
  have narrow : ∀ n ∈ [f.year, f.month, f.day, f.hour, f.minute, f.second], n ≤ lastYear := by
    intro n mem
    simp only [List.mem_cons, List.not_mem_nil, or_false] at mem
    simp only [lastYear] at *
    omega
  unfold widthFault?
  rw [List.findSome?_eq_none_iff]
  intro n mem
  have small := narrow n mem
  rw [if_neg (by omega), if_neg (by omega)]

theorem reading_eq_ok_iff : f.reading = .ok r ↔
    (ValidDate f.year f.month f.day ∧ f.ValidTime) ∧ r.fields = f ∧ r.micro = 0 := by
  constructor
  · intro h
    obtain ⟨date, time, -⟩ := eq_ofDate_of_reading h
    exact ⟨⟨date, time⟩, Reading.fields_of_reading h⟩
  · rintro ⟨⟨date, time⟩, rfl, micro⟩
    unfold reading
    rw [widthFault?_eq_none date time]
    dsimp only
    rw [dif_pos date, dif_pos time, Reading.ofDate_fields micro]

end Fields

namespace Reading

variable {s : Reading}

def wholeSecond (r : Reading) : Reading :=
  ⟨r.seconds * microsPerSecond, Nat.lt_of_le_of_lt (Nat.div_mul_le_self _ _) r.micros_lt⟩

theorem micros_wholeSecond (r : Reading) : r.wholeSecond.micros + r.micro = r.micros :=
  Nat.div_add_mod' _ _

theorem seconds_wholeSecond (r : Reading) : r.wholeSecond.seconds = r.seconds :=
  Nat.mul_div_left _ (by decide)

theorem micro_wholeSecond (r : Reading) : r.wholeSecond.micro = 0 := Nat.mul_mod_left _ _

theorem fields_wholeSecond (r : Reading) : r.wholeSecond.fields = r.fields := by
  have day : r.wholeSecond.micros / microsPerDay = r.micros / microsPerDay := by
    simp only [wholeSecond, seconds, microsPerDay, secondsPerDay, microsPerSecond]
    omega
  have date : r.wholeSecond.date = r.date := by simp only [Reading.date, day]
  rw [fields, date, fields]
  simp only [hour, minute, second, wholeSecond, seconds, microsPerSecond, Fields.mk.injEq,
    true_and]
  omega

theorem eq_wholeSecond_iff : s.fields = r.fields ∧ s.micro = 0 ↔ s = r.wholeSecond := by
  constructor
  · intro h
    have valid := And.intro r.validDate_fields r.validTime_fields
    have own := Fields.reading_eq_ok_iff.2 ⟨valid, h⟩
    have whole := Fields.reading_eq_ok_iff.2 ⟨valid, r.fields_wholeSecond, r.micro_wholeSecond⟩
    exact Except.ok.inj (own.symm.trans whole)
  · rintro rfl
    exact ⟨r.fields_wholeSecond, r.micro_wholeSecond⟩

theorem fields_eq_iff : r.fields = s.fields ↔ r.seconds = s.seconds := by
  constructor
  · intro fields
    have whole : r.wholeSecond = s.wholeSecond :=
      eq_wholeSecond_iff.1 ⟨r.fields_wholeSecond.trans fields, r.micro_wholeSecond⟩
    rw [← r.seconds_wholeSecond, whole, s.seconds_wholeSecond]
  · intro seconds
    have whole : r.wholeSecond = s.wholeSecond := by simp only [wholeSecond, seconds]
    rw [← r.fields_wholeSecond, whole, s.fields_wholeSecond]

theorem date_eq_of_fields (h : r.fields = s.fields) : r.date = s.date :=
  Date.ext (congrArg Fields.year h) (congrArg Fields.month h) (congrArg Fields.day h)

theorem dayNumber_date (r : Reading) : r.date.dayNumber = r.micros / microsPerDay :=
  Date.dayNumber_ofDayNumber _ r.dayNumber_lt

end Reading
end CivilRange
