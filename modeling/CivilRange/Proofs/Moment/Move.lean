import CivilRange.Expression
import CivilRange.Proofs.Moment.Clock
import CivilRange.Proofs.Outcome

set_option autoImplicit false

namespace CivilRange

theorem yearFault?_eq_none {year : Int} (h : 1 ≤ year ∧ year ≤ lastYear) :
    yearFault? year = none := by
  have word : (lastYear : Int) ≤ wordMax := by decide
  have long : (wordMax : Int) ≤ longMax := by decide
  unfold yearFault?
  rw [if_neg (by omega), if_neg (by omega), if_neg (by omega)]

namespace Date

theorem monthIndex_div (date : Date) : date.monthIndex / 12 = date.year := by
  obtain ⟨month, month'⟩ := date.valid.2.1
  unfold monthIndex
  omega

theorem monthIndex_mod (date : Date) : date.monthIndex % 12 + 1 = date.month := by
  obtain ⟨month, month'⟩ := date.valid.2.1
  unfold monthIndex
  omega

theorem ofMonthIndex_eq_ok_iff {index : Int} {day : Nat} {h : 1 ≤ day} {date : Date} :
    ofMonthIndex index day h = .ok date ↔
      (date.monthIndex : Int) = index ∧ date.day = min day (monthLength date.year date.month) := by
  have year := date.valid.1
  have div := date.monthIndex_div
  have mod := date.monthIndex_mod
  unfold ofMonthIndex
  constructor
  · intro h
    split at h
    · cases h
    · split at h
      · rename_i range
        obtain rfl := Except.ok.inj h
        refine ⟨?_, rfl⟩
        simp only [monthIndex]
        omega
      · cases h
  · rintro ⟨rfl, day⟩
    have range : 1 ≤ (date.monthIndex : Int) / 12 ∧ (date.monthIndex : Int) / 12 ≤ lastYear := by
      omega
    have same : ((date.monthIndex : Int) / 12).toNat = date.year ∧
        ((date.monthIndex : Int) % 12).toNat + 1 = date.month := by omega
    rw [yearFault?_eq_none range]
    dsimp only
    rw [dif_pos range]
    congr 1
    ext
    · exact same.1
    · exact same.2
    · dsimp only
      rw [day, same.1, same.2]

end Date

namespace Reading

theorem addMonths_eq_ok_iff {r s : Reading} {months : Int} :
    r.addMonths months = .ok s ↔ ∃ date : Date,
      (date.monthIndex : Int) = r.date.monthIndex + months ∧
      date.day = min r.date.day (monthLength date.year date.month) ∧
      s = ofDate date r.timeOfDay r.timeOfDay_lt := by
  unfold addMonths
  rw [bind_eq_ok_iff]
  simp only [Date.ofMonthIndex_eq_ok_iff, pure_eq_ok_iff, and_assoc]
  simp only [eq_comm]

theorem addMonths_zero (r : Reading) : r.addMonths 0 = .ok r :=
  addMonths_eq_ok_iff.2 ⟨r.date, by omega, (Nat.min_eq_left r.date.valid.2.2.2).symm,
    (ofDate_date r).symm⟩

end Reading

namespace Moment

variable {z : Zone} {m moved : Moment} {sign : Sign} {d : Duration}

theorem move_eq_ok_iff : m.move sign d = .ok moved ↔
    d.carryFault? = none ∧ d.backFault? sign = none ∧
      ∃ reading utc target : Reading, m.reading.addMonths (sign.apply d.totalMonths) = .ok reading ∧
        Moment.utc ⟨reading, false, m.zone⟩ = .ok utc ∧
        (target.micros : Int) = utc.micros + microsOfSeconds (sign.apply d.elapsed) ∧
        m.targetZone.momentAt target = .ok moved := by
  unfold move
  cases d.carryFault? with
  | some fault => simp
  | none =>
    simp only [bind_eq_ok_iff, true_and]
    cases d.backFault? sign with
    | some fault => simp
    | none =>
      constructor
      · rintro ⟨reading, months, utc, there, back⟩
        dsimp only at back
        split at back
        · rename_i target found
          exact ⟨rfl, reading, utc, target, months, there,
            (Reading.ofMicros?_eq_some_iff.1 found).symm, back⟩
        · cases back
      · rintro ⟨-, reading, utc, target, months, there, elapsed, back⟩
        refine ⟨reading, months, utc, there, ?_⟩
        dsimp only
        rw [Reading.ofMicros?_eq_some_iff.2 elapsed.symm]
        exact back

theorem moveOrReject_eq_ok_iff : m.moveOrReject sign d = .ok moved ↔ m.move sign d = .ok moved :=
  mapError_eq_ok_iff

theorem moveOrReject_eq_error_iff {fault : Fault} : m.moveOrReject sign d = .error fault ↔
    ∃ cause, m.move sign d = .error cause ∧ .rejected (.move m sign d cause) = fault :=
  mapError_eq_error_iff

theorem targetZone_eq (zone : m.zone = some z) : m.targetZone = z := by
  unfold targetZone
  rw [zone]
  rfl

theorem onTargetClock_of_move (h : m.move sign d = .ok moved) :
    moved.OnClock m.targetZone := by
  obtain ⟨-, -, _, _, _, -, -, -, back⟩ := move_eq_ok_iff.1 h
  exact onClock_of_momentAt back

theorem onClock_of_move (zone : m.zone = some z) (h : m.move sign d = .ok moved) :
    moved.OnClock z := targetZone_eq zone ▸ onTargetClock_of_move h

theorem instant_of_move (zone : m.zone = some z) (h : m.move sign d = .ok moved) :
    ∃ reading, m.reading.addMonths (sign.apply d.totalMonths) = .ok reading ∧
      moved.instant = Moment.instant ⟨reading, false, some z⟩ +
        microsOfSeconds (sign.apply d.elapsed) := by
  obtain ⟨-, -, reading, utc, target, months, there, elapsed, back⟩ := move_eq_ok_iff.1 h
  rw [targetZone_eq zone] at back
  rw [zone] at there
  refine ⟨reading, months, ?_⟩
  rw [(utc_eq_ok_iff rfl).1 there, Zone.instant_of_momentAt back, elapsed]

theorem instant_of_elapsed_move (zone : m.zone = some z) (still : d.totalMonths = 0)
    (h : m.move sign d = .ok moved) :
    moved.instant = Moment.instant ⟨m.reading, false, some z⟩ +
      microsOfSeconds (sign.apply d.elapsed) := by
  obtain ⟨reading, months, instant⟩ := instant_of_move zone h
  have none : sign.apply d.totalMonths = 0 := by
    rw [still]
    cases sign <;> rfl
  rw [none, Reading.addMonths_zero] at months
  rw [Except.ok.inj months, instant]

end Moment

namespace Date

theorem monthIndex_lt (date : Date) : date.monthIndex < 12 * (lastYear + 1) := by
  obtain ⟨⟨-, year⟩, ⟨-, month⟩, -⟩ := date.valid
  unfold monthIndex
  omega

end Date

namespace Duration

variable {d : Duration} {sign : Sign}

theorem carryFault?_eq_none (few : d.totalMonths < 12 * (lastYear + 1))
    (short : d.elapsed < dayCount * secondsPerDay) : d.carryFault? = none := by
  have float : 12 * (lastYear + 1) ≤ floatLimit := by decide +kernel
  have words : dayCount ≤ wordMax ∧ dayCount ≤ maxDays := by decide +kernel
  have months : d.months ≤ d.totalMonths := Nat.le_add_left _ _
  have days : d.elapsed / secondsPerDay < dayCount :=
    Nat.div_lt_of_lt_mul (Nat.mul_comm _ _ ▸ short)
  unfold carryFault?
  dsimp only
  rw [if_neg (by omega), if_neg (by omega), if_neg (by omega)]

theorem backFault?_eq_none (short : d.elapsed < dayCount * secondsPerDay) :
    d.backFault? sign = none := by
  have days : dayCount ≤ maxDays := by decide +kernel
  have back : -(maxDays : Int) ≤ sign.apply d.elapsed / secondsPerDay := by
    rw [Int.le_ediv_iff_mul_le (by decide)]
    simp only [secondsPerDay] at *
    cases sign <;> simp only [Sign.apply] <;> omega
  unfold backFault?
  dsimp only
  rw [if_neg (Int.not_lt.2 back)]

end Duration

namespace Moment

variable {m moved : Moment} {sign : Sign} {d : Duration}

/-- The calendar has every stage of the move, and the last is `moved`. -/
def LandsAt (m : Moment) (sign : Sign) (d : Duration) (moved : Moment) : Prop :=
  ∃ reading utc target : Reading, m.reading.addMonths (sign.apply d.totalMonths) = .ok reading ∧
    Moment.utc ⟨reading, false, m.zone⟩ = .ok utc ∧
    (target.micros : Int) = utc.micros + microsOfSeconds (sign.apply d.elapsed) ∧
    m.targetZone.momentAt target = .ok moved

theorem LandsAt.totalMonths_lt (lands : m.LandsAt sign d moved) :
    d.totalMonths < 12 * (lastYear + 1) := by
  obtain ⟨reading, -, -, months, -⟩ := lands
  obtain ⟨date, index, -⟩ := Reading.addMonths_eq_ok_iff.1 months
  have first := m.reading.date.monthIndex_lt
  have last := date.monthIndex_lt
  cases sign <;> simp only [Sign.apply] at index <;> omega

theorem LandsAt.elapsed_lt (lands : m.LandsAt sign d moved) :
    d.elapsed < dayCount * secondsPerDay := by
  obtain ⟨-, utc, target, -, -, elapsed, -⟩ := lands
  have first := utc.micros_lt
  have last := target.micros_lt
  simp only [readingCount, microsPerDay, microsOfSeconds, microsPerSecond, secondsPerDay] at *
  cases sign <;> simp only [Sign.apply] at elapsed <;> omega

/-- Between moments of the calendar no amount is too large to be carried. -/
theorem move_eq_ok_iff_landsAt : m.move sign d = .ok moved ↔ m.LandsAt sign d moved := by
  rw [move_eq_ok_iff]
  constructor
  · rintro ⟨-, -, lands⟩
    exact lands
  · intro lands
    exact ⟨Duration.carryFault?_eq_none lands.totalMonths_lt lands.elapsed_lt,
      Duration.backFault?_eq_none lands.elapsed_lt, lands⟩

theorem not_landsAt_of_move {cause : RangeFault} (h : m.move sign d = .error cause) :
    ¬∃ moved, m.LandsAt sign d moved := by
  rintro ⟨moved, lands⟩
  cases h.symm.trans (move_eq_ok_iff_landsAt.2 lands)

end Moment
end CivilRange
