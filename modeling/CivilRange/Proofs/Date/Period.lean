import CivilRange.Proofs.Expression.Text
import CivilRange.Proofs.Zone.Skipped

set_option autoImplicit false

namespace CivilRange

variable {z : Zone} {utc : Reading} {now m : Moment} {r s : Reading} {f : Fields}
  {places : List Place} {place : Place}

def Fields.startOf (f : Fields) : Place → Fields
  | .year => ⟨f.year, 1, 1, 0, 0, 0⟩
  | .month => ⟨f.year, f.month, 1, 0, 0, 0⟩
  | .day => ⟨f.year, f.month, f.day, 0, 0, 0⟩
  | .hour => ⟨f.year, f.month, f.day, f.hour, 0, 0⟩
  | .minute => ⟨f.year, f.month, f.day, f.hour, f.minute, 0⟩
  | .second => f

theorem Fields.of_startOf (f : Fields) (place other : Place) :
    (if other.index ≤ place.index then some (other.of f) else other.start?) =
      some (other.of (f.startOf place)) := by
  cases place <;> cases other <;> rfl

theorem Fields.validDate_startOf (date : ValidDate f.year f.month f.day) (place : Place) :
    ValidDate (f.startOf place).year (f.startOf place).month (f.startOf place).day := by
  have january : 1 ≤ 1 ∧ 1 ≤ 12 := by decide
  have first (month : Nat) : 1 ≤ 1 ∧ 1 ≤ monthLength f.year month :=
    ⟨Nat.le_refl 1, monthLength_pos _ _⟩
  cases place with
  | year => exact ⟨date.1, january, first 1⟩
  | month => exact ⟨date.1, date.2.1, first f.month⟩
  | day | hour | minute | second => exact date

theorem Fields.validTime_startOf (time : f.ValidTime) (place : Place) :
    (f.startOf place).ValidTime := by
  have midnight : 0 < 24 := by decide
  have whole : 0 < 60 := by decide
  cases place with
  | year | month | day => exact ⟨midnight, whole, whole⟩
  | hour => exact ⟨time.1, whole, whole⟩
  | minute => exact ⟨time.1, time.2.1, whole⟩
  | second => exact time

theorem Fields.timeOfDay_startOf_le (f : Fields) (place : Place) :
    (f.startOf place).timeOfDay ≤ f.timeOfDay := by
  unfold timeOfDay
  apply Nat.mul_le_mul_right
  cases place <;> dsimp only [startOf] <;> omega

namespace Reading

def startDate (r : Reading) (place : Place) : Date :=
  ⟨_, _, _, Fields.validDate_startOf r.validDate_fields place⟩

/-- The reading at the start of the current year, month, day, hour, minute or second. -/
def startOf (r : Reading) (place : Place) : Reading :=
  .ofDate (r.startDate place) (r.fields.startOf place).timeOfDay
    (Fields.timeOfDay_lt _ (Fields.validTime_startOf r.validTime_fields place))

theorem fields_startOf (r : Reading) (place : Place) :
    (r.startOf place).fields = r.fields.startOf place ∧ (r.startOf place).micro = 0 := by
  have date := Fields.validDate_startOf r.validDate_fields place
  have time := Fields.validTime_startOf r.validTime_fields place
  apply fields_of_reading
  unfold Fields.reading
  rw [Fields.widthFault?_eq_none date time]
  dsimp only
  rw [dif_pos date, dif_pos time]
  rfl

theorem dayNumber_startDate_le (r : Reading) (place : Place) :
    (r.startDate place).dayNumber ≤ r.date.dayNumber := by
  have start : daysBeforeMonth r.date.year 1 = 0 := rfl
  cases place <;> simp only [Date.dayNumber, startDate, Fields.startOf, fields] <;> omega

theorem micros_startOf_le (r : Reading) (place : Place) :
    (r.startOf place).micros ≤ r.micros := by
  have whole := congrArg micros r.ofDate_date
  have day := Nat.mul_le_mul_right microsPerDay (r.dayNumber_startDate_le place)
  have time := r.fields.timeOfDay_startOf_le place
  have own := r.timeOfDay_eq
  simp only [startOf, ofDate] at whole ⊢
  omega

theorem secondsPerDay_le_startOf (year : 2 ≤ r.fields.year) (place : Place) :
    secondsPerDay ≤ (r.startOf place).seconds := by
  have same : (r.startDate place).year = r.fields.year := by cases place <;> rfl
  have begun := daysBeforeYear_mono (same ▸ year)
  have first : daysBeforeYear 2 = 365 := by decide
  have day : 1 * microsPerDay ≤ (r.startDate place).dayNumber * microsPerDay := by
    apply Nat.mul_le_mul_right
    unfold Date.dayNumber
    omega
  simp only [seconds, startOf, ofDate, microsPerDay, microsPerSecond, secondsPerDay] at *
  omega

theorem seconds_mono (le : s.micros ≤ r.micros) : s.seconds ≤ r.seconds :=
  Nat.div_le_div_right le

end Reading

namespace Zone

/-- The zone's clock is put forward past the reading. -/
def Skips (z : Zone) (r : Reading) : Prop := z.history.Skips r.seconds

def WithinDay (z : Zone) : Prop := ∀ offset, z = .fixed offset → offset.natAbs < secondsPerDay

theorem natAbs_initial_le (near : z.WithinDay) : z.history.initial.natAbs ≤ secondsPerDay := by
  cases z with
  | region region => cases region <;> decide
  | fixed offset => exact Nat.le_of_lt (near offset rfl)
  | system => decide

theorem shows_iff_not_skips (near : z.WithinDay) (present : z.momentAt utc = .ok now)
    (begun : secondsPerDay ≤ r.seconds) (le : r.micros ≤ now.reading.micros) :
    z.Shows r ↔ ¬z.Skips r := by
  have initial := natAbs_initial_le near
  constructor
  · rintro ⟨u, m, there, rfl⟩ skips
    exact History.not_showsAt_of_skips z.history_spaced initial skips _ (showsAt_of_momentAt there)
  · intro passes
    have start : z.history.shownAt 0 ≤ r.seconds := by
      have bound := History.natAbs_phaseAt_offset z.history_spaced initial 0
      unfold History.shownAt
      omega
    have reached : r.seconds ≤ z.history.shownAt utc.seconds := by
      have shown := showsAt_of_momentAt present
      have order := Reading.seconds_mono le
      unfold History.ShowsAt at shown
      unfold History.shownAt
      omega
    obtain ⟨u, before, shown⟩ | skips := History.showsAt_or_skips start reached
    · obtain ⟨utc', m, -, there, same⟩ :=
        exists_momentAt_of_showsAt (Nat.lt_of_le_of_lt before utc.seconds_lt) shown
      exact ⟨utc', m, there, same⟩
    · exact absurd skips passes

end Zone

/-- The first showing of a reading is not after a moment of the clock that shows a later one. -/
theorem Moment.OnClock.instant_le (h : m.OnClock z) (first : m.fold = false)
    (present : z.momentAt utc = .ok now) (le : m.reading.micros ≤ now.reading.micros) :
    m.instant ≤ now.instant := by
  obtain ⟨utc', -, instant, there⟩ := h.exists_utc
  have phase := (Zone.fold_of_momentAt there).symm.trans first
  have earlier := History.le_of_showsAt z.history_spaced (Zone.showsAt_of_momentAt present)
    (Zone.showsAt_of_momentAt there) phase (Reading.seconds_mono le)
  rw [instant, Zone.instant_of_momentAt present]
  obtain sooner | same := Nat.lt_or_eq_of_le earlier
  · simp only [Reading.seconds, microsPerSecond] at sooner
    omega
  · -- within one second the offset is one
    obtain ⟨r, shown, rfl⟩ := Zone.momentAt_eq_ok_iff.1 present
    obtain ⟨r', shown', rfl⟩ := Zone.momentAt_eq_ok_iff.1 there
    have offset : z.phase utc' = z.phase utc := by
      unfold Zone.phase
      rw [same]
    rw [offset] at shown'
    dsimp only at le
    omega

namespace Place

def keywords (places : List Place) : String := ":".intercalate (places.map name)

theorem length_of_last (front : places <+: all) (last : places.getLast? = some place) :
    places.length = place.index + 1 := by
  obtain ⟨rest, whole⟩ := front
  rw [List.getLast?_eq_getElem?] at last
  have lt := (List.getElem?_eq_some_iff.1 last).1
  have there : all[places.length - 1]? = some place := by
    rw [← whole, List.getElem?_append_left lt, last]
  rw [index_eq_of_all there]
  omega

theorem getElem?_of_front (front : places <+: all) {other : Place}
    (lt : other.index < places.length) : places[other.index]? = some other := by
  obtain ⟨rest, whole⟩ := front
  rw [← List.getElem?_append_left lt, whole, all_index]

theorem hasFields_keywords (places : List Place) :
    HasFields (keywords places).toList (places.map fun place => place.name.toList) := by
  have letters (place : Place) : ':' ∉ place.name.toList ∧ place.name.toList ≠ [] := by
    cases place <;> decide
  refine ⟨?_, ?_, 0, ?_⟩
  · intro field mem
    obtain ⟨place, -, rfl⟩ := List.mem_map.1 mem
    exact (letters place).1
  · intro field mem
    obtain ⟨place, -, rfl⟩ := List.mem_map.1 (List.mem_of_getLast? mem)
    exact (letters place).2
  · simp [keywords, String.toList_intercalate, Function.comp_def]

end Place

namespace Date

theorem writes_keywords (front : places <+: Place.all) (last : places.getLast? = some place)
    (shows : Fields) : Writes (Place.keywords places) shows (shows.startOf place) := by
  have length := Place.length_of_last front last
  refine ⟨_, Place.hasFields_keywords places, ?_, fun other => ?_⟩
  · rw [List.length_map]
    exact front.length_le
  · have value := shows.of_startOf place other
    rw [List.getElem?_map]
    split at value
    · rw [Place.getElem?_of_front front (by omega), ← Option.some.inj value]
      refine .named ?_
      cases other <;> decide
    · rw [List.getElem?_eq_none (by omega)]
      exact .left value

theorem readFields_keywords (front : places <+: Place.all) (last : places.getLast? = some place)
    (shows : Fields) :
    readFields (Place.keywords places) shows = .ok (shows.startOf place) := by
  refine readFields_eq_ok_iff.2 ⟨writes_keywords front last shows, ?_⟩
  intro field mem digits
  rw [(Place.hasFields_keywords places).colonChars_eq] at mem
  obtain ⟨other, -, rfl⟩ := List.mem_map.1 mem
  cases other <;> cases digits

theorem locatedAt_startOf_iff : (r.fields.startOf place).LocatedAt z m ↔
    z.Shows (r.startOf place) ∧ m = ⟨r.startOf place, false, some z⟩ := by
  obtain ⟨fields, micro⟩ := r.fields_startOf place
  rw [← fields, locatedAt_fields_iff,
    ← Reading.eq_wholeSecond_iff.1 (⟨rfl, micro⟩ : _ = (r.startOf place).fields ∧ _)]

/-- At a moment of the zone's clock from the second year on, the names of the places from the year
down to one are read as the start of its current period, which is not after that moment, unless the
clock is put forward past that start. Then the text is rejected as a date. -/
theorem starts_of_periods_read (near : z.WithinDay) (present : z.momentAt utc = .ok now)
    (year : 2 ≤ now.reading.fields.year) (front : places <+: Place.all)
    (last : places.getLast? = some place) :
    ((∃ m, read (Place.keywords places) now = .ok m) ↔
        ¬z.Skips (now.reading.startOf place)) ∧
      (∀ m, read (Place.keywords places) now = .ok m →
        m = ⟨now.reading.startOf place, false, some z⟩ ∧ m.instant ≤ now.instant) ∧
      (z.Skips (now.reading.startOf place) → ∃ cause, read (Place.keywords places) now =
        .error (.rejected (.date (Place.keywords places) cause))) := by
  have zone := Zone.zone_of_momentAt present
  have le := now.reading.micros_startOf_le place
  have shows := Zone.shows_iff_not_skips near present
    (Reading.secondsPerDay_le_startOf year place) le
  have reads : ∀ m, read (Place.keywords places) now = .ok m ↔
      z.Shows (now.reading.startOf place) ∧ m = ⟨now.reading.startOf place, false, some z⟩ := by
    intro m
    simp only [read_eq_ok_iff zone, readFields_keywords front last, Except.ok.injEq,
      exists_eq_left', locate_eq_ok_iff_locatedAt, locatedAt_startOf_iff]
  refine ⟨?_, ?_, ?_⟩
  · rw [← shows]
    constructor
    · rintro ⟨m, there⟩
      exact ((reads m).1 there).1
    · intro shown
      exact ⟨_, (reads _).2 ⟨shown, rfl⟩⟩
  · intro m there
    obtain ⟨shown, rfl⟩ := (reads m).1 there
    exact ⟨rfl, (Zone.shows_iff_onClock.1 shown).instant_le rfl present le⟩
  · intro skips
    cases there : read (Place.keywords places) now with
    | ok m => exact absurd skips (shows.1 ((reads m).1 there).1)
    | error fault =>
      rw [read, zone] at there
      dsimp only at there
      rw [readFields_keywords front last] at there
      obtain ⟨cause, -, same⟩ := mapError_eq_error_iff.1 there
      exact ⟨cause, congrArg Except.error same.symm⟩

/-- In the second showing of half past two, the hour is read as it began at its first showing. -/
theorem repeatedHour_read :
    ((Zone.region .paris).momentAt ⟨63771240600000000, by decide⟩ = .ok (Moment.autumnNight true) ∧
        Place.keywords [.year, .month, .day, .hour] = "year:month:day:hour") ∧
      ∃ m, read (Place.keywords [.year, .month, .day, .hour]) (Moment.autumnNight true) = .ok m ∧
        m = ⟨⟨63771242400000000, by decide⟩, false, some (.region .paris)⟩ ∧
        m.instant ≤ (Moment.autumnNight true).instant := by
  have there : read (Place.keywords [.year, .month, .day, .hour]) (Moment.autumnNight true) =
      .ok ⟨⟨63771242400000000, by decide⟩, false, some (.region .paris)⟩ := by decide +kernel
  have near : (Zone.region .paris).WithinDay := fun offset same => nomatch same
  have front : [Place.year, .month, .day, .hour] <+: Place.all := ⟨[.minute, .second], rfl⟩
  obtain ⟨-, reads, -⟩ :=
    starts_of_periods_read near Moment.momentAt_autumnNight (by decide +kernel) front rfl
  exact ⟨⟨Moment.momentAt_autumnNight, by decide⟩, _, there, rfl, (reads _ there).2⟩

/-- Noon of the day in which São Paulo put its clocks forward at midnight. -/
def novemberNoon : Moment :=
  ⟨⟨63676929600000000, by decide +kernel⟩, false, some (.region .saoPaulo)⟩

/-- That day has no midnight, and its names are no date. -/
theorem novemberMidnight_skipped :
    (Zone.region .saoPaulo).momentAt ⟨63676936800000000, by decide⟩ = .ok novemberNoon ∧
      2 ≤ novemberNoon.reading.fields.year ∧ [Place.year, .month, .day] <+: Place.all ∧
      ¬∃ m, read (Place.keywords [.year, .month, .day]) novemberNoon = .ok m := by
  have skipped : read (Place.keywords [.year, .month, .day]) novemberNoon =
      .error (.rejected (.date "year:month:day"
        (.skipped ⟨63676886400000000, by decide⟩ (.region .saoPaulo)))) := by decide +kernel
  refine ⟨by decide +kernel, by decide +kernel, ⟨[.hour, .minute, .second], rfl⟩, ?_⟩
  rintro ⟨m, there⟩
  cases skipped.symm.trans there

end Date
end CivilRange
