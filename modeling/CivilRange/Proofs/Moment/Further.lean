import CivilRange.Proofs.Moment.Elapsed
import CivilRange.Proofs.Moment.Still
import CivilRange.Proofs.Zone.Ends

set_option autoImplicit false

namespace CivilRange

/-- A number of which the direction of the sign makes more. -/
def Sign.turn (x : Int) : Sign → Int
  | plus => x
  | minus => -x

section Between

variable {z : Zone} {a b t : Int}

theorem inCalendar_of_between (ha : InCalendar a) (hb : InCalendar b) (le : a ≤ t) (le' : t ≤ b) :
    InCalendar t := ⟨Int.le_trans ha.1 le, Int.lt_of_le_of_lt le' hb.2⟩

namespace Zone

theorem covers_iff_shownAt : z.Covers t ↔
    InCalendar t ∧ 0 ≤ z.history.shownAt (wholeSeconds t) ∧
      z.history.shownAt (wholeSeconds t) < (dayCount * secondsPerDay : Nat) := by
  rw [covers_iff_inCalendar, and_congr_right_iff]
  intro instant
  simp only [InCalendar, History.shownAt, wholeSeconds, microsOfSeconds, microsPerSecond,
    readingCount, microsPerDay, dayCount, secondsPerDay] at *
  omega

theorem covers_of_between (ha : z.Covers a) (hb : z.Covers b) (le : a ≤ t) (le' : t ≤ b) :
    z.Covers t := by
  rw [covers_iff_shownAt] at *
  obtain ⟨in_a, first, -⟩ := ha
  obtain ⟨in_b, -, last⟩ := hb
  have from_a : wholeSeconds a ≤ wholeSeconds t :=
    Int.toNat_le_toNat (Int.ediv_le_ediv (by decide) le)
  have to_b : wholeSeconds t ≤ wholeSeconds b :=
    Int.toNat_le_toNat (Int.ediv_le_ediv (by decide) le')
  exact ⟨inCalendar_of_between in_a in_b le le',
    History.shownAt_nonneg z.history_spaced from_a first,
    History.shownAt_lt z.history_spaced z.endsQuietly to_b last⟩

end Zone
end Between

namespace Moment

variable {z : Zone} {m : Moment} {sign : Sign} {d e : Duration} {n : Nat} {utc : Reading}

theorem fits_iff_covers : m.Fits z sign d ↔
    (1 ≤ m.monthReached sign d / 12 ∧ m.monthReached sign d / 12 ≤ lastYear) ∧
      InCalendar (m.utcReached z sign d) ∧ z.Covers (m.instantReached z sign d) := by
  rw [Zone.covers_iff_inCalendar]
  constructor
  · rintro ⟨year, utc, instant, shown⟩
    exact ⟨year, utc, instant, shown⟩
  · rintro ⟨year, utc, instant, shown⟩
    exact ⟨year, utc, instant, shown⟩

section Order

variable (year : 1 ≤ m.monthReached sign d / 12 ∧ m.monthReached sign d / 12 ≤ lastYear)
  (year' : 1 ≤ m.monthReached sign e / 12 ∧ m.monthReached sign e / 12 ≤ lastYear)

include year year'

theorem turn_utcReached_le (z : Zone) {more : Nat} (longer : e.totalMonths = d.totalMonths + more) :
    sign.turn (m.utcReached z sign d) + microsOfSeconds more ≤
      sign.turn (m.utcReached z sign e) := by
  obtain ⟨r, at_d⟩ := exists_addMonths year
  obtain ⟨r', at_e⟩ := exists_addMonths year'
  rw [← instant_of_reached (reached_of_addMonths at_d).2,
    ← instant_of_reached (reached_of_addMonths at_e).2]
  rw [longer] at at_e
  cases sign with
  | plus => exact instant_add_le_of_addMonths z more at_d at_e
  | minus =>
    have back : Sign.minus.apply d.totalMonths =
        Sign.minus.apply (d.totalMonths + more) + (more : Int) := by
      simp only [Sign.apply]
      omega
    rw [back] at at_d
    have apart := instant_add_le_of_addMonths z more at_e at_d
    dsimp only [Sign.turn]
    omega

theorem turn_instantReached_le (z : Zone) (shorter : d.ShorterBy n e) :
    sign.turn (m.instantReached z sign d) + microsOfSeconds n ≤
      sign.turn (m.instantReached z sign e) := by
  obtain ⟨months, elapsed, total⟩ := shorter
  obtain ⟨more, longer⟩ := Nat.exists_eq_add_of_le months
  have calendar := turn_utcReached_le year year' z longer
  cases sign <;>
  · simp only [instantReached, Sign.turn, Sign.apply, microsOfSeconds, microsPerSecond] at *
    omega

end Order

theorem fits_zero (sign : Sign) (first : Moment.utc ⟨m.reading, false, some z⟩ = .ok utc) :
    m.Fits z sign .zero := by
  have present : m.reading.addMonths (sign.apply Duration.zero.totalMonths) = .ok m.reading := by
    cases sign <;> exact m.reading.addMonths_zero
  obtain ⟨year, reached⟩ := reached_of_addMonths present
  have at_utc : m.utcReached z sign .zero = utc.micros := by
    rw [← instant_of_reached reached, (utc_eq_ok_iff rfl).1 first]
  have at_instant : m.instantReached z sign .zero = utc.micros := by
    rw [instantReached, at_utc]
    cases sign <;> exact Int.add_zero _
  rw [fits_iff_covers, at_utc, at_instant]
  refine ⟨year, inCalendar_iff.2 ⟨utc, rfl⟩, Zone.covers_iff_shownAt.2 ⟨inCalendar_iff.2 ⟨utc, rfl⟩, ?_⟩⟩
  rw [← Reading.seconds_eq rfl]
  refine History.shownAt_of_first z.history_spaced z.endsQuietly m.reading.seconds_lt ?_
  have instant := (utc_eq_ok_iff rfl).1 first
  simp only [Moment.instant, offset, Zone.offsetAt, microsOfSeconds, microsPerSecond,
    Reading.seconds] at *
  omega

theorem Fits.of_shorter (fits : m.Fits z sign e) (start : m.Fits z sign .zero)
    (shorter : d.ShorterBy n e) : m.Fits z sign d := by
  have least : Duration.zero.ShorterBy 0 d := ⟨Nat.zero_le _, Nat.zero_le _, Nat.zero_le _⟩
  rw [fits_iff_covers] at start fits ⊢
  obtain ⟨year₀, utc₀, instant₀⟩ := start
  obtain ⟨year₁, utc₁, instant₁⟩ := fits
  have year : 1 ≤ m.monthReached sign d / 12 ∧ m.monthReached sign d / 12 ≤ lastYear := by
    have months := shorter.months
    cases sign <;>
    · simp only [monthReached, Sign.apply] at *
      have none : Duration.zero.totalMonths = 0 := rfl
      omega
  obtain ⟨months, from_none⟩ := Nat.exists_eq_add_of_le least.months
  obtain ⟨more, longer⟩ := Nat.exists_eq_add_of_le shorter.months
  have utc_le := turn_utcReached_le year₀ year z from_none
  have utc_le' := turn_utcReached_le year year₁ z longer
  have instant_le := turn_instantReached_le year₀ year z least
  have instant_le' := turn_instantReached_le year year₁ z shorter
  simp only [microsOfSeconds, microsPerSecond] at *
  cases sign with
  | plus =>
    simp only [Sign.turn] at *
    exact ⟨year, inCalendar_of_between utc₀ utc₁ (by omega) (by omega),
      Zone.covers_of_between instant₀ instant₁ (by omega) (by omega)⟩
  | minus =>
    simp only [Sign.turn] at *
    exact ⟨year, inCalendar_of_between utc₁ utc₀ (by omega) (by omega),
      Zone.covers_of_between instant₁ instant₀ (by omega) (by omega)⟩

theorem exists_shorter_move (zone : m.zone = some z)
    (first : Moment.utc ⟨m.reading, false, some z⟩ = .ok utc) (shorter : d.ShorterBy n e)
    {moved : Moment} (h : m.moveOrReject sign e = .ok moved) :
    ∃ before, m.moveOrReject sign d = .ok before ∧
      sign.turn before.instant + microsOfSeconds n ≤ sign.turn moved.instant := by
  simp only [moveOrReject_eq_ok_iff] at h ⊢
  have fits : m.Fits z sign e :=
    (exists_landsAt_iff_fits zone).1 ⟨moved, move_eq_ok_iff_landsAt.1 h⟩
  have fits' : m.Fits z sign d := fits.of_shorter (fits_zero sign first) shorter
  obtain ⟨before, lands⟩ := (exists_landsAt_iff_fits zone).2 fits'
  have h' := move_eq_ok_iff_landsAt.2 lands
  refine ⟨before, h', ?_⟩
  rw [instant_of_reached_move zone h, instant_of_reached_move zone h']
  exact turn_instantReached_le fits'.year fits.year z shorter

/-- Of the numbers of a unit by which a moment can be moved none is left out, and the larger
number leads to the later instant, or for the sign minus to the earlier one. -/
theorem moves_by_fewer_units (zone : m.zone = some z)
    (first : Moment.utc ⟨m.reading, false, some z⟩ = .ok utc) (unit : TimeUnit) {i j : Nat}
    (lt : i < j) :
    (∀ b, m.moveOrReject .plus (Duration.zero.withAmount unit j) = .ok b →
        ∃ a, m.moveOrReject .plus (Duration.zero.withAmount unit i) = .ok a ∧
          a.instant < b.instant) ∧
      ∀ b, m.moveOrReject .minus (Duration.zero.withAmount unit j) = .ok b →
        ∃ a, m.moveOrReject .minus (Duration.zero.withAmount unit i) = .ok a ∧
          b.instant < a.instant := by
  have shorter := Duration.zero.shorterBy_withAmount unit (Nat.le_of_lt lt)
  refine ⟨?_, ?_⟩ <;>
  · intro b h
    obtain ⟨a, h', apart⟩ := exists_shorter_move zone first shorter h
    refine ⟨a, h', ?_⟩
    simp only [Sign.turn, microsOfSeconds, microsPerSecond] at apart
    omega

/-- The last day of the shorter month comes before that of the longer one, and its night before
that night, though the clocks are put forward between. -/
theorem autumnNight_months :
    ((autumnNight true).zone = some (.region .paris) ∧
        Moment.utc ⟨(autumnNight true).reading, false, some (.region .paris)⟩ =
          .ok ⟨63771237000000000, by decide⟩ ∧ 4 < 5) ∧
      (∃ february march,
        (autumnNight true).moveOrReject .plus (Duration.zero.withAmount .months 4) = .ok february ∧
        (autumnNight true).moveOrReject .plus (Duration.zero.withAmount .months 5) = .ok march ∧
        february.instant < march.instant) ∧
      ∃ june may,
        (autumnNight true).moveOrReject .minus (Duration.zero.withAmount .months 4) = .ok june ∧
        (autumnNight true).moveOrReject .minus (Duration.zero.withAmount .months 5) = .ok may ∧
        may.instant < june.instant := by
  have first : Moment.utc ⟨(autumnNight true).reading, false, some (.region .paris)⟩ =
      .ok ⟨63771237000000000, by decide⟩ := by decide +kernel
  have march : (autumnNight true).moveOrReject .plus (Duration.zero.withAmount .months 5) =
      .ok ⟨⟨63784290600000000, by decide⟩, false, some (.region .paris)⟩ := by decide +kernel
  have may : (autumnNight true).moveOrReject .minus (Duration.zero.withAmount .months 5) =
      .ok ⟨⟨63758025000000000, by decide⟩, false, some (.region .paris)⟩ := by decide +kernel
  have moves := moves_by_fewer_units (m := autumnNight true) rfl first .months (i := 4) (j := 5)
    (by decide)
  obtain ⟨february, sooner, before⟩ := moves.1 _ march
  obtain ⟨june, later, after⟩ := moves.2 _ may
  exact ⟨⟨rfl, first, by decide⟩, ⟨february, _, sooner, march, before⟩, june, _, later, may, after⟩

end Moment
end CivilRange
