import CivilRange.Proofs.Moment.Timestamp
import CivilRange.Proofs.Slicing.Steady

set_option autoImplicit false

namespace CivilRange

theorem Slice.text_eq {slice : Slice} {shown : Int}
    (h : slice.start.secondsBetween slice.stop = .ok shown) :
    slice.text = .ok ("Slice(" ++ slice.start.text ++ "→" ++ slice.stop.text ++ s!", {shown}s)") := by
  unfold text
  rw [h]
  rfl

namespace Slicing

variable {s : Slicing} {z : Zone} {u : TimeUnit} {step n : Nat} {slice : Slice}

theorem Opened.instant_stop (opened : s.Opened) (zone : s.now.zone = some z)
    (named : NamesUnit s.unit u) (seconds : u.seconds? = some step)
    (h : slice ∈ ((Run.start s).take n).1) :
    slice.stop.instant = slice.start.instant + s.width step := by
  obtain ⟨origin, there⟩ := opened.origin
  obtain ⟨k, at_k⟩ := Run.exists_sliceAt_of_mem h
  obtain ⟨start, stop, -⟩ := sliceAt_eq_some_iff.1 at_k
  rw [opened.instant_edge zone there named seconds start,
    opened.instant_edge zone there named seconds stop]
  push_cast
  rw [Int.add_mul, Int.one_mul, Int.add_assoc]

/-- By a unit of elapsed time each slice lasts as long as its period. So many seconds are shown if
and only if the difference of the timestamps does not fall short, else one less; and it never does
without microseconds, or if no power of two seconds of Unix time lies between the ends. -/
theorem elapsed_slices_last_their_period {start stop unit : String} {period : Int} {now : Moment}
    (zone : now.zone = some z) (named : NamesUnit unit u) (seconds : u.seconds? = some step)
    (h : ofRange start stop period unit now = .ok s) :
    ∀ n, ∀ slice ∈ ((Run.start s).take n).1,
      slice.stop.instant = slice.start.instant + microsOfSeconds (period * step) ∧
        ∃ shown : Int,
          slice.text = .ok
            ("Slice(" ++ slice.start.text ++ "→" ++ slice.stop.text ++ s!", {shown}s)") ∧
          (shown = period * step ↔ ¬slice.start.FallsShort slice.stop) ∧
          (shown ≠ period * step → shown = period * step - 1 ∧ slice.start.reading.micro ≠ 0 ∧
            ¬slice.start.InOneBinade slice.stop) := by
  obtain ⟨opened, rfl⟩ := opened_of_ofRange h
  obtain ⟨⟨-, rfl, rfl, -⟩, -⟩ := ofRange_eq_ok_iff.1 h
  intro n slice mem
  have apart := opened.instant_stop zone named seconds mem
  obtain ⟨clock, clock'⟩ := opened.onClock_of_mem zone mem
  have first := clock.instant_range.1
  have last := clock'.instant_range.2
  have pos : 0 < s.period * step := Nat.mul_pos s.period_pos (TimeUnit.seconds_pos seconds)
  rw [← Int.natCast_mul]
  obtain ⟨shown, between, exact, less⟩ := Moment.secondsBetween_of_apart clock.zone_eq clock'.zone_eq
    first last apart pos
  refine ⟨apart, shown, Slice.text_eq between, exact, fun other => ⟨less other, ?_, ?_⟩⟩
  · intro none
    exact other (exact.2 (Moment.not_fallsShort_of_micro_eq_zero clock.zone_eq clock'.zone_eq first
      last apart none))
  · intro same
    exact other (exact.2 (Moment.not_fallsShort_of_inOneBinade clock.zone_eq clock'.zone_eq first
      last apart same))

def autumnHours : Slicing :=
  ⟨"+NOW", "hour", 1, Nat.one_pos, Moment.autumnNight true, octoberMorning⟩

def autumnHour : Slice := ⟨Moment.autumnNight false, Moment.autumnNight true, by decide +kernel⟩

theorem autumnHour_lasts :
    (NamesUnit "hour" .hours ∧ TimeUnit.hours.seconds? = some 3600 ∧
        ofRange "+NOW" "+2021:10:31:04" 1 "hour" (Moment.autumnNight true) = .ok autumnHours ∧
        autumnHour ∈ ((Run.start autumnHours).take 1).1) ∧
      autumnHour.stop.instant = autumnHour.start.instant + microsOfSeconds 3600 ∧
      autumnHour.text =
        .ok "Slice(2021-10-31T02:30:00+02:00→2021-10-31T02:30:00+01:00, 3600s)" := by
  have named : NamesUnit "hour" .hours := ⟨List.all_eq_true.1 (by decide), by decide⟩
  have limit : Bound.read "+2021:10:31:04" (Moment.autumnNight true) =
      .ok ⟨octoberMorning, true⟩ := by decide +kernel
  have start : autumnHours.boundary 0 = .ok (Moment.autumnNight false) := by decide +kernel
  have range : ofRange "+NOW" "+2021:10:31:04" 1 "hour" (Moment.autumnNight true) =
      .ok autumnHours :=
    ofRange_eq_ok_iff.2
      ⟨⟨rfl, rfl, rfl, rfl⟩, ⟨_, Bound.read_present _⟩, ⟨_, limit, rfl⟩, _, start⟩
  have mem : autumnHour ∈ ((Run.start autumnHours).take 1).1 :=
    mem_take_one start (by decide +kernel) (by decide +kernel)
  obtain ⟨instant, shown, text, -, less⟩ :=
    elapsed_slices_last_their_period (z := .region .paris) rfl named rfl range 1 autumnHour mem
  have whole : shown = 1 * 3600 :=
    Decidable.byContradiction fun other => (less other).2.1 (by decide +kernel)
  refine ⟨⟨named, rfl, range, mem⟩, instant, ?_⟩
  rw [text, whole]
  decide +kernel

/-- Three o'clock and three microseconds in the night in which Unix time passes 2 ^ 31 seconds. -/
def januaryNight : Moment := ⟨⟨64283079600000003, by decide⟩, false, some (.region .utc)⟩

def januaryHours : Slicing :=
  ⟨"+NOW", "hour", 1, Nat.one_pos, januaryNight,
    ⟨⟨64283086800000000, by decide⟩, false, some (.region .utc)⟩⟩

def januaryHour : Slice :=
  ⟨januaryNight, ⟨⟨64283083200000003, by decide⟩, false, some (.region .utc)⟩, by decide +kernel⟩

/-- The hour in which it does is shown a second short. -/
theorem januaryHour_falls_short :
    (NamesUnit "hour" .hours ∧
        ofRange "+NOW" "+2038:01:19:05" 1 "hour" januaryNight = .ok januaryHours) ∧
      januaryHour ∈ ((Run.start januaryHours).take 1).1 ∧
      januaryHour.stop.instant = januaryHour.start.instant + microsOfSeconds 3600 ∧
      januaryHour.text = .ok
        "Slice(2038-01-19T03:00:00.000003+00:00→2038-01-19T04:00:00.000003+00:00, 3599s)" := by
  have limit : Bound.read "+2038:01:19:05" januaryNight = .ok ⟨januaryHours.limit, true⟩ := by
    decide +kernel
  have start : januaryHours.boundary 0 = .ok januaryNight := by decide +kernel
  have range : ofRange "+NOW" "+2038:01:19:05" 1 "hour" januaryNight = .ok januaryHours :=
    ofRange_eq_ok_iff.2
      ⟨⟨rfl, rfl, rfl, rfl⟩, ⟨_, Bound.read_present _⟩, ⟨_, limit, rfl⟩, _, start⟩
  have mem : januaryHour ∈ ((Run.start januaryHours).take 1).1 :=
    mem_take_one start (by decide +kernel) (by decide +kernel)
  exact ⟨⟨⟨List.all_eq_true.1 (by decide), by decide⟩, range⟩, mem, by decide +kernel,
    by decide +kernel⟩

end Slicing
end CivilRange
