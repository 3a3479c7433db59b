import CivilRange.Proofs.Slicing.Stop

set_option autoImplicit false

namespace CivilRange

namespace Slicing

variable {s : Slicing} {z : Zone} {limit : Moment} {k n i : Nat}

def upTo (s : Slicing) (limit : Moment) : Slicing := { s with limit := limit }

theorem ofRange_upTo (start unit : String) (period : Int) {stop stop' : String} {now : Moment}
    {e e' : Bound} (h : Bound.read stop now = .ok e) (h' : Bound.read stop' now = .ok e') :
    ofRange start stop' period unit now =
      (fun s => s.upTo e'.moment) <$> ofRange start stop period unit now := by
  unfold ofRange
  rw [h, h']
  split
  · cases Bound.read start now with
    | error fault => rfl
    | ok origin =>
      let range : Slicing := ⟨start, unit, period.toNat, by omega, now, e.moment⟩
      change (range.boundary 0 >>= fun _ => .ok (range.upTo e'.moment)) =
        (fun s => s.upTo e'.moment) <$> (range.boundary 0 >>= fun _ => .ok range)
      cases range.boundary 0 <;> rfl
  · cases refused : rejectPeriod period with
    | error fault => rfl
    | ok s => exact absurd refused (rejectPeriod_ne_ok period)

section Later

variable (opened : s.Opened) (zone : s.now.zone = some z) (zone' : limit.zone = some z)
  (later : s.limit.reading.micros ≤ limit.reading.micros)

include opened zone zone' later

/-- An attempt at a slice comes to the same, unless it is done because of the earlier end. -/
theorem Opened.sliceAt_upTo (k : Nat) : s.sliceAt k = .ok none ∨
    (s.upTo limit).sliceAt k = s.sliceAt k := by
  have edges (k : Nat) : (s.upTo limit).edge k = s.edge k := rfl
  rw [sliceAt, sliceAt, edges, edges]
  cases start : s.edge k with
  | error fault => exact .inr rfl
  | ok a =>
    cases stop : s.edge (k + 1) with
    | error fault => exact .inr rfl
    | ok b =>
      have at_s := opened.isAfter_limit zone stop
      have at_limit := Moment.isAfter_of_zone (opened.onClock_edge zone stop).zone_eq zone'
      obtain lt | le := Nat.lt_or_ge s.limit.reading.micros b.reading.micros
      · left
        change (do
          if ← b.isAfter s.limit then return none else some <$> Slice.make a b) = _
        rw [at_s, decide_eq_true lt]
        rfl
      · right
        change (do
          if ← b.isAfter limit then return none else some <$> Slice.make a b) = (do
          if ← b.isAfter s.limit then return none else some <$> Slice.make a b)
        rw [at_s, at_limit, decide_eq_false (by omega), decide_eq_false (by omega)]

theorem Opened.take_upTo :
    (Run.take n (Run.after s i)).1 <+: (Run.take n (Run.after (s.upTo limit) i)).1 ∧
    ((Run.take n (Run.after s i)).2.1 ≠ .done →
      (Run.take n (Run.after (s.upTo limit) i)).1 = (Run.take n (Run.after s i)).1 ∧
        (Run.take n (Run.after (s.upTo limit) i)).2.1 = (Run.take n (Run.after s i)).2.1) := by
  induction n generalizing i with
  | zero => exact ⟨List.prefix_refl _, fun _ => ⟨rfl, rfl⟩⟩
  | succ n ih =>
    obtain done | same := opened.sliceAt_upTo zone zone' later i
    · rw [Run.take_succ_of_none n done]
      exact ⟨List.nil_prefix, fun other => absurd rfl other⟩
    · cases at_i : s.sliceAt i with
      | error fault =>
        rw [Run.take_succ_of_error n at_i, Run.take_succ_of_error n (same.trans at_i)]
        exact ⟨List.prefix_refl _, fun _ => ⟨rfl, rfl⟩⟩
      | ok found =>
        cases found with
        | none =>
          rw [Run.take_succ_of_none n at_i]
          exact ⟨List.nil_prefix, fun other => absurd rfl other⟩
        | some slice =>
          obtain ⟨front, ended⟩ := ih (i := i + 1)
          rw [Run.take_succ_of_some at_i rfl, Run.take_succ_of_some (same.trans at_i) rfl]
          refine ⟨List.cons_prefix_cons.2 ⟨rfl, front⟩, fun other => ?_⟩
          obtain ⟨slices, ending⟩ := ended other
          exact ⟨congrArg (slice :: ·) slices, ending⟩

end Later

/-- Two ends of which the second is not before the first, in the order of moments, leave the opening
of a range as it is, and of the slices those up to the first are the first ones up to the second. If
a run up to the first fails, then that up to the second gives the same slices and fails on the same
fault. -/
theorem longer_range_keeps_slices {start stop stop' unit : String} {period : Int} {now : Moment}
    {e e' : Bound} (zone : now.zone = some z) (h : Bound.read stop now = .ok e)
    (h' : Bound.read stop' now = .ok e') (le : e.moment.isAfter e'.moment = .ok false) :
    (∀ fault, ofRange start stop period unit now = .error fault ↔
        ofRange start stop' period unit now = .error fault) ∧
      ∀ s s', ofRange start stop period unit now = .ok s →
        ofRange start stop' period unit now = .ok s' →
        (∀ n, ((Run.start s).take n).1 <+: ((Run.start s').take n).1 ∧
          ∀ fault, ((Run.start s).take n).2.1 = .failed fault →
            ((Run.start s').take n).1 = ((Run.start s).take n).1 ∧
              ((Run.start s').take n).2.1 = .failed fault) ∧
        s.slices.1 <+: s'.slices.1 ∧
          ∀ fault, s.slices.2 = .failed fault → s'.slices = s.slices := by
  have same := ofRange_upTo start unit period h h'
  refine ⟨fun fault => by rw [same, map_eq_error_iff], ?_⟩
  intro s s' range range'
  rw [same, range] at range'
  obtain rfl := Except.ok.inj range'
  obtain ⟨opened, rfl⟩ := opened_of_ofRange range
  obtain ⟨-, -, ⟨e₀, there, limit⟩, -⟩ := ofRange_eq_ok_iff.1 range
  obtain rfl := Except.ok.inj (h.symm.trans there)
  have zone' := Bound.zone_of_read zone h'
  have later : s.limit.reading.micros ≤ e'.moment.reading.micros := by
    rw [limit, Moment.isAfter_of_zone (opened.zone_limit zone) zone'] at le
    exact Nat.le_of_not_lt (of_decide_eq_false (Except.ok.inj le))
  have kept : ∀ n, ((Run.start s).take n).1 <+: ((Run.start (s.upTo e'.moment)).take n).1 ∧
      ∀ fault, ((Run.start s).take n).2.1 = .failed fault →
        ((Run.start (s.upTo e'.moment)).take n).1 = ((Run.start s).take n).1 ∧
          ((Run.start (s.upTo e'.moment)).take n).2.1 = .failed fault := by
    intro n
    rw [Run.start_eq, Run.start_eq]
    obtain ⟨front, ended⟩ := opened.take_upTo (n := n) (i := 0) zone zone' later
    refine ⟨front, fun fault failed => ?_⟩
    obtain ⟨slices, ending⟩ := ended fun done => nomatch failed.symm.trans done
    exact ⟨slices, ending.trans failed⟩
  obtain ⟨front, failed⟩ := kept (s.sliceBound + 1)
  refine ⟨kept, front, fun fault h => ?_⟩
  obtain ⟨slices, ending⟩ := failed fault h
  exact Prod.ext slices (ending.trans h.symm)

def autumnHalfHours (limit : Moment) : Slicing := halfHours "+2021:10:31:01:30" limit

def autumnHalfPastThree : Moment := ⟨⟨63771247800000000, by decide⟩, false, some (.region .paris)⟩

/-- Up to half past three and up to four, two of them are given, and the third stops at the second
showing of two o'clock and is a fault. -/
theorem autumnHalfHours_longer :
    (Bound.read "+2021:10:31:03:30" julyMidnight = .ok ⟨autumnHalfPastThree, true⟩ ∧
        Bound.read "+2021:10:31:04" julyMidnight = .ok ⟨octoberMorning, true⟩ ∧
        autumnHalfPastThree.isAfter octoberMorning = .ok false) ∧
      ∃ fault slices, ((Run.start (autumnHalfHours autumnHalfPastThree)).take 4).1 = slices ∧
        slices.length = 2 ∧
        ((Run.start (autumnHalfHours autumnHalfPastThree)).take 4).2.1 = .failed fault ∧
        ((Run.start (autumnHalfHours octoberMorning)).take 4).1 = slices ∧
        ((Run.start (autumnHalfHours octoberMorning)).take 4).2.1 = .failed fault := by
  have earlier : Bound.read "+2021:10:31:03:30" julyMidnight = .ok ⟨autumnHalfPastThree, true⟩ := by
    decide +kernel
  have four : Bound.read "+2021:10:31:04" julyMidnight = .ok ⟨octoberMorning, true⟩ := by
    decide +kernel
  have start : Bound.read "+2021:10:31:01:30" julyMidnight =
      .ok ⟨⟨⟨63771240600000000, by decide⟩, false, some (.region .paris)⟩, true⟩ := by
    decide +kernel
  have first (limit : Moment) : (autumnHalfHours limit).boundary 0 =
      .ok ⟨⟨63771240600000000, by decide⟩, false, some (.region .paris)⟩ := by
    change (autumnHalfHours autumnHalfPastThree).boundary 0 = _
    decide +kernel
  have range : ofRange "+2021:10:31:01:30" "+2021:10:31:03:30" 30 "minute" julyMidnight =
      .ok (autumnHalfHours autumnHalfPastThree) :=
    ofRange_eq_ok_iff.2 ⟨⟨rfl, rfl, rfl, rfl⟩, ⟨_, start⟩, ⟨_, earlier, rfl⟩, _, first _⟩
  have range' : ofRange "+2021:10:31:01:30" "+2021:10:31:04" 30 "minute" julyMidnight =
      .ok (autumnHalfHours octoberMorning) :=
    ofRange_eq_ok_iff.2 ⟨⟨rfl, rfl, rfl, rfl⟩, ⟨_, start⟩, ⟨_, four, rfl⟩, _, first _⟩
  have two : ((Run.start (autumnHalfHours autumnHalfPastThree)).take 4).1.length = 2 ∧
      ((Run.start (autumnHalfHours autumnHalfPastThree)).take 4).2.1 = .failed (.reversed
        (Moment.autumnNight false) ⟨⟨63771242400000000, by decide⟩, true, some (.region .paris)⟩) := by
    decide +kernel
  obtain ⟨two, failed⟩ := two
  have kept := (longer_range_keeps_slices (z := .region .paris) rfl earlier four
    (by decide +kernel)).2 _ _ range range'
  obtain ⟨slices, failed'⟩ := (kept.1 4).2 _ failed
  exact ⟨⟨earlier, four, by decide +kernel⟩, _, _, rfl, two, failed, slices, failed'⟩

end Slicing
end CivilRange
