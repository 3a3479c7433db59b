import CivilRange.Observer
import CivilRange.Proofs.Slicing.Length
import Mathlib.Algebra.GroupWithZero.Nat

set_option autoImplicit false

/-!
# Sessions

A question and the start of a run take one reading of the clock each, whatever comes of them; taking
slices takes none. So the reading that a call is answered from is found by counting the calls before
it, and a run goes on from where it was left, on the reading that it was started from, whatever is
done in between.
-/
namespace CivilRange

namespace Observer

variable {z w : Zone} {utc : Reading} {a : Moment}

theorem localise_of_momentAt (h : w.momentAt utc = .ok a) :
    localise z a = (z.momentAt utc).mapError .range := by
  have zone : a.zone = some w := Zone.zone_of_momentAt h
  have aware : a.isFloating = false := congrArg Option.isNone zone
  have there : a.toZone z = z.momentAt utc := by
    by_cases own : a.zone = some z
    · obtain rfl := Option.some.inj (zone.symm.trans own)
      exact (if_pos own).trans h.symm
    · exact (if_neg own).trans (congrArg (· >>= z.momentAt) (Moment.utc_of_momentAt h))
  rw [← there]
  exact if_neg (ne_true_of_eq_false aware)

/-- What an observer takes a clock reading for: its own zone's moment of the same instant, while one
of no zone is a fault. -/
theorem now_spec (o : Observer) (k : Nat) :
    ((o.clock k).zone = none → o.now k = .error (.floatingClock (o.clock k))) ∧
      ((o.clock k).zone ≠ none → o.now k = ((o.clock k).toZone o.zone).mapError .range) ∧
      ∀ utc (w : Zone), w.momentAt utc = .ok (o.clock k) →
        o.now k = (o.zone.momentAt utc).mapError .range := by
  refine ⟨fun none => ?_, fun aware => ?_, fun utc w there => localise_of_momentAt there⟩
  · exact if_pos (Option.isNone_iff_eq_none.2 none)
  · exact if_neg fun none => aware (Option.isNone_iff_eq_none.1 none)

end Observer

namespace Call

def readings : Call → Nat
  | take _ _ => 0
  | _ => 1

def asked (name : String) : Call → Nat
  | take other count => if other = name then count else 0
  | _ => 0

theorem asked_take (name other : String) (count : Nat) :
    asked name (take other count) = if other = name then count else 0 := rfl

end Call

namespace Session

variable {s : Session} {call : Call} {calls : List Call} {name other : String} {i j k : Nat}

def readings (calls : List Call) : Nat := (calls.map Call.readings).sum

def asked (name : String) (calls : List Call) : Nat := (calls.map (Call.asked name)).sum

/-- What comes after entry `i` of a list and before entry `j`. -/
def between {α : Type} (entries : List α) (i j : Nat) : List α := (entries.take j).drop (i + 1)

theorem take_eq_append_between {α : Type} (entries : List α) (lt : i < j) :
    entries.take j = entries.take (i + 1) ++ between entries i j := by
  have front : (entries.take j).take (i + 1) = entries.take (i + 1) := by
    rw [List.take_take, Nat.min_eq_left lt]
  rw [← front]
  exact (List.take_append_drop _ _).symm

def callAll (s : Session) : List Call → List Reply × Session
  | [] => ([], s)
  | call :: rest =>
    let (reply, next) := s.call call
    let (replies, last) := next.callAll rest
    (reply :: replies, last)

theorem callAll_cons (s : Session) (call : Call) (rest : List Call) :
    s.callAll (call :: rest) = ((s.call call).1 :: ((s.call call).2.callAll rest).1,
      ((s.call call).2.callAll rest).2) := rfl

theorem lookup_filter_of_ne (ne : other ≠ name) (runs : List (String × Run)) :
    (runs.filter (·.1 != name)).lookup other = runs.lookup other := by
  induction runs with
  | nil => rfl
  | cons entry rest ih =>
    obtain ⟨key, run⟩ := entry
    by_cases same : key = name
    · subst same
      simp [List.lookup_cons, beq_false_of_ne ne, ih]
    · simp [List.lookup_cons, same, ih]

theorem lookup_keep (s : Session) (name : String) (run : Run) :
    (s.keep name run).runs.lookup name = some run := List.lookup_cons_self

theorem lookup_keep_of_ne (ne : other ≠ name) (s : Session) (run : Run) :
    (s.keep name run).runs.lookup other = s.runs.lookup other := by
  change List.lookup other ((name, run) :: s.runs.filter (·.1 != name)) = _
  rw [List.lookup_cons, beq_false_of_ne ne]
  exact lookup_filter_of_ne ne s.runs

section

variable {start stop unit : String} {period : Int} {slicing : Slicing} {fault : Fault}
  {count : Nat} {run : Run}

theorem call_ask (s : Session) (query : Query) :
    (s.call (.ask query)).1 = .answer (s.observer.now s.reads >>= fun now => query.answer now) :=
  rfl

theorem call_start (s : Session) (name start stop : String) (period : Int) (unit : String) :
    s.call (.start name start stop period unit) =
      match s.observer.now s.reads >>= Slicing.ofRange start stop period unit with
      | .ok slicing =>
        (.started name, { s with reads := s.reads + 1 }.keep name (.start slicing))
      | .error fault => (.refused fault, { s with reads := s.reads + 1 }) := rfl

theorem call_take (s : Session) (name : String) (count : Nat) :
    s.call (.take name count) =
      match s.runs.lookup name with
      | none => (.missing name, s)
      | some run => (.taken (run.take count).1 (run.take count).2.1,
          s.keep name (run.take count).2.2) := rfl

theorem call_start_of_ok
    (h : s.observer.now s.reads >>= Slicing.ofRange start stop period unit = .ok slicing) :
    s.call (.start name start stop period unit) =
      (.started name, { s with reads := s.reads + 1 }.keep name (.start slicing)) := by
  rw [call_start, h]

theorem call_start_of_error
    (h : s.observer.now s.reads >>= Slicing.ofRange start stop period unit = .error fault) :
    s.call (.start name start stop period unit) =
      (.refused fault, { s with reads := s.reads + 1 }) := by
  rw [call_start, h]

theorem call_take_of_some (h : s.runs.lookup name = some run) :
    s.call (.take name count) = (.taken (run.take count).1 (run.take count).2.1,
      s.keep name (run.take count).2.2) := by
  rw [call_take, h]

theorem call_take_of_none (h : s.runs.lookup name = none) :
    s.call (.take name count) = (.missing name, s) := by
  rw [call_take, h]

end

theorem call_spec (s : Session) (call : Call) :
    (s.call call).2.observer = s.observer ∧ (s.call call).2.reads = s.reads + call.readings := by
  cases call with
  | ask query => exact ⟨rfl, rfl⟩
  | start name start stop period unit =>
    cases opening : s.observer.now s.reads >>= Slicing.ofRange start stop period unit with
    | error fault =>
      rw [call_start_of_error opening]
      exact ⟨rfl, rfl⟩
    | ok slicing =>
      rw [call_start_of_ok opening]
      exact ⟨rfl, rfl⟩
  | take name count =>
    cases found : s.runs.lookup name with
    | none =>
      rw [call_take_of_none found]
      exact ⟨rfl, rfl⟩
    | some run =>
      rw [call_take_of_some found]
      exact ⟨rfl, rfl⟩

/-- A call moves each run on by the slices that it asks of it, unless it starts it anew. -/
theorem lookup_call (kept : (s.call call).1 ≠ .started name) :
    (s.call call).2.runs.lookup name =
      (s.runs.lookup name).map fun run => (run.take (call.asked name)).2.2 := by
  have still : (s.runs.lookup name).map (fun run => (run.take 0).2.2) = s.runs.lookup name := by
    cases s.runs.lookup name <;> rfl
  cases call with
  | ask query => exact still.symm
  | start other start stop period unit =>
    refine Eq.trans ?_ still.symm
    cases opening : s.observer.now s.reads >>= Slicing.ofRange start stop period unit with
    | error fault => rw [call_start_of_error opening]
    | ok slicing =>
      rw [call_start_of_ok opening] at kept ⊢
      exact lookup_keep_of_ne (fun same => kept (congrArg Reply.started same.symm)) _ _
  | take other count =>
    by_cases same : other = name
    · subst same
      rw [Call.asked_take, if_pos rfl]
      cases found : s.runs.lookup other with
      | none =>
        rw [call_take_of_none found]
        exact found
      | some run =>
        rw [call_take_of_some found]
        exact lookup_keep _ _ _
    · rw [Call.asked_take, if_neg same, still]
      cases found : s.runs.lookup other with
      | none => rw [call_take_of_none found]
      | some run =>
        rw [call_take_of_some found]
        exact lookup_keep_of_ne (Ne.symm same) _ _

theorem callAll_spec (s : Session) (calls : List Call) :
    (s.callAll calls).1.length = calls.length ∧
      (s.callAll calls).2.observer = s.observer ∧
      (s.callAll calls).2.reads = s.reads + readings calls := by
  induction calls generalizing s with
  | nil => exact ⟨rfl, rfl, rfl⟩
  | cons call rest ih =>
    obtain ⟨observer, reads⟩ := call_spec s call
    obtain ⟨length, observer', reads'⟩ := ih (s.call call).2
    refine ⟨congrArg Nat.succ length, observer'.trans observer, reads'.trans ?_⟩
    rw [reads, Nat.add_assoc]
    rfl

theorem callAll_append (s : Session) (calls more : List Call) :
    (s.callAll (calls ++ more)).1 =
        (s.callAll calls).1 ++ ((s.callAll calls).2.callAll more).1 ∧
      (s.callAll (calls ++ more)).2 = ((s.callAll calls).2.callAll more).2 := by
  induction calls generalizing s with
  | nil => exact ⟨rfl, rfl⟩
  | cons call rest ih =>
    obtain ⟨replies, last⟩ := ih (s.call call).2
    exact ⟨congrArg ((s.call call).1 :: ·) replies, last⟩

theorem lookup_callAll (kept : .started name ∉ (s.callAll calls).1) :
    (s.callAll calls).2.runs.lookup name =
      (s.runs.lookup name).map fun run => (run.take (asked name calls)).2.2 := by
  induction calls generalizing s with
  | nil =>
    change s.runs.lookup name = _
    cases s.runs.lookup name <;> rfl
  | cons call rest ih =>
    rw [callAll_cons] at kept ⊢
    obtain ⟨first, others⟩ := not_or.1 (mt List.mem_cons.2 kept)
    have step := lookup_call (Ne.symm first)
    have along := ih others
    rw [step, Option.map_map] at along
    refine along.trans (congrArg (Option.map · _) (funext fun run => ?_))
    exact (Run.take_add (call.asked name) (asked name rest) run).2.symm

theorem take_callAll (s : Session) (calls : List Call) (k : Nat) :
    (s.callAll (calls.take k)).1 = (s.callAll calls).1.take k := by
  induction calls generalizing s k with
  | nil => cases k <;> rfl
  | cons call rest ih =>
    cases k with
    | zero => rfl
    | succ k => exact congrArg ((s.call call).1 :: ·) (ih (s.call call).2 k)

theorem callAll_take_succ (s : Session) (h : calls[k]? = some call) :
    (s.callAll (calls.take (k + 1))).2 = ((s.callAll (calls.take k)).2.call call).2 := by
  rw [List.take_add_one, h, (callAll_append s (calls.take k) _).2]
  rfl

theorem reply_eq (s : Session) (h : calls[k]? = some call) :
    (s.callAll calls).1[k]? = some ((s.callAll (calls.take k)).2.call call).1 := by
  induction calls generalizing s k with
  | nil => cases h
  | cons first rest ih =>
    cases k with
    | zero =>
      obtain rfl := Option.some.inj h
      rfl
    | succ k => exact ih (s.call first).2 h

theorem callAll_between (s : Session) (at_i : calls[i]? = some call) (lt : i < j) :
    (s.callAll (calls.take j)).2 =
        (((s.callAll (calls.take i)).2.call call).2.callAll (between calls i j)).2 ∧
      (((s.callAll (calls.take i)).2.call call).2.callAll (between calls i j)).1 =
        between (s.callAll calls).1 i j := by
  obtain ⟨there, -⟩ := List.getElem?_eq_some_iff.1 at_i
  have length : (s.callAll (calls.take (i + 1))).1.length = i + 1 := by
    rw [(callAll_spec s _).1, List.length_take, Nat.min_eq_left there]
  obtain ⟨replies, last⟩ := callAll_append s (calls.take (i + 1)) (between calls i j)
  rw [← take_eq_append_between calls lt, callAll_take_succ s at_i] at replies last
  refine ⟨last, ?_⟩
  have later : between (s.callAll calls).1 i j = (s.callAll (calls.take j)).1.drop (i + 1) := by
    rw [take_callAll]
    rfl
  rw [later, replies, List.drop_left' length]

theorem started_not_mem (s : Session)
    (h : ∀ start stop period unit, .start name start stop period unit ∉ calls) :
    .started name ∉ (s.callAll calls).1 := by
  induction calls generalizing s with
  | nil => exact List.not_mem_nil
  | cons call rest ih =>
    have others := ih (s.call call).2 fun start stop period unit mem =>
      h start stop period unit (List.mem_cons_of_mem call mem)
    rw [callAll_cons, List.mem_cons, not_or]
    refine ⟨fun first => ?_, others⟩
    cases call with
    | ask query => cases first
    | start other start stop period unit =>
      cases opening : s.observer.now s.reads >>= Slicing.ofRange start stop period unit with
      | error fault =>
        rw [call_start_of_error opening] at first
        cases first
      | ok slicing =>
        rw [call_start_of_ok opening] at first
        cases first
        exact h start stop period unit List.mem_cons_self
    | take other count =>
      cases found : s.runs.lookup other with
      | none =>
        rw [call_take_of_none found] at first
        cases first
      | some run =>
        rw [call_take_of_some found] at first
        cases first

section

variable {o : Observer} {start stop unit : String} {period : Int} {slicing : Slicing}

theorem now_of_take (o : Observer) (calls : List Call) (k : Nat) :
    ((Session.start o).callAll (calls.take k)).2.observer.now
        ((Session.start o).callAll (calls.take k)).2.reads =
      o.now (readings (calls.take k)) := by
  obtain ⟨-, observer, reads⟩ := callAll_spec (Session.start o) (calls.take k)
  rw [observer, reads]
  exact congrArg o.now (Nat.zero_add _)

theorem lookup_of_start (at_i : calls[i]? = some (.start name start stop period unit))
    (opened : o.now (readings (calls.take i)) >>= Slicing.ofRange start stop period unit =
      .ok slicing)
    (lt : i < j) (kept : .started name ∉ between ((Session.start o).callAll calls).1 i j) :
    ((Session.start o).callAll (calls.take j)).2.runs.lookup name =
      some ((Run.start slicing).take (asked name (between calls i j))).2.2 := by
  obtain ⟨last, replies⟩ := callAll_between (Session.start o) at_i lt
  rw [← now_of_take o calls i] at opened
  rw [last, lookup_callAll (replies ▸ kept), call_start_of_ok opened, lookup_keep]
  rfl

/-- Each question and each start is answered from the one reading that it takes of the clock,
whatever comes of it, at the moment of the observer's zone that the reading is. The slices of a run
are those of the range that was opened at its start, taken up where they were left, and take no
reading. -/
theorem one_reading_per_call (o : Observer) (calls : List Call) :
    (((Session.start o).callAll calls).1.length = calls.length ∧
        ∀ k : Nat, ((Session.start o).callAll (calls.take k)).2.reads =
          readings (calls.take k)) ∧
      (∀ k : Nat,
        ((o.clock k).zone = none → o.now k = .error (.floatingClock (o.clock k))) ∧
          ((o.clock k).zone ≠ none → o.now k = ((o.clock k).toZone o.zone).mapError .range) ∧
          ∀ utc (w : Zone), w.momentAt utc = .ok (o.clock k) →
            o.now k = (o.zone.momentAt utc).mapError .range) ∧
      (∀ (k : Nat) (query : Query), calls[k]? = some (.ask query) → ∃ answer,
        ((Session.start o).callAll calls).1[k]? = some (.answer answer) ∧
          match query with
          | .now => answer = Answer.moment <$> o.now (readings (calls.take k))
          | .bound? text =>
            answer = Answer.bound <$> (o.now (readings (calls.take k)) >>= Bound.read? text)
          | .bound text =>
            answer = (fun bound => Answer.bound (some bound)) <$>
              (o.now (readings (calls.take k)) >>= Bound.read text)
          | .description? text =>
            answer = Answer.description <$>
              (o.now (readings (calls.take k)) >>= Bound.description? text)) ∧
      (∀ (k : Nat) (name start stop : String) (period : Int) (unit : String),
        calls[k]? = some (.start name start stop period unit) →
        ((Session.start o).callAll calls).1[k]? =
          some (match o.now (readings (calls.take k)) >>=
              Slicing.ofRange start stop period unit with
            | .ok _ => .started name
            | .error fault => .refused fault)) ∧
      ∀ (j : Nat) (name : String) (count : Nat), calls[j]? = some (.take name count) →
        (.started name ∉ ((Session.start o).callAll calls).1.take j →
            ((Session.start o).callAll calls).1[j]? = some (.missing name)) ∧
          ∀ (i : Nat) (start stop : String) (period : Int) (unit : String) (slicing : Slicing),
            i < j → calls[i]? = some (.start name start stop period unit) →
            o.now (readings (calls.take i)) >>= Slicing.ofRange start stop period unit =
              .ok slicing →
            .started name ∉ between ((Session.start o).callAll calls).1 i j →
            ∃ slices ending last,
              ((Run.start slicing).take (asked name (between calls i j))).2.2.take count =
                (slices, ending, last) ∧
              ((Session.start o).callAll calls).1[j]? = some (.taken slices ending) ∧
              ((Run.start slicing).take (asked name (between calls i j) + count)).1 =
                ((Run.start slicing).take (asked name (between calls i j))).1 ++ slices := by
  refine ⟨⟨(callAll_spec _ calls).1, fun k => ?_⟩, o.now_spec, ?_, ?_, ?_⟩
  · rw [(callAll_spec (Session.start o) (calls.take k)).2.2]
    exact Nat.zero_add _
  · intro k query at_k
    have reply := reply_eq (Session.start o) at_k
    rw [call_ask, now_of_take o calls k] at reply
    refine ⟨_, reply, ?_⟩
    cases query <;> cases o.now (readings (calls.take k)) <;> rfl
  · intro k name start stop period unit at_k
    rw [reply_eq _ at_k]
    cases opening : o.now (readings (calls.take k)) >>=
        Slicing.ofRange start stop period unit with
    | ok slicing =>
      rw [← now_of_take o calls k] at opening
      rw [call_start_of_ok opening]
    | error fault =>
      rw [← now_of_take o calls k] at opening
      rw [call_start_of_error opening]
  · intro j name count at_j
    refine ⟨?_, ?_⟩
    · intro none
      rw [← take_callAll] at none
      rw [reply_eq _ at_j, call_take_of_none]
      exact lookup_callAll none
    · intro i start stop period unit slicing lt at_i opened kept
      have found := lookup_of_start at_i opened lt kept
      refine ⟨_, _, _, rfl, ?_, (Run.take_add _ count (.start slicing)).1⟩
      rw [reply_eq _ at_j, call_take_of_some found]

end

/-- Half past twelve and half past one in UTC, when the clock of Paris shows half past two. -/
def utcNight (again : Bool) : Moment :=
  if again then ⟨⟨63771240600000000, by decide⟩, false, some (.region .utc)⟩
  else ⟨⟨63771237000000000, by decide⟩, false, some (.region .utc)⟩

/-- An observer in Paris whose clock is in UTC, and moves on by an hour after its first reading. -/
def movingObserver : Observer := ⟨.region .paris, fun k => utcNight (k ≠ 0)⟩

def repeatedHours : Slicing :=
  ⟨"+NOW", "hour", 1, Nat.one_pos, Moment.autumnNight false, Slicing.octoberMorning⟩

def hourCalls : List Call :=
  [.start "hours" "+NOW" "+2021:10:31:04" 1 "hour", .ask (.bound "yesterday"), .take "hours" 1,
    .ask (.bound? "+NOW"), .ask (.bound "-NOW+1hour"), .ask (.description? "+NOW"), .ask .now,
    .take "hours" 1]

theorem hourCalls_replies :
    (movingObserver.now 0 = .ok (Moment.autumnNight false) ∧
        ∀ k ≠ 0, movingObserver.now k = .ok (Moment.autumnNight true)) ∧
      ((Session.start movingObserver).callAll hourCalls).1[1]? =
        some (.answer (.error (.rejected (.shape "yesterday")))) ∧
      ((Session.start movingObserver).callAll hourCalls).1[3]? =
        some (.answer (.ok (.bound (some ⟨Moment.autumnNight true, true⟩)))) ∧
      ((Session.start movingObserver).callAll hourCalls).1[4]? =
        some (.answer (.ok (.bound (some ⟨Moment.autumnNight true, false⟩)))) ∧
      ((Session.start movingObserver).callAll hourCalls).1[5]? = some (.answer
        (.ok (.description (some "Sunday 31 October 2021 - 02:30:00 (included)")))) ∧
      ((Session.start movingObserver).callAll hourCalls).1[6]? =
        some (.answer (.ok (.moment (Moment.autumnNight true)))) ∧
      ∃ slices ending,
        ((Session.start movingObserver).callAll hourCalls).1[7]? = some (.taken slices ending) ∧
        ((Run.start repeatedHours).take 2).1 =
          ((Run.start repeatedHours).take 1).1 ++ slices := by
  obtain ⟨-, snapshot, asked, -, taken⟩ := one_reading_per_call movingObserver hourCalls
  have first : movingObserver.now 0 = .ok (Moment.autumnNight false) := by
    rw [(snapshot 0).2.2 ⟨63771237000000000, by decide⟩ (.region .utc) (by decide +kernel)]
    decide +kernel
  have later : ∀ k ≠ 0, movingObserver.now k = .ok (Moment.autumnNight true) := by
    intro k pos
    have shown : movingObserver.clock k = utcNight true := congrArg utcNight (decide_eq_true pos)
    rw [(snapshot k).2.2 ⟨63771240600000000, by decide⟩ (.region .utc)
      (by rw [shown]; decide +kernel)]
    exact congrArg (Except.mapError _) Moment.momentAt_autumnNight
  have opened : movingObserver.now 0 >>= Slicing.ofRange "+NOW" "+2021:10:31:04" 1 "hour" =
      .ok repeatedHours := by
    have limit : Bound.read "+2021:10:31:04" (Moment.autumnNight false) =
        .ok ⟨Slicing.octoberMorning, true⟩ := by decide +kernel
    have start : repeatedHours.boundary 0 = .ok (Moment.autumnNight false) := by decide +kernel
    exact bind_eq_ok_iff.2 ⟨_, first, Slicing.ofRange_eq_ok_iff.2
      ⟨⟨rfl, rfl, rfl, rfl⟩, ⟨_, Bound.read_present _⟩, ⟨_, limit, rfl⟩, _, start⟩⟩
  have kept : .started "hours" ∉
      between ((Session.start movingObserver).callAll hourCalls).1 0 7 := by
    rw [← (callAll_between _ (i := 0) (j := 7) rfl (by decide)).2]
    refine started_not_mem _ fun start stop period unit mem => ?_
    simp [between, hourCalls] at mem
  refine ⟨⟨first, later⟩, ?_, ?_, ?_, ?_, ?_, ?_⟩
  · obtain ⟨answer, reply, resolved⟩ := asked 1 (.bound "yesterday") rfl
    rw [reply, resolved, later _ (by decide)]
    rfl
  · obtain ⟨answer, reply, parsed⟩ := asked 3 (.bound? "+NOW") rfl
    have bound : (Except.ok (Moment.autumnNight true) >>= Bound.read? "+NOW") =
        .ok (some ⟨Moment.autumnNight true, true⟩) := by decide +kernel
    rw [reply, parsed, later _ (by decide), bound]
    rfl
  · obtain ⟨answer, reply, resolved⟩ := asked 4 (.bound "-NOW+1hour") rfl
    have bound : (Except.ok (Moment.autumnNight true) >>= Bound.read "-NOW+1hour") =
        .ok ⟨Moment.autumnNight true, false⟩ := by decide +kernel
    rw [reply, resolved, later _ (by decide), bound]
    rfl
  · obtain ⟨answer, reply, described⟩ := asked 5 (.description? "+NOW") rfl
    have text : (Except.ok (Moment.autumnNight true) >>= Bound.description? "+NOW") =
        .ok (some "Sunday 31 October 2021 - 02:30:00 (included)") := by decide +kernel
    rw [reply, described, later _ (by decide), text]
    rfl
  · obtain ⟨answer, reply, present⟩ := asked 6 .now rfl
    rw [reply, present, later _ (by decide)]
    rfl
  · obtain ⟨slices, ending, last, -, reply, together⟩ :=
      (taken 7 "hours" 1 rfl).2 0 _ _ _ _ _ (by decide) rfl opened kept
    exact ⟨slices, ending, reply, together⟩

end Session
end CivilRange
