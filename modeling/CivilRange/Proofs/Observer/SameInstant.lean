import CivilRange.Proofs.Observer.Session

set_option autoImplicit false

namespace CivilRange

variable {z : Zone} {a b : Moment} {clock clock' : Clock}

/-- The clocks of two zones show these moments at one instant. -/
def Moment.SameInstant (a b : Moment) : Prop :=
  ∃ (utc : Reading) (w w' : Zone), w.momentAt utc = .ok a ∧ w'.momentAt utc = .ok b

namespace Observer

theorem localise_eq_of_sameInstant (h : a.SameInstant b) : localise z a = localise z b := by
  obtain ⟨utc, w, w', first, second⟩ := h
  rw [localise_of_momentAt first, localise_of_momentAt second]

end Observer

namespace Session

variable {s s' : Session}

/-- The sessions differ in their clocks at most, and not in the moments that they take from them. -/
structure Alike (s s' : Session) : Prop where
  now : ∀ k, s.observer.now k = s'.observer.now k
  reads : s.reads = s'.reads
  runs : s.runs = s'.runs

theorem Alike.call (alike : s.Alike s') (call : Call) :
    (s.call call).1 = (s'.call call).1 ∧ (s.call call).2.Alike (s'.call call).2 := by
  obtain ⟨o, reads, runs⟩ := s
  obtain ⟨o', reads', runs'⟩ := s'
  obtain ⟨now, rfl, rfl⟩ := alike
  cases call with
  | ask query =>
    have answer : o.ask reads query = o'.ask reads query :=
      congrArg (· >>= fun now => query.answer now) (now reads)
    exact ⟨congrArg Reply.answer answer, now, rfl, rfl⟩
  | start name start stop period unit =>
    have opening' : o.now reads >>= Slicing.ofRange start stop period unit =
        o'.now reads >>= Slicing.ofRange start stop period unit := by rw [now]
    cases opening : o.now reads >>= Slicing.ofRange start stop period unit with
    | error fault =>
      rw [call_start_of_error opening, call_start_of_error (opening'.symm.trans opening)]
      exact ⟨rfl, now, rfl, rfl⟩
    | ok slicing =>
      rw [call_start_of_ok opening, call_start_of_ok (opening'.symm.trans opening)]
      exact ⟨rfl, now, rfl, rfl⟩
  | take name count =>
    cases found : runs.lookup name with
    | none =>
      rw [call_take_of_none found, call_take_of_none found]
      exact ⟨rfl, now, rfl, rfl⟩
    | some run =>
      rw [call_take_of_some found, call_take_of_some found]
      exact ⟨rfl, now, rfl, rfl⟩

theorem Alike.callAll (alike : s.Alike s') (calls : List Call) :
    (s.callAll calls).1 = (s'.callAll calls).1 := by
  induction calls generalizing s s' with
  | nil => rfl
  | cons call rest ih =>
    obtain ⟨reply, next⟩ := alike.call call
    rw [callAll_cons, callAll_cons, reply, ih next]

/-- Observers of one zone whose clocks give the same instants take them for the same moments, those
of the zone's own clock. So they answer every question alike, open the same ranges with the same
slices, and reply alike to whole sessions of calls. -/
theorem same_instants_same_answers (z : Zone) (same : ∀ k, (clock k).SameInstant (clock' k)) :
    (∀ k utc (w : Zone), w.momentAt utc = .ok (clock k) →
        Observer.now ⟨z, clock⟩ k = (z.momentAt utc).mapError .range ∧
          Observer.now ⟨z, clock'⟩ k = (z.momentAt utc).mapError .range) ∧
      (∀ k query, Observer.ask ⟨z, clock⟩ k query = Observer.ask ⟨z, clock'⟩ k query) ∧
      (∀ k start stop period unit,
        (Observer.now ⟨z, clock⟩ k >>= Slicing.ofRange start stop period unit) =
            (Observer.now ⟨z, clock'⟩ k >>= Slicing.ofRange start stop period unit) ∧
          Slicing.slices <$> (Observer.now ⟨z, clock⟩ k >>=
              Slicing.ofRange start stop period unit) =
            Slicing.slices <$> (Observer.now ⟨z, clock'⟩ k >>=
              Slicing.ofRange start stop period unit)) ∧
      ∀ calls, ((Session.start ⟨z, clock⟩).callAll calls).1 =
        ((Session.start ⟨z, clock'⟩).callAll calls).1 := by
  have now : ∀ k, Observer.now ⟨z, clock⟩ k = Observer.now ⟨z, clock'⟩ k := fun k =>
    Observer.localise_eq_of_sameInstant (same k)
  refine ⟨?_, ?_, ?_, ?_⟩
  · intro k utc w there
    have first : Observer.now ⟨z, clock⟩ k = (z.momentAt utc).mapError .range :=
      Observer.localise_of_momentAt there
    exact ⟨first, (now k).symm.trans first⟩
  · intro k query
    exact congrArg (· >>= fun now => query.answer now) (now k)
  · intro k start stop period unit
    rw [now]
    exact ⟨rfl, rfl⟩
  · exact Alike.callAll ⟨now, rfl, rfl⟩

theorem autumnNight_sameInstant : (Moment.autumnNight true).SameInstant (utcNight true) :=
  ⟨_, .region .paris, .region .utc, Moment.momentAt_autumnNight, rfl⟩

theorem autumnNight_answer :
    (Moment.autumnNight true).SameInstant (utcNight true) ∧
      Observer.ask ⟨.region .paris, fun _ => Moment.autumnNight true⟩ 0 .now =
        .ok (.moment (Moment.autumnNight true)) ∧
      Observer.ask ⟨.region .paris, fun _ => utcNight true⟩ 0 .now =
        .ok (.moment (Moment.autumnNight true)) := by
  have own : Observer.ask ⟨.region .paris, fun _ => Moment.autumnNight true⟩ 0 .now =
      .ok (.moment (Moment.autumnNight true)) := rfl
  have same : ∀ _ : Nat, (Moment.autumnNight true).SameInstant (utcNight true) := fun _ =>
    autumnNight_sameInstant
  have answers := (same_instants_same_answers (.region .paris) same).2.1
  exact ⟨autumnNight_sameInstant, own, (answers 0 .now).symm.trans own⟩

end Session
end CivilRange
