import CivilRange.Proofs.Expression.Faults
import CivilRange.Proofs.Moment.Elapsed
import CivilRange.Proofs.Text.LetterCase

set_option autoImplicit false

/-!
# The grammar of expressions

A text is an expression if it is put together from the parts of a shape, and then from those of one
shape only. What it stands for is said by rules for its parts, of which exactly one applies; the
first sign is not in them. The strict reader differs where a text is no expression, and there only.
-/
namespace CivilRange
namespace Shape

variable {s t : Shape} {text : String} {now m : Moment} {fault : Fault} {sign : Sign}
  {amount cs : List Char} {x y : Except Fault Moment}

def Of (s : Shape) (text : String) : Prop := s.Proper ∧ s.chars = text.toList

theorem of_iff_split? : s.Of text ↔ split? text.toList = some s := split?_eq_some_iff.symm

theorem Of.unique (h : s.Of text) (h' : t.Of text) : s = t :=
  Option.some.inj ((of_iff_split?.1 h).symm.trans (of_iff_split?.1 h'))

/-- What the date part stands for: `NOW` in any letter case, or a date. -/
inductive Dates (s : Shape) (now : Moment) : Except Fault Moment → Prop
  | present (spelled : s.date.map Char.toLower = "now".toList) : Dates s now (.ok now)
  | read (other : s.date.map Char.toLower ≠ "now".toList) :
      Dates s now (Date.read (String.ofList s.date) now)

theorem lower_eq_now_iff : lower s.date = "now".toList ↔ s.date.map Char.toLower = "now".toList :=
  lower_eq_iff (by simp [LowersFromASCII])

theorem dates_iff : s.Dates now x ↔ s.base now = x := by
  unfold base
  constructor
  · rintro (present | other)
    · rw [if_pos (lower_eq_now_iff.2 present)]
    · rw [if_neg (mt lower_eq_now_iff.1 other)]
  · rintro rfl
    split
    · rename_i present
      exact .present (lower_eq_now_iff.1 present)
    · rename_i other
      exact .read (mt lower_eq_now_iff.2 other)

theorem moment_of_bare (bare : s.suffix = none) (other : s.date.map Char.toLower ≠ "now".toList) :
    s.moment now = Date.read (String.ofList s.date) now := by
  unfold moment base
  rw [if_neg (mt lower_eq_now_iff.1 other), bare]
  cases Date.read (String.ofList s.date) now <;> rfl

/-- What an expression stands for: the moment of its date part, or, with a second sign, that moment
moved by the duration behind the sign. The date part fails first. -/
inductive Gives (s : Shape) (now : Moment) : Except Fault Moment → Prop
  | dateFault {fault : Fault} (date : s.Dates now (.error fault)) : Gives s now (.error fault)
  | date {m : Moment} (bare : s.suffix = none) (date : s.Dates now (.ok m)) : Gives s now (.ok m)
  | durationFault {m : Moment} {sign : Sign} {amount : List Char} {fault : Fault}
      (suffix : s.suffix = some (sign, amount)) (date : s.Dates now (.ok m))
      (duration : Duration.read (String.ofList amount) = .error fault) : Gives s now (.error fault)
  | moved {m : Moment} {sign : Sign} {amount : List Char} {d : Duration}
      (suffix : s.suffix = some (sign, amount)) (date : s.Dates now (.ok m))
      (duration : Duration.read (String.ofList amount) = .ok d) :
      Gives s now (m.moveOrReject sign d)

theorem gives_iff : s.Gives now x ↔ s.moment now = x := by
  simp only [moment, bind, Except.bind]
  constructor
  · rintro (date | ⟨bare, date⟩ | ⟨suffix, date, duration⟩ | ⟨suffix, date, duration⟩)
    · rw [dates_iff.1 date]
    · rw [dates_iff.1 date, bare]
      rfl
    · rw [dates_iff.1 date, suffix]
      simp only [duration]
    · rw [dates_iff.1 date, suffix]
      simp only [duration]
  · rintro rfl
    cases date : s.base now with
    | error fault => exact .dateFault (dates_iff.2 date)
    | ok m =>
      cases suffix : s.suffix with
      | none => exact .date suffix (dates_iff.2 date)
      | some pair =>
        obtain ⟨sign, amount⟩ := pair
        dsimp only
        cases duration : Duration.read (String.ofList amount) with
        | error fault => exact .durationFault suffix (dates_iff.2 date) duration
        | ok d => exact .moved suffix (dates_iff.2 date) duration

theorem bound_eq_map : s.bound now = (fun m => ⟨m, s.sign = .plus⟩) <$> s.moment now := by
  unfold bound
  cases s.moment now <;> rfl

theorem moment_withSign : moment { s with sign := sign } now = s.moment now := rfl

theorem split?_symbol (sign : Sign) (cs : List Char) :
    split? (sign.symbol :: cs) =
      (split? (Sign.plus.symbol :: cs)).map fun s => { s with sign := sign } := by
  simp only [split?, (Sign.ofSymbol?_eq_some _ _).2 rfl, Option.bind_eq_bind, Option.bind_some]
  split
  · rfl
  · cases suffix? (cs.dropWhile (!isSign ·)) <;> rfl

end Shape

namespace Bound

variable {text : String} {now : Moment} {z : Zone} {s : Shape} {fault : Fault}

theorem read?_eq_none_iff : read? text now = .ok none ↔ ¬∃ s : Shape, s.Of text := by
  simp only [Shape.of_iff_split?, ← Option.isSome_iff_exists]
  unfold read?
  cases Shape.split? text.toList with
  | none => simp
  | some s => cases bound : s.bound now <;> simp [bound, Functor.map, Except.map]

theorem read?_of (h : s.Of text) :
    read? text now = (fun m => some ⟨m, s.sign = .plus⟩) <$> s.moment now := by
  unfold read?
  rw [Shape.of_iff_split?.1 h]
  change some <$> s.bound now = _
  rw [Shape.bound_eq_map]
  cases s.moment now <;> rfl

theorem read?_minus (rest : String) : read? ("-" ++ rest) now =
    Option.map (fun b => { b with included := false }) <$> read? ("+" ++ rest) now := by
  have minus : ("-" ++ rest).toList = Sign.minus.symbol :: rest.toList := by
    simp [String.toList_append, Sign.symbol]
  have plus : ("+" ++ rest).toList = Sign.plus.symbol :: rest.toList := by
    simp [String.toList_append, Sign.symbol]
  unfold read?
  rw [minus, plus, Shape.split?_symbol .minus]
  cases Shape.split? (Sign.plus.symbol :: rest.toList) with
  | none => rfl
  | some s =>
    change some <$> Shape.bound { s with sign := .minus } now = _ <$> some <$> s.bound now
    rw [Shape.bound_eq_map, Shape.bound_eq_map, Shape.moment_withSign]
    cases s.moment now <;> rfl

theorem read?_ne_shape (zone : now.zone = some z) (other : String) :
    read? text now ≠ .error (.rejected (.shape other)) := by
  intro h
  obtain ⟨s, -, bound⟩ := read?_eq_error_iff.1 h
  cases Shape.bound_fault zone bound with
  | rejected h => cases h

theorem read_eq_error_iff_read? : read text now = .error fault ↔
    (read? text now = .ok none ∧ fault = .rejected (.shape text)) ∨
      read? text now = .error fault := by
  simp only [read_eq_error_iff, read?_eq_none_iff, Shape.of_iff_split?,
    ← Option.isSome_iff_exists, Option.not_isSome_iff_eq_none]

theorem read_eq_shape_iff (zone : now.zone = some z) {other : String} :
    read text now = .error (.rejected (.shape other)) ↔
      read? text now = .ok none ∧ other = text := by
  rw [read_eq_error_iff_read?, or_iff_left (read?_ne_shape zone other)]
  simp

/-- What an expression is, what it stands for, and where the two readers differ. -/
theorem expression_grammar (zone : now.zone = some z) (text : String) :
    (read? text now = .ok none ↔ ¬∃ s : Shape, s.Of text) ∧
      (∀ s t : Shape, s.Of text → t.Of text → s = t) ∧
      (∀ s : Shape, s.Of text → ∃ x, (∀ y, s.Gives now y ↔ y = x) ∧
        read? text now = (fun m => some ⟨m, s.sign = .plus⟩) <$> x) ∧
      (∀ rest, text = "+" ++ rest → read? ("-" ++ rest) now =
        Option.map (fun b => { b with included := false }) <$> read? text now) ∧
      (∀ b, read text now = .ok b ↔ read? text now = .ok (some b)) ∧
      (∀ fault, read text now = .error fault ↔
        (read? text now = .ok none ∧ fault = .rejected (.shape text)) ∨
          read? text now = .error fault) ∧
      ∀ other, read text now = .error (.rejected (.shape other)) ↔
        read? text now = .ok none ∧ other = text := by
  refine ⟨read?_eq_none_iff, fun _ _ => Shape.Of.unique, ?_, ?_, fun _ => read?_eq_ok_some_iff.symm,
    fun _ => read_eq_error_iff_read?, fun _ => read_eq_shape_iff zone⟩
  · intro s h
    exact ⟨s.moment now, fun y => Shape.gives_iff.trans eq_comm, read?_of h⟩
  · rintro rest rfl
    exact read?_minus rest

/-- `NOW` in mixed case is the present moment with its place in a repeated hour. -/
theorem now_of_autumnNight :
    (Moment.autumnNight true).zone = some (.region .paris) ∧
      read? "-nOw" (Moment.autumnNight true) = .ok (some ⟨Moment.autumnNight true, false⟩) := by
  have zone : (Moment.autumnNight true).zone = some (.region .paris) := rfl
  obtain ⟨-, -, gives, -⟩ := expression_grammar zone "-nOw"
  obtain ⟨x, only, read⟩ := gives ⟨.minus, ['n', 'O', 'w'], none⟩
    ⟨⟨by simp [Shape.Plain, isSign], by simp⟩, rfl⟩
  obtain rfl := (only _).1 (.date rfl (.present (by decide +kernel)))
  exact ⟨zone, read⟩

end Bound
end CivilRange
