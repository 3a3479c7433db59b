import CivilRange.Proofs.Expression.Read
import CivilRange.Proofs.Field

set_option autoImplicit false

namespace CivilRange

/-- A rejection of some kind, or a number too long to be read. -/
inductive Fault.Within (kind : Rejection → Prop) : Fault → Prop
  | rejected {rejection : Rejection} (h : kind rejection) : Within kind (.rejected rejection)
  | longNumber {digits : Nat} (long : maxDigits < digits) : Within kind (.longNumber digits)

open Fault (Within)

variable {text : String} {fault : Fault} {now : Moment} {z : Zone}

theorem Fault.Within.mono {kind kind' : Rejection → Prop} (h : fault.Within kind)
    (le : ∀ rejection, kind rejection → kind' rejection) : fault.Within kind' := by
  cases h with
  | rejected h => exact .rejected (le _ h)
  | longNumber long => exact .longNumber long

theorem readNumber_fault {kind : Rejection → Prop} {digits : List Char}
    (h : readNumber digits = .error fault) : fault.Within kind := by
  obtain ⟨long, rfl⟩ := readNumber_eq_error_iff.1 h
  exact .longNumber long

namespace Date

def Rejects (text : String) (rejection : Rejection) : Prop := ∃ cause, rejection = .date text cause

theorem readPlace_fault {f : Fields} {place : Place} {field : List Char}
    (h : readPlace text f place field = .error fault) : fault.Within (Rejects text) := by
  obtain ⟨cause, rejected⟩ | ⟨word, named⟩ | digits := rejects_or_names_or_digits text f place field
  · obtain rfl := Except.error.inj (rejected.symm.trans h)
    exact .rejected ⟨cause, rfl⟩
  · cases h.symm.trans (readPlace_of_keyword word named)
  · rw [readPlace_of_isDigits digits] at h
    exact readNumber_fault h

theorem readPlaces_fault {f : Fields} {places : List Place} {fields : List (List Char)}
    (h : readPlaces text f places fields = .error fault) : fault.Within (Rejects text) := by
  induction places generalizing fields with
  | nil => simp [readPlaces] at h
  | cons place places ih =>
    cases fields with
    | nil => simp [readPlaces] at h
    | cons field fields =>
      simp only [readPlaces, bind_eq_error_iff] at h
      rcases h with first | ⟨value, -, rest | ⟨values, -, done⟩⟩
      · exact readPlace_fault first
      · exact ih rest
      · cases done

theorem readFields_fault {f : Fields} (h : readFields text f = .error fault) :
    fault.Within (Rejects text) := by
  unfold readFields at h
  dsimp only at h
  split at h
  · cases h
    exact .rejected ⟨_, rfl⟩
  · rw [bind_eq_error_iff] at h
    rcases h with places | ⟨values, -, missing⟩
    · exact readPlaces_fault places
    · split at missing
      · cases missing
      · cases missing
        exact .rejected ⟨_, rfl⟩

theorem read_fault (zone : now.zone = some z) (h : read text now = .error fault) :
    fault.Within (Rejects text) := by
  unfold read at h
  rw [zone] at h
  simp only [bind_eq_error_iff, mapError_eq_error_iff] at h
  rcases h with fields | ⟨f, -, cause, -, rfl⟩
  · exact readFields_fault fields
  · exact .rejected ⟨_, rfl⟩

end Date

namespace Duration

def Rejects (text : String) (rejection : Rejection) : Prop :=
  ∃ cause, rejection = .duration text cause

theorem readField_fault {d : Duration} {rank : Nat} {field : List Char}
    (h : readField text d rank field = .error fault) : fault.Within (Rejects text) := by
  obtain ⟨cause, rejected⟩ | ⟨digits, u, counts⟩ := rejects_or_counts text d rank field
  · obtain rfl := Except.error.inj (rejected.symm.trans h)
    exact .rejected ⟨cause, rfl⟩
  · rw [readField_of_counts counts, map_eq_error_iff] at h
    exact readNumber_fault h

theorem readFields_fault {d : Duration} {rank : Nat} {fields : List (List Char)}
    (h : readFields text d rank fields = .error fault) : fault.Within (Rejects text) := by
  induction fields generalizing d rank with
  | nil => cases h
  | cons field fields ih =>
    simp only [readFields, bind_eq_error_iff] at h
    rcases h with first | ⟨⟨d', rank'⟩, -, rest⟩
    · exact readField_fault first
    · exact ih rest

theorem read_fault (h : read text = .error fault) : fault.Within (Rejects text) := by
  unfold read at h
  split at h
  · cases h
    exact .rejected ⟨_, rfl⟩
  · exact readFields_fault h

end Duration

namespace Shape

variable {s : Shape}

/-- What an expression of some shape is rejected for: its date, its duration, or the move from the
one by the other. -/
inductive Rejects (s : Shape) (now : Moment) : Rejection → Prop
  | date (cause : DateFault) : Rejects s now (.date (String.ofList s.date) cause)
  | duration {sign : Sign} {amount : List Char} (suffix : s.suffix = some (sign, amount))
      (cause : DurationFault) : Rejects s now (.duration (String.ofList amount) cause)
  | move {sign : Sign} {amount : List Char} {base : Moment} {d : Duration} {cause : RangeFault}
      (suffix : s.suffix = some (sign, amount)) (based : s.base now = .ok base)
      (read : Duration.read (String.ofList amount) = .ok d)
      (moved : base.move sign d = .error cause) : Rejects s now (.move base sign d cause)

theorem base_fault (zone : now.zone = some z) (h : s.base now = .error fault) :
    fault.Within (s.Rejects now) := by
  unfold base at h
  split at h
  · cases h
  · refine (Date.read_fault zone h).mono ?_
    rintro _ ⟨cause, rfl⟩
    exact .date cause

theorem bound_eq_error_iff : s.bound now = .error fault ↔
    s.base now = .error fault ∨ ∃ base sign amount, s.base now = .ok base ∧
      s.suffix = some (sign, amount) ∧
        (Duration.read (String.ofList amount) = .error fault ∨
          ∃ d, Duration.read (String.ofList amount) = .ok d ∧
            base.moveOrReject sign d = .error fault) := by
  simp only [bound, moment, bind_eq_error_iff, pure, Except.pure, reduceCtorEq, and_false,
    exists_false, or_false]
  refine or_congr_right ⟨?_, ?_⟩
  · rintro ⟨base, based, rest⟩
    cases suffix : s.suffix with
    | none =>
      rw [suffix] at rest
      cases rest
    | some pair =>
      rw [suffix] at rest
      exact ⟨base, pair.1, pair.2, based, rfl, bind_eq_error_iff.1 rest⟩
  · rintro ⟨base, sign, amount, based, suffix, rest⟩
    refine ⟨base, based, ?_⟩
    rw [suffix]
    exact bind_eq_error_iff.2 rest

theorem bound_fault (zone : now.zone = some z) (h : s.bound now = .error fault) :
    fault.Within (s.Rejects now) := by
  rcases bound_eq_error_iff.1 h with date | ⟨base, sign, amount, based, suffix, rest⟩
  · exact base_fault zone date
  · rcases rest with duration | ⟨d, read, move⟩
    · refine (Duration.read_fault duration).mono ?_
      rintro _ ⟨cause, rfl⟩
      exact .duration suffix cause
    · obtain ⟨cause, moved, rfl⟩ := Moment.moveOrReject_eq_error_iff.1 move
      exact .rejected (.move suffix based read moved)

end Shape

namespace Bound

theorem read?_eq_error_iff : read? text now = .error fault ↔
    ∃ s, Shape.split? text.toList = some s ∧ s.bound now = .error fault := by
  unfold read?
  cases Shape.split? text.toList <;> simp [map_eq_error_iff]

theorem read_eq_error_iff : read text now = .error fault ↔
    (Shape.split? text.toList = none ∧ fault = .rejected (.shape text)) ∨
      read? text now = .error fault := by
  rw [read?_eq_error_iff]
  unfold read
  cases Shape.split? text.toList <;> simp [eq_comm]

def Rejects (text : String) (now : Moment) (rejection : Rejection) : Prop :=
  rejection = .shape text ∨ ∃ s, Shape.split? text.toList = some s ∧ s.Rejects now rejection

theorem read_fault (zone : now.zone = some z) (h : read text now = .error fault) :
    fault.Within (Rejects text now) := by
  rcases read_eq_error_iff.1 h with ⟨-, rfl⟩ | h
  · exact .rejected (.inl rfl)
  · obtain ⟨s, split, bound⟩ := read?_eq_error_iff.1 h
    exact (Shape.bound_fault zone bound).mono fun _ h => .inr ⟨s, split, h⟩

end Bound
end CivilRange
