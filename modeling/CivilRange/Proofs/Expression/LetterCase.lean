import CivilRange.Proofs.Duration.Counted
import CivilRange.Proofs.Expression.Grammar

set_option autoImplicit false

namespace CivilRange

section

variable (text : String) (f : Fields) (d : Duration) (rank : Nat)

def DateFault.toLower : DateFault → DateFault
  | field place found => field place found.toLower
  | keyword place word => keyword place word.toLower
  | cause => cause

def DurationFault.toLower : DurationFault → DurationFault
  | token field => token field.toLower
  | unit word => unit word.toLower
  | cause => cause

def Rejection.toLower : Rejection → Rejection
  | shape text => shape text.toLower
  | date text cause => date text.toLower cause.toLower
  | duration text cause => duration text.toLower cause.toLower
  | rejection => rejection

/-- The fault with the texts that it cites in small letters, as far as they are of ASCII. -/
def Fault.toLower : Fault → Fault
  | rejected rejection => rejected rejection.toLower
  | fault => fault

theorem toList_toLower : text.toLower.toList = text.toList.map Char.toLower := String.toList_map

theorem toLower_ofList (s : List Char) :
    (String.ofList s).toLower = String.ofList (s.map Char.toLower) := by
  apply String.toList_injective
  rw [toList_toLower, String.toList_ofList, String.toList_ofList]

theorem toLower_eq_iff {text text' : String} : text.toLower = text'.toLower ↔
    text.toList.map Char.toLower = text'.toList.map Char.toLower := by
  rw [← String.toList_inj, toList_toLower, toList_toLower]

theorem readNumber_mapError (digits : List Char) :
    (readNumber digits).mapError Fault.toLower = readNumber digits := by
  unfold readNumber
  split <;> rfl

namespace Date

theorem readPlace_toLower (place : Place) (field : List Char) :
    readPlace text.toLower f place (field.map Char.toLower) =
      (readPlace text f place field).mapError Fault.toLower := by
  have word : isKeyword (field.map Char.toLower) = isKeyword field := by
    simp only [isKeyword, List.isEmpty_map, caseBlind_isAlpha.all]
  have digits : isDigits (field.map Char.toLower) = isDigits field := by
    simp only [isDigits, List.isEmpty_map, caseBlind_isDigit.all]
  have twice : (field.map Char.toLower).map Char.toLower = field.map Char.toLower := by
    rw [List.map_map, caseBlind_toLower]
  unfold readPlace
  rw [word, digits, twice, ← toLower_ofList]
  split
  · split <;> rfl
  · split
    · rename_i number
      rw [map_toLower_eq_self (isDigits_iff.1 number).2, readNumber_mapError]
    · rfl

theorem readPlaces_toLower (places : List Place) (fields : List (List Char)) :
    readPlaces text.toLower f places (fields.map (List.map Char.toLower)) =
      (readPlaces text f places fields).mapError Fault.toLower := by
  induction places generalizing fields with
  | nil => rfl
  | cons place places ih =>
    cases fields with
    | nil => rfl
    | cons field fields =>
      simp only [List.map_cons, readPlaces, readPlace_toLower, ih, mapError_bind]
      rfl

theorem readFields_toLower : readFields text.toLower f =
    (readFields text f).mapError Fault.toLower := by
  unfold readFields
  rw [toList_toLower, colonChars_toLower]
  simp only [List.length_map, readPlaces_toLower]
  split
  · rfl
  · rw [mapError_bind]
    congr 1
    funext values
    cases Fields.ofValues? values <;> rfl

theorem locate_mapError (z : Zone) : (locate f z).mapError DateFault.toLower = locate f z := by
  unfold locate
  cases f.reading with
  | error cause => rfl
  | ok reading =>
    simp only [Except.mapError, bind, Except.bind]
    cases Moment.isShown ⟨reading, false, some z⟩ with
    | error cause => rfl
    | ok shown => cases shown <;> rfl

theorem read_toLower (now : Moment) :
    read text.toLower now = (read text now).mapError Fault.toLower := by
  unfold read
  cases now.zone with
  | none => rfl
  | some z =>
    dsimp only
    rw [mapError_bind, readFields_toLower]
    congr 1
    funext shows
    have same := locate_mapError shows z
    cases place : locate shows z with
    | ok m => rfl
    | error cause =>
      rw [place] at same
      have own : cause.toLower = cause := Except.error.inj same
      change Except.error _ = Except.error (Fault.toLower (.rejected (.date text cause)))
      rw [Fault.toLower, Rejection.toLower, own]

end Date

def Token.toLower (token : Token) : Token := ⟨token.digits, token.word.map Char.toLower⟩

namespace Token

theorem ofSplit_toLower {digits : List Char} (all : ∀ c ∈ digits, c.isDigit = true)
    (rest : List Char) :
    ofSplit digits (rest.map Char.toLower) = (ofSplit digits rest).map toLower := by
  unfold ofSplit
  simp only [List.isEmpty_map, caseBlind_isBlank.dropWhile, caseBlind_isWord.all]
  split
  · cases last : digits.getLast? with
    | none => rfl
    | some c =>
      have own : [c].map Char.toLower = [c] := map_toLower_eq_self fun e mem => by
        rw [List.mem_singleton.1 mem]
        exact all c (List.mem_of_getLast? last)
      dsimp only
      split
      · rfl
      · simp only [Option.map_some, toLower, own]
  · split <;> rfl

theorem read?_toLower (field : List Char) :
    read? (field.map Char.toLower) = (read? field).map toLower := by
  have all : ∀ c ∈ (trim field).takeWhile Char.isDigit, c.isDigit = true :=
    List.all_eq_true.1 List.all_takeWhile
  rw [read?_eq_ofSplit, read?_eq_ofSplit, trim_toLower, caseBlind_isDigit.takeWhile,
    caseBlind_isDigit.dropWhile, map_toLower_eq_self all, ofSplit_toLower all]

end Token

namespace Duration

theorem normalUnitChars_toLower (word : List Char) :
    normalUnitChars (word.map Char.toLower) = normalUnitChars word := by
  unfold normalUnitChars
  rw [lower_toLower]

theorem readField_toLower (field : List Char) :
    readField text.toLower d rank (field.map Char.toLower) =
      (readField text d rank field).mapError Fault.toLower := by
  unfold readField
  rw [Token.read?_toLower, ← toLower_ofList]
  cases Token.read? field with
  | none => rfl
  | some token =>
    simp only [Option.map_some, Token.toLower, normalUnitChars_toLower, ← toLower_ofList]
    cases TimeUnit.find? (String.ofList (normalUnitChars token.word)) with
    | none => rfl
    | some unit =>
      dsimp only
      split
      · rfl
      · rw [mapError_bind, readNumber_mapError]
        rfl

theorem readFields_toLower (fields : List (List Char)) :
    readFields text.toLower d rank (fields.map (List.map Char.toLower)) =
      (readFields text d rank fields).mapError Fault.toLower := by
  induction fields generalizing d rank with
  | nil => rfl
  | cons field fields ih =>
    simp only [List.map_cons, readFields, readField_toLower, mapError_bind, ih]

theorem read_toLower : read text.toLower = (read text).mapError Fault.toLower := by
  unfold read
  rw [toList_toLower, colonChars_toLower]
  cases colonChars text.toList with
  | nil => rfl
  | cons field fields => exact readFields_toLower text zero 0 (field :: fields)

end Duration
end

namespace Shape

variable {s : Shape} {now : Moment}

def toLower (s : Shape) : Shape :=
  ⟨s.sign, s.date.map Char.toLower, s.suffix.map (Prod.map id (List.map Char.toLower))⟩

theorem caseBlind_isSign : CaseBlind isSign := caseBlind_of_letters (by decide)

theorem caseBlind_ofSymbol? : CaseBlind Sign.ofSymbol? := caseBlind_of_letters (by decide)

theorem suffix?_toLower (cs : List Char) : suffix? (cs.map Char.toLower) =
    (suffix? cs).map (Option.map (Prod.map id (List.map Char.toLower))) := by
  cases cs with
  | nil => rfl
  | cons c amount =>
    simp only [List.map_cons, suffix?, List.isEmpty_map, caseBlind_isSign.any,
      caseBlind_ofSymbol?.toLower]
    split
    · rfl
    · cases Sign.ofSymbol? c <;> rfl

theorem split?_toLower (cs : List Char) :
    split? (cs.map Char.toLower) = (split? cs).map toLower := by
  cases cs with
  | nil => rfl
  | cons c rest =>
    have blind : CaseBlind (!isSign ·) := congrArg (Bool.not ∘ ·) caseBlind_isSign
    simp only [List.map_cons, split?, caseBlind_ofSymbol?.toLower, blind.takeWhile,
      blind.dropWhile, List.isEmpty_map, suffix?_toLower]
    cases Sign.ofSymbol? c with
    | none => rfl
    | some sign =>
      simp only [Option.bind_eq_bind, Option.bind_some]
      split
      · rfl
      · cases suffix? (rest.dropWhile (!isSign ·)) <;> rfl

theorem base_toLower : s.toLower.base now = (s.base now).mapError Fault.toLower := by
  unfold base toLower
  dsimp only
  rw [lower_toLower, ← toLower_ofList, Date.read_toLower]
  split <;> rfl

theorem moment_toLower : s.toLower.moment now = (s.moment now).mapError Fault.toLower := by
  have moved : ∀ (sign : Sign) (d : Duration) (m : Moment),
      (m.moveOrReject sign d).mapError Fault.toLower = m.moveOrReject sign d := by
    intro sign d m
    unfold Moment.moveOrReject
    cases m.move sign d <;> rfl
  unfold moment
  rw [base_toLower, mapError_bind]
  congr 1
  funext base
  cases suffix : s.suffix with
  | none =>
    simp only [toLower, suffix, Option.map_none]
    rfl
  | some pair =>
    simp only [toLower, suffix, Option.map_some, Prod.map, id, ← toLower_ofList,
      Duration.read_toLower, mapError_bind, moved]

theorem bound_toLower : s.toLower.bound now = (s.bound now).mapError Fault.toLower := by
  rw [bound_eq_map, bound_eq_map, moment_toLower, mapError_map]
  rfl

end Shape

namespace Bound

variable {text text' : String}

/-- Reading commutes with small letters, the texts in faults included. -/
theorem read?_toLower (text : String) (now : Moment) :
    read? text.toLower now = (read? text now).mapError Fault.toLower := by
  unfold read?
  rw [toList_toLower, Shape.split?_toLower]
  cases Shape.split? text.toList with
  | none => rfl
  | some s =>
    change some <$> s.toLower.bound now = _
    rw [Shape.bound_toLower, ← mapError_map]

/-- Texts that are the same in small letters of ASCII are no expressions both, or both stand for one
bound, or both fail: at the same place and for the same cause, if the letter case of the cited texts
is not looked at. -/
theorem outcome_in_any_letter_case (same : text.toLower = text'.toLower) (now : Moment) :
    (read? text now = .ok none ↔ read? text' now = .ok none) ∧
      (∀ b, read? text now = .ok (some b) ↔ read? text' now = .ok (some b)) ∧
      ∀ fault, read? text now = .error fault →
        ∃ fault', read? text' now = .error fault' ∧ fault.toLower = fault'.toLower := by
  have small : (read? text now).mapError Fault.toLower = (read? text' now).mapError Fault.toLower := by
    rw [← read?_toLower, ← read?_toLower, same]
  have outcomes : ∀ b, read? text now = .ok b ↔ read? text' now = .ok b := by
    intro b
    rw [← mapError_eq_ok_iff (g := Fault.toLower), small, mapError_eq_ok_iff]
  refine ⟨outcomes none, fun b => outcomes (some b), ?_⟩
  intro fault h
  have failed : (read? text' now).mapError Fault.toLower = .error fault.toLower := by
    rw [← small, h]
    rfl
  obtain ⟨fault', there, lowered⟩ := mapError_eq_error_iff.1 failed
  exact ⟨fault', there, lowered.symm⟩

/-- The midnight a week before the night in which Paris turns its clocks back. -/
def weekBefore : Moment := ⟨⟨63770630400000000, by decide⟩, false, some (.region .paris)⟩

/-- A week may be written with the sign of the kelvin, which has no case in ASCII; a fortnight is no
unit in any letters. -/
theorem kelvinWeek_in_capitals :
    ("+Year:month:DAY-1wee\u212A".toLower = "+YEAR:Month:day-1WEE\u212A".toLower ∧
        read? "+YEAR:Month:day-1WEE\u212A" (Moment.autumnNight true) =
          .ok (some ⟨weekBefore, true⟩)) ∧
      ("+Now-1Fortnight".toLower = "+nOW-1FORTNIGHT".toLower ∧
        ∃ fault, read? "+nOW-1FORTNIGHT" (Moment.autumnNight true) = .error fault ∧
          Fault.toLower (.rejected (.duration "1Fortnight" (.unit "Fortnight"))) =
            fault.toLower) := by
  have week : "+Year:month:DAY-1wee\u212A".toLower = "+YEAR:Month:day-1WEE\u212A".toLower :=
    toLower_eq_iff.2 (by decide)
  have fortnight : "+Now-1Fortnight".toLower = "+nOW-1FORTNIGHT".toLower :=
    toLower_eq_iff.2 (by decide)
  have there : read? "+Year:month:DAY-1wee\u212A" (Moment.autumnNight true) =
      .ok (some ⟨weekBefore, true⟩) := by decide +kernel
  have failed : read? "+Now-1Fortnight" (Moment.autumnNight true) =
      .error (.rejected (.duration "1Fortnight" (.unit "Fortnight"))) := by decide +kernel
  obtain ⟨-, bounds, -⟩ := outcome_in_any_letter_case week (Moment.autumnNight true)
  obtain ⟨-, -, faults⟩ := outcome_in_any_letter_case fortnight (Moment.autumnNight true)
  exact ⟨⟨week, (bounds _).1 there⟩, fortnight, faults _ failed⟩

end Bound
end CivilRange
