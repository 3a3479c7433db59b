import CivilRange.Calendar

set_option autoImplicit false

/-!
# Histories of a zone's offset

A history is an offset and the changes it goes through, in the order of their instants. Instants
are whole seconds since the first midnight of year 1 in UTC, wall readings whole seconds since
that midnight on the clock, and offsets whole seconds east of UTC. A clock that follows the
history shows `t + offset` at the instant `t`; where a change turns the clock back it shows the
same readings twice, and the second pass is told apart by the fold.
-/
namespace CivilRange

structure Change where
  instant : Nat
  offset : Int
deriving DecidableEq

structure History where
  initial : Int
  changes : List Change

structure Phase where
  offset : Int
  fold : Bool
deriving DecidableEq

namespace Change

/-- Whether a clock that was at offset `before` has yet to reach the change when it shows `w`. In
a gap the first fold keeps the offset before it; in an overlap the first fold is the pass before
the change. -/
def isAhead (before : Int) (fold : Bool) (w : Nat) (c : Change) : Bool :=
  let offset := if fold then min before c.offset else max before c.offset
  w + (-offset).toNat < c.instant + offset.toNat

theorem isAhead_iff (before : Int) (fold : Bool) (w : Nat) (c : Change) :
    c.isAhead before fold w = true ↔
      (w : Int) < c.instant + if fold then min before c.offset else max before c.offset := by
  simp only [isAhead, decide_eq_true_eq]
  omega

end Change

namespace History

/-- The phase at `t` after some changes left `current` in force. -/
def phaseAfter (t : Nat) (current : Phase) : List Change → Phase
  | [] => current
  | c :: rest =>
    if t < c.instant then current
    else phaseAfter t ⟨c.offset, t - c.instant < (current.offset - c.offset).toNat⟩ rest

def phaseAt (h : History) (t : Nat) : Phase := phaseAfter t ⟨h.initial, false⟩ h.changes

/-- The offset by which the wall reading `w` is read, after some changes left `current` in
force. -/
def offsetAfter (w : Nat) (fold : Bool) (current : Int) : List Change → Int
  | [] => current
  | c :: rest => if c.isAhead current fold w then current else offsetAfter w fold c.offset rest

def offsetOfWall (h : History) (w : Nat) (fold : Bool) : Int :=
  offsetAfter w fold h.initial h.changes

end History

inductive SundayOfMonth
  | first
  | second
  | last
deriving DecidableEq

/-- A change on a Sunday of `month`, `seconds` after its midnight in UTC. -/
structure YearlyChange where
  month : Nat
  sunday : SundayOfMonth
  seconds : Int
  offset : Int

structure YearlyRule where
  earlier : YearlyChange
  later : YearlyChange

def sundayFrom (day : Nat) : Nat := day + (6 - day % 7)

def SundayOfMonth.day (year month : Nat) : SundayOfMonth → Nat
  | first => sundayFrom (daysBeforeYear year + daysBeforeMonth year month)
  | second => sundayFrom (daysBeforeYear year + daysBeforeMonth year month + 7)
  | last => sundayFrom (daysBeforeYear year + daysBeforeMonth year (month + 1) - 7)

def YearlyChange.inYear (year : Nat) (c : YearlyChange) : Change :=
  ⟨(c.sunday.day year c.month * 86400 + c.seconds : Int).toNat, c.offset⟩

def YearlyRule.changesFrom (year : Nat) (rule : YearlyRule) : List Change :=
  (List.range' year (lastYear + 1 - year)).flatMap fun y =>
    [rule.earlier.inYear y, rule.later.inYear y]

/-- A history that goes on by `rule` after its last listed change, in `year`. -/
def History.continuedBy (h : History) (rule : YearlyRule) (year : Nat) : History :=
  let rest := match h.changes.getLast? with
    | none => rule.changesFrom year
    | some last => (rule.changesFrom year).dropWhile fun c => c.instant ≤ last.instant
  { h with changes := h.changes ++ rest }

end CivilRange
