import PatternLint.Repeat
import PatternLint.Settings

/-!
# Widths

The width of a part of a pattern is how many characters its matches have: at
least `min`, and at most `max` unless there is no bound. Counts have 64 bits. A
`min` that is too large stops at the largest count, and a `max` that is too large
is no bound at all, so that a width never promises too much.
-/

namespace PatternLint

/-- The least and the greatest number of characters of a match. -/
structure Width where
  min : Nat
  max : Option Nat
deriving DecidableEq, Repr, Inhabited

namespace Width

/-- A count that serves as a bound, unless it is too large for one. -/
def bound? (n : Nat) : Option Nat := if n ≤ maxCount then some n else none

/-- Only the empty match. -/
def zero : Width := ⟨0, some 0⟩

/-- Exactly `n` characters. -/
def exact (n : Nat) : Width := ⟨n, some n⟩

/-- At least `min` characters. -/
def unbounded (min : Nat) : Width := ⟨min, none⟩

/-- Whether a match may be empty. -/
def isNullable (w : Width) : Bool := w.min == 0

/-- Whether all matches have the same width. -/
def isFixed (w : Width) : Bool := w.max == some w.min

/-- The width of one match followed by another. -/
def andThen (v w : Width) : Width where
  min := satAdd v.min w.min
  max :=
    match v.max, w.max with
    | some a, some b => bound? (a + b)
    | _, _ => none

/-- The width of a match of either. -/
def or (v w : Width) : Width where
  min := Min.min v.min w.min
  max :=
    match v.max, w.max with
    | some a, some b => some (Max.max a b)
    | _, _ => none

/-- The greatest width of up to `turns` matches. Matches that are always empty add up to nothing,
and so do no matches. -/
def repeatMax : Option Nat → Option Nat → Option Nat
  | some 0, _ => some 0
  | some _, none => none
  | some m, some turns => bound? (m * turns)
  | none, some 0 => some 0
  | none, _ => none

/-- The width of at least `min` matches, and at most `max` if there is a bound. -/
def times (w : Width) (min : Nat) (max : Option Nat) : Width :=
  ⟨satMul w.min min, repeatMax w.max max⟩

/-- The width of a match of any of several, where no choice at all is the empty match. -/
def anyOf : List Width → Width
  | [] => zero
  | w :: ws => ws.foldl or w

end Width

end PatternLint
