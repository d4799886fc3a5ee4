/-!
# Repetition

How often an item is repeated and how the repetition backtracks.
-/

namespace PatternLint

/-- How a repetition chooses its number of turns. -/
inductive Greed where
  /-- As many turns as possible first, giving back when the rest fails. -/
  | greedy
  /-- As few turns as possible first. -/
  | lazy
  /-- As many turns as possible, giving nothing back. -/
  | possessive
deriving DecidableEq, Repr, Inhabited

/-- Between `min` and `max` turns; without `max`, any number from `min` on. -/
structure Repeat where
  min : Nat
  max : Option Nat
  greed : Greed
deriving DecidableEq, Repr, Inhabited

namespace Repeat

/-- The largest count that a pattern may give. -/
def maxWritten : Nat := 65535

/-- Whether there is no largest number of turns. -/
def isUnbounded (r : Repeat) : Bool := r.max.isNone

/-- Whether the repetition gives nothing back. -/
def isPossessive (r : Repeat) : Bool := r.greed == .possessive

/-- Whether `n` turns are within the upper bound. -/
def allows (r : Repeat) (n : Nat) : Bool :=
  match r.max with
  | none => true
  | some max => decide (n ≤ max)

end Repeat

end PatternLint
