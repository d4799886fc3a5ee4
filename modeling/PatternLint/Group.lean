import PatternLint.Flags

/-!
# Groups and references to them

What a pair of parentheses does, and the ways in which the rest of a pattern can
name a group.
-/

namespace PatternLint

/-- Assertions about the text around a place. -/
inductive Lookaround where
  | ahead
  | negativeAhead
  | behind
  | negativeBehind
  | nonAtomicAhead
  | nonAtomicBehind
deriving DecidableEq, Repr, Inhabited

namespace Lookaround

/-- Whether the assertion is about what comes before. -/
def isBehind : Lookaround → Bool
  | behind | negativeBehind | nonAtomicBehind => true
  | ahead | negativeAhead | nonAtomicAhead => false

/-- Whether the assertion, once it holds, is never tried in another way. -/
def isAtomic : Lookaround → Bool
  | ahead | negativeAhead | behind | negativeBehind => true
  | nonAtomicAhead | nonAtomicBehind => false

end Lookaround

/-- What a group does. -/
inductive GroupKind where
  | capturing
  | nonCapturing
  | named
  | atomic
  | look (assertion : Lookaround)
  | branchReset
  | modifiers (change : FlagChange)
deriving DecidableEq, Repr, Inhabited

namespace GroupKind

/-- Whether the group records what it matches. -/
def isCapturing : GroupKind → Bool
  | capturing | named => true
  | _ => false

/-- Whether the group is an assertion. -/
def isLookaround : GroupKind → Bool
  | look _ => true
  | _ => false

/-- Whether the group asserts what comes next. -/
def isLookahead : GroupKind → Bool
  | look l => !l.isBehind
  | _ => false

/-- Whether the group asserts what comes before. -/
def isLookbehind : GroupKind → Bool
  | look l => l.isBehind
  | _ => false

/-- Whether the group, once matched, is never tried in another way. -/
def isAtomic : GroupKind → Bool
  | atomic => true
  | look l => l.isAtomic
  | _ => false

/-- Whether the group only sets its body apart: it can be matched in all the ways of its body. -/
def isPlain (k : GroupKind) : Bool := !k.isAtomic && !k.isLookaround

end GroupKind

/-- What a group is, besides its body. -/
structure GroupHead where
  kind : GroupKind
  name : Option String := none
  number : Option Nat := none
deriving DecidableEq, Repr, Inhabited

/-- How a group is named elsewhere in the pattern. A relative reference keeps the distance that
was written beside the number that it comes to. -/
inductive GroupRef where
  | number (n : Nat)
  | relative (offset : Int) (number : Nat)
  | name (s : String)
deriving DecidableEq, Repr, Inhabited

/-- What a subroutine call runs. -/
inductive CallTarget where
  | whole
  | group (ref : GroupRef)
deriving DecidableEq, Repr, Inhabited

/-- The test of a conditional group. -/
inductive Condition (α : Type) where
  | group (ref : GroupRef)
  | recursion
  | recursionGroup (number : Nat)
  | recursionName (name : String)
  | assertion (test : α)
deriving DecidableEq, Repr, Inhabited

end PatternLint
