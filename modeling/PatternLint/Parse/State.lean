import PatternLint.Parse.ClassMembers
import PatternLint.Settings

/-!
# The state of the parser

The parser reads tokens from left to right and keeps a stack of what is open.
A level is an alternation that is being read: branches that are complete and the
items of the current one. A frame is an open parenthesis with the level that it
interrupted. So the number of open parentheses, the flags in force and the number
of groups so far can be read off the state between any two tokens.
-/

namespace PatternLint

/-- Things in a pattern that are allowed but odd. -/
inductive Oddity where
  | redundantFlags (flags : Flags)
  | conflictingFlags (flags : Flags)
  | misplacedSetting (name : String)
deriving DecidableEq, Repr

/-- What is said about an oddity. -/
def Oddity.message : Oddity → String
  | redundantFlags f => "inline flags \x60" ++ f.letters ++ "\x60 have no effect here"
  | conflictingFlags f => "inline flags \x60" ++ f.letters ++ "\x60 are both set and unset"
  | misplacedSetting name => "(*" ++ name ++ ") has no effect after the start of the pattern"

/-- An oddity and where it is. -/
structure Warning where
  oddity : Oddity
  span : Span
deriving DecidableEq, Repr

namespace Parse

/-- An alternation that is being read. Complete branches and the items of the current branch are
kept with the last one first. For groups that number their branches alike, `base` is the number of
groups before the first branch and `highest` the largest number that a branch has come to. -/
structure Level where
  start : Nat
  branchStart : Nat
  done : List Node := []
  items : List Node := []
  base : Nat
  highest : Nat

namespace Level

/-- A level of which nothing has been read, before a token at `start`. -/
def new (start captures : Nat) : Level :=
  { start, branchStart := start, base := captures, highest := captures }

/-- Adds an item to the current branch. -/
def push (l : Level) (n : Node) : Level := { l with items := n :: l.items }

/-- The current branch as one node. -/
def branch (l : Level) : Node :=
  match l.items with
  | [] => .atom (.point l.branchStart) .empty
  | [n] => n
  | last :: rest => .sequence ⟨(rest.getLastD last).start, last.stop⟩ l.items.reverse

/-- Completes the current branch; the next one starts at `start`. -/
def nextBranch (l : Level) (start : Nat) : Level :=
  { l with done := l.branch :: l.done, items := [], branchStart := start }

/-- All that has been read, as one node. -/
def node (l : Level) : Node :=
  match l.done with
  | [] => l.branch
  | _ :: _ => .alternation ⟨l.start, l.branch.stop⟩ (l.done.reverse ++ [l.branch])

end Level

/-- What an open parenthesis opened. The assertion that is the test of a conditional stands inside
the parenthesis of the conditional and counts for both. -/
inductive Construct where
  | group (head : GroupHead)
  | define
  | assertion (look : Lookaround)
  | conditional (test : Condition Node)

/-- The number of parentheses that a construct has open. -/
def Construct.parens : Construct → Nat
  | assertion _ => 2
  | _ => 1

/-- An open parenthesis: where it stands, what it opened, the flags to go back to when it closes
and the level around it. -/
structure Frame where
  offset : Nat
  construct : Construct
  flags : Flags
  outer : Level

/-- The state of the parser between two tokens. -/
structure State where
  flags : Flags
  /-- The number of capturing groups so far. -/
  captures : Nat := 0
  /-- The named groups so far, in the order of the text. -/
  names : List (String × Nat) := []
  /-- The warnings so far, in the order of the text. -/
  warnings : List Warning := []
  /-- Whether anything but start settings has been read. -/
  seenItem : Bool := false
  level : Level
  /-- The open parentheses, the innermost first. -/
  frames : List Frame := []
  /-- The class that is being read, if any. -/
  openClass : Option OpenClass := none

namespace State

/-- The number of open parentheses. -/
def depth (st : State) : Nat := st.frames.foldr (fun f n => f.construct.parens + n) 0

/-- Whether letters match without regard to case. -/
def caseless (st : State) : Bool := st.flags.has Flags.caseless

/-- Whether a node is a setting that belongs at the start. -/
def isSetting : Node → Bool
  | .atom _ (.verb name _) => isStartSetting name
  | _ => false

/-- Adds an item to the current branch. -/
def push (st : State) (n : Node) : State :=
  { st with level := st.level.push n, seenItem := st.seenItem || !isSetting n }

/-- Adds an atom to the current branch. -/
def pushAtom (st : State) (span : Span) (a : Atom) : State := st.push (.atom span a)

/-- Adds a warning. -/
def warn (st : State) (oddity : Oddity) (span : Span) : State :=
  { st with warnings := st.warnings ++ [⟨oddity, span⟩] }

/-- Adds a warning if there are flags to warn about. -/
def warnFlags (st : State) (flags : Flags) (oddity : Flags → Oddity) (span : Span) : State :=
  if flags = 0 then st else st.warn (oddity flags) span

/-- Warns about an inline setting that contradicts itself or changes nothing. -/
def checkChange (st : State) (change : FlagChange) (span : Span) : State :=
  let conflicting := change.conflicting
  let redundant := change.redundant st.flags &&& ~~~conflicting
  (st.warnFlags conflicting .conflictingFlags span).warnFlags redundant .redundantFlags span

end State

end Parse

end PatternLint
