import PatternLint.Node
import PatternLint.Width

/-!
# Widths of pattern trees

A backreference is as wide as the group that it refers to, and a call as what it
runs. Both may lead back to where they stand. So the width of a node is taken in
two layers: `widthIn` goes down a tree and asks a function for the width of
references and calls, and `Scope.call` is that function. It keeps account of the
groups that are being gone through; what leads back into one of them may have any
width. A call that does not lead back adds a group to the account, and this is why
its depth is bounded by the number of groups.
-/

namespace PatternLint

/-- A group with a number. -/
structure NumberedGroup where
  number : Nat
  span : Span
  body : Node

namespace Node

/-- The group that a node is, if it has a number. -/
def numbered? : Node → Option NumberedGroup
  | .group s head body => head.number.map fun n => ⟨n, s, body⟩
  | _ => none

/-- The groups with numbers, in the order of the text. -/
def numberedGroups (n : Node) : List NumberedGroup := n.preorder.filterMap numbered?

end Node

/-- What is being gone through: groups, by number, and perhaps the whole pattern. -/
structure Active where
  numbers : List Nat := []
  whole : Bool := false
deriving DecidableEq, Repr

namespace Active

/-- Goes into a group. -/
def enter (a : Active) (number : Nat) : Active := { a with numbers := number :: a.numbers }

end Active

namespace Width

/-- The width of an atom. -/
def ofAtom (call : CallTarget → Width) : Atom → Width
  | .empty | .anchor .. | .inlineFlags _ | .verb .. | .callout _ | .comment _ => zero
  | .literal .. | .dot _ | .range .. | .posix .. => exact 1
  | .shorthand .newline _ => ⟨1, some 2⟩
  | .shorthand .grapheme _ => unbounded 1
  | .shorthand _ _ => exact 1
  | .backref ref _ => call (.group ref)
  | .subroutine target => call target

/-- The width of a group: inside itself a group may have any width. -/
def ofGroup (number : Option Nat) (a : Active) (body : Active → Width) : Width :=
  match number with
  | none => body a
  | some n => if a.numbers.contains n then unbounded 0 else body (a.enter n)

end Width

mutual
/-- The width of a node, where `call` gives the width of references and calls. -/
def Node.widthIn (call : Active → CallTarget → Width) : Node → Active → Width
  | .atom _ x, a => Width.ofAtom (call a) x
  | .sequence _ items, a => (Node.widthsIn call items a).foldl Width.andThen .zero
  | .alternation _ branches, a => Width.anyOf (Node.widthsIn call branches a)
  | .group _ head body, a =>
    if head.kind.isLookaround then .zero
    else Width.ofGroup head.number a (Node.widthIn call body)
  | .quantifier _ count target, a => (Node.widthIn call target a).times count.min count.max
  | .charClass .., _ | .classOp .., _ => .exact 1
  | .conditional _ _ yes no, a => (Node.widthIn call yes a).or (Node.optionalWidthIn call no a)
  | .define .., _ => .zero
/-- The widths of several nodes. -/
def Node.widthsIn (call : Active → CallTarget → Width) : List Node → Active → List Width
  | [], _ => []
  | n :: ns, a => Node.widthIn call n a :: Node.widthsIn call ns a
/-- The width of a node that may be missing. -/
def Node.optionalWidthIn (call : Active → CallTarget → Width) : Option Node → Active → Width
  | none, _ => .zero
  | some n, a => Node.widthIn call n a
end

/-- What references and calls may lead to. -/
structure Scope where
  root : Node
  groups : List NumberedGroup
  names : List (String × Nat)

namespace Scope

/-- The scope of a tree with the given named groups. -/
def new (root : Node) (names : List (String × Nat)) : Scope := ⟨root, root.numberedGroups, names⟩

/-- The first group with a number. -/
def group? (s : Scope) (number : Nat) : Option NumberedGroup :=
  s.groups.find? fun g => g.number == number

/-- The numbers of a name. -/
def numbersOf (s : Scope) (name : String) : List Nat :=
  (s.names.filter fun entry => entry.1 == name).map (·.2)

/-- The width of the group with a number; a group that is missing may have any width. -/
def numberWidth (s : Scope) (call : Active → CallTarget → Width) (a : Active) (number : Nat) :
    Width :=
  match s.group? number with
  | none => .unbounded 0
  | some g => Width.ofGroup (some number) a (g.body.widthIn call)

/-- The width of a reference or call, through at most `fuel` others. -/
def callWithin (s : Scope) : (fuel : Nat) → Active → CallTarget → Width
  | 0, _, _ => .unbounded 0
  | fuel + 1, a, .whole =>
    if a.whole then .unbounded 0
    else s.root.widthIn (s.callWithin fuel) { a with whole := true }
  | fuel + 1, a, .group (.number n) | fuel + 1, a, .group (.relative _ n) =>
    s.numberWidth (s.callWithin fuel) a n
  | fuel + 1, a, .group (.name name) =>
    match s.numbersOf name with
    | [] => .unbounded 0
    | numbers => Width.anyOf (numbers.map (s.numberWidth (s.callWithin fuel) a))

/-- The width of a reference or call. Each one that does not lead back goes into a group, or into
the whole pattern, for the first time. -/
def call (s : Scope) : Active → CallTarget → Width := s.callWithin (s.groups.length + 1)

/-- The width of a node. -/
def width (s : Scope) (n : Node) : Width := n.widthIn s.call {}

/-- The width of the group with a number. -/
def groupWidth (s : Scope) (number : Nat) : Width := s.numberWidth s.call {} number

end Scope

end PatternLint
