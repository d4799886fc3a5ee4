import PatternLint.Fault
import PatternLint.Walk
import PatternLint.Width.Scope

/-!
# References and lookbehinds

When a tree is complete, its groups are known, and references may have come before
their groups. Every reference has to name a group, and a lookbehind has to have a
width that the dialect can step back by.

The check is a guarded traversal, `Resolver.node`, which notes each fault that it
comes to. Of these the first one counts, but a tree that is too deep is refused for
that before all else. What comes of the traversal can be said without it:
`firstFault?` looks for the first node at fault in the order of the text.
-/

namespace PatternLint

/-- How deep the tree of a pattern may be: a level of parentheses may add a group, an alternation,
a sequence and a repetition. -/
def ParserSettings.treeLimit (s : ParserSettings) : Nat := satAdd (satMul s.nestLimit 4) 16

/-- What there is to refer to: `captures` numbered groups, and names. -/
structure GroupTable where
  captures : Nat
  names : List (String × Nat)
deriving DecidableEq, Repr

namespace GroupTable

/-- Whether a group has a number. -/
def hasNumber (t : GroupTable) (n : Nat) : Bool := decide (1 ≤ n) && decide (n ≤ t.captures)

/-- Whether a group has a name. -/
def hasName (t : GroupTable) (name : String) : Bool := t.names.any fun entry => entry.1 == name

/-- What is wrong with a reference. -/
def referenceFault? (t : GroupTable) (use : ReferenceUse) : GroupRef → Option Fault
  | .number 0 => some (.zeroReference use)
  | .number n | .relative _ n => if t.hasNumber n then none else some (.noSuchGroup use n)
  | .name name => if t.hasName name then none else some (.noSuchName use name)

/-- What is wrong with the test of a conditional. -/
def conditionFault? (t : GroupTable) : Condition Node → Option Fault
  | .group ref => t.referenceFault? .backref ref
  | .recursionGroup n => t.referenceFault? .call (.number n)
  | .recursionName name => t.referenceFault? .call (.name name)
  | .recursion | .assertion _ => none

end GroupTable

namespace Node

/-- The branches of a node, which is its own only one if it is no alternation. -/
def branches : Node → List Node
  | .alternation _ branches => branches
  | n => [n]

/-- What is wrong with a lookbehind around `body`. A dialect without lookbehinds of variable width
wants each branch to be fixed; the others allow a width up to a limit. -/
def lookbehindFault? (s : ParserSettings) (scope : Scope) (body : Node) : Option Fault :=
  let width := scope.width body
  match width.max with
  | none => if s.allowUnboundedLookbehind then none else some .unboundedLookbehind
  | some max =>
    if s.dialect.supports .variableLookbehind then
      if !width.isFixed && decide (s.maxLookbehind < max) then
        some (.lookbehindTooLong max s.maxLookbehind)
      else none
    else if body.branches.all fun b => (scope.width b).isFixed then none
    else some .variableLookbehind

/-- What is wrong with a node, besides what is wrong with its children. -/
def ownFault? (s : ParserSettings) (t : GroupTable) (scope : Scope) : Node → Option Fault
  | .atom _ (.backref ref _) => t.referenceFault? .backref ref
  | .atom _ (.subroutine (.group ref)) => t.referenceFault? .call ref
  | .group _ head body => if head.kind.isLookbehind then lookbehindFault? s scope body else none
  | .conditional _ test _ _ => t.conditionFault? test
  | _ => none

/-- The first fault of a tree. -/
def firstFault? (s : ParserSettings) (t : GroupTable) (root : Node) : Option Located :=
  match root.firstBelow s.treeLimit with
  | some offset => some ⟨.treeTooDeep s.treeLimit, offset⟩
  | none =>
    let scope := Scope.new root t.names
    root.preorder.findSome? fun n => (n.ownFault? s t scope).map fun fault => ⟨fault, n.start⟩

end Node

/-! ### The traversal -/

namespace Resolver

/-- Notes a fault of the node at `offset`, if there is one. -/
def report (offset : Nat) (fault : Option Fault) : Walk Located Unit :=
  Walk.noteAll (fault.map fun fault => ⟨fault, offset⟩).toList

section

variable (s : ParserSettings) (t : GroupTable) (scope : Scope)

mutual
/-- Visits a node, which is checked before what is below it. -/
def node : Node → Walk Located Unit
  | .atom span a => Walk.visit span.start do
    match a with
    | .backref ref _ => report span.start (t.referenceFault? .backref ref)
    | .subroutine (.group ref) => report span.start (t.referenceFault? .call ref)
    | _ => return
  | .sequence span items => Walk.visit span.start (nodes items)
  | .alternation span branches => Walk.visit span.start (nodes branches)
  | .group span head body => Walk.visit span.start do
    report span.start (if head.kind.isLookbehind then Node.lookbehindFault? s scope body else none)
    node body
  | .quantifier span _ target => Walk.visit span.start (node target)
  | .charClass span _ _ expr => Walk.visit span.start (node expr)
  | .classOp span _ operands => Walk.visit span.start (nodes operands)
  | .conditional span test yes no => Walk.visit span.start do
    report span.start (t.conditionFault? test)
    condition test
    node yes
    optional no
  | .define span body => Walk.visit span.start (node body)
/-- Visits several nodes, up to the first one with something that is too deep. -/
def nodes : List Node → Walk Located Unit
  | [] => return
  | n :: ns => do
    node n
    nodes ns
/-- Visits the node that a condition holds. -/
def condition : Condition Node → Walk Located Unit
  | .assertion test => node test
  | .group _ | .recursion | .recursionGroup _ | .recursionName _ => return
/-- Visits a node that may be missing. -/
def optional : Option Node → Walk Located Unit
  | none => return
  | some n => node n
end

end

end Resolver

/-- What a tree is refused for. -/
def Node.resolve? (s : ParserSettings) (t : GroupTable) (root : Node) : Option Located :=
  let outcome := Resolver.node s t (Scope.new root t.names) root { limit := s.treeLimit }
  match outcome.value with
  | .error e => some ⟨.treeTooDeep e.limit, e.offset⟩
  | .ok _ => outcome.notes.head?

end PatternLint
