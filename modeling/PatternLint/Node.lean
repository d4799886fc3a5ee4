import PatternLint.Atom
import PatternLint.Repeat
import PatternLint.Span

/-!
# Pattern trees

A pattern is a tree of nodes, each with the span of text that it came from. The
children of a node come in the order of the text. Functions that treat all
kinds of nodes alike are written through `foldTree`, which hands a node the
results for its children; `foldTree_eq` is all there is to know about it.
-/

namespace PatternLint

/-- How the members of a character class are combined. -/
inductive ClassOp where
  | union
  | intersection
  | subtraction
deriving DecidableEq, Repr, Inhabited

/-- A part of a pattern. -/
inductive Node where
  | atom (span : Span) (atom : Atom)
  | sequence (span : Span) (items : List Node)
  | alternation (span : Span) (branches : List Node)
  | group (span : Span) (head : GroupHead) (body : Node)
  | quantifier (span : Span) (count : Repeat) (target : Node)
  | charClass (span : Span) (negated caseless : Bool) (expr : Node)
  | classOp (span : Span) (op : ClassOp) (operands : List Node)
  | conditional (span : Span) (condition : Condition Node) (yes : Node) (no : Option Node)
  | define (span : Span) (body : Node)
deriving Repr

namespace Node

instance : Inhabited Node := ⟨.atom default default⟩

/-- The text that a node came from. -/
def span : Node → Span
  | atom s _ | sequence s _ | alternation s _ | group s _ _ | quantifier s _ _
  | charClass s _ _ _ | classOp s _ _ | conditional s _ _ _ | define s _ => s

/-- Where a node starts. -/
def start (n : Node) : Nat := n.span.start

/-- Where a node stops. -/
def stop (n : Node) : Nat := n.span.stop

/-- The node that a condition holds. -/
def conditionChildren : Condition Node → List Node
  | .assertion a => [a]
  | _ => []

/-- The parts of a node, in the order of the text. -/
def children : Node → List Node
  | atom .. => []
  | sequence _ items => items
  | alternation _ branches => branches
  | group _ _ body => [body]
  | quantifier _ _ target => [target]
  | charClass _ _ _ expr => [expr]
  | classOp _ _ operands => operands
  | conditional _ condition yes no => conditionChildren condition ++ yes :: no.toList
  | define _ body => [body]

/-- Whether a node never consumes anything: it is an atom of that kind, a definition or an
assertion. -/
def isZeroWidth : Node → Bool
  | atom _ a => a.isZeroWidth
  | group _ head _ => head.kind.isLookaround
  | define .. => true
  | _ => false

mutual
/-- Computes a value for a node from the values for its children. -/
def foldTree {α : Type} (f : Node → List α → α) : Node → α
  | atom s a => f (atom s a) []
  | sequence s items => f (sequence s items) (foldForest f items)
  | alternation s branches => f (alternation s branches) (foldForest f branches)
  | group s head body => f (group s head body) [foldTree f body]
  | quantifier s count target => f (quantifier s count target) [foldTree f target]
  | charClass s neg caseless expr => f (charClass s neg caseless expr) [foldTree f expr]
  | classOp s op operands => f (classOp s op operands) (foldForest f operands)
  | conditional s condition yes no =>
    f (conditional s condition yes no)
      (foldCondition f condition ++ foldTree f yes :: foldOptional f no)
  | define s body => f (define s body) [foldTree f body]
/-- The values for several nodes. -/
def foldForest {α : Type} (f : Node → List α → α) : List Node → List α
  | [] => []
  | n :: ns => foldTree f n :: foldForest f ns
/-- The values for what a condition holds. -/
def foldCondition {α : Type} (f : Node → List α → α) : Condition Node → List α
  | .assertion a => [foldTree f a]
  | .group _ | .recursion | .recursionGroup _ | .recursionName _ => []
/-- The values for a node that may be missing. -/
def foldOptional {α : Type} (f : Node → List α → α) : Option Node → List α
  | none => []
  | some n => [foldTree f n]
end

theorem foldForest_eq_map {α : Type} (f : Node → List α → α) (ns : List Node) :
    foldForest f ns = ns.map (foldTree f) := by
  induction ns with
  | nil => rfl
  | cons n ns ih => simp [foldForest, ih]

/-- The value for a node comes from the node and the values for its children. -/
theorem foldTree_eq {α : Type} (f : Node → List α → α) (n : Node) :
    foldTree f n = f n (n.children.map (foldTree f)) := by
  cases n with
  | conditional s c yes no =>
    cases c <;> cases no <;>
      simp [foldTree, foldCondition, foldOptional, children, conditionChildren]
  | _ => simp [foldTree, children, foldForest_eq_map]

/-- The nodes of a tree, each before its children. -/
def preorder : Node → List Node := foldTree fun n below => n :: below.flatten

/-- The nodes of a tree, each before its children and with the number of its ancestors. -/
def preorderWithDepth (n : Node) : List (Nat × Node) := foldTree label n 0
where
  /-- Labels a node and shifts what is below it by one. -/
  label (n : Node) (below : List (Nat → List (Nat × Node))) (depth : Nat) : List (Nat × Node) :=
    (depth, n) :: below.flatMap fun list => list (depth + 1)

/-- The number of nodes on the longest path from the root to a leaf. -/
def height : Node → Nat := foldTree fun _ below => below.foldl max 0 + 1

end Node

end PatternLint
