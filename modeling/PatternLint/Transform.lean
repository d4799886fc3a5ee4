import PatternLint.Node

/-!
# Transforms of pattern trees

A transform goes through a tree from the top and puts it together again. It may
replace a node as it stands, without a look inside, and it may change the counts
of the repetitions that it goes through. Character classes are taken whole, and
every node that is put together again keeps its span.

Two transforms take away backtracking: `possessive` makes greedy repetitions
possessive, and `atomic` puts an atomic group around the outermost repetitions
without bound.
-/

namespace PatternLint

/-- What a transform does with nodes and with counts. -/
structure Transform where
  /-- A node that takes the place of another one. -/
  replace : Node → Option Node := fun _ => none
  /-- The count of a repetition that is put together again. -/
  count : Repeat → Repeat := id

namespace Transform

mutual
/-- Transforms a tree. -/
def node (t : Transform) : Node → Node
  | .atom s a => (t.replace (.atom s a)).getD (.atom s a)
  | .sequence s items => (t.replace (.sequence s items)).getD (.sequence s (nodes t items))
  | .alternation s branches =>
    (t.replace (.alternation s branches)).getD (.alternation s (nodes t branches))
  | .group s head body => (t.replace (.group s head body)).getD (.group s head (node t body))
  | .quantifier s count target =>
    (t.replace (.quantifier s count target)).getD (.quantifier s (t.count count) (node t target))
  | .charClass s neg caseless expr =>
    (t.replace (.charClass s neg caseless expr)).getD (.charClass s neg caseless expr)
  | .classOp s op operands => (t.replace (.classOp s op operands)).getD (.classOp s op operands)
  | .conditional s test yes no =>
    (t.replace (.conditional s test yes no)).getD
      (.conditional s (condition t test) (node t yes) (optional t no))
  | .define s body => (t.replace (.define s body)).getD (.define s (node t body))
/-- Transforms several trees. -/
def nodes (t : Transform) : List Node → List Node
  | [] => []
  | n :: ns => node t n :: nodes t ns
/-- Transforms the assertion that a condition may be. -/
def condition (t : Transform) : Condition Node → Condition Node
  | .assertion a => .assertion (node t a)
  | .group ref => .group ref
  | .recursion => .recursion
  | .recursionGroup n => .recursionGroup n
  | .recursionName s => .recursionName s
/-- Transforms a tree that may be missing. -/
def optional (t : Transform) : Option Node → Option Node
  | none => none
  | some n => some (node t n)
end

theorem nodes_eq_map (t : Transform) (ns : List Node) : t.nodes ns = ns.map t.node := by
  induction ns with
  | nil => rfl
  | cons n ns ih => rw [nodes, ih, List.map_cons]

/-- Changes nothing. -/
def nothing : Transform := {}

/-- The possessive form of a greedy count; other counts stay. -/
def possess (r : Repeat) : Repeat :=
  match r.greed with
  | .greedy => { r with greed := .possessive }
  | .lazy | .possessive => r

/-- Makes every greedy repetition possessive. -/
def possessive : Transform := { count := possess }

/-- Whether a repetition has no bound and can give back what it took. -/
def givesBack (r : Repeat) : Bool := r.isUnbounded && !r.isPossessive

/-- An atomic group around a repetition without bound that can give back. What is in an atomic
group or an assertion stays as it is. -/
def isolate : Node → Option Node
  | .group s head body => if head.kind.isAtomic then some (.group s head body) else none
  | .quantifier s count target =>
    if givesBack count then some (.group s { kind := .atomic } (.quantifier s count target))
    else none
  | _ => none

/-- Puts an atomic group around the outermost repetitions without bound. -/
def atomic : Transform := { replace := isolate }

end Transform

namespace Node

/-- The tree with every greedy repetition made possessive. -/
def possessive (n : Node) : Node := Transform.possessive.node n

/-- The tree with its outermost repetitions without bound in atomic groups. -/
def atomic (n : Node) : Node := Transform.atomic.node n

end Node

end PatternLint
