import PatternLint.Render

/-!
# Printers

A printer writes one tree after another. It keeps a guard, which counts the nodes
that are being written, and a mark that says whether it stands in a class; both are
changed on the way into a node and set back on the way out, also where a tree turns
out to be too deep. Here is the writing of a tree as a computation on that state.
-/

namespace PatternLint

/-- What writes trees: a guard, and whether it stands in a class. -/
structure Printer where
  guard : Guard
  inClass : Bool := false
deriving DecidableEq, Repr

/-- What a printer does: it comes to a value or to a node that is too deep. Either way its state
may have changed. -/
abbrev Printing := ExceptT DepthExceeded (StateM Printer)

namespace Printing

variable {α : Type}

/-- Writes the node at `offset`: enters it, does `w` and leaves it, also if `w` stops. -/
def visit (offset : Nat) (w : Printing α) : Printing α := fun p =>
  match p.guard.enter offset with
  | (.error e, g) => (.error e, { p with guard := g })
  | (.ok _, g) =>
    let (result, q) := w { p with guard := g }
    (result, { q with guard := q.guard.exit })

/-- Does `w` as in a class, and then is where it was, also if `w` stops. -/
def insideClass (w : Printing α) : Printing α := fun p =>
  let (result, q) := w { p with inClass := true }
  (result, { q with inClass := p.inClass })

end Printing

namespace Printer

open Render

/-- A printer that gives up below `limit` levels. -/
def withLimit (limit : Nat) : Printer := { guard := { limit } }

mutual
/-- Writes a node. -/
def node : Node → Printing String
  | .atom span a => Printing.visit span.start do
    return atom (← get).inClass a
  | .sequence span items => Printing.visit span.start do
    return String.join (← nodes items)
  | .alternation span branches => Printing.visit span.start do
    return String.intercalate "|" (← nodes branches)
  | .group span head body => Printing.visit span.start do
    return opener head ++ (← node body) ++ ")"
  | .quantifier span count target => Printing.visit span.start do
    let text ← node target
    return (if needsGroup target then "(?:" ++ text ++ ")" else text) ++ quantifier count
  | .charClass span negated _ expr => Printing.visit span.start do
    let text ← Printing.insideClass (node expr)
    return "[" ++ (if negated then "^" else "") ++ text ++ "]"
  | .classOp span op operands => Printing.visit span.start do
    return String.intercalate (classOperator op) (← nodes operands)
  | .conditional span test yes no => Printing.visit span.start do
    let opening ← condition test
    let yes ← node yes
    let no ← optional no
    return opening ++ yes ++ no ++ ")"
  | .define span body => Printing.visit span.start do
    return "(?(DEFINE)" ++ (← node body) ++ ")"
/-- Writes several nodes, up to the first one with something that is too deep. -/
def nodes : List Node → Printing (List String)
  | [] => return []
  | n :: ns => do
    let text ← node n
    let texts ← nodes ns
    return text :: texts
/-- Writes what opens a conditional. -/
def condition : Condition Node → Printing String
  | .assertion test => do
    return "(?" ++ (← node test)
  | .group (.name s) => return "(?(<" ++ s ++ ">)"
  | .group ref => return "(?(" ++ groupRef ref ++ ")"
  | .recursion => return "(?(R)"
  | .recursionGroup n => return "(?(R" ++ toString n ++ ")"
  | .recursionName s => return "(?(R&" ++ s ++ ")"
/-- Writes the second branch of a conditional. -/
def optional : Option Node → Printing String
  | none => return ""
  | some n => do
    return "|" ++ (← node n)
end

/-- The text of a tree, or why it has none, and the printer afterwards. -/
def print (p : Printer) (n : Node) : Except DepthExceeded String × Printer := (node n).run p

/-- The printer after several trees, whatever came of each. -/
def afterAll (p : Printer) (ns : List Node) : Printer := ns.foldl (fun p n => (p.print n).2) p

end Printer

end PatternLint
