import PatternLint.Node

/-!
# Guarded traversals

A traversal of a tree may be told how deep to go. A guard counts the nodes that
are being visited; where one more would be too many, the traversal stops with the
place of that node. `Walk` is a traversal under a guard that writes notes on the
way and gives a value at the end. Notes that were written before it stopped are
kept, and the guard is left as deep as it was.
-/

namespace PatternLint

/-- A traversal came to a node at `offset` that is deeper than `limit`. -/
structure DepthExceeded where
  limit : Nat
  offset : Nat
deriving DecidableEq, Repr

/-- What is said about a traversal that went too deep. -/
def DepthExceeded.message (e : DepthExceeded) : String :=
  "traversal depth limit of " ++ toString e.limit ++ " exceeded at offset " ++ toString e.offset

/-- Counts the nodes that are being visited, up to a limit, and notes whether it was ever hit. -/
structure Guard where
  limit : Nat
  depth : Nat := 0
  tripped : Bool := false
deriving DecidableEq, Repr

namespace Guard

/-- Enters a node at `offset`, if that is not too deep. -/
def enter (g : Guard) (offset : Nat) : Except DepthExceeded Unit × Guard :=
  if g.limit ≤ g.depth then (.error ⟨g.limit, offset⟩, { g with tripped := true })
  else (.ok (), { g with depth := g.depth + 1 })

/-- Leaves a node; outside of all nodes nothing changes. -/
def exit (g : Guard) : Guard := { g with depth := g.depth - 1 }

end Guard

/-- The end of a traversal: its value or why it stopped, the notes and the guard. -/
structure Outcome (ω α : Type) where
  value : Except DepthExceeded α
  notes : List ω
  guard : Guard

/-- A traversal under a guard, with notes of type `ω`. -/
def Walk (ω α : Type) := Guard → Outcome ω α

namespace Walk

variable {ω α β : Type}

/-- Visits nothing. -/
def ofValue (a : α) : Walk ω α := fun g => ⟨.ok a, [], g⟩

/-- One traversal after another, unless the first one stops. -/
def andThen (w : Walk ω α) (f : α → Walk ω β) : Walk ω β := fun g =>
  let first := w g
  match first.value with
  | .error e => ⟨.error e, first.notes, first.guard⟩
  | .ok a =>
    let second := f a first.guard
    ⟨second.value, first.notes ++ second.notes, second.guard⟩

instance : Monad (Walk ω) where
  pure := ofValue
  bind := andThen

/-- Writes a note. -/
def note (n : ω) : Walk ω Unit := fun g => ⟨.ok (), [n], g⟩

/-- Writes several notes. -/
def noteAll (ns : List ω) : Walk ω Unit := fun g => ⟨.ok (), ns, g⟩

/-- How deep the traversal is. -/
def depth : Walk ω Nat := fun g => ⟨.ok g.depth, [], g⟩

/-- Visits the node at `offset`: enters it, does `w` and leaves it, also if `w` stops. -/
def visit (offset : Nat) (w : Walk ω α) : Walk ω α := fun g =>
  match g.enter offset with
  | (.error e, g) => ⟨.error e, [], g⟩
  | (.ok _, g) =>
    let inner := w g
    { inner with guard := inner.guard.exit }

/-- Several traversals one after another. -/
def all : List (Walk ω α) → Walk ω (List α)
  | [] => pure []
  | w :: ws => do
    let a ← w
    let as ← all ws
    return a :: as

end Walk

/-- A visited node and how deep it was. -/
structure Event where
  depth : Nat
  node : Node

namespace Node

/-- Visits every node, notes it and counts. -/
def trace : Node → Walk Event Nat :=
  foldTree fun n below => Walk.visit n.start do
    Walk.note ⟨← Walk.depth, n⟩
    let counts ← Walk.all below
    return counts.foldr (· + ·) 1

/-- Visits the children of a node without looking into them. -/
def touchChildren (n : Node) : Walk Event (List Nat) :=
  Walk.all (n.children.map fun c => Walk.visit c.start (pure 0))

/-- Where the first node stands, in the order of the text, that has `limit` ancestors or more. -/
def firstBelow (limit : Nat) (n : Node) : Option Nat :=
  (n.preorderWithDepth.find? fun d => decide (limit ≤ d.1)).map fun d => d.2.start

end Node

end PatternLint
