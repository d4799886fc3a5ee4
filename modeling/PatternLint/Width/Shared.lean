import PatternLint.Width.Scope

/-!
# Widths taken from one account

Many widths may be asked of one scope, with one account of what is being gone
through that all of them read and write: a group is put on the account on the way
into it and taken off it on the way out. Here is the measurement of a width as a
computation on that account. A reference may lead to any place of the pattern, also
to one that it is a part of, so the measurement goes on for as long as its fuel
lasts, and gives nothing when it runs out.
-/

namespace PatternLint

namespace Active

/-- Leaves a group. -/
def leave (a : Active) (number : Nat) : Active :=
  { a with numbers := a.numbers.filter (· != number) }

end Active

/-- A width that is taken with an account at hand, unless the fuel runs out. -/
abbrev Measurement := StateT Active Option Width

namespace Measurement

/-- A measurement inside the group with a number. What leads back into it may have any width. -/
def through (number : Nat) (inner : Measurement) : Measurement := do
  if (← get).numbers.contains number then return .unbounded 0
  modify (·.enter number)
  let w ← inner
  modify (·.leave number)
  return w

/-- A measurement inside the whole pattern. -/
def throughWhole (inner : Measurement) : Measurement := do
  if (← get).whole then return .unbounded 0
  modify ({ · with whole := true })
  let w ← inner
  modify ({ · with whole := false })
  return w

/-- Several measurements one after the other, and what they add up to from `w` on. -/
def fold (op : Width → Width → Width) (w : Width) (ms : List Measurement) : Measurement :=
  ms.foldlM (fun w m => return op w (← m)) w

/-- The width of a match of any of several, where no choice at all has the width `none`. -/
def any (none : Width) : List Measurement → Measurement
  | [] => return none
  | m :: ms => do fold Width.or (← m) ms

end Measurement

namespace Scope

variable (s : Scope)

section Step

variable (measure : Node → Measurement)

/-- The width of the group with a number. -/
def measureNumber (number : Nat) : Measurement :=
  match s.group? number with
  | none => return .unbounded 0
  | some g => .through number (measure g.body)

/-- The width of a reference or call. -/
def measureCall : CallTarget → Measurement
  | .whole => .throughWhole (measure s.root)
  | .group (.number n) | .group (.relative _ n) => s.measureNumber measure n
  | .group (.name name) =>
    .any (.unbounded 0) ((s.numbersOf name).map (s.measureNumber measure))

/-- The width of a node, where `measure` takes those of the nodes that it leads to. -/
def measureNode : Node → Measurement
  -- No other atom has a use for the width of a call.
  | .atom _ (.backref ref _) => s.measureCall measure (.group ref)
  | .atom _ (.subroutine target) => s.measureCall measure target
  | .atom _ x => return Width.ofAtom (fun _ => .zero) x
  | .sequence _ items => .fold Width.andThen .zero (items.map measure)
  | .alternation _ branches => .any .zero (branches.map measure)
  | .group _ head body =>
    if head.kind.isLookaround then return .zero
    else
      match head.number with
      | none => measure body
      | some n => .through n (measure body)
  | .quantifier _ count target => return (← measure target).times count.min count.max
  | .charClass .. | .classOp .. => return .exact 1
  | .conditional _ _ yes no => do
    let w ← measure yes
    match no with
    | none => return w.or .zero
    | some no => return w.or (← measure no)
  | .define .. => return .zero

end Step

/-- The width of a node, through at most `fuel` others. -/
def measure : (fuel : Nat) → Node → Measurement
  | 0, _ => failure
  | fuel + 1, n => s.measureNode (measure fuel) n

end Scope

/-- What can be asked of a scope. -/
inductive WidthQuery where
  | node (n : Node)
  | group (number : Nat)

namespace Scope

/-- The answer to a query, from an account that other queries share. -/
def ask (s : Scope) (fuel : Nat) : WidthQuery → Measurement
  | .node n => s.measure fuel n
  | .group number => s.measureNumber (s.measure fuel) number

/-- The answer to a query on its own. -/
def answer (s : Scope) : WidthQuery → Width
  | .node n => s.width n
  | .group number => s.groupWidth number

end Scope

end PatternLint
