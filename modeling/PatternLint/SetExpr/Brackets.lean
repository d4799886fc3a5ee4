import PatternLint.SetExpr.Escape

/-!
# Bracketed sets

A set in brackets lists its members: characters, ranges, escapes, POSIX classes
and further sets in brackets. Two ampersands, hyphens or tildes between members
join what stands before them with what follows, from the left. Each set comes
with the depth of its nesting, since an expression may not be nested too deeply.
This is the syntax of `regex-syntax`.
-/

namespace PatternLint.SetExpr

/-- The operations between members. -/
inductive SetOp where
  | intersection
  | difference
  | symmetricDifference
deriving DecidableEq, Repr

/-- Joins two sets. -/
def SetOp.apply : SetOp → CharSet → CharSet → CharSet
  | intersection, s, t => s.intersect t
  | difference, s, t => s.subtract t
  | symmetricDifference, s, t => (s.union t).subtract (s.intersect t)

/-- A set and the depth at which it is nested. -/
structure Nested where
  set : CharSet
  depth : Nat

/-- The members read so far: their union, their number and the greatest depth among them. -/
structure Members where
  set : CharSet
  count : Nat
  depth : Nat

/-- No members. -/
def Members.none : Members := ⟨.empty, 0, 0⟩

/-- Adds a member. -/
def Members.add (ms : Members) (member : Nested) : Members :=
  ⟨ms.set.union member.set, ms.count + 1, max ms.depth member.depth⟩

/-- Adds a character. -/
def Members.addChar (ms : Members) (c : Char) : Members := ms.add ⟨.range c c, 0⟩

/-- The members as one set. Several members are nested in their union. -/
def Members.whole (ms : Members) : Nested :=
  ⟨ms.set, if ms.count ≤ 1 then ms.depth else ms.depth + 1⟩

/-- An operation that waits for its right side. -/
structure Pending where
  op : SetOp
  left : Nested

/-- Joins what stands before an operation with what follows. -/
def join (m : Modes) (pending : Option Pending) (right : Nested) : Nested :=
  match pending with
  | none => right
  | some p =>
    ⟨p.op.apply (m.fold p.left.set) (m.fold right.set), max p.left.depth right.depth + 1⟩

/-- Whether a character can be a member. Bytes are ASCII only. -/
def isMember (m : Modes) (c : Char) : Bool := m.unicode || c.toNat < 0x80

/-- The set of a sign as a member. -/
def Sign.member? (m : Modes) : Sign → Option CharSet
  | char c _ => if isMember m c then some (.range c c) else none
  | set s => some s
  | place => none

/-- The range between two signs, which have to be characters in order. -/
def Sign.range? (m : Modes) : Sign → Sign → Option CharSet
  | char lo _, char hi _ =>
    if isMember m lo && isMember m hi && decide (lo ≤ hi) then some (.range lo hi) else none
  | _, _ => none

/-- Reads a member: a sign, or a range of two. A hyphen before another hyphen or before the closing
bracket makes no range. -/
def member? (m : Modes) (cs : List Char) : Option (CharSet × List Char) := do
  let (first, rest) ← sign? m cs
  match m.skip rest with
  | [] => none
  | '-' :: more =>
    if m.glance? more = some ']' || m.glance? more = some '-' then
      return (← first.member? m, '-' :: more)
    else
      let (last, rest) ← sign? m (m.skip more)
      return (← first.range? m last, rest)
  | next => return (← first.member? m, next)

/-- Reads a POSIX class after its opening bracket: whether it is negated, and its set. -/
def posixClass? : List Char → Option (Bool × CharSet × List Char)
  | ':' :: cs =>
    let negated := cs.head? = some '^'
    let body := if negated then cs.drop 1 else cs
    match body.dropWhile (· != ':') with
    | ':' :: ']' :: rest =>
      (CharSet.posixClasses.lookup (String.ofList (body.takeWhile (· != ':')))).map fun rs =>
        (negated, .ofPairs rs, rest)
    | _ => none
  | _ => none

/-- Reads the start of a set after its opening bracket: the sign of a complement, and characters
that stand for themselves only here, which are hyphens or one closing bracket. -/
def opening? (m : Modes) (cs : List Char) : Option (Bool × Members × List Char) :=
  let start := m.skip cs
  let negated := start.head? = some '^'
  let body := if negated then m.skip (start.drop 1) else start
  let (hyphens, rest) := m.span (· == '-') body
  let members := hyphens.foldl Members.addChar .none
  let (members, rest) :=
    if hyphens.isEmpty && rest.head? = some ']' then
      (members.addChar ']', m.skip (rest.drop 1))
    else (members, rest)
  if rest.isEmpty then none else some (negated, members, rest)

/-- Reads members up to the closing bracket. Every step takes a character at least, so `fuel` has
to be more than the length of the text. -/
def members? (m : Modes) : (fuel : Nat) → Option Pending → Members → List Char →
    Option (Nested × List Char)
  | 0, _, _, _ => none
  | fuel + 1, pending, ms, cs =>
    let operation (op : SetOp) (rest : List Char) : Option (Nested × List Char) :=
      members? m fuel (some ⟨op, join m pending ms.whole⟩) .none rest
    match m.skip cs with
    | [] => none
    | ']' :: rest => some (join m pending ms.whole, rest)
    | '&' :: '&' :: rest => operation .intersection rest
    | '-' :: '-' :: rest => operation .difference rest
    | '~' :: '~' :: rest => operation .symmetricDifference rest
    | '[' :: rest =>
      match posixClass? rest with
      | some (negated, s, rest) => do
        let s ← m.close? negated s
        members? m fuel pending (ms.add ⟨s, 0⟩) rest
      | none => do
        let (negated, inner, rest) ← opening? m rest
        let (inner, rest) ← members? m fuel none inner rest
        let s ← m.close? negated inner.set
        members? m fuel pending (ms.add ⟨s, inner.depth + 1⟩) rest
    | next => do
      let (s, rest) ← member? m next
      members? m fuel pending (ms.add ⟨s, 0⟩) rest

/-- Reads a set after its opening bracket. -/
def bracketed? (m : Modes) (cs : List Char) : Option (Nested × List Char) := do
  let (negated, ms, rest) ← opening? m cs
  let (inner, rest) ← members? m (rest.length + 1) none ms rest
  let s ← m.close? negated inner.set
  return (⟨s, inner.depth + 1⟩, rest)

end PatternLint.SetExpr
