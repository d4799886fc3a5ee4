import PatternLint.Fault
import PatternLint.Node
import PatternLint.Token

/-!
# The members of a character class

A class is read token by token. A hyphen between two members makes a range of
them, unless the class ends after it; so the last member is held back until the
next token shows whether a range follows, and after a hyphen until the token
behind that. Set operations take what has been read so far as their left side.

Taking a token does not depend on how members are made of tokens, so it is written
for any way of making them (`takeVia`, `feedVia`), and the parser's own way is
`member`.
-/

namespace PatternLint.Parse

/-- The member that is held back: none, the last member, or the last member with the hyphen after
it, which is a member itself if no range follows. -/
inductive Pending where
  | none
  | member (node : Node)
  | hyphen (node hyphen : Node)

/-- A class that is being read. The members since the last set operation are kept with the last
one first. -/
structure OpenClass where
  offset : Nat
  negated : Bool
  caseless : Bool
  members : List Node := []
  pending : Pending := .none
  left : Option (Node × ClassOp) := .none

/-- The members of a class as one node. Without members it is the empty node at `offset`. -/
def unionOf (members : List Node) (offset : Nat) : Node :=
  match members with
  | [] => .atom (.point offset) .empty
  | [m] => m
  | m :: rest => .classOp (m.span.cover (rest.getLastD m).span) .union members

/-- A pending set operation with its right side. -/
def setOperation (left : Option (Node × ClassOp)) (right : Node) : Node :=
  match left with
  | none => right
  | some (l, op) => .classOp (l.span.cover right.span) op [l, right]

/-- How members are made of tokens in a class, which may be caseless. -/
abbrev Members := Bool → Token → Except Located Node

/-- The member that a token stands for. -/
def member (caseless : Bool) (t : Token) : Except Located Node :=
  let atom (a : Atom) : Except Located Node := .ok (.atom t.span a)
  match t.kind with
  | .literal c => atom (.literal c .verbatim caseless)
  | .escaped c form => atom (.literal c form caseless)
  | .classHyphen => atom (.literal '-' .verbatim caseless)
  | .shorthand kind negated => atom (.shorthand kind negated)
  | .posixClass name negated =>
    if CharSet.posixClasses.any (·.1 == name) then atom (.posix name negated)
    else .error ⟨.unknownPosixClass name, t.start⟩
  | .classClose | .eof => .error ⟨.unclosedClass, t.start⟩
  | _ => .error ⟨.notInClass, t.start⟩

/-- The range from one member to another; both have to be characters, in order. -/
def rangeOf (first last : Node) : Except Located Node :=
  let span := first.span.cover last.span
  match first, last with
  | .atom _ (.literal a _ _), .atom _ (.literal b _ _) =>
    if a ≤ b then .ok (.atom span (.range a b)) else .error ⟨.rangeOutOfOrder, span.start⟩
  | _, _ => .error ⟨.rangeOfSets, span.start⟩

/-- What a token leads to: the class goes on, or it is complete. -/
inductive ClassStep where
  | more (c : OpenClass)
  | done (node : Node)

namespace OpenClass

/-- The class, closed by a token. -/
def close (c : OpenClass) (t : Token) : Node :=
  .charClass ⟨c.offset, t.stop⟩ c.negated c.caseless
    (setOperation c.left (unionOf c.members.reverse t.start))

/-- Starts a set operation. -/
def operate (c : OpenClass) (op : ClassOp) (t : Token) : OpenClass :=
  { c with
    members := []
    left := some (setOperation c.left (unionOf c.members.reverse t.start), op) }

/-- Takes a token when no member is held back, with members made in the given way. -/
def takeVia (members : Members) (c : OpenClass) (t : Token) : Except Located ClassStep :=
  match t.kind with
  | .classClose => .ok (.done (c.close t))
  | .eof => .error ⟨.unclosedClass, c.offset⟩
  | .classIntersection => .ok (.more (c.operate .intersection t))
  | .classSubtraction => .ok (.more (c.operate .subtraction t))
  | _ =>
    match members c.caseless t with
    | .error e => .error e
    | .ok m => .ok (.more { c with pending := .member m })

/-- Takes a token, with members made in the given way. -/
def feedVia (members : Members) (c : OpenClass) (t : Token) : Except Located ClassStep :=
  match c.pending with
  | .none => c.takeVia members t
  | .member m =>
    if t.kind = .classHyphen then
      .ok (.more { c with
        pending := .hyphen m (.atom t.span (.literal '-' .verbatim c.caseless)) })
    else takeVia members { c with members := m :: c.members, pending := .none } t
  | .hyphen m h =>
    match t.kind with
    | .classClose => .ok (.done (close { c with members := h :: m :: c.members } t))
    | .eof => .error ⟨.unclosedClass, c.offset⟩
    | _ =>
      match members c.caseless t with
      | .error e => .error e
      | .ok last =>
        match rangeOf m last with
        | .error e => .error e
        | .ok range => .ok (.more { c with members := range :: c.members, pending := .none })

/-- Takes a token when no member is held back. -/
def take (c : OpenClass) (t : Token) : Except Located ClassStep := c.takeVia member t

/-- Takes a token. -/
def feed (c : OpenClass) (t : Token) : Except Located ClassStep := c.feedVia member t

end OpenClass

end PatternLint.Parse
