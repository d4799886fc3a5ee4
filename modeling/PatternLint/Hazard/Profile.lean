import PatternLint.CharSet

/-!
# Profiles

What the analysis knows about the matches of a part of a pattern: whether they can
be empty, with which characters they can begin and end, and how deeply unbounded
repetitions are nested in it.
-/

namespace PatternLint

/-- What is known about the matches of a part of a pattern. -/
structure Profile where
  /-- A match can be empty. -/
  nullable : Bool := true
  /-- A match can have a character. -/
  consumes : Bool := false
  /-- The characters that a match can begin with. -/
  first : CharSet := .empty
  /-- The characters that a match can end with. -/
  last : CharSet := .empty
  /-- The deepest nesting of unbounded repetitions. -/
  height : Nat := 0
  /-- The deepest nesting of those that can give back what they took. -/
  openHeight : Nat := 0
deriving DecidableEq, Repr

namespace Profile

/-- Only the empty match. -/
def blank : Profile := {}

instance : Inhabited Profile := ⟨blank⟩

/-- One character of a set. -/
def single (s : CharSet) : Profile := { nullable := false, consumes := true, first := s, last := s }

/-- Matches that may consist of anything. -/
def arbitrary (nullable consumes : Bool) : Profile :=
  let set := if consumes then CharSet.any else .empty
  { nullable, consumes, first := set, last := set }

/-- A match of one part and then of another. -/
def andThen (p q : Profile) : Profile where
  nullable := p.nullable && q.nullable
  consumes := p.consumes || q.consumes
  first := if p.nullable then p.first.union q.first else p.first
  last := if q.nullable then q.last.union p.last else q.last
  height := max p.height q.height
  openHeight := max p.openHeight q.openHeight

/-- A match of either part. -/
def or (p q : Profile) : Profile where
  nullable := p.nullable || q.nullable
  consumes := p.consumes || q.consumes
  first := p.first.union q.first
  last := p.last.union q.last
  height := max p.height q.height
  openHeight := max p.openHeight q.openHeight

/-- Matches of several parts in turn. -/
def sequence (ps : List Profile) : Profile := ps.foldl andThen blank

/-- A match of any of several parts. -/
def anyOf : List Profile → Profile
  | [] => blank
  | p :: ps => ps.foldl or p

/-- Whether two parts can both match something that begins with the same character. -/
def overlaps (p q : Profile) : Bool := p.consumes && q.consumes && p.first.intersects q.first

/-- Whether two of several parts overlap. -/
def anyOverlap : List Profile → Bool
  | [] => false
  | p :: ps => ps.any p.overlaps || anyOverlap ps

end Profile

end PatternLint
