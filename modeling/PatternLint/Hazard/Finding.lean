import PatternLint.Hazard.Severity
import PatternLint.Span

/-!
# Findings

A finding is a place in a pattern where backtracking can get out of hand.
-/

namespace PatternLint

/-- What makes a place hazardous. -/
inductive HazardKind where
  /-- An unbounded repetition of something with an unbounded repetition in it, as `(a+)+`. -/
  | nestedQuantifier
  /-- Branches under a repetition that can begin alike, as `(a|ab)*`. -/
  | overlappingAlternation
  /-- A reference, under an unbounded repetition, to a group that is repeated, as `(?:(a+)\1)+`. -/
  | backreferenceLoop
  /-- An unbounded repetition of something that can match nothing, as `(a?)*`. -/
  | emptyRepetition
  /-- Unbounded repetitions after one another that can match the same, as `\d+\d+`. -/
  | adjacentQuantifiers
deriving DecidableEq, Repr, Inhabited

/-- The name of a kind of hazard. -/
def HazardKind.name : HazardKind → String
  | nestedQuantifier => "nested_quantifier"
  | overlappingAlternation => "overlapping_alternation"
  | backreferenceLoop => "backreference_loop"
  | emptyRepetition => "empty_repetition"
  | adjacentQuantifiers => "adjacent_quantifiers"

/-- A hazardous place. -/
structure Finding where
  kind : HazardKind
  span : Span
  severity : Severity
  /-- Whether an atomic group or a possessive repetition takes the edge off. -/
  mitigated : Bool
  /-- How deeply unbounded repetitions are nested here. -/
  height : Nat
  /-- The repetition to change. -/
  loop : Span
deriving DecidableEq, Repr

namespace Finding

/-- The number of ranks that mitigation takes off. -/
def relief : Nat := 2

/-- A finding whose severity is lowered if it is mitigated. -/
def of (kind : HazardKind) (span : Span) (severity : Severity) (mitigated : Bool) (height : Nat)
    (loop : Span) : Finding :=
  { kind, span, mitigated, height, loop
    severity := if mitigated then severity.reduce relief else severity }

end Finding

end PatternLint
