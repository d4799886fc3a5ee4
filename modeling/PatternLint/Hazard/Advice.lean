import PatternLint.Hazard.Finding
import PatternLint.Pattern

/-!
# Advice

What to do about findings. Most of them go away if a repetition is made possessive
or put into an atomic group, and the advice then says what to write instead.
-/

namespace PatternLint

/-- A change that takes a hazard away. -/
structure Recommendation where
  /-- The part to change. -/
  span : Span
  /-- Its text. -/
  current : String
  /-- What to write instead, if that can be told. -/
  replacement : Option String
  message : String
deriving DecidableEq, Repr

namespace Node

/-- The repetition at a span: its count and its target. Only nodes around the span are looked
into. -/
def quantifierAt? (span : Span) : Node → Option (Repeat × Node) :=
  foldTree fun n below =>
    let inside := if n.span.contains span then below.findSome? id else none
    match n with
    | .quantifier s count target => if s = span then some (count, target) else inside
    | _ => inside

end Node

namespace Hazard

/-- The advice for a finding about the repetition at `f.loop`, which has the given count and
target. -/
def adviceFor (p : Pattern) (f : Finding) (count : Repeat) (target : Node) : List Recommendation :=
  let current := p.fragment f.loop
  let whole := Node.quantifier f.loop count target
  let isolated : Recommendation :=
    { span := f.loop, current, replacement := whole.atomic.text?
      message := "wrap the repetition in an atomic group" }
  match f.kind with
  | .nestedQuantifier | .emptyRepetition =>
    [{ span := f.loop, current
       replacement := (Node.quantifier f.loop count target.possessive).text?
       message := "make the inner repetition possessive" },
     isolated]
  | .overlappingAlternation | .backreferenceLoop =>
    { span := f.loop, current, replacement := whole.possessive.text?
      message := "make the repetition possessive" } ::
      if count.isUnbounded then [isolated] else []
  | .adjacentQuantifiers =>
    [{ span := f.span, current := p.fragment f.span, replacement := none
       message := "merge the adjacent repetitions or give them disjoint character sets" }]

/-- Adds the advice for a finding, unless there is advice for its repetition already. -/
def addAdvice (p : Pattern) (soFar : List Recommendation) (f : Finding) : List Recommendation :=
  match p.root.quantifierAt? f.loop with
  | none => soFar
  | some (count, target) =>
    if soFar.any fun r => r.span == f.loop then soFar else soFar ++ adviceFor p f count target

/-- The rank by which findings are ordered for advice. -/
def urgency (f : Finding) : Nat := f.severity.rank?.elim 0 (· + 1)

/-- The first `limit` pieces of advice for the findings that are not mitigated, the worst first. -/
def advice (p : Pattern) (fs : List Finding) (limit : Nat) : List Recommendation :=
  let pressing := fs.filter fun f => !f.mitigated
  let ranked := pressing.mergeSort fun f g => decide (urgency g ≤ urgency f)
  (ranked.foldl (addAdvice p) []).take limit

end Hazard

end PatternLint
