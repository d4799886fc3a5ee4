import PatternLint.Hazard.Advice
import PatternLint.Hazard.Scan

/-!
# The analysis of a pattern

The findings of the search, in the order of the text, and what follows from them
for the pattern as a whole: a severity, a score, how backtracking grows with the
text, and advice. The analysis never fails; where the search could not see
everything and found nothing bad, the severity is `unknown`.
-/

namespace PatternLint

/-- How the number of steps grows with the length of a text. -/
inductive Growth where
  | linear
  | polynomial
  | exponential
deriving DecidableEq, Repr, Inhabited

/-- The name of a kind of growth. -/
def Growth.name : Growth → String
  | linear => "linear"
  | polynomial => "polynomial"
  | exponential => "exponential"

/-- What the analysis says about a pattern. -/
structure Report where
  severity : Severity
  /-- Between 0 and 100. -/
  score : Nat
  /-- Where the one finding starts that is worse than all others. -/
  culprit : Option Nat
  recommendations : List Recommendation
  findings : List Finding
  growth : Growth
deriving DecidableEq, Repr

namespace Hazard

/-- The finding that a note is. -/
def Note.finding? : Note → Option Finding
  | .finding f => some f
  | .unclear => none

/-- Whether a note says that something could not be told. -/
def Note.isUnclear : Note → Bool
  | .unclear => true
  | .finding _ => false

/-- What a finding adds to the score. -/
def weight (w : ScoreWeights) : Severity → Nat
  | .low => w.low
  | .medium => w.medium
  | .high => w.high
  | .critical => w.critical
  | .safe | .unknown => 0

/-- The largest score. -/
def maxScore : Nat := 100

/-- The score of findings. -/
def score (w : ScoreWeights) (fs : List Finding) : Nat :=
  min (fs.foldr (fun f n => weight w f.severity + n) 0) maxScore

/-- The severity of a pattern. If the search was not `complete`, a result of `low` or less says
nothing. -/
def overall (complete : Bool) (fs : List Finding) : Severity :=
  let worst := fs.foldl (fun s f => s.higher f.severity) .safe
  if !complete && !worst.exceeds .low then .unknown else worst

/-- The start of the one finding that has the severity of the pattern. -/
def culprit? (severity : Severity) (fs : List Finding) : Option Nat :=
  match fs.filter fun f => f.severity == severity with
  | [f] => if severity.exceeds .safe then some f.span.start else none
  | _ => none

/-- Whether the ways to match multiply with every turn in hazards of a kind. -/
def multiplies : HazardKind → Bool
  | .nestedQuantifier | .overlappingAlternation | .backreferenceLoop => true
  | .emptyRepetition | .adjacentQuantifiers => false

/-- How backtracking grows, by the findings that are not mitigated. -/
def growth (fs : List Finding) : Growth :=
  let pressing := fs.filter fun f => !f.mitigated
  if pressing.any fun f => f.severity.atLeast .high && multiplies f.kind then .exponential
  else if pressing.any fun f => f.severity.atLeast .medium then .polynomial
  else .linear

/-- Sums up the end of a search. -/
def summarize (s : AnalysisSettings) (p : Pattern) (found : Outcome Note Profile) : Report :=
  let all := found.notes.filterMap Note.finding?
  let listed := all.filter fun f => s.reportMitigated || !f.mitigated
  let findings := listed.mergeSort fun f g => f.span.before g.span
  let complete := found.value.isOk && !found.guard.tripped && !found.notes.any Note.isUnclear
  let severity := overall complete findings
  { severity
    score := score s.weights findings
    culprit := culprit? severity findings
    recommendations := advice p findings s.maxRecommendations
    findings
    growth := growth findings }

end Hazard

namespace Pattern

/-- Searches a pattern for hazards. -/
def analyze (s : AnalysisSettings) (p : Pattern) : Report :=
  let ctx := Hazard.Context.new p.root p.names
  Hazard.summarize s p (Hazard.scan ctx p.root {} ⟨s.depthLimit, 0, false⟩)

end Pattern

end PatternLint
