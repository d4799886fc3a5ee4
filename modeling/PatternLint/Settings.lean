import PatternLint.Dialect

/-!
# Settings

What a caller may choose: which dialect is read and how deep and how long its
constructs may get, and how the hazards that are found are weighed. Sizes are
counts that fit in 64 bits and weights fit in 32; `Settings.Value` reads and
writes them under these limits.
-/

namespace PatternLint

/-- The largest count: 64 bits, all set. Sums and products of counts stop here. -/
def maxCount : Nat := 0xffffffffffffffff

/-- The sum of two counts, or the largest count if the sum is beyond it. -/
def satAdd (a b : Nat) : Nat := min (a + b) maxCount

/-- The product of two counts, or the largest count if the product is beyond it. -/
def satMul (a b : Nat) : Nat := min (a * b) maxCount

/-- How patterns are read. -/
structure ParserSettings where
  dialect : Dialect := .pcre43
  /-- How many parentheses may be open at once. -/
  nestLimit : Nat := 250
  /-- The longest match of a lookbehind that is not of fixed length. -/
  maxLookbehind : Nat := 255
  /-- Whether a lookbehind may have matches of any length. -/
  allowUnboundedLookbehind : Bool := false
deriving DecidableEq, Repr, Inhabited

/-- What a hazard of each severity adds to the score. -/
structure ScoreWeights where
  low : Nat := 3
  medium : Nat := 10
  high : Nat := 25
  critical : Nat := 40
deriving DecidableEq, Repr, Inhabited

/-- How patterns are analyzed. -/
structure AnalysisSettings where
  /-- How deep the traversal may go. -/
  depthLimit : Nat := 1024
  /-- Whether hazards that the pattern itself defuses are listed. -/
  reportMitigated : Bool := true
  /-- The longest list of recommendations. -/
  maxRecommendations : Nat := 8
  weights : ScoreWeights := {}
deriving DecidableEq, Repr, Inhabited

end PatternLint
