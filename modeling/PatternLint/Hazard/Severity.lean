/-!
# Severities

How likely a pattern is to backtrack without end. The known levels are ordered;
`unknown` stands outside of the order, for an analysis that came to no result.
-/

namespace PatternLint

/-- How bad a hazard is. -/
inductive Severity where
  | safe
  | low
  | medium
  | high
  | critical
  | unknown
deriving DecidableEq, Repr, Inhabited

namespace Severity

/-- All levels, the known ones in their order. -/
def all : List Severity := [safe, low, medium, high, critical, unknown]

/-- The place of a known level in the order. -/
def rank? : Severity → Option Nat
  | safe => some 0
  | low => some 1
  | medium => some 2
  | high => some 3
  | critical => some 4
  | unknown => none

/-- The level with a rank; beyond the last one, the last one. -/
def ofRank : Nat → Severity
  | 0 => safe
  | 1 => low
  | 2 => medium
  | 3 => high
  | _ => critical

/-- Whether a level is above a threshold. Nothing is above or below `unknown`. -/
def exceeds (s threshold : Severity) : Bool :=
  match s.rank?, threshold.rank? with
  | some a, some b => decide (b < a)
  | _, _ => false

/-- Whether a level is at the threshold or above it, or one of the two is `unknown`. -/
def atLeast (s threshold : Severity) : Bool := !threshold.exceeds s

/-- The level lowered by some ranks, but not below `low`. Levels that have no rank to lose stay. -/
def reduce (s : Severity) (ranks : Nat) : Severity :=
  match s.rank? with
  | none | some 0 => s
  | some r => ofRank (max (r - ranks) 1)

/-- The higher of two levels. A known level is taken before `unknown`. -/
def higher (s t : Severity) : Severity :=
  match s.rank?, t.rank? with
  | some a, some b => if a < b then t else s
  | none, some _ => t
  | _, none => s

/-- The order of two levels. Both may be `unknown`, but not one alone. -/
def compare? (s t : Severity) : Option Ordering :=
  match s.rank?, t.rank? with
  | some a, some b => some (compare a b)
  | none, none => some .eq
  | _, _ => none

/-- The name of a level. -/
def name : Severity → String
  | safe => "safe"
  | low => "low"
  | medium => "medium"
  | high => "high"
  | critical => "critical"
  | unknown => "unknown"

/-- The name of a level in capitals. -/
def label : Severity → String
  | safe => "SAFE"
  | low => "LOW"
  | medium => "MEDIUM"
  | high => "HIGH"
  | critical => "CRITICAL"
  | unknown => "UNKNOWN"

/-- The level with a name. -/
def ofName? (text : String) : Option Severity := all.find? fun s => s.name == text

/-- The small form of a letter, as far as it can matter in a name: the capitals of ASCII and the
Kelvin sign, whose small form is `k`. -/
def lowerLetter (c : Char) : Char := if c = '\u212a' then 'k' else c.toLower

/-- Reads a level, in capitals or small letters. -/
def ofText? (text : String) : Option Severity :=
  ofName? (String.ofList (text.toList.map lowerLetter))

/-- What is said about a text that is no level. -/
def unknownText (text : String) : String := "Unknown severity: " ++ text

end Severity

end PatternLint
