/-!
# Dialects

The syntax of patterns grew over the releases of PCRE. A dialect is a release,
and a feature is supported from the release that brought it.
-/

namespace PatternLint

/-- The releases whose syntax is told apart, oldest first. -/
inductive Dialect where
  | pcre1
  | pcre30
  | pcre34
  | pcre43
  | pcre45
deriving DecidableEq, Repr

/-- The dialect that is used when none is asked for. -/
instance : Inhabited Dialect := ⟨.pcre43⟩

/-- The parts of the syntax that not every release has. -/
inductive Feature where
  /-- A character by its code point: `\N` with `U+` and hex digits in braces. -/
  | codePointEscape
  /-- The inline flag `n`. -/
  | noAutoCapture
  /-- A caret at the start of an inline setting. -/
  | caretReset
  /-- Assertions by name, such as `(*pla:`. -/
  | alphaAssertions
  /-- A repetition that gives only its maximum, and blanks inside braces. -/
  | openLowerBound
  /-- Lookbehinds whose matches differ in length. -/
  | variableLookbehind
  /-- Intersection and subtraction in classes. -/
  | classSetOperations
deriving DecidableEq, Repr

namespace Dialect

/-- The place of a release in the order of releases. -/
def rank : Dialect → Nat
  | pcre1 => 0
  | pcre30 => 1
  | pcre34 => 2
  | pcre43 => 3
  | pcre45 => 4

/-- The name of a dialect in settings. -/
def name : Dialect → String
  | pcre1 => "pcre1"
  | pcre30 => "pcre2_10_30"
  | pcre34 => "pcre2_10_34"
  | pcre43 => "pcre2_10_43"
  | pcre45 => "pcre2_10_45"

/-- All dialects, oldest first. -/
def all : List Dialect := [pcre1, pcre30, pcre34, pcre43, pcre45]

/-- The dialect of a name. -/
def ofName? (s : String) : Option Dialect := all.find? fun d => d.name == s

end Dialect

namespace Feature

/-- The release that brought a feature. -/
def since : Feature → Dialect
  | codePointEscape => .pcre30
  | noAutoCapture => .pcre30
  | caretReset => .pcre34
  | alphaAssertions => .pcre34
  | openLowerBound => .pcre43
  | variableLookbehind => .pcre43
  | classSetOperations => .pcre45

/-- All features, in the order in which they came. -/
def all : List Feature :=
  [codePointEscape, noAutoCapture, caretReset, alphaAssertions, openLowerBound,
   variableLookbehind, classSetOperations]

end Feature

/-- Whether a dialect has a feature. -/
def Dialect.supports (d : Dialect) (f : Feature) : Bool := decide (f.since.rank ≤ d.rank)

end PatternLint
