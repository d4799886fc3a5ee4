import PatternLint.Unicode.CaseOrbit
import PatternLint.Unicode.NamedSet

/-!
# Sets of characters

A set of characters is a list of ranges in ascending order, with a gap between
any two neighbours. `ofRanges` brings any list of ranges into this form, and the
operations keep it. Code points step over the surrogates: the character after
U+D7FF is U+E000, but ranges that end and start there do not touch, since their
code points are far apart.

The ranges and what is done with them are those of the library `regex-syntax`, which
is no part of the linter: a set of the linter is one of that library. These
definitions stand for it, together with those of `PatternLint.SetExpr` and the tables
of `PatternLint.Unicode`. What the linter relies on of it is in
`PatternLint.Proofs.CharSet.Laws`.
-/

namespace PatternLint

/-- The last character. -/
def lastChar : Char := Char.ofNat 0x10ffff

/-- The character after `c`, over the surrogates. -/
def charAfter (c : Char) : Char :=
  if c.toNat = 0xd7ff then Char.ofNat 0xe000 else Char.ofNat (c.toNat + 1)

/-- The character before `c`, over the surrogates. -/
def charBefore (c : Char) : Char :=
  if c.toNat = 0xe000 then Char.ofNat 0xd7ff else Char.ofNat (c.toNat - 1)

/-- The characters from `lo` to `hi`, both included. -/
structure CharRange where
  lo : Char
  hi : Char
deriving DecidableEq, Repr, Inhabited

namespace CharRange

/-- The range between two characters, whichever comes first. -/
def between (a b : Char) : CharRange := if a ≤ b then ⟨a, b⟩ else ⟨b, a⟩

/-- Whether a character is in the range. -/
def contains (r : CharRange) (c : Char) : Bool := decide (r.lo ≤ c) && decide (c ≤ r.hi)

/-- Whether two ranges share a character or have neighbouring code points. -/
def touches (r s : CharRange) : Bool :=
  decide (max r.lo.toNat s.lo.toNat ≤ min r.hi.toNat s.hi.toNat + 1)

/-- The smallest range with both `r` and `s` in it. -/
def join (r s : CharRange) : CharRange :=
  ⟨if r.lo ≤ s.lo then r.lo else s.lo, if r.hi ≤ s.hi then s.hi else r.hi⟩

/-- The common part of two ranges, if there is one. -/
def meet? (r s : CharRange) : Option CharRange :=
  let lo := if r.lo ≤ s.lo then s.lo else r.lo
  let hi := if r.hi ≤ s.hi then r.hi else s.hi
  if lo ≤ hi then some ⟨lo, hi⟩ else none

/-- What is left of `r` without `s`: nothing, one piece, or one on each side. -/
def minus (r s : CharRange) : List CharRange :=
  match r.meet? s with
  | none => [r]
  | some _ =>
    (if r.lo < s.lo then [⟨r.lo, charBefore s.lo⟩] else []) ++
      (if s.hi < r.hi then [⟨charAfter s.hi, r.hi⟩] else [])

/-- The order of ranges in a set: by the lower end, then by the upper end. -/
def le (r s : CharRange) : Bool :=
  decide (r.lo < s.lo) || (r.lo == s.lo && decide (r.hi ≤ s.hi))

end CharRange

/-- A set of characters. -/
structure CharSet where
  ranges : List CharRange
deriving DecidableEq, Repr

namespace CharSet

/-- Joins each range to the one before it if they touch. The ranges are sorted, and `r` comes
before all others. -/
def glue (r : CharRange) : List CharRange → List CharRange
  | [] => [r]
  | s :: rest => if r.touches s then glue (r.join s) rest else r :: glue s rest

/-- The set of the characters in any of the ranges. -/
def ofRanges (rs : List CharRange) : CharSet :=
  match rs.mergeSort CharRange.le with
  | [] => ⟨[]⟩
  | r :: rest => ⟨glue r rest⟩

/-- The set without members. -/
def empty : CharSet := ⟨[]⟩

instance : Inhabited CharSet := ⟨empty⟩

/-- The set of all characters. -/
def any : CharSet := ⟨[⟨Char.ofNat 0, lastChar⟩]⟩

/-- The characters between two, whichever comes first. -/
def range (a b : Char) : CharSet := ⟨[CharRange.between a b]⟩

/-- The set of a text's characters. -/
def ofChars (cs : List Char) : CharSet := ofRanges (cs.map fun c => ⟨c, c⟩)

/-- The characters with code points in the given ranges. -/
def ofCodePoints (rs : Unicode.Ranges) : CharSet :=
  ofRanges (rs.map fun r => .between (Char.ofNat r.1) (Char.ofNat r.2))

/-- Whether a character is in the set. -/
def contains (s : CharSet) (c : Char) : Bool := s.ranges.any (·.contains c)

/-- Whether the set has no members. -/
def isEmpty (s : CharSet) : Bool := s.ranges.isEmpty

/-- The members of either set. A set that adds nothing leaves the other as it is. -/
def union (s t : CharSet) : CharSet :=
  if t.ranges.isEmpty || s == t then s else ofRanges (s.ranges ++ t.ranges)

/-- The members of both sets. -/
def intersect (s t : CharSet) : CharSet :=
  ⟨s.ranges.flatMap fun r => t.ranges.filterMap r.meet?⟩

/-- The members of `s` that are not in `t`. -/
def subtract (s t : CharSet) : CharSet :=
  ⟨s.ranges.flatMap fun r => t.ranges.foldl (fun pieces u => pieces.flatMap (·.minus u)) [r]⟩

/-- The gaps between ranges and up to the last character, after a range that ends with `hi`. -/
def gapsAfter (hi : Char) : List CharRange → List CharRange
  | [] => if hi < lastChar then [⟨charAfter hi, lastChar⟩] else []
  | r :: rest => CharRange.between (charAfter hi) (charBefore r.lo) :: gapsAfter r.hi rest

/-- The characters that are not in the set. Two ranges that end and start at the surrogates leave
no gap between them, and what stands for that gap is the two characters on its sides. -/
def negate (s : CharSet) : CharSet :=
  match s.ranges with
  | [] => any
  | r :: rest =>
    ⟨(if Char.ofNat 0 < r.lo then [⟨Char.ofNat 0, charBefore r.lo⟩] else []) ++
      gapsAfter r.hi rest⟩

/-- The set or its complement. -/
def negateIf (s : CharSet) (negated : Bool) : CharSet := if negated then s.negate else s

/-- Whether two sets share a member. -/
def intersects (s t : CharSet) : Bool :=
  s.ranges.any fun r => t.ranges.any fun u => (r.meet? u).isSome

/-- Adds the simple case variants of all members. -/
def foldCase (s : CharSet) : CharSet :=
  let variants := (Unicode.caseOrbits.filter fun orbit => orbit.any s.contains).flatten
  ofRanges (s.ranges ++ variants.map fun c => ⟨c, c⟩)

/-- The set or its closure under case variants. -/
def foldCaseIf (s : CharSet) (caseless : Bool) : CharSet := if caseless then s.foldCase else s

/-- The set of one character, with its case variants if case does not count. -/
def single (c : Char) (caseless : Bool) : CharSet := (range c c).foldCaseIf caseless

end CharSet

end PatternLint
