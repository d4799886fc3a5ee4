/-!
# Named sets of code points

Unicode data is given as sets of code points under names. A set is written as
rows of hexadecimal ranges in ascending order, `41-5a` for several code points
and `aa` for one. Names are in normal form: small letters and digits, without
blanks, hyphens and underscores.

The data is that of the library `regex-syntax`, which has it as tables of its own. The
modules of `PatternLint.Unicode` stand for these tables and for the way a query is
looked up in them; `PatternLint.Unicode.Classify` alone is about the characters of the
linter's own text.
-/

namespace PatternLint.Unicode

/-- Ranges of code points, both ends included. -/
abbrev Ranges := List (Nat × Nat)

/-- The value of a hexadecimal digit; other characters count as zero. -/
def hexDigit (c : Char) : Nat :=
  if '0' ≤ c ∧ c ≤ '9' then c.toNat - '0'.toNat
  else if 'a' ≤ c ∧ c ≤ 'f' then c.toNat - 'a'.toNat + 10
  else 0

/-- The value of a hexadecimal number. -/
def hexNumber (cs : List Char) : Nat := cs.foldl (fun n c => 16 * n + hexDigit c) 0

/-- A range as it is written in a row. -/
def readRange (word : List Char) : Nat × Nat :=
  match word.span (· ≠ '-') with
  | (lo, []) => (hexNumber lo, hexNumber lo)
  | (lo, _ :: hi) => (hexNumber lo, hexNumber hi)

/-- The ranges of several rows. -/
def readRows (rows : List String) : Ranges :=
  rows.flatMap fun row => (row.splitOn " ").map fun word => readRange word.toList

/-- A set under its names. -/
structure NamedSet where
  names : List String
  rows : List String

namespace NamedSet

/-- The ranges of a set. -/
def ranges (s : NamedSet) : Ranges := readRows s.rows

/-- The set of a name, among several. -/
def find? (sets : List NamedSet) (name : String) : Option NamedSet :=
  sets.find? fun s => s.names.contains name

end NamedSet

/-- Whether a code point is in one of the ranges. -/
def Ranges.has (rs : Ranges) (n : Nat) : Bool := rs.any fun r => decide (r.1 ≤ n ∧ n ≤ r.2)

/-- What is left of a range when another is taken out of it. -/
def remains (cut r : Nat × Nat) : Ranges :=
  if r.2 < cut.1 ∨ cut.2 < r.1 then [r]
  else (if r.1 < cut.1 then [(r.1, cut.1 - 1)] else []) ++
    (if cut.2 < r.2 then [(cut.2 + 1, r.2)] else [])

/-- Ranges without the code points of one range. -/
def Ranges.without (rs : Ranges) (cut : Nat × Nat) : Ranges := rs.flatMap (remains cut)

end PatternLint.Unicode
