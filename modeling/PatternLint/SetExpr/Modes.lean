import PatternLint.CharSet.Ascii
import PatternLint.Unicode.Classify

/-!
# Modes of set expressions

A set expression is a text that stands for a set of characters, or for something
longer. It is read under modes, which it may change on its way: without regard
to case, over bytes in place of characters, or spaced out with blanks and
comments that do not count. Everything that skips blanks goes through `span`,
which skips nothing unless the text is spaced.

The linter hands such a text to the library `regex-syntax`, which is no part of it.
The modules of `PatternLint.SetExpr` stand for the parser and the translator of that
library, as far as the linter asks for what they come to: whether a text denotes a
set of characters, and which one.
-/

namespace PatternLint.SetExpr

open Unicode

/-- The modes under which a part of an expression is read. -/
structure Modes where
  caseless : Bool := false
  /-- A dot takes the ends of lines too. -/
  dotAll : Bool := false
  /-- Sets hold characters; otherwise they hold bytes, of which only ASCII ones may be used. -/
  unicode : Bool := true
  /-- A dot stops at a carriage return as well as at a line feed. -/
  carriageReturn : Bool := false
  /-- Blanks and comments do not count. -/
  spaced : Bool := false
deriving DecidableEq, Repr

namespace Modes

/-- Takes the characters that pass a test, blanks and comments left out, and gives the rest from
the first other character that counts. A comment goes from a number sign to the end of its line. -/
def spanFrom (m : Modes) (p : Char → Bool) : (inComment : Bool) → List Char →
    List Char × List Char
  | _, [] => ([], [])
  | true, c :: cs => m.spanFrom p (c != '\n') cs
  | false, c :: cs =>
    if m.spaced && isWhiteSpace c then m.spanFrom p false cs
    else if m.spaced && c == '#' then m.spanFrom p true cs
    else if p c then
      let (taken, rest) := m.spanFrom p false cs
      (c :: taken, rest)
    else ([], c :: cs)

/-- Takes the characters that pass a test, from a place outside comments. -/
def span (m : Modes) (p : Char → Bool) (cs : List Char) : List Char × List Char :=
  m.spanFrom p false cs

/-- Skips what does not count. -/
def skip (m : Modes) (cs : List Char) : List Char := (m.span (fun _ => false) cs).2

/-- The text up to a closing brace, and what follows the brace. -/
def braced? (m : Modes) (cs : List Char) : Option (List Char × List Char) :=
  match m.span (· != '\x7d') cs with
  | (_, []) => none
  | (text, _ :: rest) => some (text, rest)

/-- A glance at the sign that follows. It looks past blanks and past one number sign, but not past
the text of a comment. -/
def glance? (m : Modes) (cs : List Char) : Option Char :=
  if m.spaced then look false cs <|> cs.head? else cs.head?
where
  /-- The first character that is no blank, nor the first number sign. -/
  look : Bool → List Char → Option Char
    | _, [] => none
    | pastSign, c :: cs =>
      if isWhiteSpace c then look pastSign cs
      else if !pastSign && c == '#' then look true cs
      else some c

/-- Adds the case variants if case does not count. Bytes have variants in ASCII only. -/
def fold (m : Modes) (s : CharSet) : CharSet :=
  if !m.caseless then s
  else if m.unicode then s.foldCase
  else s.foldCase.intersect .ascii

/-- Finishes a set: case variants first, then the complement. A complement of bytes would have
bytes that are no ASCII characters. -/
def close? (m : Modes) (negated : Bool) (s : CharSet) : Option CharSet :=
  if negated && !m.unicode then none else some ((m.fold s).negateIf negated)

end Modes

end PatternLint.SetExpr
