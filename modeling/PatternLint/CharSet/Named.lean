import PatternLint.SetExpr.Reader

/-!
# Sets that patterns name

The sets behind shorthand escapes, properties and POSIX classes. Digits, word
characters and spaces are the ASCII ones. A name that denotes no set of at least
two characters stands for every character, so that no overlap of two sets is
ever missed.
-/

namespace PatternLint

/-- What a shorthand escape stands for. -/
inductive ShorthandKind where
  | digit
  | word
  | space
  | horizontalSpace
  | verticalSpace
  | newline
  | notNewline
  | grapheme
  | codeUnit
  | property (name : String)
deriving DecidableEq, Repr, Inhabited

namespace CharSet

/-- The horizontal blanks. -/
def horizontalSpace : CharSet :=
  ofCodePoints [(0x9, 0x9), (0x20, 0x20), (0xa0, 0xa0), (0x1680, 0x1680), (0x180e, 0x180e),
    (0x2000, 0x200a), (0x202f, 0x202f), (0x205f, 0x205f), (0x3000, 0x3000)]

/-- The characters that end a line. -/
def verticalSpace : CharSet := ofCodePoints [(0xa, 0xd), (0x85, 0x85), (0x2028, 0x2029)]

/-- The set of a Unicode property. The name is put into the braces of a property escape and the
whole is read as a set expression, so a name with a brace in it can go on after the escape. `L&` is
another name for the cased letters. -/
def property (name : String) : CharSet :=
  let found (name : String) : CharSet :=
    (SetExpr.set? ("\\p\x7b" ++ name ++ "\x7d").toList).getD any
  match name with
  | "Any" => any
  | "L&" => found "LC"
  | _ => found name

/-- The set of a POSIX class or its complement. The name is put into the brackets of such a class
and the whole is read as a set expression, so a name that is no class gives a set of its
characters, and one with brackets, escapes or operators in it gives what these come to. -/
def posix (name : String) (negated : Bool) : CharSet :=
  ((SetExpr.set? ("[[:" ++ name ++ ":]]").toList).getD any).negateIf negated

/-- The set that a shorthand names. A line break or a grapheme may have several characters; their
set is that of the characters they can start with. -/
def ofShorthand : ShorthandKind → CharSet
  | .digit => asciiDigit
  | .word => asciiWord
  | .space => asciiSpace
  | .horizontalSpace => horizontalSpace
  | .verticalSpace => verticalSpace
  | .newline => verticalSpace
  | .notNewline => (single '\n' false).negate
  | .grapheme => any
  | .codeUnit => any
  | .property name => property name

/-- The set of a shorthand or its complement. -/
def shorthand (kind : ShorthandKind) (negated : Bool) : CharSet :=
  (ofShorthand kind).negateIf negated

end CharSet

end PatternLint
