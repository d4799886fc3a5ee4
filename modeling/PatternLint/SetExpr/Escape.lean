import PatternLint.SetExpr.Modes
import PatternLint.Text.Digits
import PatternLint.Unicode.Property

/-!
# Signs of set expressions

A sign is a character for itself or an escape. It stands for one character, for
a set of characters, or for a place in the text, such as the edge of a word. The
signs are those of `regex-syntax`.
-/

namespace PatternLint.SetExpr

open Unicode Text

/-- What a sign stands for. -/
inductive Sign where
  /-- One character. A number of two digits names a byte where sets hold bytes. -/
  | char (c : Char) (byByte : Bool)
  | set (s : CharSet)
  | place
deriving DecidableEq, Repr

/-- The letters, marks, digits and connectors that words are made of. -/
def wordRanges : Ranges :=
  (propertyQuery? "alphabetic").getD [] ++ rangesOf categories ["mn", "mc", "me", "nd", "pc"] ++
    rangesOf listedProperties ["joinc"]

/-- Exactly `n` hexadecimal digits. -/
def hexDigits? (m : Modes) : Nat → List Char → Option (List Char × List Char)
  | 0, cs => some ([], cs)
  | _ + 1, [] => none
  | n + 1, c :: cs =>
    if isHexDigit c then (hexDigits? m n (m.skip cs)).map fun (ds, rest) => (c :: ds, rest)
    else none

/-- A character by its hexadecimal number: `width` digits, or any number of them in braces. -/
def hexEscape? (m : Modes) (width : Nat) (cs : List Char) : Option (Sign × List Char) := do
  let body := m.skip cs
  if body.head? = some '\x7b' then
    let (digits, rest) ← m.braced? (body.drop 1)
    if digits.isEmpty || !digits.all isHexDigit then none
    let c ← scalar? (ofDigits 16 digits)
    return (.char c false, m.skip rest)
  else
    let (digits, rest) ← hexDigits? m width body
    let c ← scalar? (ofDigits 16 digits)
    return (.char c (width == 2), rest)

/-- A Unicode property: a query in braces, or a name of one character. -/
def propertyEscape? (m : Modes) (negated : Bool) (cs : List Char) : Option (Sign × List Char) := do
  if !m.unicode then none
  let set (q : Query) : Sign :=
    .set ((m.fold (.ofCodePoints q.ranges)).negateIf (q.negated != negated))
  match m.skip cs with
  | [] => none
  | c :: cs =>
    if c = '\x7b' then
      let (text, rest) ← m.braced? cs
      let q ← query? text
      return (set q, rest)
    else
      let ranges ← nameQuery? (normalName [c])
      return (set ⟨ranges, false⟩, m.skip cs)

/-- Digits, blanks or word characters. The sets are those of Unicode, or of ASCII where sets hold
bytes. -/
def shorthandEscape? (m : Modes) (ranges : Ranges) (ascii : CharSet) (negated : Bool)
    (rest : List Char) : Option (Sign × List Char) :=
  if m.unicode then some (.set ((CharSet.ofCodePoints ranges).negateIf negated), rest)
  else if negated then none
  else some (.set ascii, rest)

/-- The edges of words that have a name. -/
def namedEdges : List String := ["start", "end", "start-half", "end-half"]

/-- The edge of a word, which may have a name in braces. Braces that cannot hold a name are left
alone: they count a repetition. -/
def edgeEscape? (m : Modes) (cs : List Char) : Option (Sign × List Char) := do
  if cs.head? = some '\x7b' then
    let first ← (m.skip (cs.drop 1)).head?
    if isAsciiLetter first || first == '-' then
      let (name, rest) ← m.braced? (cs.drop 1)
      if namedEdges.contains (String.ofList name) then return (.place, rest) else none
    else return (.place, cs)
  else return (.place, cs)

/-- Whether a character stands for itself after a backslash: ASCII, neither letter nor digit, and
not an angle bracket, which is the edge of a word. -/
def isEscapable (c : Char) : Bool :=
  c.toNat < 0x80 && !isAsciiLetter c && !isAsciiDigit c && c != '<' && c != '>'

/-- The escape whose text follows a backslash. -/
def escape? (m : Modes) : List Char → Option (Sign × List Char)
  | [] => none
  | c :: rest =>
    let plain (c : Char) : Option (Sign × List Char) := some (.char c false, rest)
    match c with
    | 'x' => hexEscape? m 2 rest
    | 'u' => hexEscape? m 4 rest
    | 'U' => hexEscape? m 8 rest
    | 'p' => propertyEscape? m false rest
    | 'P' => propertyEscape? m true rest
    | 'd' => shorthandEscape? m (rangesOf categories ["nd"]) .asciiDigit false rest
    | 'D' => shorthandEscape? m (rangesOf categories ["nd"]) .asciiDigit true rest
    | 's' => shorthandEscape? m whiteSpaceRanges .asciiSpace false rest
    | 'S' => shorthandEscape? m whiteSpaceRanges .asciiSpace true rest
    | 'w' => shorthandEscape? m wordRanges .asciiWord false rest
    | 'W' => shorthandEscape? m wordRanges .asciiWord true rest
    | 'a' => plain '\x07'
    | 'f' => plain '\x0c'
    | 't' => plain '\t'
    | 'n' => plain '\n'
    | 'r' => plain '\r'
    | 'v' => plain '\x0b'
    | 'b' => edgeEscape? m rest
    | 'A' | 'z' | 'B' | '<' | '>' => some (.place, rest)
    | _ => if isEscapable c then plain c else none

/-- The sign that comes next. -/
def sign? (m : Modes) : List Char → Option (Sign × List Char)
  | [] => none
  | '\\' :: rest => escape? m rest
  | c :: rest => some (.char c false, rest)

end PatternLint.SetExpr
