import PatternLint.SetExpr.Escape

/-!
# Forms of set expressions

What a part of an expression comes to. An expression denotes a set if its form is
a set, so the rules here decide which expressions do: nothing at all drops out of
a sequence, one repetition of a part is the part itself, a choice between sets is
their union and a choice between single characters is the set of them. A set of
one character is that character, and counts as text. These are the rules by which
`regex-syntax` simplifies an expression.
-/

namespace PatternLint.SetExpr

/-- What a part of an expression comes to. -/
inductive Form where
  /-- Nothing. -/
  | empty
  /-- A text, of one character at least. -/
  | text (cs : List Char)
  /-- A set of at least two characters. -/
  | set (s : CharSet)
  /-- A set of bytes, all of them ASCII, or no byte at all. -/
  | bytes (s : CharSet)
  /-- Anything else; it may be of a kind that takes no text. -/
  | other (zeroWidth : Bool)
deriving DecidableEq, Repr

namespace Form

/-- The form of a set. -/
def ofSet (m : Modes) (s : CharSet) : Form :=
  match s.ranges with
  | [] => .bytes .empty
  | [r] => if r.lo = r.hi then .text [r.lo] else if m.unicode then .set s else .bytes s
  | _ => if m.unicode then .set s else .bytes s

/-- Whether no text can be taken. -/
def zeroWidth : Form → Bool
  | empty => true
  | other z => z
  | text _ | set _ | bytes _ => false

/-- The form of a sign outside brackets. A character gives its case variants with it if case does
not count; a byte has to be ASCII. -/
def ofSign? (m : Modes) : Sign → Option Form
  | .char c byByte =>
    if byByte && !m.unicode && decide (0x80 ≤ c.toNat) then none
    else if m.unicode || c.toNat < 0x80 then some (ofSet m (m.fold (.range c c)))
    else some (.text [c])
  | .set s => some (ofSet m s)
  | .place => some (.other true)

/-- The form of a dot. There is none over bytes. -/
def dot? (m : Modes) : Option Form :=
  if !m.unicode then none
  else if m.dotAll then some (.set .any)
  else if m.carriageReturn then some (.set (CharSet.ofChars ['\n', '\r']).negate)
  else some (.set (CharSet.ofChars ['\n']).negate)

/-- A form repeated between `least` and `most` times. What takes no text need not be repeated more
than once. -/
def repeated (least : Nat) (most : Option Nat) (f : Form) : Form :=
  let least := if f.zeroWidth then min least 1 else least
  let most := if f.zeroWidth then some (min (most.getD 1) 1) else most
  if most = some 0 then .empty
  else if least = 1 && most = some 1 then f
  else .other f.zeroWidth

/-- The characters of a text. -/
def text? : Form → Option (List Char)
  | text cs => some cs
  | _ => none

/-- The one character of a text. -/
def char? : Form → Option Char
  | text [c] => some c
  | _ => none

/-- The set of a form of either kind. -/
def set? : Form → Option CharSet
  | set s | bytes s => some s
  | _ => none

/-- Forms one after the other. -/
def sequence (fs : List Form) : Form :=
  match fs.filter (· ≠ .empty) with
  | [] => .empty
  | [f] => f
  | fs =>
    match fs.mapM text? with
    | some texts => .text texts.flatten
    | none => .other (fs.all zeroWidth)

/-- A choice between several forms. -/
def choice (fs : List Form) : Form :=
  match fs.mapM char?, fs.mapM set? with
  | some cs, _ => ofSet {} (.ofChars cs)
  | none, some sets => ofSet {} (sets.foldl CharSet.union .empty)
  | none, none => .other (fs.all zeroWidth)

end Form

end PatternLint.SetExpr
