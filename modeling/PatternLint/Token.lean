import PatternLint.Atom
import PatternLint.Repeat
import PatternLint.Span
import PatternLint.Text.Bytes

/-!
# Tokens

The words of the pattern language, each with the text that it was read from.
Tokens know nothing of pairing: a parenthesis that closes nothing is a token
like any other.
-/

namespace PatternLint

/-- How a token names a group, before it is known which groups there are. -/
inductive Reference where
  | number (n : Nat)
  | relative (offset : Int)
  | name (s : String)
deriving DecidableEq, Repr, Inhabited

/-- The ways to open a group. -/
inductive Opener where
  | capturing
  | nonCapturing
  | named (name : String)
  | atomic
  | look (assertion : Lookaround)
  | branchReset
  | modifiers (change : FlagChange)
deriving DecidableEq, Repr, Inhabited

/-- The test at the start of a conditional group. An assertion is only opened: its body follows. -/
inductive ConditionToken where
  | reference (ref : Reference)
  | recursion
  | recursionGroup (number : Nat)
  | recursionName (name : String)
  | define
  | assertion (look : Lookaround)
deriving DecidableEq, Repr, Inhabited

/-- The kinds of tokens. -/
inductive TokenKind where
  | literal (c : Char)
  | escaped (value : Char) (form : LiteralForm)
  /-- A backslash and digits outside a class: a reference or an octal number, depending on how many
  groups there are before it. -/
  | numericEscape (n : Nat)
  | shorthand (kind : ShorthandKind) (negated : Bool)
  | anchor (kind : AnchorKind)
  | dot
  | quantifier (count : Repeat)
  | alternation
  | groupOpen (opener : Opener)
  | groupClose
  | inlineFlags (change : FlagChange)
  | classOpen (negated : Bool)
  | classClose
  /-- A hyphen in a class: in a range or for itself. -/
  | classHyphen
  | classIntersection
  | classSubtraction
  | posixClass (name : String) (negated : Bool)
  | backref (ref : Reference)
  | subroutine (ref : Reference)
  | conditionOpen (test : ConditionToken)
  | verb (name : String) (arg : Option String)
  | comment (text : String)
  | callout (arg : CalloutArg)
  | eof
deriving DecidableEq, Repr, Inhabited

/-- A token with its text and the bytes that it covers. -/
structure Token where
  kind : TokenKind
  text : List Char
  start : Nat
  stop : Nat
deriving DecidableEq, Repr, Inhabited

namespace Token

/-- The bytes that a token covers. -/
def span (t : Token) : Span := ⟨t.start, t.stop⟩

/-- The token that ends a text of `size` bytes. -/
def eof (size : Nat) : Token := ⟨.eof, [], size, size⟩

end Token

end PatternLint
