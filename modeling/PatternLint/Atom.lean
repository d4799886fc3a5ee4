import PatternLint.CharSet.Named
import PatternLint.Group

/-!
# Atoms

The parts of a pattern that have no parts of their own.
-/

namespace PatternLint

/-- How a literal character was written. -/
inductive LiteralForm where
  /-- As itself. -/
  | verbatim
  /-- After a backslash. -/
  | punctuation
  /-- By a letter, as `\n`. -/
  | special
  /-- As a control character, as `\cA`. -/
  | control
  /-- By its number in octal. -/
  | octal
  /-- By its number in hexadecimal. -/
  | hex
  /-- By its code point. -/
  | codePoint
  /-- Between `\Q` and `\E`. -/
  | quoted
deriving DecidableEq, Repr, Inhabited

/-- Tests of a place that consume nothing. -/
inductive AnchorKind where
  | start
  | stop
  | wordBoundary
  | notWordBoundary
  | startText
  | endText
  | endTextOptionalNewline
  | previousMatchEnd
  | keepOut
deriving DecidableEq, Repr, Inhabited

/-- What a callout passes on. -/
inductive CalloutArg where
  | number (n : Nat)
  | text (s : String)
deriving DecidableEq, Repr, Inhabited

/-- A part of a pattern without parts of its own. Ranges and POSIX classes stand in character
classes. -/
inductive Atom where
  | empty
  | literal (value : Char) (form : LiteralForm) (caseless : Bool)
  | dot (dotAll : Bool)
  | shorthand (kind : ShorthandKind) (negated : Bool)
  | range (first last : Char)
  | posix (name : String) (negated : Bool)
  | backref (ref : GroupRef) (caseless : Bool)
  | subroutine (target : CallTarget)
  | anchor (kind : AnchorKind) (multiline : Bool)
  | inlineFlags (change : FlagChange)
  | verb (name : String) (arg : Option String)
  | callout (arg : CalloutArg)
  | comment (text : String)
deriving DecidableEq, Repr, Inhabited

namespace Atom

/-- Whether the atom never consumes anything, whatever the pattern around it. -/
def isZeroWidth : Atom → Bool
  | empty | anchor .. | inlineFlags .. | verb .. | callout .. | comment .. => true
  | _ => false

end Atom

/-- The settings that may stand at the start of a pattern, as `(*UTF)`. -/
def startSettings : List String :=
  ["UTF", "UTF8", "UCP", "CR", "LF", "CRLF", "ANYCRLF", "ANY", "NUL", "BSR_ANYCRLF", "BSR_UNICODE",
   "NO_AUTO_POSSESS", "NO_DOTSTAR_ANCHOR", "NO_JIT", "NO_START_OPT", "NOTEMPTY",
   "NOTEMPTY_ATSTART", "LIMIT_MATCH", "LIMIT_DEPTH", "LIMIT_RECURSION", "LIMIT_HEAP"]

/-- Whether a verb's name is that of a start setting. -/
def isStartSetting (name : String) : Bool := startSettings.contains name

end PatternLint
