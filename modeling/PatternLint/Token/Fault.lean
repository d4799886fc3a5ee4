/-!
# Faults in the words of a pattern

Why a text cannot be divided into tokens. Each fault has a kind, which groups it
with others of the same sort, and a message.
-/

namespace PatternLint

/-- The kinds of scanning faults. -/
inductive ScanErrorKind where
  | unterminatedEscape
  | trailingBackslash
  | unterminatedComment
  | unterminatedVerb
  | malformedEscape
  | unsupportedEscape
  | invalidCodePoint
  | malformedCallout
  | invalidEscape
  | numberTooLarge
  | unknownGroup
  | unknownFlag
  | unknownVerb
  | invalidName
deriving DecidableEq, Repr, Inhabited

/-- The escapes that take text in braces. -/
inductive BracedEscape where
  | octal
  | hex
  | codePoint
  | property
  | reference
deriving DecidableEq, Repr

/-- The escape as it is written up to the text in its braces. -/
def BracedEscape.written : BracedEscape → String
  | octal => "\\o\x7b"
  | hex => "\\x\x7b"
  | codePoint => "\\N\x7bU+"
  | property => "\\p\x7b"
  | reference => "\\g\x7b"

/-- Why a text cannot be divided into tokens. -/
inductive ScanFault where
  | backslashAtEnd
  | controlAtEnd
  | unclosedBrace (escape : BracedEscape)
  | unclosedCall (close : Char)
  | unclosedBackref (close : Char)
  | unclosedComment
  | unclosedVerb
  | notOctal
  | notHex
  | notHexCodePoint
  | notControl
  | malformedProperty
  | unknownProperty (name : String)
  | malformedCall
  | malformedBackref
  | unknownEscape (c : Char)
  | codePointOutsideUtf
  | tooLargeOutsideUtf
  | notCharacter (value : Nat)
  | octalTooLarge
  | hexTooLarge
  | codePointTooLarge
  | malformedCallout
  | notInClass (c : Char)
  | numberTooLarge
  | countTooLarge
  | nothingAfterQuestion
  | unknownAfterP
  | unclosedRecursion
  | notAssertion
  | malformedCondition
  | unclosedFlags
  | unknownGroup (c : Char)
  | unknownFlag (c : Char)
  | unsupportedAssertion (name : String)
  | unknownVerb (name : String)
  | invalidName (name : String)
  | nameTooLong (name : String)
  | unclosedName (close : Char)
deriving DecidableEq, Repr

/-- The longest name of a group. -/
def maxNameLength : Nat := 32

/-- A number in hexadecimal, in capitals. -/
def upperHex (n : Nat) : String := String.ofList ((Nat.toDigits 16 n).map Char.toUpper)

namespace ScanFault

/-- The kind of a fault. -/
def kind : ScanFault → ScanErrorKind
  | backslashAtEnd | controlAtEnd => .trailingBackslash
  | unclosedBrace _ | unclosedCall _ | unclosedBackref _ => .unterminatedEscape
  | unclosedComment => .unterminatedComment
  | unclosedVerb => .unterminatedVerb
  | notOctal | notHex | notHexCodePoint | notControl | malformedProperty | unknownProperty _
  | malformedCall | malformedBackref => .malformedEscape
  | unknownEscape _ | codePointOutsideUtf => .unsupportedEscape
  | tooLargeOutsideUtf | notCharacter _ | octalTooLarge | hexTooLarge | codePointTooLarge =>
    .invalidCodePoint
  | malformedCallout => .malformedCallout
  | notInClass _ => .invalidEscape
  | numberTooLarge | countTooLarge => .numberTooLarge
  | nothingAfterQuestion | unknownAfterP | unclosedRecursion | notAssertion | malformedCondition
  | unclosedFlags | unknownGroup _ => .unknownGroup
  | unknownFlag _ => .unknownFlag
  | unsupportedAssertion _ | unknownVerb _ => .unknownVerb
  | invalidName _ | nameTooLong _ | unclosedName _ => .invalidName

/-- What is said about a fault. -/
def message : ScanFault → String
  | backslashAtEnd => "\\ at end of pattern"
  | controlAtEnd => "\\c at end of pattern"
  | unclosedBrace escape => "missing closing \x7d for " ++ escape.written
  | unclosedCall close => "missing closing " ++ close.toString ++ " for \\g subroutine call"
  | unclosedBackref close => "missing closing " ++ close.toString ++ " for \\k reference"
  | unclosedComment => "missing ) after (?# comment"
  | unclosedVerb => "missing ) after (*VERB"
  | notOctal => "non-octal character in \\o\x7b\x7d"
  | notHex => "non-hex character in \\x\x7b\x7d"
  | notHexCodePoint => "non-hex character in \\N\x7bU+\x7d"
  | notControl => "\\c must be followed by a printable ASCII character"
  | malformedProperty => "malformed \\P or \\p sequence"
  | unknownProperty name => "unknown property name '" ++ name ++ "' after \\P or \\p"
  | malformedCall =>
    "\\g is not followed by a braced, angle-bracketed, or quoted name/number or by a plain number"
  | malformedBackref => "\\k is not followed by a braced, angle-bracketed, or quoted name"
  | unknownEscape c => "unrecognized character follows \\: '" ++ c.toString ++ "'"
  | codePointOutsideUtf => "\\N\x7bU+dddd\x7d is supported only in UTF mode"
  | tooLargeOutsideUtf => "character code point value is too large outside UTF mode"
  | notCharacter value => "invalid code point U+" ++ upperHex value
  | octalTooLarge => "octal value is too large"
  | hexTooLarge => "hex value is too large"
  | codePointTooLarge => "code point is too large"
  | malformedCallout => "malformed callout after (?C"
  | notInClass c => "escape sequence \\" ++ c.toString ++ " is invalid in character class"
  | numberTooLarge => "number is too big"
  | countTooLarge => "number too big in \x7b\x7d quantifier (maximum is 65535)"
  | nothingAfterQuestion => "unrecognized character after (?"
  | unknownAfterP => "unrecognized character after (?P"
  | unclosedRecursion => "(?R (recursive pattern call) must be followed by )"
  | notAssertion => "assertion expected after (?( or (?(?C)"
  | malformedCondition => "malformed number or name after (?("
  | unclosedFlags => "missing ) after (? flags"
  | unknownGroup c => "unrecognized character after (? or (?-: '" ++ c.toString ++ "'"
  | unknownFlag c => "unknown inline flag '" ++ c.toString ++ "'"
  | unsupportedAssertion name => "(*" ++ name ++ ": is not supported by this PCRE version"
  | unknownVerb name => "(*VERB) not recognized or malformed: (*" ++ name ++ ")"
  | invalidName name => "invalid group name '" ++ name ++ "'"
  | nameTooLong name => "group name '" ++ name ++ "' is too long (maximum is 32)"
  | unclosedName close => "group name must be terminated by " ++ close.toString

end ScanFault

/-- A scanning fault at a byte offset. -/
structure ScanError where
  fault : ScanFault
  offset : Nat
deriving DecidableEq, Repr

/-- What is said about a fault and where it is. -/
def ScanError.message (e : ScanError) : String :=
  e.fault.message ++ " at offset " ++ toString e.offset

end PatternLint
