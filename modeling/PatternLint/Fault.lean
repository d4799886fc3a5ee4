import PatternLint.Text.Snippet
import PatternLint.Token.Fault

/-!
# Faults of patterns

Why a pattern is refused. A fault has a kind, a message and in some cases a hint;
an error is a fault at a place, with a snippet of the text around the place.
-/

namespace PatternLint

/-- The kinds of faults. -/
inductive ErrorKind where
  | emptyPattern
  | invalidDelimiter
  | missingDelimiter
  | unknownModifier
  | invalidRange
  | unclosedClass
  | unmatchedParen
  | nothingToRepeat
  | unresolvedBackref
  | unresolvedSubroutine
  | duplicateName
  | invalidGroupName
  | unboundedLookbehind
  | variableLookbehind
  | lookbehindTooLong
  | invalidConditional
  | invalidEscape
  | invalidGroup
  | unknownVerb
  | unknownFlag
  | nestingTooDeep
  | numberTooLarge
  | scan (kind : ScanErrorKind)
deriving DecidableEq, Repr, Inhabited

/-- The kind of a fault that was found while scanning. The kinds that patterns also have for other
reasons are shared. -/
def ErrorKind.ofScan : ScanErrorKind → ErrorKind
  | .invalidEscape => .invalidEscape
  | .numberTooLarge => .numberTooLarge
  | .unknownGroup => .invalidGroup
  | .unknownFlag => .unknownFlag
  | .unknownVerb => .unknownVerb
  | .invalidName => .invalidGroupName
  | kind => .scan kind

/-- What a reference was for. -/
inductive ReferenceUse where
  | backref
  | call
deriving DecidableEq, Repr

/-- The kind of a reference that leads nowhere. -/
def ReferenceUse.kind : ReferenceUse → ErrorKind
  | .backref => .unresolvedBackref
  | .call => .unresolvedSubroutine

/-- Why a pattern is refused. -/
inductive Fault where
  | scan (fault : ScanFault)
  | emptyPattern
  | invalidDelimiter
  | missingDelimiter (close : Char)
  /-- An unknown modifier. If the delimiters are alike, one of them may be the reason. -/
  | unknownModifier (c : Char) (delimiter : Option Char)
  | countsOutOfOrder
  | rangeOutOfOrder
  | rangeOfSets
  | unclosedClass
  | unmatchedClose
  | unclosedGroup
  | nothingToRepeat
  | zeroEscape
  | octalTooLarge
  | relativeToNothing (use : ReferenceUse) (offset : Int)
  | zeroReference (use : ReferenceUse)
  | noSuchGroup (use : ReferenceUse) (number : Nat)
  | noSuchName (use : ReferenceUse) (name : String)
  | nameTaken (name : String)
  | numberNamed (number : Nat)
  | unknownPosixClass (name : String)
  | notInClass
  | unexpectedToken
  | branchesInDefine
  | tooManyBranches
  | nestingLimit (limit : Nat)
  | treeTooDeep (limit : Nat)
  | unboundedLookbehind
  | variableLookbehind
  | lookbehindTooLong (length limit : Nat)
deriving DecidableEq, Repr

/-- A whole number with its sign, also if it is not negative. -/
def signedText (i : Int) : String := if 0 ≤ i then "+" ++ toString i else toString i

namespace Fault

/-- The kind of a fault. -/
def kind : Fault → ErrorKind
  | scan fault => .ofScan fault.kind
  | emptyPattern => .emptyPattern
  | invalidDelimiter => .invalidDelimiter
  | missingDelimiter _ => .missingDelimiter
  | unknownModifier .. => .unknownModifier
  | countsOutOfOrder | rangeOutOfOrder | rangeOfSets => .invalidRange
  | unclosedClass => .unclosedClass
  | unmatchedClose | unclosedGroup => .unmatchedParen
  | nothingToRepeat => .nothingToRepeat
  | zeroEscape => .unresolvedBackref
  | octalTooLarge => .scan .invalidCodePoint
  | relativeToNothing use _ | zeroReference use | noSuchGroup use _ | noSuchName use _ => use.kind
  | nameTaken _ | numberNamed _ => .duplicateName
  | unknownPosixClass _ | notInClass => .invalidEscape
  | unexpectedToken => .invalidGroup
  | branchesInDefine | tooManyBranches => .invalidConditional
  | nestingLimit _ | treeTooDeep _ => .nestingTooDeep
  | unboundedLookbehind => .unboundedLookbehind
  | variableLookbehind => .variableLookbehind
  | lookbehindTooLong .. => .lookbehindTooLong

/-- What is said about a fault. -/
def message : Fault → String
  | scan fault => fault.message
  | emptyPattern => "empty regular expression"
  | invalidDelimiter => "delimiter must not be alphanumeric, backslash, or NUL"
  | missingDelimiter close => "no ending delimiter '" ++ close.toString ++ "' found"
  | unknownModifier c _ => "unknown modifier '" ++ c.toString ++ "'"
  | countsOutOfOrder => "numbers out of order in \x7b\x7d quantifier"
  | rangeOutOfOrder => "range out of order in character class"
  | rangeOfSets => "invalid range in character class"
  | unclosedClass => "missing terminating ] for character class"
  | unmatchedClose => "unmatched closing parenthesis"
  | unclosedGroup => "missing closing parenthesis"
  | nothingToRepeat => "quantifier does not follow a repeatable item"
  | zeroEscape => "\\0 does not refer to a group"
  | octalTooLarge => "octal value is greater than \\377 in 8-bit non-UTF mode"
  | relativeToNothing _ offset =>
    "relative reference " ++ signedText offset ++ " does not denote a group"
  | zeroReference _ => "a numbered reference must not be zero"
  | noSuchGroup _ number => "reference to non-existent group " ++ toString number
  | noSuchName _ name => "reference to non-existent group named '" ++ name ++ "'"
  | nameTaken name => "two named groups have the same name '" ++ name ++ "'"
  | numberNamed number =>
    "different names for groups of the same number " ++ toString number ++ " are not allowed"
  | unknownPosixClass name => "unknown POSIX class name '" ++ name ++ "'"
  | notInClass => "unexpected item in character class"
  | unexpectedToken => "unexpected token"
  | branchesInDefine => "DEFINE group contains more than one branch"
  | tooManyBranches => "conditional subpattern contains more than two branches"
  | nestingLimit limit =>
    "parentheses are too deeply nested (limit is " ++ toString limit ++ ")"
  | treeTooDeep limit => "pattern is nested more than " ++ toString limit ++ " levels deep"
  | unboundedLookbehind | variableLookbehind => "lookbehind assertion is not fixed length"
  | lookbehindTooLong length limit =>
    "lookbehind is too complicated: " ++ toString length ++ " characters exceeds the maximum of " ++
      toString limit

/-- What may help. -/
def hint? : Fault → Option String
  | invalidDelimiter => some "wrap the pattern in a delimiter such as / or #"
  | missingDelimiter close =>
    some ("the closing delimiter is simply missing; end the pattern with '" ++ close.toString ++
      "'")
  | unknownModifier _ (some d) =>
    some ("the delimiter '" ++ d.toString ++
      "' appears unescaped inside the pattern; escape it as \\" ++ d.toString ++
      " or use a different delimiter")
  | unclosedClass => some "close the class with ] or escape the [ as \\["
  | unclosedGroup => some "close the group with )"
  | zeroEscape => some "write a NUL character as \\x\x7b0\x7d or \\o\x7b0\x7d"
  | nameTaken _ => some "rename one of the groups or allow duplicates with (?J)"
  | _ => none

end Fault

/-- A fault at a byte offset. -/
structure Located where
  fault : Fault
  offset : Nat
deriving DecidableEq, Repr

/-- A fault at a byte offset of a text, with a snippet of the text. -/
structure PatternError where
  fault : Fault
  offset : Nat
  snippet : String
deriving DecidableEq, Repr

namespace PatternError

/-- The error of a fault at an offset of `text`. -/
def inText (text : String) (offset : Nat) (fault : Fault) : PatternError :=
  ⟨fault, offset, Text.snippet text offset⟩

/-- The error of a fault that was located in `text`. -/
def ofLocated (text : String) (l : Located) : PatternError := inText text l.offset l.fault

/-- What is said about an error and where it is. -/
def message (e : PatternError) : String :=
  e.fault.message ++ " at offset " ++ toString e.offset

end PatternError

end PatternLint
