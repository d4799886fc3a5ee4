/-!
# Option flags

A pattern is matched under a word of option flags. Modifier letters after the
closing delimiter set flags for the whole pattern, and inline settings such as
`(?i-s)` change them from where they stand. Both use the same word, so that the
flags in force at a place are one value.

A word is 32 bits wide. Bits without a letter are kept as they are.
-/

namespace PatternLint

/-- A word of option flags. -/
abbrev Flags := BitVec 32

namespace Flags

/-- Letters match without regard to case. -/
def caseless : Flags := 0x1#32
/-- `^` and `$` match at line breaks too. -/
def multiline : Flags := 0x2#32
/-- A dot matches a newline too. -/
def dotAll : Flags := 0x4#32
/-- Blanks and `#` comments outside classes are skipped. -/
def extended : Flags := 0x8#32
/-- Spaces and tabs inside classes are skipped too. -/
def extendedMore : Flags := 0x10#32
/-- The pattern and its subject are Unicode text. -/
def unicode : Flags := 0x20#32
/-- Quantifiers are lazy unless marked. -/
def swapGreed : Flags := 0x40#32
/-- A name may be given to groups of different numbers. -/
def duplicateNames : Flags := 0x80#32
/-- Plain parentheses do not capture. -/
def noAutoCapture : Flags := 0x100#32
/-- A match starts only at the start of the subject. -/
def anchored : Flags := 0x200#32
/-- `$` matches only at the very end. -/
def dollarEndOnly : Flags := 0x400#32
/-- Extra strictness. -/
def extra : Flags := 0x800#32
/-- The pattern is studied before use. -/
def study : Flags := 0x1000#32
/-- Case variants do not cross between ASCII and the rest. -/
def caselessRestrict : Flags := 0x2000#32

/-- The two flags that decide which blanks are skipped. -/
def spacing : Flags := extended ||| extendedMore

/-- The flags that a caret in an inline setting clears. -/
def resettable : Flags :=
  caseless ||| multiline ||| dotAll ||| extended ||| extendedMore ||| noAutoCapture

/-- Whether any of `bits` is set in `f`. -/
def has (f bits : Flags) : Bool := f &&& bits != 0#32

/-- The modifier letters in the order in which they are written. -/
def modifiers : List (Char × Flags) :=
  [('i', caseless), ('m', multiline), ('s', dotAll), ('x', extended), ('u', unicode),
   ('U', swapGreed), ('J', duplicateNames), ('n', noAutoCapture), ('A', anchored),
   ('D', dollarEndOnly), ('X', extra), ('S', study), ('r', caselessRestrict)]

/-- The flag of a modifier letter. -/
def ofModifier? (c : Char) : Option Flags := modifiers.lookup c

/-- Blanks that may stand between modifier letters. -/
def isModifierBlank (c : Char) : Bool := c == ' ' || c == '\n' || c == '\r'

/-- A character that is no modifier, with its byte offset in the modifier text. -/
structure UnknownModifier where
  offset : Nat
  char : Char
deriving DecidableEq, Repr

/-- Reads modifier letters, of which the first stands at byte `offset`. -/
def readModifiers (offset : Nat) : List Char → Except UnknownModifier Flags
  | [] => .ok 0
  | c :: cs =>
    if isModifierBlank c then readModifiers (offset + c.utf8Size) cs
    else
      match ofModifier? c with
      | none => .error ⟨offset, c⟩
      | some bit =>
        match readModifiers (offset + c.utf8Size) cs with
        | .error e => .error e
        | .ok rest => .ok (bit ||| rest)

/-- Reads a text of modifier letters. -/
def ofModifiers (text : String) : Except UnknownModifier Flags := readModifiers 0 text.toList

/-- The flags of the modifier letters in a text; other characters count for nothing. -/
def ofKnownModifiers (text : String) : Flags :=
  text.toList.foldl (fun f c => f ||| (ofModifier? c).getD 0) 0

/-- The modifier letters of a word, each once. -/
def letters (f : Flags) : String :=
  String.ofList ((modifiers.filter fun m => f.has m.2).map (·.1))

/-- The flag that a letter changes in an inline setting. -/
def ofInline? : Char → Option Flags
  | 'i' => some caseless
  | 'm' => some multiline
  | 's' => some dotAll
  | 'x' => some extended
  | 'U' => some swapGreed
  | 'J' => some duplicateNames
  | 'n' => some noAutoCapture
  | _ => none

/-- The letters of an inline setting that have one letter each, in the order in which they are
written. -/
def inlineLetters : List (Char × Flags) :=
  [('i', caseless), ('J', duplicateNames), ('m', multiline), ('n', noAutoCapture), ('s', dotAll),
   ('U', swapGreed)]

/-- The letters by which an inline setting names the flags of a word. -/
def toInline (f : Flags) : List Char :=
  (inlineLetters.filter fun m => f.has m.2).map (·.1) ++
    if f.has extendedMore then ['x', 'x'] else if f.has extended then ['x'] else []

end Flags

/-- An inline setting: flags to set, flags to clear, and whether the resettable flags are cleared
first. -/
structure FlagChange where
  on : Flags := 0
  off : Flags := 0
  reset : Bool := false
deriving DecidableEq, Repr, Inhabited

namespace FlagChange

/-- The flags after the change; a flag both set and cleared ends up clear. -/
def apply (m : FlagChange) (current : Flags) : Flags :=
  let base := if m.reset then current &&& ~~~Flags.resettable else current
  (base ||| m.on) &&& ~~~m.off

/-- Whether the change leaves `current` as it is. -/
def isNoop (m : FlagChange) (current : Flags) : Bool := m.apply current == current

/-- The named flags that already have the wanted value. After a reset none counts. -/
def redundant (m : FlagChange) (current : Flags) : Flags :=
  if m.reset then 0 else (m.on &&& current) ||| (m.off &&& ~~~current)

/-- The flags that are both set and cleared. -/
def conflicting (m : FlagChange) : Flags := m.on &&& m.off

/-- The setting as it is written between `(?` and `)` or `:`. -/
def letters (m : FlagChange) : String :=
  String.ofList
    ((if m.reset then ['^'] else []) ++ m.on.toInline ++
      if m.off == 0 then [] else '-' :: m.off.toInline)

end FlagChange

end PatternLint
