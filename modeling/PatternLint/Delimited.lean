import PatternLint.Fault
import PatternLint.Flags
import PatternLint.Unicode.Classify

/-!
# Delimited patterns

A pattern literal is a delimiter, the body of the pattern, the closing delimiter
and modifier letters, as `/a+/i`. Brackets close with their counterparts and may
nest inside the body; any other delimiter closes with itself and ends the body
where it first stands without a backslash before it.
-/

namespace PatternLint

/-- A pattern literal in its parts. -/
structure Delimited where
  delimiter : Char
  body : String
  modifiers : String
deriving DecidableEq, Repr

namespace Delimited

open Unicode

/-- The delimiter that closes what `c` opens. -/
def closing (c : Char) : Char :=
  if c = '(' then ')'
  else if c = '[' then ']'
  else if c = '\x7b' then '\x7d'
  else if c = '<' then '>'
  else c

/-- Whether a character may be a delimiter. Blanks before the literal are skipped, so that they
never get here. -/
def isDelimiter (c : Char) : Bool := !isAlphanumeric c && c != '\\' && c != '\x00'

/-- Finds the closing delimiter and gives the text before and after it. The depth counts brackets
inside the body, and a backslash takes the next character out of the count. -/
def splitBody (delimiter close : Char) (depth : Nat) : List Char → Option (List Char × List Char)
  | [] => none
  | '\\' :: [] => none
  | '\\' :: c :: rest =>
    (splitBody delimiter close depth rest).map fun (body, after) => ('\\' :: c :: body, after)
  | c :: rest =>
    if c = close ∧ depth = 0 then some ([], rest)
    else
      let depth :=
        if close = delimiter then depth
        else if c = delimiter then depth + 1
        else if c = close then depth - 1
        else depth
      (splitBody delimiter close depth rest).map fun (body, after) => (c :: body, after)

/-- Splits a pattern literal. Offsets of errors are offsets in the literal. -/
def ofLiteral (literal : String) : Except PatternError Delimited :=
  let cs := literal.toList
  let lead := Text.size (cs.takeWhile isWhiteSpace)
  match cs.dropWhile isWhiteSpace with
  | [] => .error (.inText literal 0 .emptyPattern)
  | delimiter :: rest =>
    if !isDelimiter delimiter then .error (.inText literal lead .invalidDelimiter)
    else
      let close := closing delimiter
      match splitBody delimiter close 0 rest with
      | none => .error (.inText literal (Text.size cs) (.missingDelimiter close))
      | some (body, modifiers) =>
        match Flags.readModifiers 0 modifiers with
        | .error unknown =>
          let offset := lead + delimiter.utf8Size + Text.size body + close.utf8Size + unknown.offset
          let culprit := if close = delimiter then some delimiter else none
          .error (.inText literal offset (.unknownModifier unknown.char culprit))
        | .ok _ => .ok ⟨delimiter, String.ofList body, String.ofList modifiers⟩

end Delimited

end PatternLint
