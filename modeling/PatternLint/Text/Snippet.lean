import PatternLint.Text.Bytes

/-!
# Snippets

A place in a pattern is shown as the line that it is on, with a caret below it.
The caret is moved by characters and not by bytes. An offset inside a character
stands for the start of it, and one past the end for the end.
-/

namespace PatternLint.Text

/-- The part of a text after its last newline. -/
def lastLine (cs : List Char) : List Char := (cs.reverse.takeWhile (· != '\n')).reverse

/-- The part of a text before its first newline. -/
def firstLine (cs : List Char) : List Char := cs.takeWhile (· != '\n')

/-- The line around a byte offset with a caret under the offset. -/
def snippet (body : String) (offset : Nat) : String :=
  let (before, after) := splitFloor offset body.toList
  let lead := lastLine before
  String.ofList (lead ++ firstLine after ++ '\n' :: List.replicate lead.length ' ' ++ ['^'])

end PatternLint.Text
