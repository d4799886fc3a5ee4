import PatternLint.Fault
import PatternLint.Walk

/-!
# Writing patterns

A tree is written in a normal form: references and numbers of characters in
braces, and a backslash where a character would otherwise mean something else.
What is written depends on the tree alone, and inside a class on being there.
-/

namespace PatternLint

namespace Render

open Unicode

/-- A number in a base, in small letters. -/
def digits (base n : Nat) : String := String.ofList (Nat.toDigits base n)

/-- A character by its number in hexadecimal. -/
def hexText (c : Char) : String := "\\x\x7b" ++ digits 16 c.toNat ++ "\x7d"

/-- A character after a backslash. -/
def escapedText (c : Char) : String := String.ofList ['\\', c]

/-- The letter of a character that has one. -/
def specialLetter? (inClass : Bool) (c : Char) : Option Char :=
  if c = '\x07' then some 'a'
  else if c = '\x1b' then some 'e'
  else if c = '\x0c' then some 'f'
  else if c = '\n' then some 'n'
  else if c = '\r' then some 'r'
  else if c = '\t' then some 't'
  else if inClass && c = '\x08' then some 'b'
  else none

/-- The characters that mean something inside a class. -/
def isClassSpecial (c : Char) : Bool := [']', '^', '-', '[', '&'].contains c

/-- A literal in the form in which it was written. -/
def literal (inClass : Bool) (c : Char) : LiteralForm → String
  | .verbatim => if inClass && isClassSpecial c then escapedText c else c.toString
  | .punctuation => escapedText c
  | .special =>
    match specialLetter? inClass c with
    | some letter => escapedText letter
    | none => hexText c
  | .control =>
    if c.toNat < 0x80 then "\\c" ++ (Char.ofNat (c.toNat ^^^ 0x40)).toString else hexText c
  | .octal => "\\o\x7b" ++ digits 8 c.toNat ++ "\x7d"
  | .hex => hexText c
  | .codePoint => "\\N\x7bU+" ++ upperHex c.toNat ++ "\x7d"
  | .quoted =>
    if isAlphanumeric c || (0x80 ≤ c.toNat && !isWhiteSpace c) then c.toString
    else if isWhiteSpace c || isControl c then hexText c
    else escapedText c

/-- The end of a range. Its form is not known, so it is escaped unless it is plain. -/
def rangeEnd (c : Char) : String :=
  if isAlphanumeric c then c.toString
  else if isAsciiPunctuation c then
    if isClassSpecial c || c == '\\' then escapedText c else c.toString
  else hexText c

/-- What opens a group. -/
def opener (head : GroupHead) : String :=
  match head.kind with
  | .capturing => "("
  | .nonCapturing => "(?:"
  | .named => "(?<" ++ head.name.getD "" ++ ">"
  | .atomic => "(?>"
  | .look .ahead => "(?="
  | .look .negativeAhead => "(?!"
  | .look .behind => "(?<="
  | .look .negativeBehind => "(?<!"
  | .look .nonAtomicAhead => "(*napla:"
  | .look .nonAtomicBehind => "(*naplb:"
  | .branchReset => "(?|"
  | .modifiers change => "(?" ++ change.letters ++ ":"

/-- The counts of a repetition. -/
def counts (min : Nat) : Option Nat → String
  | none =>
    if min = 0 then "*"
    else if min = 1 then "+"
    else "\x7b" ++ toString min ++ ",\x7d"
  | some max =>
    if min = 0 && max = 1 then "?"
    else if min = max then "\x7b" ++ toString min ++ "\x7d"
    else "\x7b" ++ toString min ++ "," ++ toString max ++ "\x7d"

/-- The mark of how a repetition backtracks. -/
def greedMark : Greed → String
  | .greedy => ""
  | .lazy => "?"
  | .possessive => "+"

/-- A repetition without what it repeats. -/
def quantifier (r : Repeat) : String := counts r.min r.max ++ greedMark r.greed

/-- A reference without what is around it. -/
def groupRef : GroupRef → String
  | .number n => toString n
  | .relative offset _ => signedText offset
  | .name s => s

/-- The letter of a shorthand that is no property. -/
def shorthandLetter : ShorthandKind → Char
  | .digit => 'd'
  | .word => 'w'
  | .space => 's'
  | .horizontalSpace => 'h'
  | .verticalSpace => 'v'
  | .newline => 'R'
  | .notNewline => 'N'
  | .grapheme => 'X'
  | .codeUnit => 'C'
  | .property _ => 'p'

/-- A shorthand; a capital negates it. -/
def shorthand (kind : ShorthandKind) (negated : Bool) : String :=
  let letter := if negated then (shorthandLetter kind).toUpper else shorthandLetter kind
  match kind with
  | .property name => escapedText letter ++ "\x7b" ++ name ++ "\x7d"
  | _ => escapedText letter

/-- An anchor. -/
def anchor : AnchorKind → String
  | .start => "^"
  | .stop => "$"
  | .wordBoundary => "\\b"
  | .notWordBoundary => "\\B"
  | .startText => "\\A"
  | .endText => "\\z"
  | .endTextOptionalNewline => "\\Z"
  | .previousMatchEnd => "\\G"
  | .keepOut => "\\K"

/-- A subroutine call. -/
def call : CallTarget → String
  | .whole => "(?R)"
  | .group (.name s) => "(?&" ++ s ++ ")"
  | .group ref => "(?" ++ groupRef ref ++ ")"

/-- Whether a verb takes its argument after an equals sign. -/
def isLimitName (name : String) : Bool := "LIMIT_".toList.isPrefixOf name.toList

/-- A verb. -/
def verb (name : String) : Option String → String
  | none => "(*" ++ name ++ ")"
  | some arg => "(*" ++ name ++ (if isLimitName name then "=" else ":") ++ arg ++ ")"

/-- A text in which every quote is doubled. -/
def doubleQuotes (text : String) : String :=
  String.ofList (text.toList.flatMap fun c => if c = '"' then ['"', '"'] else [c])

/-- An atom. -/
def atom (inClass : Bool) : Atom → String
  | .empty => ""
  | .literal c form _ => literal inClass c form
  | .dot _ => "."
  | .shorthand kind negated => shorthand kind negated
  | .range first last => rangeEnd first ++ "-" ++ rangeEnd last
  | .posix name negated => "[:" ++ (if negated then "^" else "") ++ name ++ ":]"
  | .backref (.name s) _ => "\\k<" ++ s ++ ">"
  | .backref ref _ => "\\g\x7b" ++ groupRef ref ++ "\x7d"
  | .subroutine target => call target
  | .anchor kind _ => anchor kind
  | .inlineFlags change => "(?" ++ change.letters ++ ")"
  | .verb name arg => verb name arg
  | .callout (.number n) => "(?C" ++ toString n ++ ")"
  | .callout (.text s) => "(?C\"" ++ doubleQuotes s ++ "\")"
  | .comment text => "(?#" ++ text ++ ")"

/-- The operator between the members of a class. -/
def classOperator : ClassOp → String
  | .union => ""
  | .intersection => "&&"
  | .subtraction => "--"

/-- Whether a repeated node has to be set apart by a group. -/
def needsGroup : Node → Bool
  | .sequence .. | .alternation .. | .atom _ .empty => true
  | _ => false

mutual
/-- Writes a node. -/
def node (inClass : Bool) : Node → Walk Empty String
  | .atom span a => Walk.visit span.start (pure (atom inClass a))
  | .sequence span items => Walk.visit span.start do
    return String.join (← nodes inClass items)
  | .alternation span branches => Walk.visit span.start do
    return String.intercalate "|" (← nodes inClass branches)
  | .group span head body => Walk.visit span.start do
    return opener head ++ (← node inClass body) ++ ")"
  | .quantifier span count target => Walk.visit span.start do
    let text ← node inClass target
    return (if needsGroup target then "(?:" ++ text ++ ")" else text) ++ quantifier count
  | .charClass span negated _ expr => Walk.visit span.start do
    return "[" ++ (if negated then "^" else "") ++ (← node true expr) ++ "]"
  | .classOp span op operands => Walk.visit span.start do
    return String.intercalate (classOperator op) (← nodes inClass operands)
  | .conditional span test yes no => Walk.visit span.start do
    let opening ← condition inClass test
    let yes ← node inClass yes
    let no ← optional inClass no
    return opening ++ yes ++ no ++ ")"
  | .define span body => Walk.visit span.start do
    return "(?(DEFINE)" ++ (← node inClass body) ++ ")"
/-- Writes several nodes. -/
def nodes (inClass : Bool) : List Node → Walk Empty (List String)
  | [] => pure []
  | n :: ns => do
    let text ← node inClass n
    let texts ← nodes inClass ns
    return text :: texts
/-- Writes what opens a conditional. -/
def condition (inClass : Bool) : Condition Node → Walk Empty String
  | .assertion test => do
    return "(?" ++ (← node inClass test)
  | .group (.name s) => pure ("(?(<" ++ s ++ ">)")
  | .group ref => pure ("(?(" ++ groupRef ref ++ ")")
  | .recursion => pure "(?(R)"
  | .recursionGroup n => pure ("(?(R" ++ toString n ++ ")")
  | .recursionName s => pure ("(?(R&" ++ s ++ ")")
/-- Writes the second branch of a conditional. -/
def optional (inClass : Bool) : Option Node → Walk Empty String
  | none => pure ""
  | some n => do
    return "|" ++ (← node inClass n)
end

/-- How deep a tree may be to be written when nothing else is said. -/
def defaultLimit : Nat := 4096

end Render

namespace Node

/-- The text of a tree, if it is not deeper than `limit`. -/
def textWithin (limit : Nat) (n : Node) : Except DepthExceeded String :=
  (Render.node false n { limit }).value

/-- The text of a tree, if it is not too deep. -/
def text? (n : Node) : Option String := (n.textWithin Render.defaultLimit).toOption

end Node

end PatternLint
