import PatternLint.Delimited
import PatternLint.Parse.Step
import PatternLint.References
import PatternLint.Render
import PatternLint.Token.Scan
import PatternLint.Transform

/-!
# Patterns

A pattern is a tree together with the text that it was read from. It is read from
a body and modifier letters, or from a literal with delimiters around the body,
and written back as either.
-/

namespace PatternLint

/-- A pattern that has been read. -/
structure Pattern where
  delimiter : Char
  flags : Flags
  source : String
  root : Node
  /-- The number of capturing groups. -/
  captures : Nat
  /-- The named groups and their numbers, in the order of the text. -/
  names : List (String × Nat)
  warnings : List Warning

namespace Pattern

/-- The text of a pattern, from its start to its end. -/
def span (p : Pattern) : Span := ⟨0, p.source.utf8ByteSize⟩

/-- What references may refer to. -/
def groupTable (p : Pattern) : GroupTable := ⟨p.captures, p.names⟩

/-- What references and calls lead to. -/
def scope (p : Pattern) : Scope := .new p.root p.names

/-- The number of the first group with a name. -/
def groupNumber? (p : Pattern) (name : String) : Option Nat :=
  (p.names.find? fun entry => entry.1 == name).map (·.2)

/-- The part of the source at a span, or nothing if the span is not one of the source. -/
def fragment (p : Pattern) (s : Span) : String :=
  String.ofList ((Text.slice? s.start s.stop p.source.toList).getD [])

/-- The body as the tree has it; for a tree that is too deep, the source. -/
def toBody (p : Pattern) : String := p.root.text?.getD p.source

/-- The pattern as a literal. -/
def toLiteral (p : Pattern) : String :=
  p.delimiter.toString ++ p.toBody ++ (Delimited.closing p.delimiter).toString ++ p.flags.letters

/-- The pattern with another tree. -/
def transform (t : Transform) (p : Pattern) : Pattern := { p with root := t.node p.root }

/-- The first fault of the references and lookbehinds of a pattern. -/
def firstFault? (s : ParserSettings) (p : Pattern) : Option PatternError :=
  (p.root.firstFault? s p.groupTable).map (.ofLocated p.source)

/-- What a pattern is refused for when its references and lookbehinds are checked. -/
def resolve? (s : ParserSettings) (p : Pattern) : Option PatternError :=
  (p.root.resolve? s p.groupTable).map (.ofLocated p.source)

/-- The pattern that the parser has come to, where the text ends. -/
def ofState (delimiter : Char) (flags : Flags) (body : String) (st : Parse.State) : Pattern where
  delimiter := delimiter
  flags := flags
  source := body
  root := st.level.node
  captures := st.captures
  names := st.names
  warnings := st.warnings

/-- Reads a body whose modifiers are known. -/
def parseWith (s : ParserSettings) (delimiter : Char) (flags : Flags) (body : String) :
    Except PatternError Pattern :=
  match tokenize body flags s.dialect with
  | .error e => .error (.inText body e.offset (.scan e.fault))
  | .ok tokens =>
    match Parse.run s (Parse.initial flags tokens) tokens with
    | .error e => .error (.ofLocated body e)
    | .ok st =>
      let p := ofState delimiter flags body st
      match p.resolve? s with
      | some e => .error e
      | none => .ok p

/-- Reads a body. -/
def parseBody (s : ParserSettings) (body modifiers : String) (delimiter : Char) :
    Except PatternError Pattern :=
  match Flags.ofModifiers modifiers with
  | .error unknown => .error (.inText body body.utf8ByteSize (.unknownModifier unknown.char none))
  | .ok flags => parseWith s delimiter flags body

/-- Reads a literal. -/
def parse (s : ParserSettings) (literal : String) : Except PatternError Pattern :=
  match Delimited.ofLiteral literal with
  | .error e => .error e
  | .ok d => parseBody s d.body d.modifiers d.delimiter

end Pattern

end PatternLint
