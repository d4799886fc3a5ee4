import PatternLint.Unicode.Age
import PatternLint.Unicode.DerivedProperty
import PatternLint.Unicode.Script
import PatternLint.Unicode.ScriptExtensions

/-!
# Property queries

A property query is what stands in the braces of a property escape. It is a name
alone, for a binary property, a general category or a script, or a property and
a value with `=`, `:` or `!=` between them. Names match loosely: case, blanks,
hyphens, underscores and a leading "is" do not count. Queries are answered as by
`regex-syntax`.
-/

namespace PatternLint.Unicode

/-- The normal form of a name. The one name that would lose its sense with its leading "is" keeps
it. -/
def normalName (cs : List Char) : String :=
  let body := match cs with
    | i :: s :: rest =>
      if (i == 'i' || i == 'I') && (s == 's' || s == 'S') then some rest else none
    | _ => none
  let kept := ((body.getD cs).filter fun c =>
    c.toNat < 0x80 && c != ' ' && c != '_' && c != '-').map Char.toLower
  if body.isSome && kept == ['c'] then "isc" else String.ofList kept

/-- Ranges with the gap closed that the surrogates leave between two neighbours of theirs. A group
of categories that has both neighbours has the surrogates too. -/
def overSurrogates (rs : Ranges) : Ranges :=
  if rs.has 0xd7ff && rs.has 0xe000 then (0xd7ff, 0xe000) :: rs else rs

/-- The ranges of a general category or a group of them. -/
def categoryQuery? (name : String) : Option Ranges :=
  let single (n : String) : Option Ranges := (NamedSet.find? categories n).map NamedSet.ranges
  match name with
  | "any" => some [(0, 0x10ffff)]
  | "ascii" => some [(0, 0x7f)]
  | "assigned" =>
    some ((categories.filter fun s => !s.names.contains "cn").flatMap NamedSet.ranges)
  | _ =>
    match categoryGroups.find? fun g => g.1.contains name with
    | some (_, members) => some (overSurrogates (members.filterMap single).flatten)
    | none => single name

/-- The ranges of a script. -/
def scriptQuery? (name : String) : Option Ranges :=
  (NamedSet.find? scripts name).map NamedSet.ranges

/-- The code points used with a script: those that list it, and those of the script itself that
have no list. -/
def extensionQuery? (name : String) : Option Ranges := do
  let script ← NamedSet.find? scripts name
  let lists (s : NamedSet) : Bool := script.names.any s.names.contains
  let listed := (scriptExtensions.filter lists).flatMap NamedSet.ranges
  let others := (scriptExtensions.filter fun s => !lists s).flatMap NamedSet.ranges
  return listed ++ others.foldl Ranges.without script.ranges

/-- The code points assigned in a version or before it. -/
def ageQuery? (name : String) : Option Ranges :=
  match ages.span fun s => !s.names.contains name with
  | (_, []) => none
  | (earlier, s :: _) => some ((earlier ++ [s]).flatMap NamedSet.ranges)

/-- The ranges of a name that stands alone. Where a name could be either, a binary property comes
before a category and a category before a script. -/
def nameQuery? (name : String) : Option Ranges :=
  propertyQuery? name <|> categoryQuery? name <|> scriptQuery? name

/-- The ranges of a property and a value. -/
def valueQuery? (property value : String) : Option Ranges :=
  let break? (sets : List NamedSet) : Option Ranges :=
    (NamedSet.find? sets value).map NamedSet.ranges
  match property with
  | "generalcategory" | "gc" => categoryQuery? value
  | "script" | "sc" => scriptQuery? value
  | "scriptextensions" | "scx" => extensionQuery? value
  | "age" => ageQuery? value
  | "graphemeclusterbreak" | "gcb" => break? graphemeBreaks
  | "wordbreak" | "wb" => break? wordBreaks
  | "sentencebreak" | "sb" => break? sentenceBreaks
  | _ => none

/-- What a property query asks for: ranges, or everything outside them. -/
structure Query where
  ranges : Ranges
  negated : Bool

/-- Splits at the first place where `sep` stands. -/
def cutAt (sep : List Char) : List Char → Option (List Char × List Char)
  | [] => none
  | c :: cs =>
    if sep.isPrefixOf (c :: cs) then some ([], (c :: cs).drop sep.length)
    else (cutAt sep cs).map fun (a, b) => (c :: a, b)

/-- Answers the query that a text asks. -/
def query? (cs : List Char) : Option Query :=
  let valued (negated : Bool) : List Char × List Char → Option Query := fun (p, v) =>
    (valueQuery? (normalName p) (normalName v)).map fun rs => ⟨rs, negated⟩
  match cutAt ['!', '='] cs with
  | some parts => valued true parts
  | none =>
    match (cutAt [':'] cs) <|> (cutAt ['='] cs) with
    | some parts => valued false parts
    | none => (nameQuery? (normalName cs)).map fun rs => ⟨rs, false⟩

end PatternLint.Unicode
