import PatternLint.Settings

/-!
# Settings as structured values

Settings are exchanged as structured values: records, lists, numbers, texts and
truth values. A record may leave out fields, which then take their defaults,
and may hold others, which are ignored. A list gives the fields in order and may
stop early. A field that is present must have a value of its kind: a null, a
text for a number or a number out of range is refused.
-/

namespace PatternLint.Settings

/-- A structured value. -/
inductive Value where
  | null
  | bool (b : Bool)
  | int (i : Int)
  | real
  | text (s : String)
  | list (items : List Value)
  | record (fields : List (String × Value))
deriving Inhabited

namespace Value

/-- A number from 0 up to `limit`. -/
def upTo? (limit : Nat) : Value → Option Nat
  | int i => if 0 ≤ i ∧ i ≤ limit then some i.toNat else none
  | _ => none

/-- A count of 64 bits. -/
def count? : Value → Option Nat := upTo? maxCount

/-- A weight of 32 bits. -/
def weight? : Value → Option Nat := upTo? (0xffffffff)

/-- A truth value. -/
def bool? : Value → Option Bool
  | bool b => some b
  | _ => none

/-- The name of one of several choices, as a text or as a record from the name to null. -/
def choice? : Value → Option String
  | text s => some s
  | record [(s, null)] => some s
  | _ => none

/-- The fields of a settings value, as a look-up by place and name. A list with more items than
there are fields is refused. -/
def fields? (count : Nat) : Value → Option (Nat → String → Option Value)
  | record fields => some fun _ name => fields.lookup name
  | list items => if items.length ≤ count then some fun i _ => items[i]? else none
  | _ => none

/-- Reads a field: absent gives the default, present has to be readable. -/
def orDefault {α : Type} (default : α) (read : Value → Option α) : Option Value → Option α
  | none => some default
  | some v => read v

end Value

open Value

/-- Reads the name of a dialect. -/
def dialect? (v : Value) : Option Dialect := do Dialect.ofName? (← choice? v)

/-- Reads parser settings. -/
def parser? (v : Value) : Option ParserSettings := do
  let field ← fields? 4 v
  return {
    dialect := ← orDefault default dialect? (field 0 "dialect")
    nestLimit := ← orDefault 250 count? (field 1 "nest_limit")
    maxLookbehind := ← orDefault 255 count? (field 2 "max_lookbehind")
    allowUnboundedLookbehind := ← orDefault false bool? (field 3 "allow_unbounded_lookbehind") }

/-- Reads score weights. -/
def weights? (v : Value) : Option ScoreWeights := do
  let field ← fields? 4 v
  return {
    low := ← orDefault 3 weight? (field 0 "low")
    medium := ← orDefault 10 weight? (field 1 "medium")
    high := ← orDefault 25 weight? (field 2 "high")
    critical := ← orDefault 40 weight? (field 3 "critical") }

/-- Reads analysis settings. -/
def analysis? (v : Value) : Option AnalysisSettings := do
  let field ← fields? 4 v
  return {
    depthLimit := ← orDefault 1024 count? (field 0 "depth_limit")
    reportMitigated := ← orDefault true bool? (field 1 "report_mitigated")
    maxRecommendations := ← orDefault 8 count? (field 2 "max_recommendations")
    weights := ← orDefault {} weights? (field 3 "weights") }

/-- Parser settings as a record of all fields. -/
def ofParser (s : ParserSettings) : Value :=
  .record [("dialect", .text s.dialect.name), ("nest_limit", .int s.nestLimit),
    ("max_lookbehind", .int s.maxLookbehind),
    ("allow_unbounded_lookbehind", .bool s.allowUnboundedLookbehind)]

/-- Analysis settings as a record of all fields. -/
def ofAnalysis (s : AnalysisSettings) : Value :=
  .record [("depth_limit", .int s.depthLimit), ("report_mitigated", .bool s.reportMitigated),
    ("max_recommendations", .int s.maxRecommendations),
    ("weights", .record [("low", .int s.weights.low), ("medium", .int s.weights.medium),
      ("high", .int s.weights.high), ("critical", .int s.weights.critical)])]

end PatternLint.Settings
