import PatternLint.SetExpr.Brackets
import PatternLint.SetExpr.Form

/-!
# Reading set expressions

The whole expression is read, with groups, changes of mode, repetitions and
choices, and its form is put together on the way. The main function is `set?`:
the set that an expression denotes, if it is well formed and denotes one. This is
what the linter asks `regex-syntax` for.
-/

namespace PatternLint.SetExpr

open Unicode Text

/-- A part of an expression that has been read. -/
structure Part where
  form : Form
  depth : Nat
  /-- Changes of mode cannot be repeated. -/
  repeatable : Bool

/-- The depth of several parts together. -/
def depthOf (parts : List Part) : Nat := (parts.map (·.depth)).foldl max 0

/-- What has been read of an expression or a group: the parts of the current branch and the
branches before it, the latest first, and the names of groups. -/
structure State where
  modes : Modes
  branches : List Part
  parts : List Part
  names : List (List Char)

namespace State

/-- The state at the start of an expression or a group. -/
def start (modes : Modes) (names : List (List Char)) : State := ⟨modes, [], [], names⟩

/-- Adds a part. -/
def push (st : State) (form : Form) (depth : Nat) : State :=
  { st with parts := ⟨form, depth, true⟩ :: st.parts }

/-- The current branch as one part. -/
def branch (st : State) : Part :=
  match st.parts.reverse with
  | [] => ⟨.empty, 0, false⟩
  | [p] => p
  | ps => ⟨.sequence (ps.map (·.form)), depthOf ps + 1, true⟩

/-- Goes on with another branch. -/
def nextBranch (st : State) : State :=
  { st with branches := st.branch :: st.branches, parts := [] }

/-- All branches as one part. -/
def finish (st : State) : Part :=
  match st.branches with
  | [] => st.branch
  | _ =>
    let all := st.branches.reverse ++ [st.branch]
    ⟨.choice (all.map (·.form)), depthOf all + 1, true⟩

/-- Repeats the last part. -/
def repeatLast? (st : State) (least : Nat) (most : Option Nat) : Option State :=
  match st.parts with
  | [] => none
  | p :: before =>
    if p.repeatable then
      some { st with parts := ⟨p.form.repeated least most, p.depth + 1, true⟩ :: before }
    else none

end State

/-- Leaves out the question mark that makes a repetition lazy. -/
def afterLazy : List Char → List Char
  | '?' :: rest => rest
  | rest => rest

/-- A decimal number, with blanks around it. -/
def decimal? (m : Modes) (cs : List Char) : Option (Nat × List Char) :=
  let (digits, rest) := m.span isAsciiDigit (cs.dropWhile isWhiteSpace)
  if digits.isEmpty || decide (maxNumber < ofDigits 10 digits) then none
  else some (ofDigits 10 digits, rest.dropWhile isWhiteSpace)

/-- The counts of a repetition after its opening brace: one number, a least number, or a least and
a greatest number. -/
def counts? (m : Modes) (cs : List Char) : Option ((Nat × Option Nat) × List Char) := do
  let (least, rest) ← decimal? m (m.skip cs)
  match rest with
  | ',' :: rest =>
    let rest := m.skip rest
    if rest.head? = some '\x7d' then return ((least, none), rest.drop 1)
    else
      let (most, rest) ← decimal? m rest
      if rest.head? = some '\x7d' && decide (least ≤ most) then
        return ((least, some most), rest.drop 1)
      else none
  | _ => if rest.head? = some '\x7d' then return ((least, some least), rest.drop 1) else none

/-- Changes one mode. The letters that have no bearing on sets are known all the same. -/
def Modes.set? (m : Modes) (value : Bool) : Char → Option Modes
  | 'i' => some { m with caseless := value }
  | 's' => some { m with dotAll := value }
  | 'u' => some { m with unicode := value }
  | 'R' => some { m with carriageReturn := value }
  | 'x' => some { m with spaced := value }
  | 'm' | 'U' => some m
  | _ => none

/-- Changes several modes: those before the hyphen are set and those after it cleared. No letter
may come twice, and a hyphen needs a letter after it. -/
def Modes.change? (m : Modes) (letters : List Char) : Option Modes :=
  if letters.eraseDups.length ≠ letters.length || letters.getLast? = some '-' then none
  else go m true letters
where
  /-- Changes the modes one by one. -/
  go (m : Modes) (value : Bool) : List Char → Option Modes
    | [] => some m
    | '-' :: rest => go m false rest
    | c :: rest => do go (← m.set? value c) value rest

/-- Whether a character can stand in the name of a group. -/
def isGroupNameChar (first : Bool) (c : Char) : Bool :=
  if first then c == '_' || isAlphabetic c
  else isAlphanumeric c || ['_', '.', '[', ']'].contains c

/-- Reads the name of a group. A name cannot be given twice. -/
def groupName? (names : List (List Char)) (cs : List Char) : Option (List Char × List Char) :=
  let name := cs.takeWhile (· != '>')
  let valid := match name with
    | [] => false
    | c :: more => isGroupNameChar true c && more.all (isGroupNameChar false)
  match cs.dropWhile (· != '>') with
  | _ :: rest => if valid && !names.contains name then some (name, rest) else none
  | [] => none

/-- How a group begins. -/
inductive Opening where
  /-- It has no text and changes the modes of what follows. -/
  | change (modes : Modes)
  /-- It captures what it takes. -/
  | capture (names : List (List Char))
  /-- It only groups, under modes of its own. -/
  | plain (modes : Modes)

/-- Reads the start of a group after its opening parenthesis. Looking around is not possible. -/
def groupOpening? (st : State) (cs : List Char) : Option (Opening × List Char) :=
  let named (cs : List Char) : Option (Opening × List Char) :=
    (groupName? st.names cs).map fun (name, rest) => (.capture (name :: st.names), rest)
  match st.modes.skip cs with
  | '?' :: '=' :: _ | '?' :: '!' :: _ => none
  | '?' :: '<' :: '=' :: _ | '?' :: '<' :: '!' :: _ => none
  | '?' :: 'P' :: '<' :: rest => named rest
  | '?' :: '<' :: rest => named rest
  | '?' :: rest => do
    let letters := rest.takeWhile fun c => c != ':' && c != ')'
    let modes ← st.modes.change? letters
    match rest.dropWhile fun c => c != ':' && c != ')' with
    | ':' :: rest => return (.plain modes, rest)
    | ')' :: rest => if letters.isEmpty then none else return (.change modes, rest)
    | _ => none
  | rest => some (.capture st.names, rest)

/-- Reads an expression up to its end or to a closing parenthesis, which is left. Every step takes
a character at least, so `fuel` has to be more than the length of the text. -/
def expression? : (fuel : Nat) → State → List Char → Option (State × List Char)
  | 0, _, _ => none
  | fuel + 1, st, cs =>
    let repeatWith (least : Nat) (most : Option Nat) (rest : List Char) :
        Option (State × List Char) := do
      expression? fuel (← st.repeatLast? least most) (afterLazy rest)
    match st.modes.skip cs with
    | [] => some (st, [])
    | ')' :: rest => some (st, ')' :: rest)
    | '|' :: rest => expression? fuel st.nextBranch rest
    | '?' :: rest => repeatWith 0 (some 1) rest
    | '*' :: rest => repeatWith 0 none rest
    | '+' :: rest => repeatWith 1 none rest
    | '\x7b' :: rest => do
      let ((least, most), rest) ← counts? st.modes rest
      repeatWith least most (st.modes.skip rest)
    | '[' :: rest => do
      let (s, rest) ← bracketed? st.modes rest
      expression? fuel (st.push (.ofSet st.modes s.set) s.depth) rest
    | '.' :: rest => do expression? fuel (st.push (← Form.dot? st.modes) 0) rest
    | '^' :: rest | '$' :: rest => expression? fuel (st.push (.other true) 0) rest
    | '(' :: rest => do
      match ← groupOpening? st rest with
      | (.change modes, rest) =>
        expression? fuel { st with modes, parts := ⟨.empty, 0, false⟩ :: st.parts } rest
      | (.capture names, rest) =>
        let (inner, rest) ← expression? fuel (.start st.modes names) rest
        let group := inner.finish
        if rest.isEmpty then none
        expression? fuel ({ st with names := inner.names }.push
          (.other group.form.zeroWidth) (group.depth + 1)) (rest.drop 1)
      | (.plain modes, rest) =>
        let (inner, rest) ← expression? fuel (.start modes st.names) rest
        let group := inner.finish
        if rest.isEmpty then none
        expression? fuel ({ st with names := inner.names }.push
          group.form (group.depth + 1)) (rest.drop 1)
    | next => do
      let (sign, rest) ← sign? st.modes next
      expression? fuel (st.push (← Form.ofSign? st.modes sign) 0) rest

/-- How deeply an expression may be nested. -/
def maxDepth : Nat := 250

/-- The set that an expression denotes. -/
def set? (cs : List Char) : Option CharSet :=
  match expression? (cs.length + 1) (.start {} []) cs with
  | some (st, []) =>
    match st.finish.form with
    | .set s => if st.finish.depth ≤ maxDepth then some s else none
    | _ => none
  | _ => none

end PatternLint.SetExpr
