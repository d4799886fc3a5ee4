import PatternLint.Parse.State
import PatternLint.Token.Reader

/-!
# Parsing, token by token

`step` takes the parser from the state before a token to the state after it, and
`run` does so for all tokens. A step needs the token and where the next one
starts, since an empty branch stands at the start of the token that ends it.

Outside a class a token ends a branch or an atom is made of it; inside, a member
is made of it. Which atoms and members these are is left open in `stepVia` and
`runVia`. The parser is the instance that makes them with `State.takeAtom` and
`member`, which have an answer to every token.
-/

namespace PatternLint.Parse

/-- How atoms are made of tokens outside a class, with the start of the token behind. -/
abbrev Atoms := State → Token → Nat → Except Located State

namespace State

/-- The number of the group that a relative reference means: back from the last group that was
opened, or ahead from it. -/
def relativeNumber (st : State) (use : ReferenceUse) (relative : Int) (offset : Nat) :
    Except Located Nat :=
  let number : Int := if relative < 0 then st.captures + 1 + relative else st.captures + relative
  if relative = 0 ∨ number < 1 ∨ (Text.maxNumber : Int) < number then
    .error ⟨.relativeToNothing use relative, offset⟩
  else .ok number.toNat

/-- The group that a reference means. -/
def groupRef (st : State) (use : ReferenceUse) (ref : Reference) (offset : Nat) :
    Except Located GroupRef :=
  match ref with
  | .number n => .ok (.number n)
  | .name s => .ok (.name s)
  | .relative i =>
    match st.relativeNumber use i offset with
    | .error e => .error e
    | .ok n => .ok (.relative i n)

/-- What a call runs; number zero is the whole pattern. -/
def callTarget (st : State) (ref : Reference) (offset : Nat) : Except Located CallTarget :=
  match ref with
  | .number 0 => .ok .whole
  | _ =>
    match st.groupRef .call ref offset with
    | .error e => .error e
    | .ok r => .ok (.group r)

/-- Records the name of a group. A name may be repeated for its own number, as in the branches of
a group that numbers them alike; for another number only where duplicates are allowed. A number
has one name. -/
def registerName (st : State) (name : String) (number offset : Nat) : Except Located State :=
  let add : Except Located State :=
    if st.names.any fun g => g.2 == number && g.1 != name then
      .error ⟨.numberNamed number, offset⟩
    else .ok { st with names := st.names ++ [(name, number)] }
  match st.names.find? fun g => g.1 == name with
  | some (_, existing) =>
    if existing = number then .ok st
    else if st.flags.has Flags.duplicateNames then add
    else .error ⟨.nameTaken name, offset⟩
  | none => add

/-- Opens a construct: from here on the level is that of its body, which starts at `next`. -/
def enter (st : State) (outerFlags : Flags) (offset : Nat) (construct : Construct) (next : Nat) :
    State :=
  { st with
    frames := ⟨offset, construct, outerFlags, st.level⟩ :: st.frames
    level := .new next st.captures }

/-- Checks that `parens` more parentheses may be open. The fault is at the first that is one too
many: the second of two stands two bytes behind the first. -/
def checkNesting (st : State) (s : ParserSettings) (parens offset : Nat) : Except Located Unit :=
  if s.nestLimit < st.depth + 1 then .error ⟨.nestingLimit s.nestLimit, offset⟩
  else if s.nestLimit < st.depth + parens then .error ⟨.nestingLimit s.nestLimit, offset + 2⟩
  else .ok ()

/-- Opens a group. -/
def openGroup (st : State) (t : Token) (opener : Opener) (next : Nat) : Except Located State :=
  let plain (kind : GroupKind) : Except Located State :=
    .ok (st.enter st.flags t.start (.group { kind }) next)
  match opener with
  | .capturing =>
    if st.flags.has Flags.noAutoCapture then plain .nonCapturing
    else
      let number := st.captures + 1
      .ok (enter { st with captures := number } st.flags t.start
        (.group { kind := .capturing, number := some number }) next)
  | .named name =>
    let number := st.captures + 1
    match registerName { st with captures := number } name number t.start with
    | .error e => .error e
    | .ok st => .ok (st.enter st.flags t.start
        (.group { kind := .named, name := some name, number := some number }) next)
  | .nonCapturing => plain .nonCapturing
  | .atomic => plain .atomic
  | .look l => plain (.look l)
  | .branchReset => plain .branchReset
  | .modifiers change =>
    let st' := st.checkChange change t.span
    .ok (enter { st' with flags := change.apply st.flags } st.flags t.start
      (.group { kind := .modifiers change }) next)

/-- Opens a conditional. -/
def openCondition (st : State) (t : Token) (test : ConditionToken) (next : Nat) :
    Except Located State :=
  let construct : Except Located Construct :=
    match test with
    | .define => .ok .define
    | .assertion look => .ok (.assertion look)
    | .recursion => .ok (.conditional .recursion)
    | .recursionGroup n => .ok (.conditional (.recursionGroup n))
    | .recursionName s => .ok (.conditional (.recursionName s))
    | .reference ref =>
      match st.groupRef .backref ref t.start with
      | .error e => .error e
      | .ok r => .ok (.conditional (.group r))
  match construct with
  | .error e => .error e
  | .ok c => .ok (st.enter st.flags t.start c next)

/-- The number of groups after an alternation: with branches that are numbered alike, the most
that any branch has come to. -/
def capturesAfter (st : State) (head : GroupHead) : Nat :=
  if head.kind = .branchReset then max st.level.highest st.captures else st.captures

/-- Closes the innermost open parenthesis. -/
def close (st : State) (t : Token) (next : Nat) : Except Located State :=
  match st.frames with
  | [] => .error ⟨.unmatchedClose, t.start⟩
  | f :: frames =>
    let span : Span := ⟨f.offset, t.stop⟩
    let leave (n : Node) (captures : Nat) : State :=
      push { st with flags := f.flags, captures, frames, level := f.outer } n
    match f.construct with
    | .group head => .ok (leave (.group span head st.level.node) (st.capturesAfter head))
    | .define =>
      match st.level.done with
      | [] => .ok (leave (.define span st.level.node) st.captures)
      | _ :: _ => .error ⟨.branchesInDefine, st.level.start⟩
    | .assertion look =>
      let test : Node := .group ⟨f.offset + 2, t.stop⟩ { kind := .look look } st.level.node
      .ok { st with
        flags := f.flags
        frames := { f with construct := .conditional (.assertion test) } :: frames
        level := .new next st.captures }
    | .conditional test =>
      let node : Node :=
        match st.level.done with
        | [] => .conditional span test st.level.branch none
        | yes :: _ => .conditional span test yes (some st.level.branch)
      .ok (leave node st.captures)

/-- Goes on to the next branch of the innermost alternation. -/
def nextBranch (st : State) (t : Token) (next : Nat) : Except Located State :=
  let level := st.level.nextBranch next
  let go : Except Located State := .ok { st with level }
  match st.frames with
  | [] => go
  | f :: _ =>
    match f.construct with
    | .group head =>
      if head.kind = .branchReset then
        .ok { st with
          captures := level.base
          level := { level with highest := max level.highest st.captures } }
      else go
    | .conditional _ =>
      match st.level.done with
      | [] => go
      | _ :: _ => .error ⟨.tooManyBranches, t.start⟩
    | .define | .assertion _ => go

/-- Ends the pattern: nothing may be open. -/
def finish (st : State) : Except Located State :=
  match st.frames with
  | [] => .ok st
  | f :: _ =>
    match f.construct, st.level.done with
    | .define, _ :: _ => .error ⟨.branchesInDefine, st.level.start⟩
    | _, _ => .error ⟨.unclosedGroup, f.offset⟩

/-- Whether an item can be repeated. A repetition can be repeated only by counts in braces. -/
def isRepeatable (t : Token) : Node → Bool
  | .quantifier .. => t.text.head? == some '\x7b'
  | .atom _ a => !a.isZeroWidth
  | .define .. => false
  | _ => true

/-- Repeats the last item. -/
def quantify (st : State) (t : Token) (count : Repeat) : Except Located State :=
  match st.level.items with
  | [] => .error ⟨.nothingToRepeat, t.start⟩
  | n :: items =>
    if !isRepeatable t n then .error ⟨.nothingToRepeat, t.start⟩
    else if !count.allows count.min then .error ⟨.countsOutOfOrder, t.start⟩
    else
      .ok { st with
        level := { st.level with items := .quantifier ⟨n.start, t.stop⟩ count n :: items } }

/-- The digits behind an octal number, each a literal of one byte. -/
def pushDigits (st : State) (offset : Nat) : List Char → State
  | [] => st
  | c :: cs =>
    pushDigits (st.pushAtom ⟨offset, offset + 1⟩ (.literal c .verbatim st.caseless)) (offset + 1) cs

/-- A backslash and digits. It is a reference if there is one digit, if the first digit is 8 or 9,
or if there are that many groups so far. Otherwise it is an octal number of up to three digits, and
more digits stand for themselves. -/
def numericEscape (st : State) (t : Token) (number : Nat) : Except Located State :=
  if number = 0 then .error ⟨.zeroEscape, t.start⟩
  else
    let digits := t.text.drop 1
    let leading := digits.headD '0'
    if number < 10 || leading == '8' || leading == '9' || number ≤ st.captures then
      .ok (st.pushAtom t.span (.backref (.number number) st.caseless))
    else
      let octal := (digits.take 3).takeWhile Text.isOctalDigit
      let value := Text.ofDigits 8 octal
      if 0xff < value && !st.flags.has Flags.unicode then .error ⟨.octalTooLarge, t.start⟩
      else
        let stop := t.start + 1 + octal.length
        let first := st.pushAtom ⟨t.start, stop⟩ (.literal (Char.ofNat value) .octal st.caseless)
        .ok (first.pushDigits stop (digits.drop octal.length))

/-- Makes an atom of a token outside a class. Tokens of classes and those that end a branch are
taken elsewhere. -/
def takeAtom (s : ParserSettings) (st : State) (t : Token) (next : Nat) : Except Located State :=
  let atom (a : Atom) : Except Located State := .ok (st.pushAtom t.span a)
  match t.kind with
  | .literal c => atom (.literal c .verbatim st.caseless)
  | .escaped c form => atom (.literal c form st.caseless)
  | .numericEscape n => st.numericEscape t n
  | .shorthand kind negated => atom (.shorthand kind negated)
  | .anchor kind => atom (.anchor kind (st.flags.has Flags.multiline))
  | .dot => atom (.dot (st.flags.has Flags.dotAll))
  | .quantifier count => st.quantify t count
  | .groupOpen opener =>
    match st.checkNesting s 1 t.start with
    | .error e => .error e
    | .ok _ => st.openGroup t opener next
  | .inlineFlags change =>
    let st' := st.checkChange change t.span
    .ok (pushAtom { st' with flags := change.apply st.flags } t.span (.inlineFlags change))
  | .classOpen negated =>
    .ok { st with openClass := some { offset := t.start, negated, caseless := st.caseless } }
  | .classClose => atom (.literal ']' .verbatim st.caseless)
  | .classHyphen => atom (.literal '-' .verbatim st.caseless)
  | .backref ref =>
    match st.groupRef .backref ref t.start with
    | .error e => .error e
    | .ok r => atom (.backref r st.caseless)
  | .subroutine ref =>
    match st.callTarget ref t.start with
    | .error e => .error e
    | .ok target => atom (.subroutine target)
  | .conditionOpen test =>
    let parens := match test with
      | .assertion _ => 2
      | _ => 1
    match st.checkNesting s parens t.start with
    | .error e => .error e
    | .ok _ => st.openCondition t test next
  | .verb name arg =>
    let st' :=
      if isStartSetting name && st.seenItem then st.warn (.misplacedSetting name) t.span else st
    .ok (st'.pushAtom t.span (.verb name arg))
  | .comment text => atom (.comment text)
  | .callout arg => atom (.callout arg)
  | .classIntersection | .classSubtraction | .posixClass .. | .alternation | .groupClose | .eof =>
    .error ⟨.unexpectedToken, t.start⟩

/-- Takes a token outside a class, with atoms made in the given way. -/
def takeVia (atoms : Atoms) (st : State) (t : Token) (next : Nat) : Except Located State :=
  match t.kind with
  | .alternation => st.nextBranch t next
  | .groupClose => st.close t next
  | .eof => st.finish
  | _ => atoms st t next

/-- Takes a token outside a class. -/
def takeToken (s : ParserSettings) (st : State) (t : Token) (next : Nat) : Except Located State :=
  st.takeVia (takeAtom s) t next

end State

/-- Takes a token, with atoms and members made in the given ways; `next` is where the token after it
starts. -/
def stepVia (atoms : Atoms) (members : Members) (st : State) (t : Token) (next : Nat) :
    Except Located State :=
  match st.openClass with
  | none => st.takeVia atoms t next
  | some c =>
    match c.feedVia members t with
    | .error e => .error e
    | .ok (.more c) => .ok { st with openClass := some c }
    | .ok (.done node) => .ok (State.push { st with openClass := none } node)

/-- Takes all tokens in turn, with atoms and members made in the given ways. -/
def runVia (atoms : Atoms) (members : Members) (st : State) : List Token → Except Located State
  | [] => .ok st
  | t :: ts =>
    match stepVia atoms members st t (ts.head?.map Token.start |>.getD t.stop) with
    | .error e => .error e
    | .ok st => runVia atoms members st ts

/-- Takes a token. -/
def step (s : ParserSettings) (st : State) (t : Token) (next : Nat) : Except Located State :=
  stepVia (State.takeAtom s) member st t next

/-- Takes all tokens in turn. -/
def run (s : ParserSettings) (st : State) (ts : List Token) : Except Located State :=
  runVia (State.takeAtom s) member st ts

/-- The state before the first token. -/
def initial (flags : Flags) (tokens : List Token) : State :=
  { flags, level := .new ((tokens.head?.map Token.start).getD 0) 0 }

/-! ### The parser's own steps -/

variable {s : ParserSettings} {st : State} {t : Token} {next : Nat}

theorem step_outside (h : st.openClass = none) : step s st t next = st.takeToken s t next := by
  rw [step, stepVia, h]
  rfl

theorem step_inside {c : OpenClass} (h : st.openClass = some c) : step s st t next =
    match c.feed t with
    | .error e => .error e
    | .ok (.more c) => .ok { st with openClass := some c }
    | .ok (.done node) => .ok (State.push { st with openClass := none } node) := by
  rw [step, stepVia, h]
  rfl

@[simp] theorem run_nil (s : ParserSettings) (st : State) : run s st [] = .ok st := rfl

theorem run_cons_eq (s : ParserSettings) (st : State) (t : Token) (ts : List Token) :
    run s st (t :: ts) =
      match step s st t (ts.head?.map Token.start |>.getD t.stop) with
      | .error e => .error e
      | .ok st => run s st ts := rfl

end PatternLint.Parse
