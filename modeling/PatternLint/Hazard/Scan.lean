import PatternLint.CharSet.Class
import PatternLint.Hazard.Finding
import PatternLint.Hazard.Profile
import PatternLint.Walk
import PatternLint.Width.Scope

/-!
# The search for hazards

One guarded traversal computes the profile of every part of a pattern and notes
what it finds. On the way down it carries the repetitions around a node, whether an
atomic construct shields it, and which alternation is all that a repetition
repeats. On the way up it compares the profiles of children: neighbours in a
sequence, branches of an alternation, the target of a repetition with itself.
-/

namespace PatternLint

namespace Node

/-- The unbounded repetition that a node consists of, through plain groups. -/
def loop? : Node → Option (Span × Repeat)
  | .quantifier s count _ => if count.isUnbounded then some (s, count) else none
  | .group _ head body => if head.kind.isPlain then loop? body else none
  | _ => none

/-- The alternation that a node consists of, through plain groups. -/
def directAlternation? : Node → Option Span
  | .alternation s _ => some s
  | .group _ head body => if head.kind.isPlain then directAlternation? body else none
  | _ => none

/-- Whether a node is a repetition that can take a second turn. -/
def repeats : Node → Bool
  | .quantifier _ count _ => count.allows 2
  | _ => false

/-- The number of a group, if the node is one. -/
def number? : Node → Option Nat
  | .group _ head _ => head.number
  | _ => none

/-- The numbers of the groups in repetitions that can take a second turn. -/
def repeatedGroups (n : Node) : List Nat := foldTree collect n false
where
  /-- Whether a node is repeated depends on the nodes above it and on itself. -/
  collect (n : Node) (below : List (Bool → List Nat)) (outer : Bool) : List Nat :=
    let repeated := outer || n.repeats
    (if repeated then n.number?.toList else []) ++ below.flatMap fun list => list repeated

end Node

namespace Hazard

/-- What the search writes down. -/
inductive Note where
  | finding (f : Finding)
  /-- A call under an unbounded repetition, whose backtracking cannot be told. -/
  | unclear

/-- A repetition around a node that can take a second turn. -/
structure Turning where
  span : Span
  max : Option Nat

namespace Turning

/-- Whether the repetition has no bound. -/
def isUnbounded (t : Turning) : Bool := t.max.isNone

/-- From this many turns on a bounded repetition is taken for a long one. -/
def longRun : Nat := 10

/-- Whether the repetition can take many turns. -/
def isLong (t : Turning) : Bool :=
  match t.max with
  | none => true
  | some max => decide (longRun ≤ max)

end Turning

/-- What is around a node. -/
structure Surroundings where
  /-- The repetitions that can take a second turn, the innermost first. -/
  repeats : List Turning := []
  /-- The alternation that is all of what the innermost repetition repeats. -/
  repeatedAlternation : Option Span := none
  /-- Whether an atomic group or a possessive repetition is around. -/
  shielded : Bool := false

namespace Surroundings

/-- The number of unbounded repetitions around. -/
def loopDepth (env : Surroundings) : Nat := (env.repeats.filter Turning.isUnbounded).length

/-- Whether an unbounded repetition is around. -/
def inLoop (env : Surroundings) : Bool := decide (0 < env.loopDepth)

/-- The innermost unbounded repetition. -/
def innermostLoop? (env : Surroundings) : Option Span :=
  (env.repeats.find? Turning.isUnbounded).map Turning.span

/-- What is around the body of a group. -/
def inGroup (env : Surroundings) (kind : GroupKind) : Surroundings :=
  { env with shielded := env.shielded || kind.isAtomic }

/-- What is around the target of a repetition. -/
def inQuantifier (env : Surroundings) (span : Span) (count : Repeat) (target : Node) :
    Surroundings :=
  let shielded := env.shielded || count.isPossessive
  if count.allows 2 then
    { repeats := ⟨span, count.max⟩ :: env.repeats
      repeatedAlternation := target.directAlternation?
      shielded }
  else { env with shielded }

end Surroundings

/-- What the search knows about the whole pattern. -/
structure Context where
  scope : Scope
  repeatedGroups : List Nat

namespace Context

/-- The context of a tree with the given named groups. -/
def new (root : Node) (names : List (String × Nat)) : Context :=
  ⟨.new root names, root.repeatedGroups⟩

/-- Whether a reference may lead to a group that is repeated. -/
def leadsToRepeated (ctx : Context) : GroupRef → Bool
  | .number n | .relative _ n => ctx.repeatedGroups.contains n
  | .name name => (ctx.scope.numbersOf name).any ctx.repeatedGroups.contains

end Context

/-! ## The rules -/

/-- The repetition further on in a sequence that can take over from one whose matches end with
characters of `last`, if all between them can match nothing. -/
def nextLoop? (last : CharSet) : List (Node × Profile) → Option Node
  | [] => none
  | (n, p) :: rest =>
    if n.loop?.isSome && last.intersects p.first then some n
    else if p.nullable then nextLoop? last rest
    else none

/-- The findings about neighbours in a sequence. -/
def adjacent (env : Surroundings) : List (Node × Profile) → List Finding
  | [] => []
  | (n, p) :: rest =>
    let found :=
      match n.loop? with
      | none => none
      | some (span, count) =>
        if p.consumes then
          (nextLoop? p.last rest).map fun (next : Node) =>
            Finding.of .adjacentQuantifiers ⟨n.start, next.stop⟩
              (if env.inLoop then .high else .medium)
              (count.isPossessive || env.shielded) (env.loopDepth + 1) span
        else none
    found.toList ++ adjacent env rest

/-- How bad overlapping branches are. Outside of all unbounded repetitions the number of ways is
bounded by the turns of the repetition around. -/
def branchSeverity? (inLoop long direct : Bool) : Option Severity :=
  match inLoop, long, direct with
  | true, _, true => some .high
  | true, _, false | false, true, true => some .medium
  | false, true, false | false, false, true => some .low
  | false, false, false => none

/-- The finding about the branches of an alternation. -/
def overlapping (env : Surroundings) (span : Span) (branches : List Profile) : Option Finding :=
  match env.repeats with
  | [] => none
  | turning :: _ =>
    if Profile.anyOverlap branches then
      (branchSeverity? env.inLoop turning.isLong (env.repeatedAlternation == some span)).map
        fun severity =>
          Finding.of .overlappingAlternation span severity env.shielded env.loopDepth turning.span
    else none

/-- How bad a repetition in a repetition is. Where matches of the target cannot begin as they can
end, there is one way to divide a text among the turns. -/
def nestedSeverity (target : Profile) : Severity :=
  if !target.first.intersects target.last then .low
  else if 2 ≤ target.height then .critical
  else .high

/-- The findings about an unbounded repetition and its target. -/
def repetition (env : Surroundings) (span : Span) (count : Repeat) (target : Profile) :
    List Finding :=
  let mitigated := count.isPossessive || env.shielded
  let height := target.height + 1
  (if 0 < target.height then
    [Finding.of .nestedQuantifier span (nestedSeverity target) (mitigated || target.openHeight == 0)
      height span]
  else []) ++
    if target.nullable then [Finding.of .emptyRepetition span .medium mitigated height span] else []

/-- The finding about a reference to a group of the given width. -/
def backreference (ctx : Context) (env : Surroundings) (span : Span) (ref : GroupRef)
    (width : Width) : Option Finding :=
  match env.innermostLoop? with
  | none => none
  | some loop =>
    if ctx.leadsToRepeated ref then
      some (Finding.of .backreferenceLoop span (if width.max.isNone then .high else .medium)
        env.shielded env.loopDepth loop)
    else none

/-! ## Profiles of nodes from those of their children -/

/-- The profile of something that is known by its width alone. -/
def ofWidth (w : Width) : Profile := .arbitrary w.isNullable (w.max != some 0)

/-- The profile of a group. An assertion matches nothing, and only one that is not atomic can be
gone back into. -/
def ofGroup (kind : GroupKind) (body : Profile) : Profile :=
  if kind.isLookaround then
    if kind.isAtomic then .blank
    else { Profile.blank with height := body.height, openHeight := min body.height body.openHeight }
  else if kind.isAtomic then { body with openHeight := 0 }
  else body

/-- Whether a repetition without bound can go on and on. -/
def grows (count : Repeat) (target : Profile) : Bool := count.isUnbounded && target.consumes

/-- The profile of a repetition. -/
def ofQuantifier (count : Repeat) (target : Profile) : Profile :=
  let step := if grows count target then 1 else 0
  { target with
    nullable := count.min == 0 || target.nullable
    height := target.height + step
    openHeight := if count.isPossessive then 0 else target.openHeight + step }

/-- The set of the characters that the dot matches. -/
def dotSet (dotAll : Bool) : CharSet :=
  if dotAll then .any else CharSet.any.subtract (.single '\n' false)

/-- Writes down findings. -/
def report (fs : List Finding) : Walk Note Unit := Walk.noteAll (fs.map Note.finding)

/-- The search at an atom. -/
def scanAtom (ctx : Context) (span : Span) (env : Surroundings) : Atom → Walk Note Profile
  | .literal c _ caseless => pure (.single (.single c caseless))
  | .dot dotAll => pure (.single (dotSet dotAll))
  | .shorthand kind negated => pure (.single (.shorthand kind negated))
  | .backref ref _ => do
    let width := ctx.scope.call {} (.group ref)
    report (backreference ctx env span ref width).toList
    return ofWidth width
  | .subroutine target => do
    if env.inLoop then Walk.note .unclear
    return ofWidth (ctx.scope.call {} target)
  | .empty | .range .. | .posix .. | .anchor .. | .inlineFlags _ | .verb .. | .callout _
  | .comment _ => pure .blank

mutual
/-- The search in a tree. What is repeated no times is not looked at. -/
def scan (ctx : Context) : Node → Surroundings → Walk Note Profile
  | .atom s a, env => Walk.visit s.start (scanAtom ctx s env a)
  | .sequence s items, env => Walk.visit s.start do
    let profiles ← scanAll ctx items env
    report (adjacent env (items.zip profiles))
    return .sequence profiles
  | .alternation s branches, env => Walk.visit s.start do
    let profiles ← scanAll ctx branches env
    report (overlapping env s profiles).toList
    return .anyOf profiles
  | .group s head body, env => Walk.visit s.start do
    return ofGroup head.kind (← scan ctx body (env.inGroup head.kind))
  | .quantifier s count target, env => Walk.visit s.start do
    if count.max = some 0 then return .blank
    else
      let profile ← scan ctx target (env.inQuantifier s count target)
      report (if grows count profile then repetition env s count profile else [])
      return ofQuantifier count profile
  | .charClass s negated caseless expr, _ => Walk.visit s.start do
    return .single (Node.memberSet caseless (.charClass s negated caseless expr))
  | .classOp s _ _, _ => Walk.visit s.start (pure .blank)
  | .conditional s test yes no, env => Walk.visit s.start do
    scanCondition ctx test env
    let taken ← scan ctx yes env
    let other ← scanOptional ctx no env
    return taken.or other
  | .define s body, env => Walk.visit s.start do
    let _ ← scan ctx body env
    return .blank
/-- The search in several trees. -/
def scanAll (ctx : Context) : List Node → Surroundings → Walk Note (List Profile)
  | [], _ => pure []
  | n :: ns, env => do
    let profile ← scan ctx n env
    let profiles ← scanAll ctx ns env
    return profile :: profiles
/-- The search in the assertion that a condition may be. -/
def scanCondition (ctx : Context) : Condition Node → Surroundings → Walk Note Unit
  | .assertion a, env => do
    let _ ← scan ctx a env
    return ()
  | .group _, _ | .recursion, _ | .recursionGroup _, _ | .recursionName _, _ => pure ()
/-- The search in a tree that may be missing, in whose place the empty match stands. -/
def scanOptional (ctx : Context) : Option Node → Surroundings → Walk Note Profile
  | none, _ => pure .blank
  | some n, env => scan ctx n env
end

end Hazard

end PatternLint
