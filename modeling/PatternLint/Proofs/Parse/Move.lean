import PatternLint.Proofs.Resolver
import PatternLint.Proofs.Token.Stream

/-!
# What a step of the parser can do

A step either adds atoms, repeats the last item, goes on to the next branch, opens
or closes a parenthesis, goes on with a class or ends the pattern. `Move` lists
these with what each does to the state, and `step_move` says that there are no
others. An invariant of the parser is then proved once for each kind of move, and
the branches of the parser are not gone through again.

A class that is open is a state of its own: `ClassMove` is the same for the tokens
inside it.
-/

namespace PatternLint

/-- A reference which, if it is relative, holds the number that its distance comes to after `count`
groups. -/
def GroupRef.RightAfter (count : Nat) : GroupRef → Prop
  | relative distance target =>
    (distance < 0 → (target : Int) = count + 1 + distance) ∧
      (0 < distance → (target : Int) = count + distance) ∧ distance ≠ 0
  | number _ | name _ => True

/-- An atom whose reference, if it has one, is right after `count` groups. -/
def Atom.RightAfter (count : Nat) : Atom → Prop
  | backref ref _ | subroutine (.group ref) => ref.RightAfter count
  | _ => True

namespace Parse

/-! ### What tokens depend on -/

/-- What the meaning of a token depends on, besides the items around it: the flags in force, the
number of groups so far and their names. -/
structure Env where
  flags : Flags
  captures : Nat
  names : List (String × Nat)

def State.env (st : State) : Env := ⟨st.flags, st.captures, st.names⟩

/-- The state in another environment. -/
def State.withEnv (st : State) (e : Env) : State :=
  { st with flags := e.flags, captures := e.captures, names := e.names }

namespace Env

def caseless (e : Env) : Bool := e.flags.has Flags.caseless

/-- The names after a group has been given one, unless the name or the number is taken. -/
def register (e : Env) (name : String) (number : Nat) : Option (List (String × Nat)) :=
  let add :=
    if e.names.any fun g => g.2 == number && g.1 != name then none
    else some (e.names ++ [(name, number)])
  match e.names.find? fun g => g.1 == name with
  | some (_, existing) =>
    if existing = number then some e.names
    else if e.flags.has Flags.duplicateNames then add
    else none
  | none => add

/-- The environment behind an atom. -/
def after (e : Env) : Atom → Env
  | .inlineFlags change => { e with flags := change.apply e.flags }
  | _ => e

end Env

/-- What a reference comes to after `count` groups. -/
inductive Means (count : Nat) : Reference → GroupRef → Prop where
  | number (n : Nat) : Means count (.number n) (.number n)
  | name (s : String) : Means count (.name s) (.name s)
  | relative {i : Int} {n : Nat} (hr : (GroupRef.relative i n).RightAfter count) (hpos : 1 ≤ n)
      (hle : n ≤ Text.maxNumber) : Means count (.relative i) (.relative i n)

/-- The atom that a token stands for outside a class. -/
inductive AtomOf (e : Env) : TokenKind → Atom → Prop where
  | literal (c : Char) : AtomOf e (.literal c) (.literal c .verbatim e.caseless)
  | escaped (c : Char) (form : LiteralForm) :
      AtomOf e (.escaped c form) (.literal c form e.caseless)
  | number {n : Nat} (hn : n ≠ 0) : AtomOf e (.numericEscape n) (.backref (.number n) e.caseless)
  | shorthand (kind : ShorthandKind) (negated : Bool) :
      AtomOf e (.shorthand kind negated) (.shorthand kind negated)
  | anchor (kind : AnchorKind) :
      AtomOf e (.anchor kind) (.anchor kind (e.flags.has Flags.multiline))
  | dot : AtomOf e .dot (.dot (e.flags.has Flags.dotAll))
  | inlineFlags (change : FlagChange) : AtomOf e (.inlineFlags change) (.inlineFlags change)
  | backref {ref : Reference} {r : GroupRef} (hr : Means e.captures ref r) :
      AtomOf e (.backref ref) (.backref r e.caseless)
  | whole : AtomOf e (.subroutine (.number 0)) (.subroutine .whole)
  | call {ref : Reference} {r : GroupRef} (hr : Means e.captures ref r) (h0 : ref ≠ .number 0) :
      AtomOf e (.subroutine ref) (.subroutine (.group r))
  | verb (name : String) (arg : Option String) : AtomOf e (.verb name arg) (.verb name arg)
  | comment (text : String) : AtomOf e (.comment text) (.comment text)
  | callout (arg : CalloutArg) : AtomOf e (.callout arg) (.callout arg)
  | bracket : AtomOf e .classClose (.literal ']' .verbatim e.caseless)
  | hyphen : AtomOf e .classHyphen (.literal '-' .verbatim e.caseless)

/-- The group that an opener opens, with the environment inside it. -/
inductive OpensGroup (e : Env) : Opener → GroupHead → Env → Prop where
  | capturing (hf : e.flags.has Flags.noAutoCapture = false) :
      OpensGroup e .capturing { kind := .capturing, number := some (e.captures + 1) }
        { e with captures := e.captures + 1 }
  | uncaptured (hf : e.flags.has Flags.noAutoCapture = true) :
      OpensGroup e .capturing { kind := .nonCapturing } e
  | named {name : String} {names : List (String × Nat)}
      (hr : e.register name (e.captures + 1) = some names) :
      OpensGroup e (.named name)
        { kind := .named, name := some name, number := some (e.captures + 1) }
        { e with captures := e.captures + 1, names }
  | nonCapturing : OpensGroup e .nonCapturing { kind := .nonCapturing } e
  | atomic : OpensGroup e .atomic { kind := .atomic } e
  | look (l : Lookaround) : OpensGroup e (.look l) { kind := .look l } e
  | branchReset : OpensGroup e .branchReset { kind := .branchReset } e
  | modifiers (change : FlagChange) :
      OpensGroup e (.modifiers change) { kind := .modifiers change }
        { e with flags := change.apply e.flags }

/-- What a token opens, with the environment inside it. -/
inductive Opens (e : Env) : TokenKind → Construct → Env → Prop where
  | group {opener : Opener} {head : GroupHead} {inner : Env} (ho : OpensGroup e opener head inner) :
      Opens e (.groupOpen opener) (.group head) inner
  | define : Opens e (.conditionOpen .define) .define e
  | test {ref : Reference} {r : GroupRef} (hr : Means e.captures ref r) :
      Opens e (.conditionOpen (.reference ref)) (.conditional (.group r)) e
  | recursion : Opens e (.conditionOpen .recursion) (.conditional .recursion) e
  | recursionGroup (n : Nat) :
      Opens e (.conditionOpen (.recursionGroup n)) (.conditional (.recursionGroup n)) e
  | recursionName (s : String) :
      Opens e (.conditionOpen (.recursionName s)) (.conditional (.recursionName s)) e
  | assertion (look : Lookaround) :
      Opens e (.conditionOpen (.assertion look)) (.assertion look) e

namespace State

/-! ### References -/

theorem relativeNumber_ok_iff {st : State} {use : ReferenceUse} {i : Int} {offset n : Nat} :
    st.relativeNumber use i offset = .ok n ↔
      (GroupRef.relative i n).RightAfter st.captures ∧ 1 ≤ n ∧ n ≤ Text.maxNumber := by
  simp only [relativeNumber, GroupRef.RightAfter]
  generalize hv : (if i < 0 then (st.captures : Int) + 1 + i else st.captures + i) = v
  have hneg : i < 0 → v = st.captures + 1 + i := fun h => by rw [← hv, if_pos h]
  have hpos : 0 < i → v = st.captures + i := fun h => by rw [← hv, if_neg (by omega)]
  split
  · next hc =>
      simp only [reduceCtorEq, false_iff, not_and, Nat.not_le]
      rintro ⟨h1, h2, h3⟩ h4
      omega
  · next hc =>
      simp only [not_or, Int.not_lt] at hc
      obtain ⟨hne, hone, hmax⟩ := hc
      simp only [Except.ok.injEq]
      constructor
      · intro hn
        have hnv : (n : Int) = v := by omega
        exact ⟨⟨fun h => hnv.trans (hneg h), fun h => hnv.trans (hpos h), hne⟩, by omega, by omega⟩
      · rintro ⟨⟨h1, h2, -⟩, -, -⟩
        rcases Int.lt_or_gt_of_ne hne with h | h
        · have := h1 h
          have := hneg h
          omega
        · have := h2 h
          have := hpos h
          omega

theorem groupRef_ok_iff {st : State} {use : ReferenceUse} {ref : Reference} {offset : Nat}
    {r : GroupRef} : st.groupRef use ref offset = .ok r ↔ Means st.captures ref r := by
  cases ref with
  | number n =>
      simp only [groupRef, Except.ok.injEq]
      exact ⟨fun h => h ▸ .number n, fun h => by cases h; rfl⟩
  | name s =>
      simp only [groupRef, Except.ok.injEq]
      exact ⟨fun h => h ▸ .name s, fun h => by cases h; rfl⟩
  | relative i =>
      simp only [groupRef]
      constructor
      · intro h
        split at h
        · simp at h
        · next hn =>
            obtain ⟨hr, hpos, hle⟩ := relativeNumber_ok_iff.mp hn
            exact Except.ok.inj h ▸ .relative hr hpos hle
      · intro h
        cases h with
        | relative hr hpos hle => rw [relativeNumber_ok_iff.mpr ⟨hr, hpos, hle⟩]

theorem callTarget_ok {st : State} {ref : Reference} {offset : Nat} {target : CallTarget}
    (h : st.callTarget ref offset = .ok target) :
    AtomOf st.env (.subroutine ref) (.subroutine target) := by
  unfold callTarget at h
  split at h
  · exact Except.ok.inj h ▸ .whole
  · next h0 =>
      split at h
      · simp at h
      · next hr => exact Except.ok.inj h ▸ .call (groupRef_ok_iff.mp hr) h0

/-! ### Parentheses -/

/-- The node of a parenthesis that a token closes, with the number of groups after it. -/
inductive Closes (st : State) (t : Token) (f : Frame) : Node → Nat → Prop where
  | group {head : GroupHead} (hc : f.construct = .group head) :
      Closes st t f (.group ⟨f.offset, t.stop⟩ head st.level.node) (st.capturesAfter head)
  | define (hc : f.construct = .define) (hd : st.level.done = []) :
      Closes st t f (.define ⟨f.offset, t.stop⟩ st.level.node) st.captures
  | single {test : Condition Node} (hc : f.construct = .conditional test)
      (hd : st.level.done = []) :
      Closes st t f (.conditional ⟨f.offset, t.stop⟩ test st.level.branch none) st.captures
  | double {test : Condition Node} {yes : Node} {more : List Node}
      (hc : f.construct = .conditional test) (hd : st.level.done = yes :: more) :
      Closes st t f (.conditional ⟨f.offset, t.stop⟩ test yes (some st.level.branch)) st.captures

/-! ### Moves -/

end State

/-- Whether the branches inside the innermost parenthesis are numbered alike. -/
def resets : List Frame → Bool
  | ⟨_, .group head, _, _⟩ :: _ => head.kind == .branchReset
  | _ => false

namespace State

/-- The counts of groups after the end of a branch: they go back where branches are numbered
alike. -/
inductive Turns (st : State) : Nat → Nat → Prop where
  | reset {f : Frame} {frames : List Frame} {head : GroupHead} (hf : st.frames = f :: frames)
      (hc : f.construct = .group head) (hk : head.kind = .branchReset) :
      Turns st st.level.base (max st.level.highest st.captures)
  | keep (hr : ∀ f ∈ st.frames.head?, ∀ head, f.construct = .group head → head.kind ≠ .branchReset)
      (hd : ∀ f ∈ st.frames.head?, ∀ test, f.construct = .conditional test → st.level.done = []) :
      Turns st st.captures st.level.highest

/-- What a token can do to the state when no class is open and `limit` parentheses may be. -/
inductive Move (limit : Nat) (st : State) (t : Token) (next : Nat) : State → Prop where
  /-- Adds an atom. -/
  | atom {a : Atom} {warnings : List Warning} (ha : AtomOf st.env t.kind a) :
      Move limit st t next
        (pushAtom { st with flags := (st.env.after a).flags, warnings } t.span a)
  /-- Adds a character by its number in octal and the digits behind it. -/
  | octal {n : Nat} {octal digits : List Char} (hk : t.kind = .numericEscape n)
      (ht : t.text.drop 1 = octal ++ digits) (ho : octal.all Text.isOctalDigit = true)
      (hl : octal.length ≤ 3)
      (hu : 0xff < Text.ofDigits 8 octal → st.flags.has Flags.unicode = true) :
      Move limit st t next ((st.pushAtom ⟨t.start, t.start + 1 + octal.length⟩
        (.literal (Char.ofNat (Text.ofDigits 8 octal)) .octal st.caseless)).pushDigits
          (t.start + 1 + octal.length) digits)
  /-- Repeats the last item. -/
  | again {count : Repeat} {n : Node} {items : List Node} (hk : t.kind = .quantifier count)
      (hi : st.level.items = n :: items) (hr : isRepeatable t n = true)
      (hc : count.allows count.min = true) :
      Move limit st t next { st with
        level := { st.level with items := .quantifier ⟨n.start, t.stop⟩ count n :: items } }
  /-- Goes on to the next branch. -/
  | branch {captures highest : Nat} (hk : t.kind = .alternation) (hc : Turns st captures highest) :
      Move limit st t next { st with captures, level := { st.level.nextBranch next with highest } }
  /-- Opens a parenthesis. -/
  | enter {construct : Construct} {inner : Env} {warnings : List Warning}
      (ho : Opens st.env t.kind construct inner) (hn : st.depth + construct.parens ≤ limit) :
      Move limit st t next
        (enter { st.withEnv inner with warnings } st.flags t.start construct next)
  /-- Closes a parenthesis. -/
  | leave {f : Frame} {frames : List Frame} {n : Node} {captures : Nat} (hk : t.kind = .groupClose)
      (hf : st.frames = f :: frames) (hc : Closes st t f n captures) :
      Move limit st t next (push { st with flags := f.flags, captures, frames, level := f.outer } n)
  /-- Closes the assertion that is the test of a conditional. -/
  | test {f : Frame} {frames : List Frame} {look : Lookaround} (hk : t.kind = .groupClose)
      (hf : st.frames = f :: frames) (hc : f.construct = .assertion look) :
      Move limit st t next { st with
        flags := f.flags,
        frames := { f with construct := .conditional (.assertion
          (.group ⟨f.offset + 2, t.stop⟩ { kind := .look look } st.level.node)) } :: frames,
        level := .new next st.captures }
  /-- Opens a class. -/
  | startClass {negated : Bool} (hk : t.kind = .classOpen negated) :
      Move limit st t next { st with
        openClass := some { offset := t.start, negated, caseless := st.caseless } }
  /-- Ends the pattern. -/
  | finish (hk : t.kind = .eof) (hf : st.frames = []) : Move limit st t next st

variable {limit : Nat} {st st' : State} {t : Token} {next : Nat}

/-- Recording a name changes nothing but the names. -/
theorem registerName_ok_iff {name : String} {number offset : Nat} :
    st.registerName name number offset = .ok st' ↔
      ∃ names, st.env.register name number = some names ∧ st' = { st with names } := by
  simp only [registerName, Env.register, State.env]
  have hadd : (if st.names.any fun g => g.2 == number && g.1 != name then
        (.error ⟨.numberNamed number, offset⟩ : Except Located State)
      else .ok { st with names := st.names ++ [(name, number)] }) = .ok st' ↔
      ∃ names, (if st.names.any fun g => g.2 == number && g.1 != name then none
        else some (st.names ++ [(name, number)])) = some names ∧ st' = { st with names } := by
    split
    · simp
    · simp only [Except.ok.injEq, Option.some.injEq, exists_eq_left']
      exact eq_comm
  cases st.names.find? fun g => g.1 == name with
  | none => exact hadd
  | some g =>
      obtain ⟨_, existing⟩ := g
      by_cases hsame : existing = number
      · simp only [hsame, ↓reduceIte, Except.ok.injEq, Option.some.injEq, exists_eq_left']
        exact eq_comm
      · by_cases hdup : st.flags.has Flags.duplicateNames = true
        · simp only [hsame, hdup, ↓reduceIte]
          exact hadd
        · simp [hsame, hdup]

theorem checkChange_eq (st : State) (change : FlagChange) (span : Span) :
    ∃ warnings, st.checkChange change span = { st with warnings } := by
  have hwarn : ∀ (st : State) (flags : Flags) (oddity : Flags → Oddity),
      ∃ warnings, st.warnFlags flags oddity span = { st with warnings } := by
    intro st flags oddity
    unfold warnFlags
    split
    · exact ⟨st.warnings, rfl⟩
    · exact ⟨_, rfl⟩
  simp only [checkChange]
  obtain ⟨w, hw⟩ := hwarn st change.conflicting .conflictingFlags
  rw [hw]
  obtain ⟨w', hw'⟩ := hwarn { st with warnings := w }
    (change.redundant st.flags &&& ~~~change.conflicting) .redundantFlags
  exact ⟨w', hw'⟩

theorem checkNesting_ok {s : ParserSettings} {parens offset : Nat} {u : Unit}
    (h : st.checkNesting s parens offset = .ok u) : st.depth + parens ≤ s.nestLimit := by
  unfold checkNesting at h
  split at h
  · simp at h
  · split at h
    · simp at h
    · omega

theorem openGroup_move {opener : Opener} (hk : t.kind = .groupOpen opener)
    (hn : st.depth + 1 ≤ limit) (h : st.openGroup t opener next = .ok st') :
    Move limit st t next st' := by
  have henter : ∀ {head : GroupHead} {inner : Env} {warnings : List Warning},
      OpensGroup st.env opener head inner →
      Move limit st t next
        (enter { st.withEnv inner with warnings } st.flags t.start (.group head) next) :=
    fun ho => .enter (hk ▸ .group ho) hn
  unfold openGroup at h
  simp only at h
  cases opener with
  | capturing =>
      simp only at h
      split at h
      · next hf => exact Except.ok.inj h ▸ henter (.uncaptured hf)
      · next hf => exact Except.ok.inj h ▸ henter (.capturing (Bool.eq_false_iff.mpr hf))
  | named name =>
      simp only at h
      split at h
      · simp at h
      · next hr =>
          obtain ⟨names, hnames, rfl⟩ := registerName_ok_iff.mp hr
          exact Except.ok.inj h ▸ henter (.named hnames)
  | modifiers change =>
      obtain ⟨warnings, hw⟩ := checkChange_eq st change t.span
      simp only [hw] at h
      exact Except.ok.inj h ▸ henter (.modifiers change)
  | nonCapturing => exact Except.ok.inj h ▸ henter .nonCapturing
  | atomic => exact Except.ok.inj h ▸ henter .atomic
  | look l => exact Except.ok.inj h ▸ henter (.look l)
  | branchReset => exact Except.ok.inj h ▸ henter .branchReset

theorem openCondition_move {test : ConditionToken}
    (hn : st.depth + (match test with | .assertion _ => 2 | _ => 1) ≤ limit)
    (hk : t.kind = .conditionOpen test) (h : st.openCondition t test next = .ok st') :
    Move limit st t next st' := by
  have henter : ∀ {c : Construct}, Opens st.env (.conditionOpen test) c st.env →
      st.depth + c.parens ≤ limit → Move limit st t next (st.enter st.flags t.start c next) :=
    fun ho hn => @Move.enter limit st t next _ st.env st.warnings (hk ▸ ho) hn
  unfold openCondition at h
  simp only at h
  cases test with
  | reference ref =>
      simp only at h
      split at h
      · simp at h
      · next hr =>
          split at hr
          · simp at hr
          · next hg =>
              cases Except.ok.inj hr
              exact Except.ok.inj h ▸ henter (.test (groupRef_ok_iff.mp hg)) hn
  | recursion => exact Except.ok.inj h ▸ henter .recursion hn
  | recursionGroup n => exact Except.ok.inj h ▸ henter (.recursionGroup n) hn
  | recursionName s => exact Except.ok.inj h ▸ henter (.recursionName s) hn
  | define => exact Except.ok.inj h ▸ henter .define hn
  | assertion look => exact Except.ok.inj h ▸ henter (.assertion look) hn

theorem close_move (hk : t.kind = .groupClose) (h : st.close t next = .ok st') :
    Move limit st t next st' := by
  unfold close at h
  split at h
  · simp at h
  · next f frames hf =>
      simp only at h
      split at h
      · next hc => exact Except.ok.inj h ▸ .leave hk hf (.group hc)
      · next hc =>
          split at h
          · next hd => exact Except.ok.inj h ▸ .leave hk hf (.define hc hd)
          · simp at h
      · next look hc => exact Except.ok.inj h ▸ .test hk hf hc
      · next test hc =>
          cases hd : st.level.done with
          | nil =>
              simp only [hd] at h
              exact Except.ok.inj h ▸ .leave hk hf (.single hc hd)
          | cons yes more =>
              simp only [hd] at h
              exact Except.ok.inj h ▸ .leave hk hf (.double hc hd)

theorem nextBranch_move (hk : t.kind = .alternation) (h : st.nextBranch t next = .ok st') :
    Move limit st t next st' := by
  have hkeep : (∀ f ∈ st.frames.head?, ∀ head, f.construct = .group head →
        head.kind ≠ .branchReset) →
      (∀ f ∈ st.frames.head?, ∀ test, f.construct = .conditional test → st.level.done = []) →
      Move limit st t next { st with level := st.level.nextBranch next } :=
    fun hr hd => .branch hk (.keep hr hd)
  unfold nextBranch at h
  simp only at h
  split at h
  · next hf => exact Except.ok.inj h ▸ hkeep (by simp [hf]) (by simp [hf])
  · next f frames hf =>
      have hhead : ∀ g ∈ st.frames.head?, g = f := by simp [hf]
      split at h
      · next head hc =>
          split at h
          · next hkind => exact Except.ok.inj h ▸ .branch hk (.reset hf hc hkind)
          · next hkind =>
              refine Except.ok.inj h ▸ hkeep ?_ ?_
              · intro g hg head' hc'
                rw [hhead g hg, hc, Construct.group.injEq] at hc'
                exact hc' ▸ hkind
              · intro g hg test hc'
                rw [hhead g hg, hc] at hc'
                simp at hc'
      · next test hc =>
          split at h
          · next hd =>
              refine Except.ok.inj h ▸ hkeep ?_ fun _ _ _ _ => hd
              intro g hg head hc'
              rw [hhead g hg, hc] at hc'
              simp at hc'
          · simp at h
      all_goals
        next hc =>
          refine Except.ok.inj h ▸ hkeep ?_ ?_
          all_goals
            intro g hg x hc'
            rw [hhead g hg, hc] at hc'
            simp at hc'

theorem quantify_move {count : Repeat} (hk : t.kind = .quantifier count)
    (h : st.quantify t count = .ok st') : Move limit st t next st' := by
  unfold quantify at h
  split at h
  · simp at h
  · next n items hi =>
      split at h
      · simp at h
      · next hr =>
          split at h
          · simp at h
          · next hc => exact Except.ok.inj h ▸ .again hk hi (by simpa using hr) (by simpa using hc)

theorem pushAtom_move {a : Atom} (ha : AtomOf st.env t.kind a) (hf : st.env.after a = st.env) :
    Move limit st t next (st.pushAtom t.span a) := by
  have hm := @Move.atom limit st t next a st.warnings ha
  rwa [hf] at hm

theorem numericEscape_move {n : Nat} (hk : t.kind = .numericEscape n)
    (h : st.numericEscape t n = .ok st') : Move limit st t next st' := by
  unfold numericEscape at h
  split at h
  · simp at h
  · next hn =>
      simp only at h
      split at h
      · exact Except.ok.inj h ▸ pushAtom_move (hk ▸ .number hn) rfl
      · split at h
        · simp at h
        · next hu =>
            refine Except.ok.inj h ▸ .octal hk ?_ List.all_takeWhile ?_ ?_
            · -- The octal digits are the first of all digits.
              generalize t.text.drop 1 = digits
              have hpre : (digits.take 3).takeWhile Text.isOctalDigit <+: digits :=
                (List.takeWhile_prefix _).trans (List.take_prefix 3 digits)
              exact (List.prefix_iff_eq_append.mp hpre).symm
            · have hlen := (List.takeWhile_prefix (l := (t.text.drop 1).take 3)
                Text.isOctalDigit).length_le
              rw [List.length_take] at hlen
              omega
            · intro hv
              simp only [Bool.and_eq_true, decide_eq_true_eq, Bool.not_eq_true', not_and,
                Bool.not_eq_false] at hu
              exact hu hv

theorem takeAtom_move {s : ParserSettings} (h : st.takeAtom s t next = .ok st') :
    Move s.nestLimit st t next st' := by
  unfold takeAtom at h
  simp only at h
  split at h
  case h_1 c hk => exact Except.ok.inj h ▸ pushAtom_move (hk ▸ .literal c) rfl
  case h_2 c form hk => exact Except.ok.inj h ▸ pushAtom_move (hk ▸ .escaped c form) rfl
  case h_3 hk => exact numericEscape_move hk h
  case h_4 kind negated hk => exact Except.ok.inj h ▸ pushAtom_move (hk ▸ .shorthand kind negated) rfl
  case h_5 kind hk => exact Except.ok.inj h ▸ pushAtom_move (hk ▸ .anchor kind) rfl
  case h_6 hk => exact Except.ok.inj h ▸ pushAtom_move (hk ▸ .dot) rfl
  case h_7 hk => exact quantify_move hk h
  case h_8 hk =>
      split at h
      · simp at h
      · next hn => exact openGroup_move hk (checkNesting_ok hn) h
  case h_9 change hk =>
      obtain ⟨warnings, hw⟩ := checkChange_eq st change t.span
      rw [hw] at h
      have ha : AtomOf st.env t.kind (.inlineFlags change) := hk ▸ .inlineFlags change
      exact Except.ok.inj h ▸ .atom ha
  case h_10 hk => exact Except.ok.inj h ▸ .startClass hk
  case h_11 hk => exact Except.ok.inj h ▸ pushAtom_move (hk ▸ .bracket) rfl
  case h_12 hk => exact Except.ok.inj h ▸ pushAtom_move (hk ▸ .hyphen) rfl
  case h_13 hk =>
      split at h
      · simp at h
      · next hr => exact Except.ok.inj h ▸ pushAtom_move (hk ▸ .backref (groupRef_ok_iff.mp hr)) rfl
  case h_14 hk =>
      split at h
      · simp at h
      · next ht => exact Except.ok.inj h ▸ pushAtom_move (hk ▸ callTarget_ok ht) rfl
  case h_15 hk =>
      split at h
      · simp at h
      · next hn => exact openCondition_move (checkNesting_ok hn) hk h
  case h_16 name arg hk =>
      have ha : AtomOf st.env t.kind (.verb name arg) := hk ▸ .verb name arg
      split at h
      · exact Except.ok.inj h ▸ .atom ha
      · exact Except.ok.inj h ▸ pushAtom_move ha rfl
  case h_17 text hk => exact Except.ok.inj h ▸ pushAtom_move (hk ▸ .comment text) rfl
  case h_18 arg hk => exact Except.ok.inj h ▸ pushAtom_move (hk ▸ .callout arg) rfl
  all_goals simp at h

theorem takeToken_move {s : ParserSettings} (h : st.takeToken s t next = .ok st') :
    Move s.nestLimit st t next st' := by
  unfold takeToken takeVia at h
  split at h
  · next hk => exact nextBranch_move hk h
  · next hk => exact close_move hk h
  · next hk =>
      unfold finish at h
      split at h
      · next hf => exact Except.ok.inj h ▸ .finish hk hf
      · split at h <;> simp at h
  · exact takeAtom_move h

end State

/-! ### Classes -/

namespace OpenClass

/-- The class with the members that are held back among the others. -/
def settled (c : OpenClass) : OpenClass :=
  match c.pending with
  | .none => c
  | .member m => { c with members := m :: c.members, pending := .none }
  | .hyphen m h => { c with members := h :: m :: c.members, pending := .none }

section Settled

variable {c : OpenClass} {m h : Node}

theorem settled_of_none (hp : c.pending = .none) : c.settled = c := by
  simp [settled, hp]

theorem settled_of_member (hp : c.pending = .member m) :
    c.settled = { c with members := m :: c.members, pending := .none } := by
  simp [settled, hp]

theorem settled_of_hyphen (hp : c.pending = .hyphen m h) :
    c.settled = { c with members := h :: m :: c.members, pending := .none } := by
  simp [settled, hp]

@[simp] theorem settled_offset (c : OpenClass) : c.settled.offset = c.offset := by
  unfold settled
  split <;> rfl

@[simp] theorem settled_left (c : OpenClass) : c.settled.left = c.left := by
  unfold settled
  split <;> rfl

@[simp] theorem settled_caseless (c : OpenClass) : c.settled.caseless = c.caseless := by
  unfold settled
  split <;> rfl

@[simp] theorem settled_negated (c : OpenClass) : c.settled.negated = c.negated := by
  unfold settled
  split <;> rfl

@[simp] theorem settled_pending (c : OpenClass) : c.settled.pending = .none := by
  unfold settled
  split
  · assumption
  · rfl
  · rfl

end Settled

/-- The atom that a token stands for as a member of a class. -/
inductive MemberOf (caseless : Bool) : TokenKind → Atom → Prop where
  | literal (c : Char) : MemberOf caseless (.literal c) (.literal c .verbatim caseless)
  | escaped (c : Char) (form : LiteralForm) :
      MemberOf caseless (.escaped c form) (.literal c form caseless)
  | hyphen : MemberOf caseless .classHyphen (.literal '-' .verbatim caseless)
  | shorthand (kind : ShorthandKind) (negated : Bool) :
      MemberOf caseless (.shorthand kind negated) (.shorthand kind negated)
  | posix {name : String} (negated : Bool)
      (hp : (CharSet.posixClasses.any fun p => p.1 == name) = true) :
      MemberOf caseless (.posixClass name negated) (.posix name negated)

theorem MemberOf.caseless_eq {caseless caseless' : Bool} {k : TokenKind} {c : Char}
    {form : LiteralForm} (h : MemberOf caseless k (.literal c form caseless')) :
    caseless' = caseless := by
  cases h <;> rfl

/-- The set operation that a token stands for. -/
inductive OperatorOf : TokenKind → ClassOp → Prop where
  | intersection : OperatorOf .classIntersection .intersection
  | subtraction : OperatorOf .classSubtraction .subtraction

/-- What a token can do to an open class. -/
inductive ClassMove (c : OpenClass) (t : Token) : ClassStep → Prop where
  /-- Closes the class. -/
  | close (hk : t.kind = .classClose) : ClassMove c t (.done (c.settled.close t))
  /-- Starts a set operation. -/
  | operate {op : ClassOp} (ho : OperatorOf t.kind op) :
      ClassMove c t (.more (c.settled.operate op t))
  /-- Holds back a member. -/
  | hold {a : Atom} (ha : MemberOf c.caseless t.kind a) :
      ClassMove c t (.more { c.settled with pending := .member (.atom t.span a) })
  /-- Holds back a hyphen after a member. -/
  | hyphen {m : Node} (hp : c.pending = .member m) (hk : t.kind = .classHyphen) :
      ClassMove c t (.more { c with
        pending := .hyphen m (.atom t.span (.literal '-' .verbatim c.caseless)) })
  /-- Adds a range. -/
  | range {m h : Node} {a b : Char} {form : LiteralForm} (hp : c.pending = .hyphen m h)
      (hb : MemberOf c.caseless t.kind (.literal b form c.caseless)) (hle : a ≤ b) :
      ClassMove c t (.more { c with
        members := .atom (m.span.cover t.span) (.range a b) :: c.members, pending := .none })

variable {c : OpenClass} {t : Token} {r : ClassStep}

theorem member_ok {caseless : Bool} {m : Node} (h : member caseless t = .ok m) :
    ∃ a, m = .atom t.span a ∧ MemberOf caseless t.kind a := by
  unfold member at h
  simp only at h
  split at h
  case h_1 c hk => exact ⟨_, (Except.ok.inj h).symm, hk ▸ .literal c⟩
  case h_2 c form hk => exact ⟨_, (Except.ok.inj h).symm, hk ▸ .escaped c form⟩
  case h_3 hk => exact ⟨_, (Except.ok.inj h).symm, hk ▸ .hyphen⟩
  case h_4 kind negated hk => exact ⟨_, (Except.ok.inj h).symm, hk ▸ .shorthand kind negated⟩
  case h_5 name negated hk =>
      split at h
      · next hp => exact ⟨_, (Except.ok.inj h).symm, hk ▸ .posix negated hp⟩
      · simp at h
  all_goals simp at h

theorem rangeOf_ok {m range : Node} {span : Span} {last : Atom}
    (h : rangeOf m (.atom span last) = .ok range) :
    ∃ a b form caseless, last = .literal b form caseless ∧ a ≤ b ∧
      range = .atom (m.span.cover span) (.range a b) := by
  unfold rangeOf at h
  simp only at h
  split at h
  · next hlast =>
      cases hlast
      split at h
      · next hle => exact ⟨_, _, _, _, rfl, hle, (Except.ok.inj h).symm⟩
      · simp at h
  · simp at h

theorem take_move (h : c.take t = .ok r) :
    (t.kind = .classClose ∧ r = .done (c.close t)) ∨
      (∃ op, OperatorOf t.kind op ∧ r = .more (c.operate op t)) ∨
      ∃ a, MemberOf c.caseless t.kind a ∧
        r = .more { c with pending := .member (.atom t.span a) } := by
  unfold take takeVia at h
  split at h
  · next hk => exact .inl ⟨hk, (Except.ok.inj h).symm⟩
  · simp at h
  · next hk => exact .inr (.inl ⟨_, hk ▸ .intersection, (Except.ok.inj h).symm⟩)
  · next hk => exact .inr (.inl ⟨_, hk ▸ .subtraction, (Except.ok.inj h).symm⟩)
  · split at h
    · simp at h
    · next hm =>
        obtain ⟨a, rfl, ha⟩ := member_ok hm
        exact .inr (.inr ⟨a, ha, (Except.ok.inj h).symm⟩)

/-- A token that is taken as if nothing was held back. -/
theorem classMove_of_take (h : c.settled.take t = .ok r) : ClassMove c t r := by
  rcases take_move h with ⟨hk, rfl⟩ | ⟨op, ho, rfl⟩ | ⟨a, ha, rfl⟩
  · exact .close hk
  · exact .operate ho
  · exact .hold (settled_caseless c ▸ ha)

theorem feed_move (h : c.feed t = .ok r) : ClassMove c t r := by
  unfold feed feedVia at h
  split at h
  · next hp => exact classMove_of_take ((settled_of_none hp).symm ▸ h)
  · next m hp =>
      split at h
      · next hk => exact Except.ok.inj h ▸ .hyphen hp hk
      · exact classMove_of_take ((settled_of_member hp).symm ▸ h)
  · next m hyphen hp =>
      split at h
      · next hk =>
          have hclose : c.settled.close t =
              close { c with members := hyphen :: m :: c.members } t := by
            rw [settled_of_hyphen hp]
            rfl
          exact Except.ok.inj h ▸ hclose ▸ .close hk
      · simp at h
      · split at h
        · simp at h
        · next last hm =>
            obtain ⟨a, rfl, ha⟩ := member_ok hm
            split at h
            · simp at h
            · next hr =>
                obtain ⟨x, y, form, caseless, rfl, hle, rfl⟩ := rangeOf_ok hr
                have hsame : caseless = c.caseless := ha.caseless_eq
                exact Except.ok.inj h ▸ .range hp (hsame ▸ ha) hle

end OpenClass

/-! ### Steps and runs -/

open Token (Context Laid Placed Boundary)

variable {s : ParserSettings} {st st' : State} {t : Token} {next : Nat}

/-- A step is a move, or it takes a class that is open one token further. -/
theorem step_move (h : step s st t next = .ok st') :
    (st.openClass = none ∧ State.Move s.nestLimit st t next st') ∨
    (∃ c c', st.openClass = some c ∧ OpenClass.ClassMove c t (.more c') ∧
      st' = { st with openClass := some c' }) ∨
    ∃ c n, st.openClass = some c ∧ OpenClass.ClassMove c t (.done n) ∧
      st' = State.push { st with openClass := none } n := by
  cases ho : st.openClass with
  | none =>
      rw [step_outside ho] at h
      exact .inl ⟨rfl, State.takeToken_move h⟩
  | some c =>
      rw [step_inside ho] at h
      split at h
      · simp at h
      · next hf => exact .inr (.inl ⟨c, _, rfl, OpenClass.feed_move hf, (Except.ok.inj h).symm⟩)
      · next hf => exact .inr (.inr ⟨c, _, rfl, OpenClass.feed_move hf, (Except.ok.inj h).symm⟩)

/-- The token that ends the text changes nothing, and it is refused while anything is open. -/
theorem step_eof {offset : Nat} (h : step s st (Token.eof offset) next = .ok st') :
    st' = st ∧ st.frames = [] ∧ st.openClass = none := by
  cases ho : st.openClass with
  | none =>
      rw [step_outside ho] at h
      simp only [State.takeToken, State.takeVia, Token.eof, State.finish] at h
      split at h
      · next hf => exact ⟨(Except.ok.inj h).symm, hf, rfl⟩
      · split at h <;> simp at h
  | some c =>
      have hfeed : ∃ e, c.feed (Token.eof offset) = .error e := by
        unfold OpenClass.feed OpenClass.feedVia
        cases c.pending <;> exact ⟨_, rfl⟩
      obtain ⟨e, he⟩ := hfeed
      rw [step_inside ho, he] at h
      simp at h

/-- A run takes the first token and goes on from there. -/
theorem run_cons {ts : List Token} :
    run s st (t :: ts) = .ok st' ↔
      ∃ mid, step s st t (ts.head?.map Token.start |>.getD t.stop) = .ok mid ∧
        run s mid ts = .ok st' := by
  rw [run_cons_eq]
  cases step s st t (ts.head?.map Token.start |>.getD t.stop) with
  | error e => simp
  | ok mid => simp

/-- What every step preserves holds when all tokens have been taken, and then nothing is open. An
invariant may speak of where the next token starts. -/
theorem run_invariant {ctx : Context} {cs : List Char} {Inv : Nat → State → Prop}
    (hstep : ∀ {st st' : State} {t : Token} {next : Nat}, Placed ctx cs t → t.stop ≤ next →
      Boundary cs next → Inv t.start st → step s st t next = .ok st' → Inv next st')
    {ts : List Token} (hl : Laid ctx cs next ts) (hi : Inv next st) (h : run s st ts = .ok st') :
    Inv (Text.size cs) st' ∧ st'.frames = [] ∧ st'.openClass = none := by
  induction hl generalizing st with
  | done =>
      obtain ⟨mid, hs, hrest⟩ := run_cons.mp h
      obtain ⟨rfl, hf, ho⟩ := step_eof hs
      cases Except.ok.inj hrest
      exact ⟨hi, hf, ho⟩
  | @token t next ts ht hle hl ih =>
      obtain ⟨mid, hs, hrest⟩ := run_cons.mp h
      rw [hl.head, Option.getD_some] at hs
      exact ih (hstep ht hle hl.boundary hi hs) hrest

end Parse

/-! ### Patterns -/

theorem exists_of_isOk {ε α : Type} {x : Except ε α} (h : x.isOk = true) : ∃ a, x = .ok a := by
  cases x with
  | error e => cases h
  | ok a => exact ⟨a, rfl⟩

theorem exists_of_map {ε α β : Type} {f : α → β} {x : Except ε α} {b : β} (h : x.map f = .ok b) :
    ∃ a, x = .ok a ∧ f a = b := by
  cases x with
  | error e => cases h
  | ok a => exact ⟨a, rfl, Except.ok.inj h⟩

namespace Pattern

open Token (Placed Boundary contextOf)

variable {s : ParserSettings} {delimiter : Char} {flags : Flags} {body modifiers : String}
  {p : Pattern}

/-- A pattern that was read comes from a run over its tokens, and its references are in order. -/
theorem parseWith_ok (h : parseWith s delimiter flags body = .ok p) :
    ∃ ts st, tokenize body flags s.dialect = .ok ts ∧
      Parse.run s (Parse.initial flags ts) ts = .ok st ∧ p = ofState delimiter flags body st ∧
      p.firstFault? s = none := by
  unfold parseWith at h
  split at h
  · simp at h
  · next ts ht =>
      split at h
      · simp at h
      · next st hr =>
          simp only at h
          split at h
          · simp at h
          · next hf =>
              cases Except.ok.inj h
              exact ⟨ts, st, ht, hr, rfl, (resolve?_eq s _).symm.trans hf⟩

theorem parseBody_ok (h : parseBody s body modifiers delimiter = .ok p) :
    ∃ flags, Flags.ofModifiers modifiers = .ok flags ∧
      parseWith s delimiter flags body = .ok p := by
  unfold parseBody at h
  split at h
  · simp at h
  · next flags hm => exact ⟨flags, hm, h⟩

/-- A pattern keeps what it was read from, and can be read from that. -/
theorem parseBody_fields (h : parseBody s body modifiers delimiter = .ok p) :
    p.delimiter = delimiter ∧ p.source = body ∧ Flags.ofModifiers modifiers = .ok p.flags ∧
      parseWith s p.delimiter p.flags p.source = .ok p := by
  obtain ⟨flags, hmodifiers, hp⟩ := parseBody_ok h
  obtain ⟨ts, st, -, -, rfl, -⟩ := parseWith_ok hp
  exact ⟨rfl, rfl, hmodifiers, hp⟩

/-- A pattern that is accepted under some settings, be it as a body or as a literal. -/
def AcceptedBy (p : Pattern) (s : ParserSettings) : Prop :=
  (∃ body modifiers delimiter, parseBody s body modifiers delimiter = .ok p) ∨
    ∃ literal, parse s literal = .ok p

/-- A literal is accepted for the body in it. -/
theorem AcceptedBy.parseBody (h : p.AcceptedBy s) :
    ∃ body modifiers delimiter, parseBody s body modifiers delimiter = .ok p := by
  rcases h with h | ⟨literal, h⟩
  · exact h
  · unfold parse at h
    split at h
    · simp at h
    · next d _ => exact ⟨d.body, d.modifiers, d.delimiter, h⟩

/-- What holds before the first token and is preserved by every step holds of the state that the
parser comes to, where nothing is open. -/
theorem tokenized_invariant {Inv : Nat → Parse.State → Prop} {ts : List Token} {st : Parse.State}
    (hinit : ∀ next, Boundary body.toList next → Inv next { flags, level := .new next 0 })
    (hstep : ∀ {st st' : Parse.State} {t : Token} {next : Nat},
      Placed (contextOf body flags s.dialect) body.toList t → t.stop ≤ next →
      Boundary body.toList next → Inv t.start st → Parse.step s st t next = .ok st' → Inv next st')
    (ht : tokenize body flags s.dialect = .ok ts)
    (hr : Parse.run s (Parse.initial flags ts) ts = .ok st) :
    Inv (Text.size body.toList) st ∧ st.frames = [] ∧ st.openClass = none := by
  obtain ⟨next, hl⟩ := tokenize_laid ht
  simp only [Parse.initial, hl.head, Option.getD_some] at hr
  exact Parse.run_invariant hstep hl (hinit next hl.boundary) hr

/-- The same of the state that a pattern was made from. -/
theorem parseWith_invariant {Inv : Nat → Parse.State → Prop}
    (hinit : ∀ next, Boundary body.toList next → Inv next { flags, level := .new next 0 })
    (hstep : ∀ {st st' : Parse.State} {t : Token} {next : Nat},
      Placed (contextOf body flags s.dialect) body.toList t → t.stop ≤ next →
      Boundary body.toList next → Inv t.start st → Parse.step s st t next = .ok st' → Inv next st')
    (h : parseWith s delimiter flags body = .ok p) :
    ∃ st, p = ofState delimiter flags body st ∧ Inv (Text.size body.toList) st ∧
      st.frames = [] ∧ st.openClass = none := by
  obtain ⟨ts, st, ht, hr, rfl, -⟩ := parseWith_ok h
  exact ⟨st, rfl, tokenized_invariant hinit hstep ht hr⟩

end Pattern

end PatternLint
