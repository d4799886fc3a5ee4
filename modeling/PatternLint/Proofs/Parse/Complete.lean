import PatternLint.Proofs.Parse.Reads

/-!
# What is formed is read from its tokens

A tree that is formed is written as tokens. Here the parser takes these tokens,
from any state with the right environment, and comes to the same tree again but
for its style. Nothing is said about text: the tokens may stand anywhere.

What there is to say depends on the role of a node: an item is pushed to its
branch, a branch is the items of a level, a body is a whole level. The induction
is on the tree and goes through the three roles at once. There is one thing that
being formed does not give: a repetition that is repeated has to be followed by
counts in braces, and the counts that it was read from may have been others.
-/

namespace PatternLint

open Token Parse

/-- Whether a node, if it repeats a repetition, is written with counts in braces. -/
def Node.isBraced : Node → Bool
  | .quantifier _ count (.quantifier ..) => (Render.quantifier count).toList.head? == some '\x7b'
  | _ => true

namespace Parse

/-! ### Roles -/

/-- A state outside a class, with the given environment and number of open parentheses. -/
structure Stands (depth : Nat) (e : Env) (st : State) : Prop where
  env : st.env = e
  depth : st.depth = depth
  outside : st.openClass = none

/-- A state after another one with the same parentheses open. -/
structure Keeps (e : Env) (st st' : State) : Prop where
  env : st'.env = e
  frames : st'.frames = st.frames
  outside : st'.openClass = none

/-- Items have been pushed, each the same as a given one but for its style. -/
structure AddsItems (ns : List Node) (e : Env) (st st' : State) : Prop extends Keeps e st st' where
  level : ∃ ns' : List Node, ns'.map Node.erase = ns.map (Node.respelled false) ∧
    st'.level = { st.level with items := ns'.reverse ++ st.level.items }

/-- A branch has been read. -/
structure EndsBranch (n : Node) (e : Env) (st st' : State) : Prop extends Keeps e st st' where
  level : ∃ items, st'.level = { st.level with items }
  node : st'.level.branch.erase = n.respelled false

/-- A state in which nothing has been read of what stands between two parentheses. -/
structure Begins (alike : Bool) (depth : Nat) (e : Env) (st : State) : Prop
    extends Stands depth e st where
  level : ∃ start, st.level = .new start e.captures
  resets : resets st.frames = alike
  free : ∀ f ∈ st.frames.head?, ∀ test, f.construct ≠ .conditional test

/-- The number of groups behind branches that may be numbered alike. -/
def capturesBehind (alike : Bool) (st : State) : Nat :=
  if alike then max st.level.highest st.captures else st.captures

/-- All that stands between two parentheses has been read. -/
structure EndsBody (alike : Bool) (n : Node) (e : Env) (st st' : State) : Prop where
  env : { st'.env with captures := capturesBehind alike st' } = e
  frames : st'.frames = st.frames
  outside : st'.openClass = none
  node : st'.level.node.erase = n.respelled false

section Roles

variable {depth : Nat} {e e' : Env} {st st' : State} {n : Node}

theorem Keeps.stands (h' : Keeps e' st st') (h : Stands depth e st) : Stands depth e' st' where
  env := h'.env
  depth := by rw [← h.depth, State.depth, State.depth, h'.frames]
  outside := h'.outside

theorem Keeps.trans {e'' : Env} {st'' : State} (h : Keeps e' st st') (h' : Keeps e'' st' st'') :
    Keeps e'' st st'' := ⟨h'.env, h'.frames.trans h.frames, h'.outside⟩

theorem AddsItems.endsBranch (h : AddsItems [n] e' st st') (hi : st.level.items = []) :
    EndsBranch n e' st st' := by
  obtain ⟨ns', hns, hlevel⟩ := h.level
  obtain ⟨n', rfl, hn'⟩ := List.map_eq_singleton_iff.mp hns
  refine ⟨h.toKeeps, ⟨_, hlevel⟩, ?_⟩
  rw [hlevel, hi]
  exact hn'

theorem EndsBranch.endsBody {alike : Bool} (h : EndsBranch n e' st st') (hb : Begins alike depth e st)
    (hle : e.captures ≤ e'.captures) : EndsBody alike n e' st st' := by
  obtain ⟨start, hstart⟩ := hb.level
  obtain ⟨items, hlevel⟩ := h.level
  have hcaptures : st'.captures = e'.captures := congrArg Env.captures h.env
  refine ⟨?_, h.frames, h.outside, ?_⟩
  · have hbehind : capturesBehind alike st' = e'.captures := by
      cases alike with
      | false => exact hcaptures
      | true =>
          rw [capturesBehind, if_pos rfl, hlevel, hstart, hcaptures]
          exact Nat.max_eq_right hle
    rw [hbehind, h.env]
  · rw [← h.node]
    have hdone : st'.level.done = [] := by rw [hlevel, hstart]; rfl
    simp only [Level.node, hdone]

end Roles

/-! ### Parentheses -/

/-- A parenthesis has been opened and nothing been read behind it. -/
structure Enters (c : Construct) (e : Env) (st st' : State) : Prop where
  env : st'.env = e
  frames : ∃ offset, st'.frames = ⟨offset, c, st.flags, st.level⟩ :: st.frames
  level : ∃ start, st'.level = .new start e.captures
  outside : st'.openClass = none

section Parentheses

variable {s : ParserSettings} {depth : Nat} {e inner : Env} {st st' : State} {c : Construct}

theorem Enters.stands (h : Enters c inner st st') (hs : Stands depth e st) :
    Stands (depth + c.parens) inner st' := by
  obtain ⟨offset, hframes⟩ := h.frames
  refine ⟨h.env, ?_, h.outside⟩
  rw [← hs.depth, State.depth, hframes, List.foldr_cons, Nat.add_comm]
  rfl

theorem reads_groupOpen {opener : Opener} {head : GroupHead} (hs : Stands depth e st)
    (hd : depth + 1 ≤ s.nestLimit) (ho : OpensGroup e opener head inner) :
    Reads s [.groupOpen opener] st (Enters (.group head) inner st) := by
  refine reads_token fun t next hk _ => ?_
  obtain ⟨warnings, hopen⟩ := @State.openGroup_ok st t next opener head inner (hs.env ▸ ho)
  have hnest : st.checkNesting s 1 t.start = .ok () :=
    State.checkNesting_of_le (by decide) (by rw [hs.depth]; exact hd)
  have hstep : step s st t next = st.openGroup t opener next := by
    simp only [step_outside hs.outside, State.takeToken, State.takeVia, State.takeAtom, hk, hnest]
  exact ⟨_, hstep.trans hopen, rfl, ⟨t.start, rfl⟩, ⟨next, rfl⟩, hs.outside⟩

theorem reads_conditionOpen {test : ConditionToken} (hs : Stands depth e st)
    (hd : depth + c.parens ≤ s.nestLimit) (ho : Opens e (.conditionOpen test) c inner) :
    Reads s [.conditionOpen test] st (Enters c e st) := by
  refine reads_token fun t next hk _ => ?_
  obtain ⟨-, hopen⟩ := @State.openCondition_ok st t next test c inner (hs.env ▸ ho)
  have hnest : st.checkNesting s c.parens t.start = .ok () :=
    State.checkNesting_of_le (by cases c <;> simp [Construct.parens]) (by rw [hs.depth]; exact hd)
  have hstep : step s st t next = st.openCondition t test next := by
    simp only [step_outside hs.outside, State.takeToken, State.takeVia, State.takeAtom, hk]
    cases ho with
    | _ =>
        simp only [Construct.parens] at hnest
        simp only [hnest]
  exact ⟨_, hstep.trans hopen, hs.env, ⟨t.start, rfl⟩, ⟨next, by rw [← hs.env]; rfl⟩, hs.outside⟩

/-- A parenthesis closes: its node is pushed where it was opened. -/
theorem reads_leave {n : Node} {captures : Nat} {st'' : State} (henter : Enters c inner st st')
    (hframes : st''.frames = st'.frames) (hout : st''.openClass = none)
    (henv : ⟨st.flags, captures, st''.names⟩ = e)
    (hclose : ∀ offset (t : Token), ∃ n' : Node, n'.erase = n.respelled false ∧
      st''.Closes t ⟨offset, c, st.flags, st.level⟩ n' captures) :
    Reads s [.groupClose] st'' (AddsItems [n] e st) := by
  obtain ⟨offset, hoffset⟩ := henter.frames
  refine reads_token fun t next hk _ => ?_
  obtain ⟨n', hn', hn⟩ := hclose offset t
  have hstep : step s st'' t next = st''.close t next := by
    simp only [step_outside hout, State.takeToken, State.takeVia, hk]
  exact ⟨_, hstep.trans (State.close_ok (hframes.trans hoffset) hn), ⟨henv, rfl, hout⟩, [n'],
    by simp [hn'], rfl⟩

end Parentheses

/-! ### Nodes of each kind -/

/-- A tree that is read from its tokens, in whatever role it is formed. -/
structure Readable (ctx : Context) (s : ParserSettings) (n : Node) : Prop where
  item : ∀ {depth : Nat} {e e' : Env} {st : State}, Formed ctx s.nestLimit n depth .item e e' →
    Stands depth e st → Reads s (n.kinds false) st (AddsItems [n] e' st)
  branch : ∀ {depth : Nat} {e e' : Env} {st : State},
    Formed ctx s.nestLimit n depth .branch e e' → Stands depth e st → st.level.items = [] →
    Reads s (n.kinds false) st (EndsBranch n e' st)
  body : ∀ {alike : Bool} {depth : Nat} {e e' : Env} {st : State},
    Formed ctx s.nestLimit n depth (.body alike) e e' → Begins alike depth e st →
    Reads s (n.kinds false) st (EndsBody alike n e' st)

section Nodes

variable {ctx : Context} {s : ParserSettings} {depth : Nat} {e e' : Env} {st : State} {span : Span}
  {body : Node}

theorem reads_atom {a : Atom} (ha : a.Formed ctx e) (hs : Stands depth e st) :
    Reads s (a.kinds false) st (AddsItems [.atom span a] (e.after a) st) := by
  obtain ⟨k, hk, hatom, hne⟩ := ha.atomOf
  rw [hk]
  refine reads_token ?_
  rintro t next rfl -
  obtain ⟨warnings, htake⟩ := @State.takeToken_atom s st t next _ (hs.env ▸ hatom) hne
  refine ⟨_, (step_outside hs.outside).trans htake, ⟨?_, rfl, hs.outside⟩,
    [.atom t.span (a.respelled false)], rfl, rfl⟩
  rw [← e.after_respelled a false, ← hs.env]
  change (⟨(st.env.after (a.respelled false)).flags, st.captures, st.names⟩ : Env) = _
  cases a.respelled false <;> rfl

theorem reads_group {head : GroupHead} (hbody : Readable ctx s body)
    (h : Formed ctx s.nestLimit (.group span head body) depth .item e e') (hs : Stands depth e st) :
    Reads s ((Node.group span head body).kinds false) st
      (AddsItems [.group span head body] e' st) := by
  obtain ⟨hd, inner, last, hhead, hformed, rfl⟩ := h
  have hopens := hhead.opens
  have hkind : (head.respelled.kind == .branchReset) = (head.kind == .branchReset) := by
    simp only [GroupHead.respelled]
    split
    · next hk =>
        rw [hk]
        split
        · rfl
        · rw [hk]
    · rfl
  rw [Node.kinds]
  refine (reads_groupOpen hs hd hopens).cons fun st₁ h₁ => ?_
  obtain ⟨offset, hframes⟩ := h₁.frames
  have hbegins : Begins (head.kind == .branchReset) (depth + 1) inner st₁ := by
    refine ⟨h₁.stands hs, h₁.level, ?_, ?_⟩
    · rw [hframes, resets, hkind]
    · simp [hframes]
  refine (hbody.body hformed hbegins).append fun st₂ h₂ => ?_
  refine reads_leave h₁ h₂.frames h₂.outside ?_ fun offset t => ⟨_, ?_, .group rfl⟩
  · rw [← h₂.env, ← hs.env, State.capturesAfter, capturesBehind, ← hkind]
    simp only [beq_iff_eq]
    rfl
  · rw [Node.erase, Restyle.node]
    exact congrArg (Node.group ⟨0, 0⟩ head.respelled) h₂.node

theorem reads_define (hbody : Readable ctx s body)
    (h : Formed ctx s.nestLimit (.define span body) depth .item e e') (hs : Stands depth e st) :
    Reads s ((Node.define span body).kinds false) st (AddsItems [.define span body] e' st) := by
  obtain ⟨hd, last, hformed, rfl⟩ := h
  rw [Node.kinds]
  refine (reads_conditionOpen (c := .define) hs hd .define).cons fun st₁ h₁ => ?_
  obtain ⟨start, hstart⟩ := h₁.level
  have hitems : st₁.level.items = [] := by rw [hstart]; rfl
  refine (hbody.branch hformed (h₁.stands hs) hitems).append fun st₂ h₂ => ?_
  obtain ⟨items, hlevel⟩ := h₂.level
  have hdone : st₂.level.done = [] := by rw [hlevel, hstart]; rfl
  refine reads_leave h₁ h₂.frames h₂.outside ?_ fun offset t => ⟨_, ?_, .define rfl hdone⟩
  · rw [← h₂.env, ← hs.env]
    rfl
  · have hnode : st₂.level.node = st₂.level.branch := by simp only [Level.node, hdone]
    rw [Node.erase, Restyle.node, hnode]
    exact congrArg (Node.define ⟨0, 0⟩) h₂.node

theorem reads_charClass {negated caseless : Bool} {expr : Node}
    (h : Formed ctx s.nestLimit (.charClass span negated caseless expr) depth .item e e')
    (hs : Stands depth e st) :
    Reads s ((Node.charClass span negated caseless expr).kinds false) st
      (AddsItems [.charClass span negated caseless expr] e' st) := by
  obtain ⟨rfl, rfl, hexpr⟩ := h
  have hcaseless : e'.caseless = st.caseless := by rw [← hs.env]; rfl
  rw [hcaseless] at hexpr ⊢
  refine (reads_class hs.outside hexpr).imp ?_
  rintro st' ⟨n', hn', rfl⟩
  exact ⟨⟨hs.env, rfl, rfl⟩, [n'], by simp [hn'], rfl⟩

/-- Whether an item can be repeated does not depend on its style. -/
theorem isRepeatable_of_erase {t : Token} {n n' : Node} (h : n'.erase = n.respelled false) :
    State.isRepeatable t n' = State.isRepeatable t n := by
  have herase : State.isRepeatable t n'.erase = State.isRepeatable t n' := by cases n' <;> rfl
  rw [← herase, h]
  cases n with
  | atom span a =>
      cases a with
      | literal c form caseless =>
          simp only [Node.respelled, Restyle.node, Restyle.respelling, Atom.respelled]
          split <;> rfl
      | _ => rfl
  | _ => rfl

theorem reads_quantifier {count : Repeat} {target : Node} (htarget : Readable ctx s target)
    (hbraced : (Node.quantifier span count target).isBraced = true)
    (h : Formed ctx s.nestLimit (.quantifier span count target) depth .item e e')
    (hs : Stands depth e st) :
    Reads s ((Node.quantifier span count target).kinds false) st
      (AddsItems [.quantifier span count target] e' st) := by
  obtain ⟨-, hallows, hrep, hformed⟩ := h
  rw [Node.kinds, hformed.needsGroup]
  refine (htarget.item hformed hs).append fun st₁ h₁ => reads_token fun t next hk ht => ?_
  obtain ⟨ns', hns, hlevel⟩ := h₁.level
  obtain ⟨n', rfl, hn'⟩ := List.map_eq_singleton_iff.mp hns
  have hitems : st₁.level.items = n' :: st.level.items := by rw [hlevel]; rfl
  have hrepeatable : State.isRepeatable t n' = true := by
    rw [isRepeatable_of_erase hn']
    cases target with
    | quantifier span' count' target' => rw [State.isRepeatable, ht]; exact hbraced
    | _ => exact hrep
  have hstep : step s st₁ t next = st₁.quantify t count := by
    simp only [step_outside h₁.outside, State.takeToken, State.takeVia, State.takeAtom, hk]
  have hquantify : st₁.quantify t count = .ok { st₁ with level := { st₁.level with
      items := .quantifier ⟨n'.start, t.stop⟩ count n' :: st.level.items } } := by
    simp [State.quantify, hitems, hrepeatable, hallows]
  refine ⟨_, hstep.trans hquantify, ⟨h₁.env, h₁.frames, h₁.outside⟩,
    [.quantifier ⟨n'.start, t.stop⟩ count n'], ?_, by rw [hlevel]; rfl⟩
  simp only [List.map_cons, List.map_nil, List.cons.injEq, and_true]
  exact congrArg (Node.quantifier ⟨0, 0⟩ count) hn'

/-- What stands at the start of a conditional is read as its test. -/
theorem reads_test {test : Condition Node} {inner : Env}
    (hread : ∀ span look body, test = .assertion (.group span { kind := .look look } body) →
      Readable ctx s body)
    (hd : depth + 1 ≤ s.nestLimit) (h : FormedTest ctx s.nestLimit test (depth + 1) e inner)
    (hs : Stands depth e st) :
    Reads s (Node.testKinds false test) st fun st' => ∃ test',
      Restyle.condition {} false test' = Restyle.respelling.condition false test ∧
        Enters (.conditional test') inner st st' := by
  have hplain : ∀ {token : ConditionToken} {test : Condition Node},
      Opens e (.conditionOpen token) (.conditional test) e →
      Restyle.condition {} false test = Restyle.respelling.condition false test →
      Reads s [.conditionOpen token] st fun st' => ∃ test',
        Restyle.condition {} false test' = Restyle.respelling.condition false test ∧
          Enters (.conditional test') e st st' :=
    fun ho htest => (reads_conditionOpen (c := .conditional _) hs hd ho).imp fun st' h' =>
      ⟨_, htest, h'⟩
  cases test with
  | group ref =>
      obtain ⟨rfl, href, -⟩ := h
      exact hplain (.test href.means) rfl
  | recursion =>
      obtain rfl := h
      exact hplain .recursion rfl
  | recursionGroup n =>
      obtain ⟨rfl, -⟩ := h
      exact hplain (.recursionGroup n) rfl
  | recursionName name =>
      obtain ⟨rfl, -⟩ := h
      exact hplain (.recursionName name) rfl
  | assertion a =>
      obtain ⟨⟨span, look, body, rfl, -⟩, hd', inner', last, hhead, hformed, rfl⟩ := h
      obtain rfl : inner' = e := by
        have := hhead.opens
        cases this
        rfl
      rw [Node.testKinds, Node.kinds]
      refine (reads_conditionOpen (c := .assertion look) hs hd' (.assertion look)).cons
        fun st₁ h₁ => ?_
      obtain ⟨offset, hframes⟩ := h₁.frames
      have hbegins : Begins false (depth + 1 + 1) inner' st₁ :=
        ⟨h₁.stands hs, h₁.level, by rw [hframes]; rfl, by simp [hframes]⟩
      refine ((hread span look body rfl).body hformed hbegins).append fun st₂ h₂ => ?_
      refine reads_token fun t next hk _ => ?_
      have hframes₂ := h₂.frames.trans hframes
      have hstep : step s st₂ t next = st₂.close t next := by
        simp only [step_outside h₂.outside, State.takeToken, State.takeVia, hk]
      have hclose : st₂.close t next = .ok { st₂ with
          flags := st.flags
          frames := ⟨offset, .conditional (.assertion
            (.group ⟨offset + 2, t.stop⟩ { kind := .look look } st₂.level.node)),
              st.flags, st.level⟩ :: st.frames
          level := .new next st₂.captures } := by
        simp only [State.close, hframes₂]
      refine ⟨_, hstep.trans hclose, _, ?_, ?_, ⟨offset, rfl⟩, ⟨next, ?_⟩, h₂.outside⟩
      · exact congrArg (fun b => Condition.assertion (Node.group ⟨0, 0⟩ { kind := .look look } b))
          h₂.node
      · rw [← h₂.env, ← hs.env]
        rfl
      · rw [← h₂.env]
        rfl

/-- Where branches are not numbered alike, a bar ends the branch and does nothing else. -/
theorem reads_bar (hs : Stands depth e st) (hr : resets st.frames = false)
    (hfree : ∀ f ∈ st.frames.head?, ∀ test, f.construct = .conditional test → st.level.done = []) :
    Reads s [.alternation] st fun st' => ∃ start,
      st' = { st with level := st.level.nextBranch start } := by
  refine reads_token fun t next hk _ => ⟨{ st with level := st.level.nextBranch next }, ?_, next, rfl⟩
  have hstep : step s st t next = st.nextBranch t next := by
    simp only [step_outside hs.outside, State.takeToken, State.takeVia, hk]
  rw [hstep, State.nextBranch]
  cases hframes : st.frames with
  | nil => rfl
  | cons f frames =>
      obtain ⟨offset, construct, flags, outer⟩ := f
      cases construct with
      | group head =>
          have hkind : head.kind ≠ .branchReset := by
            rw [hframes] at hr
            exact ne_of_beq_false hr
          simp only [if_neg hkind]
      | conditional test =>
          have hdone := hfree _ (by rw [hframes]; rfl) test rfl
          simp only [hdone]
      | _ => rfl

/-- Where branches are numbered alike, a bar goes back to the number before the first. -/
theorem reads_resetBar (hs : Stands depth e st) (hr : resets st.frames = true) :
    Reads s [.alternation] st fun st' => ∃ start, st' = { st with
      captures := st.level.base
      level := { st.level.nextBranch start with highest := max st.level.highest st.captures } } := by
  refine reads_token fun t next hk _ => ⟨{ st with
      captures := st.level.base
      level := { st.level.nextBranch next with highest := max st.level.highest st.captures } },
    ?_, next, rfl⟩
  have hstep : step s st t next = st.nextBranch t next := by
    simp only [step_outside hs.outside, State.takeToken, State.takeVia, hk]
  rw [hstep, State.nextBranch]
  cases hframes : st.frames with
  | nil =>
      rw [hframes] at hr
      cases hr
  | cons f frames =>
      obtain ⟨offset, construct, flags, outer⟩ := f
      rw [hframes] at hr
      cases construct with
      | group head =>
          have hkind : head.kind = .branchReset := eq_of_beq hr
          simp only [if_pos hkind]
          rfl
      | _ => cases hr

theorem reads_conditional {test : Condition Node} {yes : Node} {no : Option Node}
    (htest : ∀ span look body, test = .assertion (.group span { kind := .look look } body) →
      Readable ctx s body)
    (hyes : Readable ctx s yes) (hno : ∀ n ∈ no, Readable ctx s n)
    (h : Formed ctx s.nestLimit (.conditional span test yes no) depth .item e e')
    (hs : Stands depth e st) :
    Reads s ((Node.conditional span test yes no).kinds false) st
      (AddsItems [.conditional span test yes no] e' st) := by
  obtain ⟨hd, inner, mid, last, hformed, hfyes, hfno, rfl⟩ := h
  rw [Node.kinds]
  refine (reads_test htest hd hformed hs).append ?_
  rintro st₁ ⟨test', htest', h₁⟩
  obtain ⟨start, hstart⟩ := h₁.level
  obtain ⟨offset, hframes⟩ := h₁.frames
  have hstands := h₁.stands hs
  refine (hyes.branch hfyes hstands (by rw [hstart]; rfl)).append fun st₂ h₂ => ?_
  obtain ⟨items, hlevel⟩ := h₂.level
  have hdone : st₂.level.done = [] := by rw [hlevel, hstart]; rfl
  cases no with
  | none =>
      obtain rfl := hfno
      refine reads_leave h₁ h₂.frames h₂.outside ?_ fun offset t => ⟨_, ?_, .single rfl hdone⟩
      · rw [← h₂.env, ← hs.env]
        rfl
      · rw [Node.erase, Restyle.node, htest']
        exact congrArg (Node.conditional ⟨0, 0⟩ _ · none) h₂.node
  | some n =>
      have hstands₂ := h₂.toKeeps.stands hstands
      have hresets : resets st₂.frames = false := by rw [h₂.frames, hframes]; rfl
      rw [Node.optionalKinds, List.cons_append]
      refine (reads_bar hstands₂ hresets fun _ _ _ _ => hdone).cons ?_
      rintro _ ⟨start', rfl⟩
      have hstands' : Stands (depth + 1) mid { st₂ with level := st₂.level.nextBranch start' } :=
        ⟨hstands₂.env, hstands₂.depth, hstands₂.outside⟩
      refine ((hno n rfl).branch hfno hstands' rfl).append fun st₃ h₃ => ?_
      obtain ⟨items', hlevel'⟩ := h₃.level
      have hdone' : st₃.level.done = [st₂.level.branch] := by
        rw [hlevel']
        change st₂.level.branch :: st₂.level.done = _
        rw [hdone]
      refine reads_leave h₁ (h₃.frames.trans h₂.frames) h₃.outside ?_
        fun offset t => ⟨_, ?_, .double rfl hdone'⟩
      · rw [← h₃.env, ← hs.env]
        rfl
      · have hyes' := h₂.node
        have hno' := h₃.node
        rw [Node.erase] at hyes' hno' ⊢
        rw [Restyle.node, htest', Restyle.optional, hyes', hno']
        rfl

/-- Branches that have been read one after another. -/
def EndsBranches (ns : List Node) (st st' : State) : Prop :=
  ∃ done : List Node, st'.level.done = done.reverse ++ st.level.done ∧
    (done ++ [st'.level.branch]).map Node.erase = ns.map (Node.respelled false)

theorem EndsBranches.node {ns : List Node} {st st' : State} (h : EndsBranches ns st st')
    (hdone : st.level.done = []) (hlen : 2 ≤ ns.length) :
    st'.level.node.erase = (Node.alternation span ns).respelled false := by
  obtain ⟨done, hd, hns⟩ := h
  rw [hdone, List.append_nil] at hd
  have hne : done ≠ [] := by
    rintro rfl
    have hlength := congrArg List.length hns
    simp at hlength
    omega
  obtain ⟨last, front, hfront⟩ := List.exists_cons_of_ne_nil (List.reverse_ne_nil_iff.mpr hne)
  have hnode : st'.level.node =
      .alternation ⟨st'.level.start, st'.level.branch.stop⟩ (done ++ [st'.level.branch]) := by
    rw [hfront] at hd
    simp only [Level.node, hd]
    rw [← hfront, List.reverse_reverse]
  rw [hnode, Node.erase, Node.respelled, Restyle.node, Restyle.node, Restyle.nodes_eq_map,
    Restyle.nodes_eq_map]
  exact congrArg _ hns

theorem EndsBranch.endsBranches {n : Node} {st' : State} (h : EndsBranch n e' st st') :
    EndsBranches [n] st st' := by
  obtain ⟨items, hlevel⟩ := h.level
  exact ⟨[], by rw [hlevel]; rfl, by simp [h.node]⟩

/-- A branch, a bar and the branches behind it. -/
theorem EndsBranches.cons {n : Node} {ns : List Node} {st₁ st₂ st' : State}
    (h₁ : EndsBranch n e st st₁) (h₂ : st₂.level.done = st₁.level.branch :: st₁.level.done)
    (h : EndsBranches ns st₂ st') : EndsBranches (n :: ns) st st' := by
  obtain ⟨items, hlevel⟩ := h₁.level
  obtain ⟨done, hdone, hnodes⟩ := h
  have hdone₁ : st₁.level.done = st.level.done := by rw [hlevel]
  refine ⟨st₁.level.branch :: done, ?_, ?_⟩
  · rw [hdone, h₂, hdone₁, List.reverse_cons, List.append_assoc]
    rfl
  · rw [List.cons_append, List.map_cons, List.map_cons, h₁.node, hnodes]

/-- Branches that are numbered one after another. -/
theorem reads_branches {n : Node} {ns : List Node} (hread : ∀ m ∈ n :: ns, Readable ctx s m)
    (h : FormedAll ctx s.nestLimit (n :: ns) depth .branch e e') (hs : Stands depth e st)
    (hitems : st.level.items = []) (hr : resets st.frames = false)
    (hfree : ∀ f ∈ st.frames.head?, ∀ test, f.construct ≠ .conditional test) :
    Reads s (bars (n :: ns)) st fun st' => Keeps e' st st' ∧ EndsBranches (n :: ns) st st' := by
  induction ns generalizing n e st with
  | nil =>
      obtain ⟨mid, hn, rfl⟩ := h
      rw [bars_singleton]
      exact ((hread n (by simp)).branch hn hs hitems).imp fun st' h' => ⟨h'.toKeeps, h'.endsBranches⟩
  | cons m ns ih =>
      obtain ⟨mid, hn, hns⟩ := h
      rw [bars_cons]
      refine ((hread n (by simp)).branch hn hs hitems).append fun st₁ h₁ => ?_
      have hstands := h₁.toKeeps.stands hs
      rw [← h₁.frames] at hr hfree
      refine (reads_bar hstands hr fun f hf test hc => absurd hc (hfree f hf test)).cons ?_
      rintro _ ⟨start, rfl⟩
      have hstands' : Stands depth mid { st₁ with level := st₁.level.nextBranch start } :=
        ⟨hstands.env, hstands.depth, hstands.outside⟩
      refine (ih (fun x hx => hread x (List.mem_cons_of_mem _ hx)) hns hstands' rfl hr hfree).imp ?_
      rintro st' ⟨hkeeps, hends⟩
      exact ⟨⟨hkeeps.env, hkeeps.frames.trans h₁.frames, hkeeps.outside⟩, .cons h₁ rfl hends⟩

/-- Branches that are numbered alike. -/
theorem reads_alike {n : Node} {ns : List Node} {base high high' : Nat}
    (hread : ∀ m ∈ n :: ns, Readable ctx s m)
    (h : FormedAlike ctx s.nestLimit (n :: ns) depth base high high' e e')
    (hs : Stands depth { e with captures := base } st) (hitems : st.level.items = [])
    (hbase : st.level.base = base) (hhigh : st.level.highest = high)
    (hr : resets st.frames = true) :
    Reads s (bars (n :: ns)) st fun st' => Keeps e' st st' ∧
      max st'.level.highest st'.captures = high' ∧ EndsBranches (n :: ns) st st' := by
  induction ns generalizing n e st high with
  | nil =>
      obtain ⟨mid, hn, rfl, rfl⟩ := h
      rw [bars_singleton]
      refine ((hread n (by simp)).branch hn hs hitems).imp fun st' h' =>
        ⟨h'.toKeeps, ?_, h'.endsBranches⟩
      obtain ⟨items, hlevel⟩ := h'.level
      rw [hlevel, ← h'.env, ← hhigh]
      rfl
  | cons m ns ih =>
      obtain ⟨mid, hn, hns⟩ := h
      rw [bars_cons]
      refine ((hread n (by simp)).branch hn hs hitems).append fun st₁ h₁ => ?_
      obtain ⟨items, hlevel⟩ := h₁.level
      have hstands := h₁.toKeeps.stands hs
      have hbase₁ : st₁.level.base = base := by rw [hlevel, ← hbase]
      have hhigh₁ : max st₁.level.highest st₁.captures = max high mid.captures := by
        rw [hlevel, ← hhigh, ← h₁.env]
        rfl
      rw [← h₁.frames] at hr
      refine (reads_resetBar hstands hr).cons ?_
      rintro _ ⟨start, rfl⟩
      have hstands' : Stands depth { mid with captures := base } { st₁ with
          captures := st₁.level.base
          level := { st₁.level.nextBranch start with
            highest := max st₁.level.highest st₁.captures } } := by
        refine ⟨?_, hstands.depth, hstands.outside⟩
        rw [← h₁.env, ← hbase₁]
        rfl
      refine (ih (fun x hx => hread x (List.mem_cons_of_mem _ hx)) hns hstands' rfl hbase₁ hhigh₁
        hr).imp ?_
      rintro st' ⟨hkeeps, hmax, hends⟩
      exact ⟨⟨hkeeps.env, hkeeps.frames.trans h₁.frames, hkeeps.outside⟩, hmax, .cons h₁ rfl hends⟩

/-- Items of one branch. -/
theorem reads_items {ns : List Node} (hread : ∀ m ∈ ns, Readable ctx s m)
    (h : FormedAll ctx s.nestLimit ns depth .item e e') (hs : Stands depth e st) :
    Reads s (Node.kindsEach false ns).flatten st (AddsItems ns e' st) := by
  induction ns generalizing e st with
  | nil =>
      obtain rfl := h
      exact reads_nil ⟨⟨hs.env, rfl, hs.outside⟩, [], rfl, rfl⟩
  | cons n ns ih =>
      obtain ⟨mid, hn, hns⟩ := h
      rw [Node.kindsEach, List.flatten_cons]
      refine ((hread n (by simp)).item hn hs).append fun st₁ h₁ => ?_
      refine (ih (fun m hm => hread m (List.mem_cons_of_mem _ hm)) hns
        (h₁.toKeeps.stands hs)).imp fun st' h' => ⟨h₁.toKeeps.trans h'.toKeeps, ?_⟩
      obtain ⟨ns₁, hns₁, hlevel₁⟩ := h₁.level
      obtain ⟨ns', hns', hlevel'⟩ := h'.level
      refine ⟨ns₁ ++ ns', ?_, ?_⟩
      · rw [List.map_append, hns₁, hns']
        rfl
      · rw [hlevel', hlevel₁, List.reverse_append, List.append_assoc]

theorem branch_of_two {l : Level} (h : 2 ≤ l.items.length) :
    ∃ span, l.branch = .sequence span l.items.reverse := by
  unfold Level.branch
  match hl : l.items, h with
  | _ :: _ :: _, _ => exact ⟨_, rfl⟩

theorem reads_branch {n : Node} (hitem : ∀ {st : State},
      Formed ctx s.nestLimit n depth .item e e' → Stands depth e st →
      Reads s (n.kinds false) st (AddsItems [n] e' st))
    (hread : ∀ c ∈ n.children, Readable ctx s c)
    (h : Formed ctx s.nestLimit n depth .branch e e') (hs : Stands depth e st)
    (hitems : st.level.items = []) : Reads s (n.kinds false) st (EndsBranch n e' st) := by
  cases n with
  | atom span a =>
      rcases h with ⟨rfl, -, rfl⟩ | ha
      · refine reads_nil ⟨⟨hs.env, rfl, hs.outside⟩, ⟨st.level.items, rfl⟩, ?_⟩
        rw [Level.branch, hitems]
        rfl
      · exact (hitem (.inr ha) hs).imp fun st' h' => h'.endsBranch hitems
  | sequence span items =>
      obtain ⟨-, hlen, hns⟩ := h
      rw [Node.kinds]
      refine (reads_items hread hns hs).imp fun st' h' => ?_
      obtain ⟨ns', hns', hlevel⟩ := h'.level
      refine ⟨h'.toKeeps, ⟨_, hlevel⟩, ?_⟩
      rw [hitems, List.append_nil] at hlevel
      have hlen' : 2 ≤ ns'.length := by
        have hsame := congrArg List.length hns'
        rw [List.length_map, List.length_map] at hsame
        rwa [hsame]
      obtain ⟨span', hbranch⟩ := @branch_of_two st'.level (by rw [hlevel]; simpa using hlen')
      rw [hbranch, hlevel, List.reverse_reverse, Node.erase, Node.respelled, Restyle.node,
        Restyle.node, Restyle.nodes_eq_map, Restyle.nodes_eq_map]
      exact congrArg _ hns'
  | alternation span branches => rcases h.2 with ⟨h, -⟩ | ⟨h, -⟩ <;> cases h
  | _ => exact (hitem h hs).imp fun st' h' => h'.endsBranch hitems

theorem reads_body {n : Node} {alike : Bool} (hbranch : ∀ {st : State},
      Formed ctx s.nestLimit n depth .branch e e' → Stands depth e st → st.level.items = [] →
      Reads s (n.kinds false) st (EndsBranch n e' st))
    (hread : ∀ c ∈ n.children, Readable ctx s c)
    (h : Formed ctx s.nestLimit n depth (.body alike) e e') (hb : Begins alike depth e st) :
    Reads s (n.kinds false) st (EndsBody alike n e' st) := by
  obtain ⟨start, hstart⟩ := hb.level
  have hitems : st.level.items = [] := by rw [hstart]; rfl
  have hdone : st.level.done = [] := by rw [hstart]; rfl
  have hflat : Formed ctx s.nestLimit n depth .branch e e' →
      Reads s (n.kinds false) st (EndsBody alike n e' st) := fun h' =>
    (hbranch h' hb.toStands hitems).imp fun st' hends => hends.endsBody hb h'.captures_le
  cases n with
  | atom span a =>
      rcases h with ⟨ha, -, he⟩ | ha
      · exact hflat (.inl ⟨ha, by simp, he⟩)
      · exact hflat (.inr ha)
  | sequence span items => exact hflat ⟨by simp, h.2⟩
  | alternation span branches =>
      obtain ⟨hlen, h⟩ := h
      obtain ⟨n, ns, rfl⟩ := List.exists_cons_of_length_pos (Nat.lt_of_lt_of_le Nat.two_pos hlen)
      rw [Node.kinds]
      rcases h with ⟨halike, h⟩ | ⟨halike, high, last, h, rfl⟩
      · obtain rfl : alike = false := by simpa using halike
        refine (reads_branches hread h hb.toStands hitems hb.resets hb.free).imp ?_
        rintro st' ⟨hkeeps, hends⟩
        exact ⟨hkeeps.env, hkeeps.frames, hkeeps.outside, hends.node hdone hlen⟩
      · obtain rfl : alike = true := by simpa using halike
        refine (reads_alike hread h hb.toStands hitems (by rw [hstart]; rfl) (by rw [hstart]; rfl)
          hb.resets).imp ?_
        rintro st' ⟨hkeeps, hmax, hends⟩
        refine ⟨?_, hkeeps.frames, hkeeps.outside, hends.node hdone hlen⟩
        rw [capturesBehind, if_pos rfl, hmax, hkeeps.env]
  | _ => exact hflat h

/-- Whatever is formed is read from its tokens, if repetitions are repeated by braces only. This is
said of all nodes at once, since the body of a test is no child of its conditional. -/
theorem readable {n : Node} (hbraced : ∀ m ∈ n.preorder, m.isBraced = true) :
    ∀ m ∈ n.preorder, Readable ctx s m := by
  induction n using Node.children_induction with
  | h n ih =>
      have hbelow : ∀ c ∈ n.children, ∀ m ∈ c.preorder, Readable ctx s m :=
        fun c hc => ih c hc (Node.forall_preorder_child hbraced hc)
      have hread : ∀ c ∈ n.children, Readable ctx s c :=
        fun c hc => hbelow c hc c (Node.self_mem_preorder c)
      have hitem : ∀ {depth : Nat} {e e' : Env} {st : State},
          Formed ctx s.nestLimit n depth .item e e' → Stands depth e st →
          Reads s (n.kinds false) st (AddsItems [n] e' st) := by
        intro depth e e' st h hs
        cases n with
        | atom span a =>
            rcases h with ⟨-, hrole, -⟩ | ⟨ha, rfl⟩
            · exact absurd rfl hrole
            · exact reads_atom ha hs
        | sequence span items => exact absurd rfl h.1
        | alternation span branches => rcases h.2 with ⟨h, -⟩ | ⟨h, -⟩ <;> cases h
        | group span head body => exact reads_group (hread body (by simp [Node.children])) h hs
        | quantifier span count target =>
            exact reads_quantifier (hread target (by simp [Node.children]))
              (hbraced _ (Node.self_mem_preorder _)) h hs
        | charClass span negated caseless expr => exact reads_charClass h hs
        | classOp span op operands => exact h.elim
        | conditional span test yes no =>
            refine reads_conditional ?_ (hread yes (by simp [Node.children])) ?_ h hs
            · rintro span' look body rfl
              refine hbelow (.group span' { kind := .look look } body)
                (by simp [Node.children, Node.conditionChildren]) body ?_
              exact Node.mem_preorder.mpr
                (.inr ⟨body, by simp [Node.children], Node.self_mem_preorder body⟩)
            · rintro m rfl
              exact hread m (by simp [Node.children])
        | define span body => exact reads_define (hread body (by simp [Node.children])) h hs
      intro m hm
      rcases Node.mem_preorder.mp hm with rfl | ⟨c, hc, hm⟩
      · exact ⟨hitem, reads_branch hitem hread, reads_body (reads_branch hitem hread) hread⟩
      · exact hbelow c hc m hm

end Nodes

/-- The tokens of a whole tree that is formed lead to a state that holds it. -/
theorem run_formed_root {ctx : Context} {s : ParserSettings} {root : Node} {flags : Flags} {e : Env}
    (h : Formed ctx s.nestLimit root 0 (.body false) ⟨flags, 0, []⟩ e)
    (hbraced : ∀ m ∈ root.preorder, m.isBraced = true) {ts : List Token} {size : Nat}
    (hts : Spelled (root.kinds false) ts) :
    ∃ st, run s (initial flags (ts ++ [Token.eof size])) (ts ++ [Token.eof size]) = .ok st ∧
      st.level.node.erase = root.respelled false ∧ st.captures = e.captures ∧
      st.names = e.names := by
  have hread : Readable ctx s root := readable hbraced root (Node.self_mem_preorder root)
  have hbegins : Begins false 0 ⟨flags, 0, []⟩ (initial flags (ts ++ [Token.eof size])) :=
    ⟨⟨rfl, rfl, rfl⟩, ⟨_, rfl⟩, rfl, by simp [initial]⟩
  obtain ⟨st, hrun, hends⟩ := hread.body h hbegins ts [Token.eof size] hts
  have hframes : st.frames = [] := hends.frames
  refine ⟨st, ?_, hends.node, congrArg Env.captures hends.env, congrArg Env.names hends.env⟩
  rw [hrun]
  simp [run_cons_eq, step_outside hends.outside, State.takeToken, State.takeVia, Token.eof,
    State.finish, hframes]

end Parse

end PatternLint
