import PatternLint.Proofs.Parse.Sound
import PatternLint.Proofs.Restyle
import PatternLint.Proofs.Token.Trail

/-!
# Runs of the parser over tokens that are known

`Reads` says of tokens, each in its spelling, that they take the parser from a
state to one with a property, whatever follows them. Such statements are put
together as the tokens are. Here are the smallest of them: the token of an atom,
what opens a parenthesis, and all that stands in a class.

This is `Move` the other way round: there a step was known to have been made, here
it is known what the step is going to be.
-/

namespace PatternLint

open Token Unicode Text Parse

/-- A reference that can be read comes to what it was. -/
theorem RefFormed.means {count : Nat} {ref : GroupRef} (h : RefFormed count ref) :
    Means count ref.written ref := by
  cases ref with
  | number n => exact .number n
  | relative i n => exact h.2
  | name s => exact .name s

/-- What is written for the head of a group opens that group. -/
theorem HeadFormed.opens {ctx : Context} {e inner : Env} {head : GroupHead}
    (h : HeadFormed ctx e head inner) : OpensGroup e head.opener head.respelled inner := by
  obtain ⟨opener, hw, ho⟩ := h
  cases ho with
  | capturing hf => exact .capturing hf
  | named hr => exact .named hr
  | modifiers change =>
      simp only [GroupHead.opener, GroupHead.respelled]
      split
      · next hl =>
          have hw : ChangeWritten ctx.dialect change := hw
          rw [hw.apply_of_letters hl]
          exact .nonCapturing
      · exact .modifiers change
  | look l => exact .look l
  | atomic => exact .atomic
  | branchReset => exact .branchReset
  | _ => exact .nonCapturing

/-- The token of an atom stands for that atom. -/
theorem Atom.Formed.atomOf {ctx : Context} {e : Env} {a : Atom} (h : a.Formed ctx e) :
    ∃ k, a.kinds false = [k] ∧ AtomOf e k (a.respelled false) ∧ ∀ n, k ≠ .numericEscape n := by
  cases a with
  | literal c form caseless =>
      obtain ⟨rfl, -⟩ := h
      rcases literalKind_cases false c form with hk | ⟨form', hk⟩
      · exact ⟨_, congrArg ([·]) hk, by simpa only [Atom.respelled, hk] using .literal c, by simp⟩
      · exact ⟨_, congrArg ([·]) hk, by simpa only [Atom.respelled, hk] using .escaped c form',
          by simp⟩
  | dot dotAll => exact ⟨_, rfl, h ▸ .dot, by simp⟩
  | shorthand kind negated => exact ⟨_, rfl, .shorthand kind negated, by simp⟩
  | backref ref caseless =>
      obtain ⟨rfl, href, -⟩ := h
      exact ⟨_, rfl, .backref (href.means), by simp⟩
  | subroutine target =>
      cases target with
      | whole => exact ⟨_, rfl, .whole, by simp⟩
      | group ref =>
          obtain ⟨href, hne⟩ := h
          refine ⟨_, rfl, .call (href.means) ?_, by simp⟩
          cases ref <;> simp_all [GroupRef.written]
  | anchor kind multiline => exact ⟨_, rfl, h ▸ .anchor kind, by simp⟩
  | inlineFlags change => exact ⟨_, rfl, .inlineFlags change, by simp⟩
  | verb name arg => exact ⟨_, rfl, .verb name arg, by simp⟩
  | callout arg => exact ⟨_, rfl, .callout arg, by simp⟩
  | comment text => exact ⟨_, rfl, .comment text, by simp⟩
  | _ => exact h.elim

theorem Parse.Env.after_respelled (e : Env) (a : Atom) (inClass : Bool) :
    e.after (a.respelled inClass) = e.after a := by
  cases a with
  | literal c form caseless =>
      simp only [Atom.respelled]
      split <;> rfl
  | _ => rfl

/-- An item is written without a group around it. -/
theorem Formed.needsGroup {ctx : Context} {limit depth : Nat} {e e' : Env} {n : Node}
    (h : Formed ctx limit n depth .item e e') : Render.needsGroup n = false := by
  cases n with
  | atom span a =>
      rcases h with ⟨-, hrole, -⟩ | ⟨ha, -⟩
      · exact absurd rfl hrole
      · cases a with
        | empty => exact ha.elim
        | _ => rfl
  | sequence span items => exact absurd rfl h.1
  | alternation span branches => rcases h.2 with ⟨h, -⟩ | ⟨h, -⟩ <;> cases h
  | _ => rfl

namespace Parse

/-! ### Runs over tokens -/

section Reads

variable {s : ParserSettings} {ks ls : List TokenKind} {k : TokenKind} {st : State}
  {P Q : State → Prop}

/-- Tokens that take the parser from a state to one that has a property, whatever follows. -/
def Reads (s : ParserSettings) (ks : List TokenKind) (st : State) (Q : State → Prop) : Prop :=
  ∀ ts rest, Spelled ks ts → ∃ st', run s st (ts ++ rest) = run s st' rest ∧ Q st'

theorem reads_nil (h : Q st) : Reads s [] st Q := by
  intro ts rest hts
  cases hts
  exact ⟨st, rfl, h⟩

theorem Reads.append (h : Reads s ks st P) (h' : ∀ st', P st' → Reads s ls st' Q) :
    Reads s (ks ++ ls) st Q := by
  intro ts rest hts
  obtain ⟨ts₁, ts₂, rfl, h₁, h₂⟩ := hts.append
  obtain ⟨st₁, hrun₁, hP⟩ := h ts₁ (ts₂ ++ rest) h₁
  obtain ⟨st₂, hrun₂, hQ⟩ := h' st₁ hP ts₂ rest h₂
  exact ⟨st₂, by rw [List.append_assoc, hrun₁, hrun₂], hQ⟩

theorem Reads.imp (h : Reads s ks st P) (hPQ : ∀ st', P st' → Q st') : Reads s ks st Q := by
  intro ts rest hts
  obtain ⟨st', hrun, hP⟩ := h ts rest hts
  exact ⟨st', hrun, hPQ st' hP⟩

theorem reads_token (h : ∀ t next, t.kind = k → t.text = k.spelling.toList →
    ∃ st', step s st t next = .ok st' ∧ Q st') : Reads s [k] st Q := by
  intro ts rest hts
  cases hts with
  | @cons t ks ts ht hts =>
      cases hts
      obtain ⟨st', hstep, hQ⟩ := h t ((rest.head?.map Token.start).getD t.stop) rfl ht
      exact ⟨st', by simp [run_cons_eq, hstep], hQ⟩

theorem Reads.cons (h : Reads s [k] st P) (h' : ∀ st', P st' → Reads s ks st' Q) :
    Reads s (k :: ks) st Q := h.append h'

end Reads

/-! ### Tokens outside classes -/

section Tokens

variable {s : ParserSettings} {st : State} {t : Token} {next : Nat}

theorem State.takeToken_atom {a : Atom} (ha : AtomOf st.env t.kind a)
    (hk : ∀ n, t.kind ≠ .numericEscape n) : ∃ warnings, st.takeToken s t next =
      .ok (pushAtom { st with flags := (st.env.after a).flags, warnings } t.span a) := by
  generalize hkind : t.kind = k at ha hk
  cases ha with
  | number hn => exact absurd rfl (hk _)
  | inlineFlags change =>
      obtain ⟨warnings, hw⟩ := checkChange_eq st change t.span
      refine ⟨warnings, ?_⟩
      simp only [takeToken, takeVia, takeAtom, hkind, hw]
      rfl
  | backref hr =>
      have hr : st.groupRef .backref _ t.start = .ok _ := groupRef_ok_iff.mpr hr
      exact ⟨st.warnings, by simp only [takeToken, takeVia, takeAtom, hkind, hr]; rfl⟩
  | @call ref r hr h0 =>
      have hr : st.groupRef .call _ t.start = .ok _ := groupRef_ok_iff.mpr hr
      have htarget : st.callTarget ref t.start = .ok (.group r) := by
        unfold callTarget
        split
        · exact absurd rfl h0
        · rw [hr]
      exact ⟨st.warnings, by simp only [takeToken, takeVia, takeAtom, hkind, htarget]; rfl⟩
  | verb name arg =>
      simp only [takeToken, takeVia, takeAtom, hkind]
      split
      · exact ⟨_, rfl⟩
      · exact ⟨st.warnings, rfl⟩
  | _ => exact ⟨st.warnings, by simp only [takeToken, takeVia, takeAtom, hkind]; rfl⟩

theorem State.openGroup_ok {opener : Opener} {head : GroupHead} {inner : Env}
    (h : OpensGroup st.env opener head inner) : ∃ warnings, st.openGroup t opener next =
      .ok (enter { st.withEnv inner with warnings } st.flags t.start (.group head) next) := by
  cases h with
  | capturing hf =>
      have hf : st.flags.has Flags.noAutoCapture = false := hf
      exact ⟨st.warnings, by simp only [openGroup, hf]; rfl⟩
  | uncaptured hf =>
      have hf : st.flags.has Flags.noAutoCapture = true := hf
      exact ⟨st.warnings, by simp only [openGroup, hf]; rfl⟩
  | @named name names hr =>
      have hname : registerName { st with captures := st.captures + 1 } name (st.captures + 1)
          t.start = .ok { st with captures := st.captures + 1, names } :=
        registerName_ok_iff.mpr ⟨names, hr, rfl⟩
      exact ⟨st.warnings, by simp only [openGroup, hname]; rfl⟩
  | modifiers change =>
      obtain ⟨warnings, hw⟩ := checkChange_eq st change t.span
      exact ⟨warnings, by simp only [openGroup, hw]; rfl⟩
  | _ => exact ⟨st.warnings, rfl⟩

theorem State.openCondition_ok {test : ConditionToken} {c : Construct} {inner : Env}
    (h : Opens st.env (.conditionOpen test) c inner) :
    inner = st.env ∧ st.openCondition t test next = .ok (st.enter st.flags t.start c next) := by
  cases h with
  | test hr =>
      have hr : st.groupRef .backref _ t.start = .ok _ := groupRef_ok_iff.mpr hr
      exact ⟨rfl, by simp only [openCondition, hr]⟩
  | _ => exact ⟨rfl, rfl⟩

theorem State.checkNesting_of_le {parens offset : Nat} (hp : 0 < parens)
    (h : st.depth + parens ≤ s.nestLimit) : st.checkNesting s parens offset = .ok () := by
  rw [checkNesting, if_neg (by omega), if_neg (by omega)]

theorem State.close_ok {f : Frame} {frames : List Frame} {n : Node} {captures : Nat}
    (hf : st.frames = f :: frames) (h : st.Closes t f n captures) :
    st.close t next =
      .ok (push { st with flags := f.flags, captures, frames, level := f.outer } n) := by
  cases h with
  | group hc => simp only [close, hf, hc]
  | define hc hd => simp only [close, hf, hc, hd]
  | single hc hd => simp only [close, hf, hc, hd]
  | double hc hd => simp only [close, hf, hc, hd]

end Tokens

/-! ### Classes -/

section Classes

variable {s : ParserSettings} {st : State} {c c' : OpenClass} {t : Token} {k : TokenKind}
  {ks : List TokenKind} {n : Node} {ns : List Node} {P Q : OpenClass → Prop}

/-- A state like another one, but in a class that has a property. -/
def InClass (st : State) (Q : OpenClass → Prop) (st' : State) : Prop :=
  ∃ c, st' = { st with openClass := some c } ∧ Q c

/-- Tokens that take an open class to one that has a property. -/
def ClassReads (s : ParserSettings) (ks : List TokenKind) (st : State) (c : OpenClass)
    (Q : OpenClass → Prop) : Prop :=
  Reads s ks { st with openClass := some c } (InClass st Q)

theorem classReads_nil (h : Q c) : ClassReads s [] st c Q := reads_nil ⟨c, rfl, h⟩

theorem ClassReads.append {ls : List TokenKind} (h : ClassReads s ks st c P)
    (h' : ∀ c', P c' → ClassReads s ls st c' Q) : ClassReads s (ks ++ ls) st c Q := by
  refine Reads.append h ?_
  rintro st' ⟨c', rfl, hc'⟩
  exact h' c' hc'

theorem ClassReads.imp (h : ClassReads s ks st c P) (hPQ : ∀ c', P c' → Q c') :
    ClassReads s ks st c Q :=
  Reads.imp h fun _ ⟨c', hst, hc'⟩ => ⟨c', hst, hPQ c' hc'⟩

theorem classReads_token
    (h : ∀ t : Token, t.kind = k → ∃ c', c.feed t = .ok (.more c') ∧ Q c') :
    ClassReads s [k] st c Q := by
  refine reads_token fun t next hk _ => ?_
  obtain ⟨c', hfeed, hc'⟩ := h t hk
  exact ⟨_, (step_inside rfl).trans (by rw [hfeed]), c', rfl, hc'⟩

/-- A class that holds back no hyphen. -/
def Ready (c : OpenClass) : Prop := ∀ m h, c.pending ≠ .hyphen m h

theorem feed_of_ready (hc : Ready c) (hk : t.kind ≠ .classHyphen) :
    c.feed t = c.settled.take t := by
  unfold OpenClass.feed OpenClass.feedVia
  split
  · next hp =>
      rw [OpenClass.settled_of_none hp]
      rfl
  · next m hp =>
      rw [if_neg hk, OpenClass.settled_of_member hp]
      rfl
  · next m h hp => exact absurd hp (hc m h)

/-- A token that is a member of a class is taken as that member. -/
theorem member_of {caseless : Bool} {a : Atom} (h : OpenClass.MemberOf caseless t.kind a) :
    member caseless t = .ok (.atom t.span a) := by
  generalize hk : t.kind = k at h
  cases h with
  | posix negated hp => simp [member, hk, hp]
  | _ => simp [member, hk]

theorem feed_hold {a : Atom} (hc : Ready c) (hk : t.kind ≠ .classHyphen)
    (h : OpenClass.MemberOf c.caseless t.kind a) :
    c.feed t = .ok (.more { c.settled with pending := .member (.atom t.span a) }) := by
  rw [feed_of_ready hc hk]
  have hmember := member_of h
  generalize hkind : t.kind = k at h
  cases h with
  | _ => simp [OpenClass.take, OpenClass.takeVia, hkind, hmember]

theorem feed_hyphen {m : Node} (hp : c.pending = .member m) (hk : t.kind = .classHyphen) :
    c.feed t = .ok (.more { c with
      pending := .hyphen m (.atom t.span (.literal '-' .verbatim c.caseless)) }) := by
  simp only [OpenClass.feed, OpenClass.feedVia, hp, if_pos hk]

theorem feed_range {h : Node} {span : Span} {first last : Char} {form form' : LiteralForm}
    (hp : c.pending = .hyphen (.atom span (.literal first form c.caseless)) h)
    (hlast : OpenClass.MemberOf c.caseless t.kind (.literal last form' c.caseless))
    (hle : first ≤ last) : c.feed t = .ok (.more { c with
      members := .atom (span.cover t.span) (.range first last) :: c.members
      pending := .none }) := by
  have hmember := member_of hlast
  have hrange : rangeOf (.atom span (.literal first form c.caseless))
      (.atom t.span (.literal last form' c.caseless)) =
        .ok (.atom (span.cover t.span) (.range first last)) := by
    simp only [rangeOf, if_pos hle]
    rfl
  generalize hkind : t.kind = k at hlast
  cases hlast with
  | _ => simp only [OpenClass.feed, OpenClass.feedVia, hp, hkind, hmember, hrange]

/-- What members do to a class: they are added to those before, in whatever form they are held. -/
structure Gathers (c : OpenClass) (ns : List Node) (c' : OpenClass) : Prop where
  negated : c'.negated = c.negated
  caseless : c'.caseless = c.caseless
  left : c'.left = c.left
  ready : Ready c'
  members : ∃ ns' : List Node, c'.settled.members = ns'.reverse ++ c.settled.members ∧
    ns'.map Node.erase = ns.map (Node.respelled true)

theorem Gathers.refl (h : Ready c) : Gathers c [] c :=
  ⟨rfl, rfl, rfl, h, [], rfl, rfl⟩

theorem Gathers.trans {c'' : OpenClass} {ms : List Node} (h : Gathers c ns c')
    (h' : Gathers c' ms c'') : Gathers c (ns ++ ms) c'' := by
  obtain ⟨ns', hmembers, hns⟩ := h.members
  obtain ⟨ms', hmembers', hms⟩ := h'.members
  refine ⟨h'.negated.trans h.negated, h'.caseless.trans h.caseless, h'.left.trans h.left, h'.ready,
    ns' ++ ms', ?_, by rw [List.map_append, List.map_append, hns, hms]⟩
  rw [hmembers', hmembers, List.reverse_append, List.append_assoc]

/-- A member with a token of its own. -/
theorem reads_single {span : Span} {a b : Atom} (hc : Ready c) (hk : k ≠ .classHyphen)
    (hb : OpenClass.MemberOf c.caseless k b) (ha : a.respelled true = b) :
    ClassReads s [k] st c (Gathers c [.atom span a]) := by
  refine classReads_token ?_
  rintro t rfl
  refine ⟨_, feed_hold hc hk hb, by simp, by simp, by simp, by simp [Ready], [.atom t.span b],
    ?_, ?_⟩
  · simp [OpenClass.settled_of_member]
  · simp [Node.erase, Node.respelled, Restyle.node, Restyle.respelling, ha]

/-- The token of an end of a range is that character. -/
theorem rangeEndKind_member (v : Char) (caseless : Bool) :
    rangeEndKind v ≠ .classHyphen ∧
      ∃ form, OpenClass.MemberOf caseless (rangeEndKind v) (.literal v form caseless) := by
  unfold rangeEndKind
  split
  · exact ⟨by simp, _, .literal v⟩
  · split
    · split
      · exact ⟨by simp, _, .escaped v .punctuation⟩
      · exact ⟨by simp, _, .literal v⟩
    · exact ⟨by simp, _, .escaped v .hex⟩

/-- A range is held back twice before it is known to be one. -/
theorem reads_range {span : Span} {first last : Char} (hc : Ready c) (hle : first ≤ last) :
    ClassReads s [rangeEndKind first, .classHyphen, rangeEndKind last] st c
      (Gathers c [.atom span (.range first last)]) := by
  obtain ⟨hk, form, hfirst⟩ := rangeEndKind_member first c.caseless
  obtain ⟨-, form', hlast⟩ := rangeEndKind_member last c.caseless
  have h₁ : ClassReads s [rangeEndKind first] st c fun c' => ∃ span,
      c' = { c.settled with pending := .member (.atom span (.literal first form c.caseless)) } := by
    refine classReads_token ?_
    intro t ht
    rw [← ht] at hfirst hk
    exact ⟨_, feed_hold hc hk hfirst, t.span, rfl⟩
  refine ClassReads.append h₁ ?_
  rintro _ ⟨span₁, rfl⟩
  have h₂ : ClassReads s [.classHyphen] st
      { c.settled with pending := .member (.atom span₁ (.literal first form c.caseless)) }
      fun c' => ∃ h, c' = { c.settled with
        pending := .hyphen (.atom span₁ (.literal first form c.caseless)) h } :=
    classReads_token fun t ht => ⟨_, feed_hyphen rfl ht, ⟨_, rfl⟩⟩
  refine ClassReads.append h₂ ?_
  rintro _ ⟨h, rfl⟩
  refine classReads_token ?_
  intro t ht
  have hp : OpenClass.pending { c.settled with
      pending := .hyphen (.atom span₁ (.literal first form c.caseless)) h } =
        .hyphen (.atom span₁ (.literal first form c.settled.caseless)) h := by
    rw [OpenClass.settled_caseless]
  rw [← ht, ← OpenClass.settled_caseless] at hlast
  refine ⟨_, feed_range hp hlast hle, by simp, by simp, by simp, by simp [Ready],
    [.atom (span₁.cover t.span) (.range first last)], ?_, rfl⟩
  simp [OpenClass.settled_of_none]

/-- The token of a literal in a class is that literal, and never a hyphen. -/
theorem literalKind_member (v : Char) (form : LiteralForm) (caseless : Bool) :
    literalKind true v form ≠ .classHyphen ∧ OpenClass.MemberOf caseless (literalKind true v form)
      ((Atom.literal v form caseless).respelled true) := by
  simp only [Atom.respelled]
  rcases literalKind_cases true v form with hk | ⟨form', hk⟩
  · simpa only [hk] using ⟨by simp, .literal v⟩
  · simpa only [hk] using ⟨by simp, .escaped v form'⟩

theorem reads_member {ctx : Context} {spacing : Flags} {span : Span} {a : Atom} (hc : Ready c)
    (ha : a.MemberFormed ctx spacing c.caseless) :
    ClassReads s (a.kinds true) st c (Gathers c [.atom span a]) := by
  cases a with
  | literal v form caseless =>
      obtain ⟨rfl, -⟩ := ha
      obtain ⟨hk, hmember⟩ := literalKind_member v form c.caseless
      exact reads_single hc hk hmember rfl
  | shorthand kind negated => exact reads_single hc (by simp) (.shorthand kind negated) rfl
  | posix name negated => exact reads_single hc (by simp) (.posix negated ha.1) rfl
  | range first last => exact reads_range hc ha
  | _ => exact ha.elim

theorem reads_members {ctx : Context} {spacing : Flags} (hc : Ready c)
    (hns : MembersFormed ctx spacing c.caseless ns) :
    ClassReads s (Node.kindsEach true ns).flatten st c (Gathers c ns) := by
  induction ns generalizing c with
  | nil => exact classReads_nil (.refl hc)
  | cons n ns ih =>
      obtain ⟨span, a, rfl, ha⟩ := hns n (by simp)
      rw [Node.kindsEach, List.flatten_cons]
      have hmember : ClassReads s (a.kinds true) st c (Gathers c [.atom span a]) :=
        reads_member hc ha
      refine hmember.append fun c' hc' => ?_
      have hns' : MembersFormed ctx spacing c'.caseless ns := by
        rw [hc'.caseless]
        exact fun m hm => hns m (List.mem_cons_of_mem _ hm)
      exact (ih hc'.ready hns').imp fun c'' hc'' => hc'.trans hc''

/-- What a side of an operation leaves behind, wherever it ends. -/
structure EndsOperand (c : OpenClass) (n : Node) (c' : OpenClass) : Prop where
  negated : c'.negated = c.negated
  caseless : c'.caseless = c.caseless
  left : c'.left = c.left
  ready : Ready c'
  node : ∀ offset, (unionOf c'.settled.members.reverse offset).erase = n.respelled true

/-- A class that nothing has been read of since it was opened, or since the last operation. -/
def Bare (c : OpenClass) : Prop := c.pending = .none ∧ c.members = []

theorem Bare.ready (h : Bare c) : Ready c := by
  intro m h'
  rw [h.1]
  simp

theorem Bare.settled (h : Bare c) : c.settled.members = [] := by
  rw [OpenClass.settled_of_none h.1, h.2]

theorem unionOf_two (h : 2 ≤ ns.length) (offset : Nat) :
    ∃ span, unionOf ns offset = .classOp span .union ns := by
  match ns, h with
  | _ :: _ :: _, _ => exact ⟨_, rfl⟩

theorem reads_operand {ctx : Context} {spacing : Flags} (hc : Bare c)
    (hn : OperandFormed ctx spacing c.caseless n) :
    ClassReads s (n.kinds true) st c (EndsOperand c n) := by
  have hends : ∀ {c' : OpenClass} {ns : List Node}, Gathers c ns c' →
      (∀ ns' : List Node, ns'.map Node.erase = ns.map (Node.respelled true) → ∀ offset,
        (unionOf ns' offset).erase = n.respelled true) → EndsOperand c n c' := by
    intro c' ns hg hnode
    obtain ⟨ns', hmembers, hns⟩ := hg.members
    refine ⟨hg.negated, hg.caseless, hg.left, hg.ready, ?_⟩
    rw [hmembers, hc.settled, List.append_nil, List.reverse_reverse]
    exact hnode ns' hns
  cases n with
  | atom span a =>
      rcases hn with rfl | hn
      · refine classReads_nil (hends (.refl hc.ready) ?_)
        intro ns' hns offset
        rw [List.map_eq_nil_iff.mp hns]
        rfl
      · have hreads := @reads_members s st c [.atom span a] ctx spacing hc.ready hn
        simp only [Node.kindsEach, List.flatten_cons, List.flatten_nil, List.append_nil] at hreads
        refine hreads.imp fun c' hg => hends hg ?_
        intro ns' hns offset
        obtain ⟨n', rfl, hn'⟩ := List.map_eq_singleton_iff.mp hns
        exact hn'
  | classOp span op members =>
      cases op with
      | union =>
          obtain ⟨hlen, hn⟩ := hn
          rw [Node.kinds_union]
          refine (reads_members hc.ready hn).imp fun c' hg => hends hg ?_
          intro ns' hns offset
          have hlen' : 2 ≤ ns'.length := by
            have hsame := congrArg List.length hns
            rw [List.length_map, List.length_map] at hsame
            rwa [hsame]
          obtain ⟨span', hunion⟩ := unionOf_two hlen' offset
          rw [hunion, Node.erase, Node.respelled, Restyle.node, Restyle.node,
            Restyle.nodes_eq_map, Restyle.nodes_eq_map]
          exact congrArg _ hns
      | _ => exact hn.elim
  | _ => exact hn.elim

/-- What a class leaves behind before it is closed. -/
structure EndsClass (c : OpenClass) (n : Node) (c' : OpenClass) : Prop where
  negated : c'.negated = c.negated
  caseless : c'.caseless = c.caseless
  ready : Ready c'
  node : ∀ offset,
    (setOperation c'.left (unionOf c'.settled.members.reverse offset)).erase = n.respelled true

theorem reads_operator {op : ClassOp} (hc : Ready c) (hk : OpenClass.OperatorOf k op) :
    ClassReads s [k] st c fun c' => ∃ t : Token, c' = c.settled.operate op t := by
  refine classReads_token ?_
  rintro t rfl
  refine ⟨c.settled.operate op t, ?_, t, rfl⟩
  generalize hkind : t.kind = k at hk
  have hne : t.kind ≠ .classHyphen := by
    rw [hkind]
    cases hk <;> simp
  rw [feed_of_ready hc hne]
  cases hk with
  | _ => simp only [OpenClass.take, OpenClass.takeVia, hkind]

/-- A left side is read as the class was so far, a right side after the operator between them. -/
theorem reads_classBody {ctx : Context} {spacing : Flags} (hc : Bare c) (hleft : c.left = none)
    (hn : ClassFormed ctx spacing c.caseless n) :
    ClassReads s (n.kinds true) st c (EndsClass c n) := by
  have hoperand : ∀ {m : Node}, OperandFormed ctx spacing c.caseless m →
      ClassReads s (m.kinds true) st c (EndsClass c m) := by
    refine fun hm => (reads_operand hc hm).imp fun c' h => ⟨h.negated, h.caseless, h.ready, ?_⟩
    rw [h.left, hleft]
    exact h.node
  have hoperation : ∀ {op : ClassOp} {k : TokenKind} {span : Span} {l r : Node},
      OpenClass.OperatorOf k op → op.kinds = [k] →
      ClassReads s (l.kinds true) st c (EndsClass c l) → OperandFormed ctx spacing c.caseless r →
      ClassReads s ((Node.classOp span op [l, r]).kinds true) st c
        (EndsClass c (.classOp span op [l, r])) := by
    intro op k span l r hop hk hl hr
    have hkinds : (Node.classOp span op [l, r]).kinds true = l.kinds true ++ ([k] ++ r.kinds true) := by
      simp [Node.kinds, Node.kindsEach, hk, List.intercalate]
    rw [hkinds]
    refine hl.append fun c₁ h₁ => (reads_operator h₁.ready hop).append ?_
    rintro _ ⟨t, rfl⟩
    have hcaseless : (c₁.settled.operate op t).caseless = c.caseless := by
      simp [OpenClass.operate, h₁.caseless]
    have hbare : Bare (c₁.settled.operate op t) := ⟨by simp [OpenClass.operate], rfl⟩
    rw [← hcaseless] at hr
    refine (reads_operand hbare hr).imp fun c₂ h₂ =>
      ⟨h₂.negated.trans ?_, h₂.caseless.trans hcaseless, h₂.ready, fun offset => ?_⟩
    · simp [OpenClass.operate, h₁.negated]
    · have hside : c₂.left =
          some (setOperation c₁.left (unionOf c₁.settled.members.reverse t.start), op) := by
        rw [h₂.left, OpenClass.operate, OpenClass.settled_left]
      rw [hside]
      change Node.classOp ⟨0, 0⟩ op [Node.erase _, Node.erase _] =
        .classOp ⟨0, 0⟩ op [l.respelled true, r.respelled true]
      rw [h₁.node, h₂.node]
  induction n using Node.children_induction with
  | h n ih =>
      cases n with
      | atom span a => exact hoperand hn
      | classOp span op operands =>
          cases op with
          | union => exact hoperand hn
          | intersection =>
              obtain ⟨l, r, rfl, -, hl, hr⟩ := hn.operation (by simp)
              exact hoperation .intersection rfl (ih l (by simp [Node.children]) hl) hr
          | subtraction =>
              obtain ⟨l, r, rfl, -, hl, hr⟩ := hn.operation (by simp)
              exact hoperation .subtraction rfl (ih l (by simp [Node.children]) hl) hr
      | _ => exact hn.elim

/-- A class is read from its tokens and pushed. -/
theorem reads_class {ctx : Context} {spacing : Flags} {span : Span} {negated : Bool}
    (hout : st.openClass = none) (hn : ClassFormed ctx spacing st.caseless n) :
    Reads s ((Node.charClass span negated st.caseless n).kinds false) st fun st' => ∃ n',
      n'.erase = (Node.charClass span negated st.caseless n).respelled false ∧
        st' = State.push { st with openClass := none } n' := by
  have hopen : Reads s [.classOpen negated] st fun st' => ∃ offset, st' = { st with
      openClass := some { offset, negated, caseless := st.caseless } } := by
    refine reads_token fun t next hk _ => ⟨_, ?_, t.start, rfl⟩
    simp only [step_outside hout, State.takeToken, State.takeVia, State.takeAtom, hk]
  rw [Node.kinds]
  refine hopen.cons ?_
  rintro _ ⟨offset, rfl⟩
  refine Reads.append (reads_classBody ⟨rfl, rfl⟩ rfl hn) ?_
  rintro _ ⟨c, rfl, hc⟩
  refine reads_token fun t next hk _ => ⟨_, ?_, c.settled.close t, ?_, rfl⟩
  · have hfeed : c.feed t = .ok (.done (c.settled.close t)) := by
      rw [feed_of_ready hc.ready (by simp [hk])]
      simp only [OpenClass.take, OpenClass.takeVia, hk]
    rw [step_inside rfl, hfeed]
  · have hnode := hc.node t.start
    rw [← Restyle.node_true] at hnode
    simp only [OpenClass.close, OpenClass.settled_negated, OpenClass.settled_caseless,
      OpenClass.settled_left, hc.negated, hc.caseless, Node.erase, Restyle.node, hnode]
    rfl

end Classes

end Parse

end PatternLint
