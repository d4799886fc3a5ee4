import PatternLint.Proofs.EmptyClasses
import PatternLint.Proofs.Parse.Refusal
import PatternLint.Proofs.Token.ClassTokens

/-!
# Classes and what is read in them

The scanner and the parser each keep track of whether a class is open: the scanner to know
what to read, the parser to know what to make of it. They never speak of it, and the parser
is ready for the two not to agree. It has an answer to a token of a class that comes where
none is open, to one that ends a branch where an atom is to be made of it, and to a member
that closes the class or ends the text.

These answers are never asked for. To say so without a trace of the parser, take a run that
makes atoms and members in another way, `runVia`. If the tokens come from the scanner, it is
`run` in any way that differs only for tokens of classes outside of them, for tokens that end
a branch, and for members that end a class or the text.
-/

namespace PatternLint

open Token Parse Text

/-! ### Other answers -/

/-- Whether a token ends the branch that it comes in, so that no atom is made of it. -/
def TokenKind.endsBranch : TokenKind → Bool
  | .alternation | .groupClose | .eof => true
  | _ => false

namespace Parse

variable {s : ParserSettings} {atoms : Atoms} {members : Members} {c : OpenClass} {t : Token}
  {st st' : State} {next : Nat}

/-- Members that are made as the parser makes them, but for what closes a class or ends the text. -/
def Members.Agree (members : Members) : Prop :=
  ∀ caseless t, t.kind ≠ .classClose → t.kind ≠ .eof → members caseless t = member caseless t

/-- Atoms that are made as the parser makes them, but for the tokens that only classes have and
those that end a branch. -/
def Atoms.Agree (s : ParserSettings) (atoms : Atoms) : Prop :=
  ∀ st t next, t.kind.isClassOnly = false → t.kind.endsBranch = false →
    atoms st t next = st.takeToken s t next

/-- No member is made of what closes a class or ends the text. -/
theorem OpenClass.takeVia_congr (h : members.Agree) (c : OpenClass) (t : Token) :
    c.takeVia members t = c.take t := by
  have hmember := h c.caseless t
  unfold take takeVia
  cases hk : t.kind with
  | classClose | eof | classIntersection | classSubtraction => rfl
  | _ => rw [hmember (by simp [hk]) (by simp [hk])]

theorem OpenClass.feedVia_congr (h : members.Agree) (c : OpenClass) (t : Token) :
    c.feedVia members t = c.feed t := by
  have hmember := h c.caseless t
  unfold feed feedVia
  cases c.pending with
  | none => exact takeVia_congr h c t
  | member m =>
      simp only [takeVia_congr h]
      rfl
  | hyphen m hyphen =>
      cases hk : t.kind with
      | classClose | eof => rfl
      | _ => rw [hmember (by simp [hk]) (by simp [hk])]

/-- No atom is made of what ends a branch. -/
theorem State.takeVia_congr (h : atoms.Agree s) (ht : t.kind.isClassOnly = false) :
    st.takeVia atoms t next = st.takeToken s t next := by
  cases hb : t.kind.endsBranch with
  | true =>
      unfold takeToken takeVia
      cases hk : t.kind with
      | alternation | groupClose | eof => rfl
      | _ =>
          rw [hk] at hb
          cases hb
  | false =>
      rw [← h st t next ht hb]
      unfold takeVia
      cases hk : t.kind with
      | alternation | groupClose | eof =>
          rw [hk] at hb
          cases hb
      | _ => rfl

/-- Outside a class atoms are made of no tokens that only classes have. -/
theorem stepVia_eq (hatoms : atoms.Agree s) (hmembers : members.Agree)
    (ht : st.openClass = none → t.kind.isClassOnly = false) (next : Nat) :
    stepVia atoms members st t next = step s st t next := by
  unfold stepVia
  cases ho : st.openClass with
  | none =>
      rw [step_outside ho]
      exact State.takeVia_congr hatoms (ht ho)
  | some c =>
      rw [step_inside ho]
      simp only [OpenClass.feedVia_congr hmembers]

/-! ### The open class and the tokens -/

theorem AtomOf.within {e : Env} {k : TokenKind} {a : Atom} (h : AtomOf e k a) :
    k.within false = false := by
  cases h <;> rfl

theorem Opens.within {e inner : Env} {k : TokenKind} {construct : Construct}
    (h : Opens e k construct inner) : k.within false = false := by
  cases h <;> rfl

/-- Outside a class only the token that opens one changes whether one is open. -/
theorem State.Move.within {limit : Nat} (h : Move limit st t next st')
    (hnone : st.openClass = none) : st'.openClass.isSome = t.kind.within false := by
  have hstay : ∀ {st'' : State}, st''.openClass = st.openClass → t.kind.within false = false →
      st''.openClass.isSome = t.kind.within false := by
    intro st'' hsame hk
    rw [hsame, hnone, hk]
    rfl
  cases h with
  | atom ha => exact hstay rfl ha.within
  | octal hk => exact hstay (pushDigits_openClass _ _) (by rw [hk]; rfl)
  | enter ho => exact hstay rfl ho.within
  | startClass hk =>
      rw [hk]
      rfl
  | again hk | branch hk | leave hk | test hk | finish hk => exact hstay rfl (by rw [hk]; rfl)

theorem OpenClass.MemberOf.within {caseless : Bool} {k : TokenKind} {a : Atom}
    (h : MemberOf caseless k a) : k.within true = true := by
  cases h <;> rfl

/-- A token after which the class is still open leaves it where it was. -/
theorem OpenClass.ClassMove.more_within {c c' : OpenClass} (h : ClassMove c t (.more c')) :
    c'.offset = c.offset ∧ t.kind.within true = true := by
  cases h with
  | operate ho =>
      refine ⟨settled_offset c, ?_⟩
      generalize t.kind = k at ho
      cases ho <;> rfl
  | hold ha => exact ⟨settled_offset c, ha.within⟩
  | hyphen hp hk => exact ⟨rfl, by rw [hk]; rfl⟩
  | range hp hb hle => exact ⟨rfl, hb.within⟩

theorem OpenClass.ClassMove.done_within {c : OpenClass} {n : Node}
    (h : ClassMove c t (.done n)) : t.kind.within true = false := by
  cases h with
  | close hk => rw [hk]; rfl

/-- A token changes whether a class is open for the parser as it does for the scanner. -/
theorem step_within (h : step s st t next = .ok st') :
    st'.openClass.isSome = t.kind.within st.openClass.isSome := by
  rcases step_move h with ⟨hnone, hm⟩ | ⟨c, c', hopen, hm, rfl⟩ | ⟨c, n, hopen, hm, rfl⟩
  · rw [hnone]
    exact hm.within hnone
  · rw [hopen]
    exact hm.more_within.2.symm
  · rw [hopen]
    exact hm.done_within.symm

/-- If a class is open for the parser where one is open for the scanner, no other answers than its
own are asked for in the rest of the run. -/
theorem runVia_eq {ctx : Context} {m : Mode} {offset : Nat} {cs : List Char} {ts : List Token}
    (hatoms : atoms.Agree s) (hmembers : members.Agree) (hts : Scanned ctx m offset cs ts)
    (hm : m.isInClass = st.openClass.isSome) :
    runVia atoms members st ts = run s st ts := by
  induction hts generalizing st with
  | done m offset =>
      rw [runVia, run_cons_eq, stepVia_eq hatoms hmembers fun _ => rfl]
      rfl
  | skip hp _ ih => exact ih ((isInClass_skip hp).trans hm)
  | token hp _ ih =>
      obtain ⟨hl, rfl⟩ := scan_lexeme hp
      -- Where the parser has no class open the scanner has none, and reads no token of one.
      have honly : st.openClass = none → _ := fun hnone =>
        hl.isClassOnly_eq_false (by rw [hm, hnone]; rfl)
      rw [runVia, run_cons_eq, stepVia_eq hatoms hmembers honly]
      split
      · rfl
      · next hs => exact ih (by rw [hl.isInClass_advance, hm, step_within hs])

/-! ### Where open classes were opened -/

/-- The class that is open was opened by one of the tokens. -/
def State.OpenedIn (ts : List Token) (st : State) : Prop :=
  ∀ c ∈ st.openClass, ∃ o ∈ ts, ∃ negated, o.kind = .classOpen negated ∧ o.start = c.offset

theorem step_openedIn {ts : List Token} (ht : t ∈ ts) (h : st.OpenedIn ts)
    (hs : step s st t next = .ok st') : st'.OpenedIn ts := by
  rcases step_move hs with ⟨hnone, hm⟩ | ⟨c, c', hopen, hm, rfl⟩ | ⟨c, n, -, -, rfl⟩
  · intro c hc
    rcases hm.openClass with hsame | ⟨negated, hk, hnew⟩
    · rw [hsame, hnone] at hc
      cases hc
    · rw [hnew] at hc
      obtain rfl := Option.some.inj hc
      exact ⟨t, ht, negated, hk, rfl⟩
  · intro d hd
    obtain rfl := Option.some.inj hd
    rw [hm.more_within.1]
    exact h c hopen
  · exact fun _ hc => nomatch hc

/-- A run that is refused for a class without an end is refused where a token opened it. -/
theorem run_unclosedClass {all ts : List Token} {l : Located} (hsub : ∀ t ∈ ts, t ∈ all)
    (h : st.OpenedIn all) (hr : run s st ts = .error l) (hkind : l.fault.kind = .unclosedClass) :
    ∃ o ∈ all, ∃ negated, o.kind = .classOpen negated ∧ o.start = l.offset := by
  induction ts generalizing st with
  | nil => cases hr
  | cons t ts ih =>
      obtain ⟨ht, hsub⟩ := List.forall_mem_cons.mp hsub
      rcases run_cons_error.mp hr with hs | ⟨mid, hs, hrest⟩
      · obtain ⟨c, hopen, hoffset⟩ := step_unclosedClass hs hkind
        rw [hoffset]
        exact h c hopen
      · exact ih hsub (step_openedIn ht h hs) hrest

end Parse

/-- A token that opens a class starts with a bracket. -/
theorem Token.Laid.bracket {ctx : Context} {cs : List Char} {next : Nat} {ts : List Token}
    {o : Token} {negated : Bool} (h : Laid ctx cs next ts) (ho : o ∈ ts)
    (hk : o.kind = .classOpen negated) :
    ∃ pre post, cs = pre ++ '[' :: post ∧ size pre = o.start := by
  induction h with
  | done =>
      rw [List.mem_singleton] at ho
      rw [ho] at hk
      cases hk
  | @token t next ts ht hle hl ih =>
      rcases List.mem_cons.mp ho with rfl | ho
      · obtain ⟨pre, post, hcs, hsize⟩ := ht.slice
        obtain ⟨m, hlex⟩ := ht.lexeme
        rw [hk] at hlex
        obtain ⟨-, -, more, hmore⟩ := hlex.classOpen
        exact ⟨pre, more ++ post, by rw [hcs, ← hmore]; rfl, hsize⟩
      · exact ih ho

namespace Pattern

/-- The tokens of classes stand in classes and nothing else does, whatever the body; so the parser
never needs its answers to those that stand elsewhere, nor to members that are the end of a class
or of the text; and a class that is refused for having no end is so at its bracket. -/
theorem classes_contained (s : ParserSettings) (body modifiers : String) (delimiter : Char) :
    (∀ flags dialect ts, tokenize body flags dialect = .ok ts → Contained ts) ∧
    (∀ flags ts atoms members, tokenize body flags s.dialect = .ok ts →
      Atoms.Agree s atoms → Members.Agree members →
      runVia atoms members (initial flags ts) ts = run s (initial flags ts) ts) ∧
    ∀ e, parseBody s body modifiers delimiter = .error e → e.fault.kind = .unclosedClass →
      ∃ flags ts, Flags.ofModifiers modifiers = .ok flags ∧
        tokenize body flags s.dialect = .ok ts ∧
        (∃ o ∈ ts, ∃ negated, o.kind = .classOpen negated ∧ o.start = e.offset) ∧
        ∃ pre post, body.toList = pre ++ '[' :: post ∧ size pre = e.offset := by
  refine ⟨?_, ?_, ?_⟩
  · intro flags dialect ts ht
    exact (tokens_eq_ok_iff.mp ht).contained rfl
  · intro flags ts atoms members ht hatoms hmembers
    exact runVia_eq hatoms hmembers (tokens_eq_ok_iff.mp ht) rfl
  · intro e h hkind
    unfold parseBody at h
    split at h
    · cases Except.error.inj h
      cases hkind
    next flags hflags =>
      rcases parseWith_error_cases h with
        ⟨fault, -, rfl⟩ | ⟨ts, ht, ⟨l, hr, rfl⟩ | ⟨st, l, -, hl, rfl⟩⟩
      · exact absurd hkind (Fault.kind_ne_of_isPlain (Fault.isPlain_scan _))
      · have hinit : (initial flags ts).OpenedIn ts := fun _ hc => nomatch hc
        obtain ⟨o, ho, negated, hk, hstart⟩ :=
          run_unclosedClass (fun _ ht => ht) hinit hr hkind
        obtain ⟨next, hlaid⟩ := tokenize_laid ht
        obtain ⟨pre, post, hbody, hsize⟩ := hlaid.bracket ho hk
        exact ⟨flags, ts, hflags, ht, ⟨o, ho, negated, hk, hstart⟩, pre, post, hbody,
          hsize.trans hstart⟩
      · rcases Node.firstFault_plain hl with hdeep | hf
        · rw [show (PatternError.ofLocated body l).fault = l.fault from rfl, hdeep] at hkind
          cases hkind
        · exact absurd hkind (Fault.kind_ne_of_isPlain hf)

/-- In `é[b` a class has no end. A parser that refuses what it need not answer for reads the tokens
in the same way, and its bracket stands behind the two bytes of the letter. -/
theorem classes_contained_unclosed :
    ∃ ts e, tokenize "é[b" 0 .pcre43 = .ok ts ∧ Contained ts ∧
      runVia
          (fun st t next => if t.kind.isClassOnly || t.kind.endsBranch then
            .error ⟨.unexpectedToken, t.start⟩ else st.takeToken {} t next)
          (fun caseless t => if t.kind = .classClose ∨ t.kind = .eof then
            .error ⟨.unexpectedToken, t.start⟩ else member caseless t) (initial 0 ts) ts =
        run {} (initial 0 ts) ts ∧
      parseBody {} "é[b" "" '/' = .error e ∧ e.fault.kind = .unclosedClass ∧ e.offset = 2 ∧
      ∃ pre post, "é[b".toList = pre ++ '[' :: post ∧ size pre = 2 := by
  have ht : tokenize "é[b" 0 .pcre43 = .ok [⟨.literal 'é', ['é'], 0, 2⟩,
      ⟨.classOpen false, ['['], 2, 3⟩, ⟨.literal 'b', ['b'], 3, 4⟩, Token.eof 4] := by cbv
  have he : parseBody {} "é[b" "" '/' = .error (.inText "é[b" 2 .unclosedClass) := by cbv
  obtain ⟨hcontained, hrun, hplace⟩ := classes_contained {} "é[b" "" '/'
  obtain ⟨flags, ts, -, -, -, hbracket⟩ := hplace _ he rfl
  refine ⟨_, _, ht, hcontained 0 .pcre43 _ ht, ?_, he, rfl, rfl, hbracket⟩
  refine hrun 0 _ _ _ ht ?_ ?_
  · intro st t next hclass hbranch
    simp [hclass, hbranch]
  · intro caseless t hclose heof
    simp [hclose, heof]

end Pattern

end PatternLint
