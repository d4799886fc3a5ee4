import PatternLint.Proofs.Parse.Complete
import PatternLint.Proofs.Token.Strung

/-!
# The tokens of a formed tree

The tokens that a formed tree is written as are strung: each is one that can stand
in the mode in which it will be read, since the mode follows from the environment
that the tree was formed in. They also fit each other, if repetitions are repeated
by braces only.

Names are the one thing that a tree does not know enough about. A reference holds
any name, but it is written as one that is not too long.
-/

namespace PatternLint

open Unicode Text Token Parse

/-! ### Literals -/

section Literals

variable {ctx : Context} {m : Mode} {c : Char}

/-- A quoted character that is written as itself has no meaning anywhere. -/
theorem ne_of_quoted (h : (isAlphanumeric c || (0x80 ≤ c.toNat && !isWhiteSpace c)) = true)
    {d : Char} (hd : (isAlphanumeric d || (0x80 ≤ d.toNat && !isWhiteSpace d)) = false) : c ≠ d := by
  rintro rfl
  rw [h] at hd
  cases hd

theorem isSyntax_of_quoted (h : (isAlphanumeric c || (0x80 ≤ c.toNat && !isWhiteSpace c)) = true) :
    isSyntax c = false := by
  rw [Bool.eq_false_iff]
  intro hmark
  have hall : ∀ d ∈ ['\\', '(', ')', '|', '[', '.', '^', '$', '*', '+', '?'],
      (isAlphanumeric d || (0x80 ≤ d.toNat && !isWhiteSpace d)) = false := by decide
  exact ne_of_quoted h (hall c (List.contains_iff_mem.mp hmark)) rfl

/-- What is neither letter nor number can stand after a backslash. -/
theorem punctuation_of_not_alphanumeric (h : isAlphanumeric c = false) (inClass : Bool) :
    FormWritten ctx inClass c .punctuation := by
  have hascii : c.toNat < 0x80 → isAsciiLetter c = false ∧ isAsciiDigit c = false := by
    intro hlt
    simpa [isAlphanumeric, hlt] using h
  refine ⟨?_, fun hd => ?_⟩
  · cases hl : isAsciiLetter c with
    | false => rfl
    | true => rw [← hl, (hascii (toNat_lt_of_isAsciiLetter hl)).1]
  · rw [(hascii (toNat_lt_of_isAsciiDigit hd)).2] at hd
    cases hd

theorem escaped_issued {d : Dialect} {form : LiteralForm} (hne : form ≠ .quoted)
    (hf : FormWritten ⟨d, true⟩ m.isInClass c form) : Issued d m (.escaped c form) := by
  refine ⟨hne, ?_⟩
  cases hp : m.place with
  | outside =>
      rw [Mode.isInClass_of_outside hp] at hf
      exact ⟨[], hf⟩
  | inClass fresh =>
      rw [Mode.isInClass_of_inClass hp] at hf
      exact hf

/-- Where a pattern is Unicode text, every character may be given by its number. -/
theorem hex_issued (d : Dialect) (m : Mode) (c : Char) : Issued d m (.escaped c .hex) :=
  escaped_issued (by simp) (.inl rfl)

theorem verbatim_issued (h : LiteralFormed ctx m.isInClass m.spacing c .verbatim) :
    Issued ctx.dialect m (literalKind m.isInClass c .verbatim) := by
  cases hp : m.place with
  | outside =>
      rw [Mode.isInClass_of_outside hp] at h ⊢
      simp only [literalKind, Bool.false_and, Bool.false_eq_true, ↓reduceIte, Issued, hp]
      exact ⟨h.1, fun hs => (h.2 hs).2⟩
  | inClass fresh =>
      rw [Mode.isInClass_of_inClass hp] at h ⊢
      simp only [literalKind, Bool.true_and]
      split
      · next hspecial =>
          refine escaped_issued (by simp) (punctuation_of_not_alphanumeric ?_ _)
          have hall : ∀ d ∈ [']', '^', '-', '[', '&'], isAlphanumeric d = false := by decide
          exact hall c (List.contains_iff_mem.mp hspecial)
      · next hspecial =>
          simp only [Issued, hp]
          exact ⟨Bool.eq_false_iff.mpr hspecial, h⟩

theorem quoted_issued (d : Dialect) (m : Mode) (c : Char) :
    Issued d m (literalKind m.isInClass c .quoted) := by
  simp only [literalKind]
  split
  · next hq =>
      cases hp : m.place with
      | outside =>
          simp only [Issued, hp]
          exact ⟨isSyntax_of_quoted hq, fun _ => ne_of_quoted hq (by decide)⟩
      | inClass fresh =>
          simp only [Issued, hp]
          exact ⟨isClassSpecial_eq_false hq, ne_of_quoted hq (by decide),
            fun _ => ⟨ne_of_quoted hq (by decide), ne_of_quoted hq (by decide)⟩⟩
  · next hq =>
      split
      · exact hex_issued d m c
      · refine escaped_issued (by simp) (punctuation_of_not_alphanumeric ?_ _)
        simp only [Bool.or_eq_true, not_or, Bool.not_eq_true] at hq
        exact hq.1

/-- The token of a literal is one that can be written where the literal was formed. -/
theorem LiteralFormed.issued {form : LiteralForm}
    (h : LiteralFormed ctx m.isInClass m.spacing c form) :
    Issued ctx.dialect m (literalKind m.isInClass c form) := by
  cases form with
  | verbatim => exact verbatim_issued h
  | quoted => exact quoted_issued ctx.dialect m c
  | special =>
      simp only [literalKind]
      split
      · exact escaped_issued (by simp) (FormWritten.widen h)
      · exact hex_issued ctx.dialect m c
  | control =>
      simp only [literalKind]
      split
      · exact escaped_issued (by simp) (FormWritten.widen h)
      · exact hex_issued ctx.dialect m c
  | _ => exact escaped_issued (by simp) (FormWritten.widen h)

end Literals

/-! ### Atoms -/

/-- An atom in which every name is one that can be written. -/
def Atom.Named : Atom → Prop
  | .backref (.name s) _ | .subroutine (.group (.name s)) => checkName s.toList = .ok ()
  | _ => True

namespace Parse

/-- The mode outside a class that belongs to an environment, inside groups with given spacings. -/
def Env.mode (e : Env) (saved : List Flags) : Mode where
  spacing := e.spacing
  saved := saved

section Atoms

variable {ctx : Context} {e inner : Env} {saved : List Flags}

theorem AtomOf.mode {k : TokenKind} {a : Atom} (h : AtomOf e k a) :
    (e.mode saved).advance k = (e.after a).mode saved := by
  cases h with
  | inlineFlags change =>
      simp only [Mode.advance, Env.mode, Bool.false_eq_true, ↓reduceIte, Mode.outsideAfter,
        Mode.after, Mode.respaced, Env.spacing, Env.after, FlagChange.apply_spacing]
  | _ => rfl

theorem OpensGroup.mode {o : Opener} {head : GroupHead} (h : OpensGroup e o head inner) :
    (e.mode saved).advance (.groupOpen o) = inner.mode (e.spacing :: saved) := by
  cases h with
  | modifiers change =>
      simp only [Mode.advance, Env.mode, Bool.false_eq_true, ↓reduceIte, Mode.outsideAfter,
        Mode.after, Mode.respaced, Mode.save, Env.spacing, FlagChange.apply_spacing]
  | _ => rfl

end Atoms

end Parse

section Atoms

variable {ctx : Context} {e : Env} {saved : List Flags}

/-- Outside classes, all but literals are written just where they can be read. -/
theorem token_issued {k : TokenKind} {t : List Char} (hs : Spellable k)
    (hl : OutsideLexeme ctx e.spacing t k) (h1 : ∀ c, k ≠ .literal c)
    (h2 : ∀ v form, k ≠ .escaped v form) :
    Issued ctx.dialect (e.mode saved) k := by
  cases k with
  | literal c => exact absurd rfl (h1 c)
  | escaped v form => exact absurd rfl (h2 v form)
  | classClose => exact hl.elim
  | callout arg => cases arg <;> exact ⟨hs, t, hl⟩
  | _ => exact ⟨hs, t, hl⟩

theorem RefFormed.written {count : Nat} {ref : GroupRef} (h : RefFormed count ref) :
    ReferenceWritten ref.written := by
  cases ref with
  | relative i n => exact h.1
  | _ => exact h

theorem RefFormed.ne_zero {count : Nat} {ref : GroupRef} (h : RefFormed count ref) :
    ref.written ≠ .relative 0 := by
  cases ref with
  | relative i n =>
      obtain ⟨-, hm⟩ := h
      cases hm with
      | relative hr _ _ =>
          rintro ⟨⟩
          exact hr.2.2 rfl
  | _ => simp [GroupRef.written]

theorem Atom.Formed.issued {a : Atom} {k : TokenKind} (ha : a.Formed ctx e) (hn : a.Named)
    (hk : a.kinds false = [k]) : Issued ctx.dialect (e.mode saved) k := by
  cases a with
  | literal c form caseless =>
      cases hk
      exact LiteralFormed.issued (m := e.mode saved) ha.2
  | dot dotAll =>
      cases hk
      exact token_issued (t := []) trivial trivial (by simp) (by simp)
  | shorthand kind negated =>
      cases hk
      exact token_issued (t := []) trivial ha (by simp) (by simp)
  | backref ref caseless =>
      cases hk
      obtain ⟨-, href, hle⟩ := ha
      refine token_issued (t := []) ⟨?_, href.ne_zero⟩ ⟨href.written, ?_⟩ (by simp) (by simp)
      · cases ref with
        | name s =>
            rintro _ ⟨⟩
            exact hn
        | _ => simp [GroupRef.written]
      · cases ref with
        | relative i n =>
            rintro _ ⟨⟩
            exact hle i n rfl
        | _ => simp [GroupRef.written]
  | subroutine target =>
      cases target with
      | whole =>
          cases hk
          exact token_issued (t := []) (by simp [Spellable]) (Nat.zero_le _) (by simp) (by simp)
      | group ref =>
          cases hk
          refine token_issued (t := []) ?_ ha.1.written (by simp) (by simp)
          cases ref with
          | name s =>
              rintro _ ⟨⟩
              exact hn
          | _ => simp [GroupRef.written, Spellable]
  | anchor kind multiline =>
      cases hk
      exact token_issued (t := []) trivial trivial (by simp) (by simp)
  | inlineFlags change =>
      cases hk
      exact token_issued (t := ['(']) trivial ⟨List.prefix_refl _, ha⟩ (by simp) (by simp)
  | verb name arg =>
      cases hk
      exact token_issued (t := []) trivial ha (by simp) (by simp)
  | callout arg =>
      cases hk
      refine token_issued (t := []) trivial ?_ (by simp) (by simp)
      cases arg <;> exact ha
  | comment text =>
      cases hk
      exact token_issued (t := []) trivial ha (by simp) (by simp)
  | _ => exact ha.elim

theorem Atom.Formed.strung {a : Atom} (ha : a.Formed ctx e) (hn : a.Named) :
    Strung ctx.dialect (e.mode saved) (a.kinds false) ((e.after a).mode saved) := by
  obtain ⟨k, hk, hatom, -⟩ := ha.atomOf
  rw [hk, ← e.after_respelled a false, ← hatom.mode]
  exact strung_outside rfl (ha.issued hn hk)

end Atoms

/-! ### Classes -/

section Classes

variable {ctx : Context} {m : Mode} {fresh : Bool} {k : TokenKind} {ks ls : List TokenKind}
  {spacing : Flags} {caseless : Bool} {n : Node} {ns : List Node}

/-- A mode like another one, but in a class. -/
def Token.Mode.inClass (m : Mode) (fresh : Bool) : Mode := { m with place := .inClass fresh }

/-- Tokens that are written in a class and do not lead out of it. -/
structure ClassStrung (ctx : Context) (m : Mode) (ks : List TokenKind) : Prop where
  strung : ∀ fresh, ∃ fresh', Strung ctx.dialect (m.inClass fresh) ks (m.inClass fresh')
  leading : Leading ks

theorem classStrung_nil (ctx : Context) (m : Mode) : ClassStrung ctx m [] :=
  ⟨fun fresh => ⟨fresh, rfl⟩, leading_nil⟩

theorem ClassStrung.append (h : ClassStrung ctx m ks) (h' : ClassStrung ctx m ls) :
    ClassStrung ctx m (ks ++ ls) := by
  refine ⟨fun fresh => ?_, h.leading.append h'.leading⟩
  obtain ⟨fresh₁, h₁⟩ := h.strung fresh
  obtain ⟨fresh₂, h₂⟩ := h'.strung fresh₁
  exact ⟨fresh₂, h₁.append h₂⟩

theorem advance_inClass (hk : k ≠ .classClose) : (m.inClass fresh).advance k = m.inClass false := by
  simp [Mode.advance, Mode.inClass, Mode.classAfter, hk]

theorem classStrung_one (hk : ∀ fresh, Issued ctx.dialect (m.inClass fresh) k) (h1 : k ≠ .classHyphen)
    (h2 : k ≠ .classClose) : ClassStrung ctx m [k] := by
  refine ⟨fun fresh => ⟨false, ?_⟩, leading_one ?_⟩
  · rw [← @advance_inClass m fresh k h2]
    exact strung_one (hk fresh) h1
  · rintro count rfl
    exact (hk true).2

theorem rangeEndKind_issued (d : Dialect) (c : Char) (fresh : Bool) :
    Issued d (m.inClass fresh) (rangeEndKind c) := by
  simp only [rangeEndKind]
  split
  · next h =>
      have hq : (isAlphanumeric c || (0x80 ≤ c.toNat && !isWhiteSpace c)) = true := by simp [h]
      exact ⟨isClassSpecial_eq_false hq, ne_of_quoted hq (by decide),
        fun _ => ⟨ne_of_quoted hq (by decide), ne_of_quoted hq (by decide)⟩⟩
  · next h =>
      split
      · next hpunctuation =>
          split
          · exact escaped_issued (by simp)
              (punctuation_of_not_alphanumeric (Bool.eq_false_iff.mpr h) _)
          · next hspecial =>
              simp only [Bool.or_eq_true, beq_iff_eq, not_or] at hspecial
              have hne : ∀ d, isAsciiPunctuation d = false → c ≠ d := by
                rintro d hd rfl
                rw [hpunctuation] at hd
                cases hd
              exact ⟨Bool.eq_false_iff.mpr hspecial.1, hspecial.2,
                fun _ => ⟨hne ' ' (by decide), hne '\t' (by decide)⟩⟩
      · exact hex_issued d _ c

theorem Atom.MemberFormed.classStrung {a : Atom} (ha : a.MemberFormed ctx m.spacing caseless) :
    ClassStrung ctx m (a.kinds true) := by
  cases a with
  | literal c form caseless' =>
      refine classStrung_one ?_ (literalKind_member c form caseless').1 ?_
      · intro fresh
        exact LiteralFormed.issued (m := m.inClass fresh) ha.2
      · rcases literalKind_cases true c form with hk | ⟨form', hk⟩
        · simp [hk]
        · simp [hk]
  | shorthand kind negated =>
      exact classStrung_one (fun fresh => ⟨trivial, ha⟩) (by simp) (by simp)
  | posix name negated =>
      exact classStrung_one (fun fresh => ⟨trivial, ha.2⟩) (by simp) (by simp)
  | range first last =>
      have hend : ∀ c, rangeEndKind c ≠ .classHyphen ∧ rangeEndKind c ≠ .classClose ∧
          rangeEndKind c ≠ .classSubtraction ∧ ∀ count, rangeEndKind c ≠ .quantifier count := by
        intro c
        unfold rangeEndKind
        split
        · simp
        · split
          · split <;> simp
          · simp
      refine ⟨fun fresh => ?_, leading_of_forall ?_⟩
      swap
      · simp only [Atom.kinds, List.forall_mem_cons]
        exact ⟨(hend first).2.2.2, by simp, (hend last).2.2.2, by simp⟩
      refine ⟨false, rangeEndKind_issued ctx.dialect first fresh, fun h => absurd h (hend first).1, ?_⟩
      rw [advance_inClass (hend first).2.1]
      refine ⟨⟨trivial, trivial⟩, fun _ => ⟨_, [], rfl, (hend last).1, (hend last).2.2.1⟩, ?_⟩
      rw [advance_inClass (by simp)]
      refine ⟨rangeEndKind_issued ctx.dialect last false, fun h => absurd h (hend last).1, ?_⟩
      rw [advance_inClass (hend last).2.1]
      rfl
  | _ => exact ha.elim

theorem MembersFormed.classStrung (h : MembersFormed ctx m.spacing caseless ns) :
    ClassStrung ctx m (Node.kindsEach true ns).flatten := by
  induction ns with
  | nil => exact classStrung_nil ctx m
  | cons n ns ih =>
      obtain ⟨span, a, rfl, ha⟩ := h n (by simp)
      rw [Node.kindsEach, List.flatten_cons]
      exact (Atom.MemberFormed.classStrung ha).append
        (ih fun x hx => h x (List.mem_cons_of_mem _ hx))

theorem OperandFormed.classStrung (h : OperandFormed ctx m.spacing caseless n) :
    ClassStrung ctx m (n.kinds true) := by
  cases n with
  | atom span a =>
      rcases h with rfl | h
      · exact classStrung_nil ctx m
      · obtain ⟨span', a', ha, hm⟩ := h (.atom span a) (by simp)
        cases ha
        exact Atom.MemberFormed.classStrung hm
  | classOp span op members =>
      cases op with
      | union =>
          rw [Node.kinds_union]
          exact MembersFormed.classStrung h.2
      | _ => exact h.elim
  | _ => exact h.elim

theorem ClassFormed.classStrung (h : ClassFormed ctx m.spacing caseless n) :
    ClassStrung ctx m (n.kinds true) := by
  have hoperation : ∀ {op : ClassOp} {span : Span} {l r : Node}, ClassStrung ctx m op.kinds →
      ClassStrung ctx m (l.kinds true) → ClassStrung ctx m (r.kinds true) →
      ClassStrung ctx m ((Node.classOp span op [l, r]).kinds true) := by
    intro op span l r hop hl hr
    have hkinds : (Node.classOp span op [l, r]).kinds true =
        l.kinds true ++ (op.kinds ++ r.kinds true) := by
      simp [Node.kinds, Node.kindsEach, List.intercalate]
    rw [hkinds]
    exact hl.append (hop.append hr)
  induction n using Node.children_induction with
  | h n ih =>
      cases n with
      | atom span a => exact OperandFormed.classStrung h
      | classOp span op operands =>
          cases op with
          | union => exact OperandFormed.classStrung h
          | intersection =>
              obtain ⟨l, r, rfl, hd, hl, hr⟩ := h.operation (by simp)
              exact hoperation (classStrung_one (fun _ => ⟨trivial, hd⟩) (by simp) (by simp))
                (ih l (by simp [Node.children]) hl) (OperandFormed.classStrung hr)
          | subtraction =>
              obtain ⟨l, r, rfl, hd, hl, hr⟩ := h.operation (by simp)
              exact hoperation (classStrung_one (fun _ => ⟨trivial, hd⟩) (by simp) (by simp))
                (ih l (by simp [Node.children]) hl) (OperandFormed.classStrung hr)
      | _ => exact h.elim

end Classes

/-! ### Trees -/

section Trees

variable {ctx : Context} {limit depth : Nat} {e e' : Env} {n : Node} {ns : List Node}
  {saved : List Flags}

/-- A tree in which every name is one that can be written. -/
def Node.Named (n : Node) : Prop := ∀ span a, .atom span a ∈ n.preorder → a.Named

theorem Node.Named.child {c : Node} (h : n.Named) (hc : c ∈ n.children) : c.Named :=
  fun span a ha => h span a (mem_preorder.mpr (.inr ⟨c, hc, ha⟩))

/-- A tree whose tokens are strung, in whatever role it is formed. -/
def Stringable (ctx : Context) (limit : Nat) (n : Node) : Prop :=
  ∀ {depth : Nat} {role : Role} {e e' : Env} {saved : List Flags},
    Formed ctx limit n depth role e e' →
      Strung ctx.dialect (e.mode saved) (n.kinds false) (e'.mode saved)

theorem strung_close : Strung ctx.dialect (e.mode (e'.spacing :: saved)) [.groupClose]
    (({ e with flags := e'.flags } : Env).mode saved) :=
  strung_outside rfl (token_issued (t := [')']) trivial (List.prefix_refl _) (by simp) (by simp))

theorem strung_bar : Strung ctx.dialect (e.mode saved) [.alternation] (e.mode saved) :=
  strung_outside rfl (token_issued (t := []) trivial trivial (by simp) (by simp))

theorem strung_items {role : Role} (hns : ∀ c ∈ ns, Stringable ctx limit c)
    (h : FormedAll ctx limit ns depth role e e') :
    Strung ctx.dialect (e.mode saved) (Node.kindsEach false ns).flatten (e'.mode saved) := by
  induction ns generalizing e with
  | nil =>
      obtain rfl := h
      rfl
  | cons n ns ih =>
      obtain ⟨mid, hn, hrest⟩ := h
      rw [Node.kindsEach, List.flatten_cons]
      exact (hns n (by simp) hn).append (ih (fun c hc => hns c (List.mem_cons_of_mem _ hc)) hrest)

theorem strung_branches (hns : ∀ c ∈ n :: ns, Stringable ctx limit c)
    (h : FormedAll ctx limit (n :: ns) depth .branch e e') :
    Strung ctx.dialect (e.mode saved) (bars (n :: ns)) (e'.mode saved) := by
  induction ns generalizing n e with
  | nil =>
      obtain ⟨mid, hn, rfl⟩ := h
      rw [bars_singleton]
      exact hns n (by simp) hn
  | cons m ns ih =>
      obtain ⟨mid, hn, hrest⟩ := h
      rw [bars_cons]
      exact (hns n (by simp) hn).append
        (strung_bar.append (ih (fun c hc => hns c (List.mem_cons_of_mem _ hc)) hrest))

theorem strung_alike {base high high' : Nat} (hns : ∀ c ∈ n :: ns, Stringable ctx limit c)
    (h : FormedAlike ctx limit (n :: ns) depth base high high' e e') :
    Strung ctx.dialect (e.mode saved) (bars (n :: ns)) (e'.mode saved) := by
  induction ns generalizing n e high with
  | nil =>
      obtain ⟨mid, hn, rfl, rfl⟩ := h
      have hfirst := @hns n (by simp) depth .branch { e with captures := base } e' saved hn
      rw [bars_singleton]
      exact hfirst
  | cons m ns ih =>
      obtain ⟨mid, hn, hrest⟩ := h
      have hfirst := @hns n (by simp) depth .branch { e with captures := base } mid saved hn
      rw [bars_cons]
      exact hfirst.append
        (strung_bar.append (ih (fun c hc => hns c (List.mem_cons_of_mem _ hc)) hrest))

/-- What opens a group can be written and leads to the mode inside it. -/
theorem HeadFormed.strung {head : GroupHead} {inner : Env} (h : HeadFormed ctx e head inner) :
    Strung ctx.dialect (e.mode saved) [.groupOpen head.opener] (inner.mode (e.spacing :: saved)) := by
  rw [← h.opens.mode]
  have hissued : ∀ {o : Opener}, Spellable (.groupOpen o) → OpenerWritten ctx.dialect o →
      Issued ctx.dialect (e.mode saved) (.groupOpen o) := fun hs ho =>
    token_issued (t := ['(']) hs ⟨List.prefix_refl _, ho⟩ (by simp) (by simp)
  refine strung_outside rfl ?_
  obtain ⟨opener, hw, ho⟩ := h
  cases ho with
  | modifiers change =>
      simp only [GroupHead.opener]
      split
      · exact hissued trivial trivial
      · next hl => exact hissued hl hw
  | look l =>
      refine hissued trivial ?_
      exact hw
  | named hr =>
      refine hissued trivial ?_
      exact hw
  | _ => exact hissued trivial trivial

theorem strung_class {span : Span} {negated caseless : Bool} {expr : Node}
    (h : ClassFormed ctx e.spacing caseless expr) :
    Strung ctx.dialect (e.mode saved) ((Node.charClass span negated caseless expr).kinds false)
      (e.mode saved) := by
  have hopen : Strung ctx.dialect (e.mode saved) [.classOpen negated] ((e.mode saved).inClass true) :=
    strung_outside rfl
      (token_issued (t := ['[']) trivial (List.prefix_refl _) (by simp) (by simp))
  obtain ⟨fresh, hexpr⟩ := (ClassFormed.classStrung (m := e.mode saved) h).strung true
  have hclose : Strung ctx.dialect ((e.mode saved).inClass fresh) [.classClose] (e.mode saved) :=
    strung_one (by simp [Issued, Mode.inClass]) (by simp)
  rw [Node.kinds]
  exact hopen.append (hexpr.append hclose)

/-- What opens a conditional can be written and leads to the mode inside it. -/
theorem strung_conditionOpen {test : ConditionToken} (ht : TestWritten test)
    (hnot : ∀ look, test ≠ .assertion look) :
    Strung ctx.dialect (e.mode saved) [.conditionOpen test] (e.mode (e.spacing :: saved)) := by
  have hmode : (e.mode saved).advance (.conditionOpen test) = e.mode (e.spacing :: saved) := by
    cases test with
    | assertion look => exact absurd rfl (hnot look)
    | _ => rfl
  rw [← hmode]
  exact strung_outside rfl
    (token_issued (t := ['(', '?', '(']) trivial ⟨List.prefix_refl _, ht⟩ (by simp) (by simp))

theorem strung_test {test : Condition Node}
    (hread : ∀ span look body, test = .assertion (.group span { kind := .look look } body) →
      Stringable ctx limit body)
    (h : FormedTest ctx limit test depth e e') :
    Strung ctx.dialect (e.mode saved) (Node.testKinds false test) (e'.mode (e.spacing :: saved)) := by
  cases test with
  | group ref =>
      obtain ⟨rfl, href, hname⟩ := h
      refine strung_conditionOpen ?_ (by simp)
      cases ref with
      | name s => exact hname s rfl
      | _ => exact href.written
  | recursion =>
      obtain rfl := h
      exact strung_conditionOpen trivial (by simp)
  | recursionGroup n =>
      obtain ⟨rfl, hn⟩ := h
      exact strung_conditionOpen hn (by simp)
  | recursionName s =>
      obtain ⟨rfl, hs⟩ := h
      exact strung_conditionOpen hs (by simp)
  | assertion a =>
      obtain ⟨⟨span, look, body, rfl, hlook⟩, -, inner, last, hhead, hformed, rfl⟩ := h
      obtain rfl : inner = e := by
        have hopens := hhead.opens
        cases hopens
        rfl
      have hopen : Strung ctx.dialect (inner.mode saved) [.conditionOpen (.assertion look)]
          (inner.mode (inner.spacing :: inner.spacing :: saved)) :=
        strung_outside rfl (token_issued (t := ['(', '?', '(']) trivial
          ⟨List.prefix_refl _, hlook⟩ (by simp) (by simp))
      rw [Node.testKinds, Node.kinds]
      exact hopen.append ((hread span look body rfl hformed).append strung_close)

/-- The tokens of a formed tree are strung. As for reading, the body of a test is no child of its
conditional. -/
theorem stringable (hn : n.Named) : ∀ m ∈ n.preorder, Stringable ctx limit m := by
  induction n using Node.children_induction with
  | h n ih =>
      have hbelow : ∀ c ∈ n.children, ∀ m ∈ c.preorder, Stringable ctx limit m :=
        fun c hc => ih c hc (hn.child hc)
      have hchild : ∀ c ∈ n.children, Stringable ctx limit c :=
        fun c hc => hbelow c hc c (Node.self_mem_preorder c)
      intro m hm
      rcases Node.mem_preorder.mp hm with rfl | ⟨c, hc, hm⟩
      swap
      · exact hbelow c hc m hm
      intro depth role e e' saved h
      cases m with
      | atom span a =>
          rcases h with ⟨rfl, -, rfl⟩ | ⟨ha, rfl⟩
          · rfl
          · exact ha.strung (hn span a (Node.self_mem_preorder _))
      | sequence span items =>
          rw [Node.kinds]
          exact strung_items hchild h.2.2
      | alternation span branches =>
          obtain ⟨hlen, h⟩ := h
          obtain ⟨b, bs, rfl⟩ := List.exists_cons_of_length_pos (Nat.lt_of_lt_of_le Nat.two_pos hlen)
          rw [Node.kinds]
          rcases h with ⟨-, h⟩ | ⟨-, high, last, h, rfl⟩
          · exact strung_branches hchild h
          · have halike : Strung ctx.dialect (e.mode saved) (bars (b :: bs)) (last.mode saved) :=
              strung_alike hchild h
            exact halike
      | group span head body =>
          obtain ⟨-, inner, last, hhead, hbody, rfl⟩ := h
          rw [Node.kinds]
          exact hhead.strung.append
            ((hchild body (by simp [Node.children]) hbody).append strung_close)
      | quantifier span count target =>
          obtain ⟨hcount, -, -, htarget⟩ := h
          rw [Node.kinds, htarget.needsGroup]
          have hquantifier : Strung ctx.dialect (e'.mode saved) [.quantifier count] (e'.mode saved) :=
            strung_outside rfl (token_issued (t := []) trivial hcount (by simp) (by simp))
          exact (hchild target (by simp [Node.children]) htarget).append hquantifier
      | charClass span negated caseless expr =>
          obtain ⟨rfl, -, hexpr⟩ := h
          exact strung_class hexpr
      | classOp span op operands => exact h.elim
      | conditional span test yes no =>
          obtain ⟨-, inner, mid, last, htest, hyes, hno, rfl⟩ := h
          rw [Node.kinds]
          have htest' : Strung ctx.dialect (e.mode saved) (Node.testKinds false test)
              (inner.mode (e.spacing :: saved)) := by
            refine strung_test ?_ htest
            rintro span' look body rfl
            refine hbelow (.group span' { kind := .look look } body)
              (by simp [Node.children, Node.conditionChildren]) body ?_
            exact Node.mem_preorder.mpr
              (.inr ⟨body, by simp [Node.children], Node.self_mem_preorder body⟩)
          have hno' : Strung ctx.dialect (mid.mode (e.spacing :: saved)) (Node.optionalKinds false no)
              (last.mode (e.spacing :: saved)) := by
            cases no with
            | none =>
                obtain rfl := hno
                rfl
            | some m => exact strung_bar.append (hchild m (by simp [Node.children]) hno)
          exact htest'.append
            ((hchild yes (by simp [Node.children]) hyes).append (hno'.append strung_close))
      | define span body =>
          obtain ⟨-, last, hbody, rfl⟩ := h
          have hopen : Strung ctx.dialect (e.mode saved) [.conditionOpen .define]
              (e.mode (e.spacing :: saved)) := strung_conditionOpen trivial (by simp)
          rw [Node.kinds]
          exact hopen.append ((hchild body (by simp [Node.children]) hbody).append strung_close)

end Trees

/-! ### Neighbours -/

section Neighbours

variable {ctx : Context} {limit depth : Nat} {role : Role} {e e' : Env} {n : Node}

/-- The last token of an item can be repeated, and is a repetition only if the item is one. -/
theorem Formed.last_kind (h : Formed ctx limit n depth .item e e') :
    ∃ k, (n.kinds false).getLast? = some k ∧ (∀ o, k ≠ .groupOpen o) ∧
      ∀ count, k = .quantifier count → ∃ span target, n = .quantifier span count target := by
  cases n with
  | atom span a =>
      rcases h with ⟨-, hrole, -⟩ | ⟨ha, -⟩
      · exact absurd rfl hrole
      · obtain ⟨k, hk, hatom, -⟩ := ha.atomOf
        refine ⟨k, by rw [Node.kinds, hk]; rfl, ?_, ?_⟩
        · rintro o rfl
          generalize a.respelled false = b at hatom
          cases hatom
        · rintro count rfl
          generalize a.respelled false = b at hatom
          cases hatom
  | sequence span items => exact absurd rfl h.1
  | alternation span branches => rcases h.2 with ⟨h, -⟩ | ⟨h, -⟩ <;> cases h
  | group span head body =>
      exact ⟨.groupClose, by simp [Node.kinds, List.getLast?_cons], by simp, by simp⟩
  | quantifier span count target =>
      refine ⟨.quantifier count, by simp [Node.kinds], by simp, ?_⟩
      rintro _ ⟨⟩
      exact ⟨span, target, rfl⟩
  | charClass span negated caseless expr =>
      exact ⟨.classClose, by simp [Node.kinds, List.getLast?_cons], by simp, by simp⟩
  | classOp span op operands => exact h.elim
  | conditional span test yes no =>
      exact ⟨.groupClose, by simp [Node.kinds, List.getLast?_cons], by simp, by simp⟩
  | define span body => exact ⟨.groupClose, by simp [Node.kinds, List.getLast?_cons], by simp, by simp⟩

theorem leading_items {ns : List Node} (hns : ∀ c ∈ ns, Leading (c.kinds false)) :
    Leading (Node.kindsEach false ns).flatten := by
  induction ns with
  | nil => exact leading_nil
  | cons n ns ih =>
      rw [Node.kindsEach, List.flatten_cons]
      exact (hns n (by simp)).append (ih fun c hc => hns c (List.mem_cons_of_mem _ hc))

theorem leading_bars {ns : List Node} (hns : ∀ c ∈ n :: ns, Leading (c.kinds false)) :
    Leading (bars (n :: ns)) := by
  induction ns generalizing n with
  | nil =>
      rw [bars_singleton]
      exact hns n (by simp)
  | cons m ns ih =>
      rw [bars_cons]
      have hbar : Leading [.alternation] := leading_one (by simp)
      exact (hns n (by simp)).append
        (hbar.append (ih fun c hc => hns c (List.mem_cons_of_mem _ hc)))

/-- Tokens between parentheses. -/
theorem leading_parens {k : TokenKind} {ks : List TokenKind} (hk : ∀ count, k ≠ .quantifier count)
    (h : Leading ks) : Leading (k :: (ks ++ [.groupClose])) := by
  have hclose : Leading [.groupClose] := leading_one (by simp)
  exact (leading_one hk).append (h.append hclose)

/-- The tokens of a formed tree fit each other, if repetitions are repeated by braces only. -/
theorem Formed.leading (h : Formed ctx limit n depth role e e')
    (hbraced : ∀ m ∈ n.preorder, m.isBraced = true) : Leading (n.kinds false) := by
  induction n using Node.children_induction generalizing depth role e e' with
  | h n ih =>
      have hchild : ∀ c ∈ n.children, ∀ {depth : Nat} {role : Role} {e e' : Env},
          Formed ctx limit c depth role e e' → Leading (c.kinds false) :=
        fun c hc _ _ _ _ h => ih c hc h (Node.forall_preorder_child hbraced hc)
      cases n with
      | atom span a =>
          rcases h with ⟨rfl, -, -⟩ | ⟨ha, -⟩
          · exact leading_nil
          · obtain ⟨k, hk, hatom, -⟩ := ha.atomOf
            rw [Node.kinds, hk]
            refine leading_one ?_
            rintro count rfl
            generalize a.respelled false = b at hatom
            cases hatom
      | sequence span items =>
          rw [Node.kinds]
          refine leading_items fun c hc => ?_
          obtain ⟨e₁, e₂, hformed⟩ := h.2.2.mem c hc
          exact hchild c hc hformed
      | alternation span branches =>
          obtain ⟨hlen, h⟩ := h
          obtain ⟨b, bs, rfl⟩ := List.exists_cons_of_length_pos (Nat.lt_of_lt_of_le Nat.two_pos hlen)
          have hmem : ∀ c ∈ b :: bs, ∃ e₁ e₂, Formed ctx limit c depth .branch e₁ e₂ := by
            rcases h with ⟨-, h⟩ | ⟨-, high, last, h, -⟩
            · exact h.mem
            · exact h.mem
          rw [Node.kinds]
          refine leading_bars fun c hc => ?_
          obtain ⟨e₁, e₂, hformed⟩ := hmem c hc
          exact hchild c hc hformed
      | group span head body =>
          obtain ⟨-, inner, last, -, hbody, -⟩ := h
          rw [Node.kinds]
          exact leading_parens (by simp) (hchild body (by simp [Node.children]) hbody)
      | quantifier span count target =>
          obtain ⟨-, -, -, htarget⟩ := h
          obtain ⟨k, hlast, hopen, hquantifier⟩ := htarget.last_kind
          have hleading := hchild target (by simp [Node.children]) htarget
          rw [Node.kinds, htarget.needsGroup, if_neg Bool.false_ne_true]
          refine ⟨List.isChain_append.mpr ⟨hleading.fits, .singleton _, ?_⟩, ?_⟩
          · intro k' hk' q hq
            rw [hlast] at hk'
            cases hk'
            cases hq
            refine ⟨hopen, fun c hc => ?_⟩
            obtain ⟨span', target', rfl⟩ := hquantifier c hc
            exact eq_of_beq (hbraced _ (Node.self_mem_preorder _))
          · cases hkinds : target.kinds false with
            | nil =>
                rw [hkinds] at hlast
                cases hlast
            | cons k₁ ks =>
                rw [hkinds] at hleading
                exact hleading.head
      | charClass span negated caseless expr =>
          obtain ⟨-, -, hexpr⟩ := h
          have hclass := ClassFormed.classStrung (m := e.mode []) hexpr
          have hclose : Leading [.classClose] := leading_one (by simp)
          rw [Node.kinds]
          exact (leading_one (by simp)).append (hclass.leading.append hclose)
      | classOp span op operands => exact h.elim
      | conditional span test yes no =>
          obtain ⟨-, inner, mid, last, htest, hyes, hno, -⟩ := h
          have htest' : Leading (Node.testKinds false test) := by
            cases test with
            | assertion a =>
                obtain ⟨⟨span', look, body, rfl, -⟩, hformed⟩ := htest
                have hgroup := hchild _ (by simp [Node.children, Node.conditionChildren]) hformed
                rw [Node.kinds] at hgroup
                rw [Node.testKinds, Node.kinds]
                exact (leading_one (by simp)).append hgroup.of_groupOpen
            | _ => exact leading_one (by simp)
          have hno' : Leading (Node.optionalKinds false no) := by
            cases no with
            | none => exact leading_nil
            | some m =>
                have hbar : Leading [.alternation] := leading_one (by simp)
                exact hbar.append (hchild m (by simp [Node.children]) hno)
          have hclose : Leading [.groupClose] := leading_one (by simp)
          rw [Node.kinds]
          exact htest'.append
            ((hchild yes (by simp [Node.children]) hyes).append (hno'.append hclose))
      | define span body =>
          obtain ⟨-, last, hbody, -⟩ := h
          rw [Node.kinds]
          exact leading_parens (by simp) (hchild body (by simp [Node.children]) hbody)

end Neighbours

end PatternLint
