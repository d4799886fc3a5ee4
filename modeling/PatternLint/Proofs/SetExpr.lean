import PatternLint.Proofs.CharSet.Complement

/-!
# What set expressions denote

Whatever an expression is made of, its set is in canonical form or the complement of a set
that is. Members are brought together by union, so their set is in canonical form however
the sets of the members look, and what is taken from it by an operation is so again. A
complement comes last: after an escape or a closing bracket nothing else is done to the set
before it is a member of another one or the whole expression.
-/

namespace PatternLint

namespace CharSet

open CharRange

variable {s t : CharSet}

theorem canonical_ofCodePoints (rs : Unicode.Ranges) : (ofCodePoints rs).Canonical := by
  refine canonical_ofRanges fun r hr => ?_
  obtain ⟨_, -, rfl⟩ := List.mem_map.mp hr
  exact ordered_between _ _

theorem canonical_ofPairs (rs : List (Char × Char)) : (ofPairs rs).Canonical := by
  refine canonical_ofRanges fun r hr => ?_
  obtain ⟨_, -, rfl⟩ := List.mem_map.mp hr
  exact ordered_between _ _

theorem canonical_ofChars (cs : List Char) : (ofChars cs).Canonical := by
  refine canonical_ofRanges fun r hr => ?_
  obtain ⟨c, -, rfl⟩ := List.mem_map.mp hr
  exact ordered_single c

/-- Case variants are glued in, so that the set is in canonical form even if it was not. -/
theorem canonical_foldCase (h : ∀ r ∈ s.ranges, r.Ordered) : s.foldCase.Canonical := by
  refine canonical_ofRanges fun r hr => ?_
  rcases List.mem_append.mp hr with hr | hr
  · exact h r hr
  · obtain ⟨c, -, rfl⟩ := List.mem_map.mp hr
    exact ordered_single c

/-- A set in canonical form, or the complement of one. -/
def Finished (s : CharSet) : Prop := ∃ t : CharSet, t.Canonical ∧ ∃ negated, s = t.negateIf negated

theorem Canonical.finished (h : s.Canonical) : s.Finished := ⟨s, h, false, rfl⟩

theorem Canonical.finished_negateIf (h : s.Canonical) (negated : Bool) :
    (s.negateIf negated).Finished := ⟨s, h, negated, rfl⟩

theorem Finished.spaced (h : s.Finished) : s.Spaced 1 := by
  obtain ⟨t, ht, negated, rfl⟩ := h
  cases negated
  · exact ht.spaced.mono (by decide)
  · exact ht.spaced.negate (Nat.le_refl 1)

/-- After another complement the ranges still do not overlap by more than an end. -/
theorem Finished.spaced_negateIf (h : s.Finished) (negated : Bool) :
    (s.negateIf negated).Spaced 0 := by
  cases negated
  · exact h.spaced.mono (Nat.zero_le 1)
  · exact h.spaced.negate (Nat.zero_le 1)

end CharSet

namespace SetExpr

open CharSet

variable {m : Modes} {sign : Sign} {cs rest : List Char}

/-! ### Readers -/

/-- Whatever a reader gives has a property; it may give nothing. -/
def Gives {α : Type} (p : α → Prop) (r : Option α) : Prop := ∀ a, r = some a → p a

section

variable {α β : Type} {p : α → Prop} {q : β → Prop} {a : α} {r : Option α}
  {f : α → Option β}

theorem Gives.none : Gives p none := fun _ h => nomatch h

theorem gives_some : Gives p (some a) ↔ p a := by simp [Gives]

theorem Gives.ite {c : Prop} [Decidable c] {r' : Option α} (h : Gives p r) (h' : Gives p r') :
    Gives p (if c then r else r') := by
  split
  · exact h
  · exact h'

theorem Gives.bind (hr : Gives p r) (hf : ∀ a, p a → Gives q (f a)) : Gives q (r >>= f) := by
  intro b hb
  obtain ⟨a, ha, hb⟩ := Option.bind_eq_some_iff.mp hb
  exact hf a (hr a ha) b hb

/-- What is read first need not have any property. -/
theorem Gives.bind' (hf : ∀ a, Gives q (f a)) : Gives q (r >>= f) := by
  intro b hb
  obtain ⟨a, -, hb⟩ := Option.bind_eq_some_iff.mp hb
  exact hf a b hb

end

theorem Modes.canonical_fold {s : CharSet} (m : Modes) (h : s.Canonical) :
    (m.fold s).Canonical := by
  unfold Modes.fold
  split
  · exact h
  · split
    · exact canonical_foldCase h.ordered
    · exact (canonical_foldCase h.ordered).intersect (canonical_range _ _)

theorem Modes.close?_finished {s : CharSet} (hs : s.Canonical) (negated : Bool) :
    Gives CharSet.Finished (m.close? negated s) := by
  unfold Modes.close?
  split
  · exact .none
  · exact gives_some.mpr ((m.canonical_fold hs).finished_negateIf negated)

/-! ### Signs -/

/-- A sign that stands for a set stands for a finished one. -/
def Sign.Finished : Sign → Prop
  | .set s => s.Finished
  | .char .. | .place => True

theorem hexEscape?_finished (width : Nat) (cs : List Char) :
    Gives (·.1.Finished) (hexEscape? m width cs) := by
  unfold hexEscape?
  dsimp only
  split
  · refine .bind' fun (digits, rest) => ?_
    dsimp only
    split
    · exact .none
    · exact .bind' fun c => gives_some.mpr trivial
  · exact .bind' fun (digits, rest) => .bind' fun c => gives_some.mpr trivial

theorem propertyEscape?_finished (negated : Bool) (cs : List Char) :
    Gives (·.1.Finished) (propertyEscape? m negated cs) := by
  have hset : ∀ rs negated, ((m.fold (.ofCodePoints rs)).negateIf negated).Finished :=
    fun rs => (m.canonical_fold (canonical_ofCodePoints rs)).finished_negateIf
  unfold propertyEscape?
  dsimp only
  split
  · exact .none
  · split
    · exact .none
    · split
      · exact .bind' fun (text, rest) => .bind' fun q => gives_some.mpr (hset _ _)
      · exact .bind' fun ranges => gives_some.mpr (hset _ _)

theorem shorthandEscape?_finished {ranges : Unicode.Ranges} {ascii : CharSet} {negated : Bool}
    (hascii : ascii.Canonical) :
    Gives (·.1.Finished) (shorthandEscape? m ranges ascii negated cs) := by
  unfold shorthandEscape?
  split
  · exact gives_some.mpr ((canonical_ofCodePoints ranges).finished_negateIf negated)
  · split
    · exact .none
    · exact gives_some.mpr hascii.finished

theorem edgeEscape?_finished (cs : List Char) : Gives (·.1.Finished) (edgeEscape? m cs) := by
  unfold edgeEscape?
  split
  · refine .bind' fun first => ?_
    split
    · refine .bind' fun (name, rest) => ?_
      dsimp only
      split
      · exact gives_some.mpr trivial
      · exact .none
    · exact gives_some.mpr trivial
  · exact gives_some.mpr trivial

theorem escape?_finished (cs : List Char) : Gives (·.1.Finished) (escape? m cs) := by
  have hplain : ∀ (c : Char) (rest : List Char),
      Gives (fun r : Sign × List Char => r.1.Finished) (some (.char c false, rest)) :=
    fun c rest => gives_some.mpr trivial
  have hword : asciiWord.Canonical := canonical_ofPairs _
  have hspace : asciiSpace.Canonical := canonical_ofPairs _
  have hdigit : asciiDigit.Canonical := canonical_range _ _
  unfold escape?
  split
  · exact .none
  · dsimp only
    split
    all_goals first
      | exact hexEscape?_finished _ _
      | exact propertyEscape?_finished _ _
      | exact shorthandEscape?_finished hdigit
      | exact shorthandEscape?_finished hspace
      | exact shorthandEscape?_finished hword
      | exact edgeEscape?_finished _
      | exact hplain _ _
      | exact gives_some.mpr trivial
      | skip
    split
    · exact hplain _ _
    · exact .none

theorem sign?_finished (cs : List Char) : Gives (·.1.Finished) (sign? m cs) := by
  unfold sign?
  split
  · exact .none
  · exact escape?_finished _
  · exact gives_some.mpr trivial

/-! ### Brackets -/

theorem SetOp.canonical_apply {s t : CharSet} (op : SetOp) (hs : s.Canonical)
    (ht : t.Canonical) : (op.apply s t).Canonical := by
  cases op with
  | intersection => exact hs.intersect ht
  | difference => exact hs.subtract t
  | symmetricDifference => exact (hs.union ht.ordered).subtract _

theorem Members.canonical_add {ms : Members} {member : Nested} (hms : ms.set.Canonical)
    (hmember : member.set.Finished) : (ms.add member).set.Canonical :=
  hms.union hmember.spaced.ordered

theorem Members.canonical_addChar {ms : Members} (hms : ms.set.Canonical) (c : Char) :
    (ms.addChar c).set.Canonical :=
  Members.canonical_add hms (canonical_range c c).finished

/-- What stands before an operation is in canonical form. -/
def Pending.Canonical (pending : Option Pending) : Prop := ∀ p ∈ pending, p.left.set.Canonical

theorem Pending.canonical_none : Pending.Canonical none := by simp [Pending.Canonical]

theorem canonical_join {pending : Option Pending} {right : Nested}
    (hpending : Pending.Canonical pending) (hright : right.set.Canonical) :
    (join m pending right).set.Canonical := by
  cases pending with
  | none => exact hright
  | some p =>
      exact p.op.canonical_apply (m.canonical_fold (hpending p rfl)) (m.canonical_fold hright)

theorem member?_finished (cs : List Char) : Gives (·.1.Finished) (member? m cs) := by
  have hmember : ∀ sign : Sign, sign.Finished → Gives CharSet.Finished (sign.member? m) := by
    intro sign hsign
    cases sign with
    | char c byByte =>
        simp only [Sign.member?]
        split
        · exact gives_some.mpr (canonical_range c c).finished
        · exact .none
    | set s => exact gives_some.mpr hsign
    | place => exact .none
  have hrange : ∀ first last : Sign, Gives CharSet.Finished (first.range? m last) := by
    intro first last
    unfold Sign.range?
    split
    · split
      · exact gives_some.mpr (canonical_range _ _).finished
      · exact .none
    · exact .none
  unfold member?
  refine .bind (sign?_finished cs) fun (first, rest) hfirst => ?_
  dsimp only
  split
  · exact .none
  · split
    · exact .bind (hmember first hfirst) fun s hs => gives_some.mpr hs
    · exact .bind' fun (last, rest) => .bind (hrange first last) fun s hs => gives_some.mpr hs
  · exact .bind (hmember first hfirst) fun s hs => gives_some.mpr hs

theorem posixClass?_canonical (cs : List Char) :
    Gives (·.2.1.Canonical) (posixClass? cs) := by
  unfold posixClass?
  split
  · dsimp only
    split
    · intro r hr
      obtain ⟨rs, -, rfl⟩ := Option.map_eq_some_iff.mp hr
      exact canonical_ofPairs rs
    · exact .none
  · exact .none

theorem opening?_canonical (cs : List Char) :
    Gives (·.2.1.set.Canonical) (opening? m cs) := by
  have hhyphens : ∀ (hyphens : List Char) (ms : Members), ms.set.Canonical →
      (hyphens.foldl Members.addChar ms).set.Canonical := by
    intro hyphens
    induction hyphens with
    | nil => exact fun ms hms => hms
    | cons c hyphens ih => exact fun ms hms => ih _ (Members.canonical_addChar hms c)
  -- A closing bracket is a member if there are no hyphens before it.
  have hmembers : ∀ (bracket : Bool) (hyphens rest rest' : List Char),
      (if bracket then ((hyphens.foldl Members.addChar .none).addChar ']', rest)
        else (hyphens.foldl Members.addChar .none, rest')).1.set.Canonical := by
    intro bracket hyphens rest rest'
    have hcanonical := hhyphens hyphens Members.none canonical_empty
    cases bracket with
    | true => exact Members.canonical_addChar hcanonical _
    | false => exact hcanonical
  unfold opening?
  exact .ite .none (gives_some.mpr (hmembers _ _ _ _))

/-- The members of a set come to a set in canonical form. -/
theorem members?_canonical (fuel : Nat) {pending : Option Pending} {ms : Members}
    (hpending : Pending.Canonical pending) (hms : ms.set.Canonical) (cs : List Char) :
    Gives (·.1.set.Canonical) (members? m fuel pending ms cs) := by
  induction fuel generalizing pending ms cs with
  | zero => exact .none
  | succ fuel ih =>
      have hoperation : ∀ op rest, Gives (·.1.set.Canonical)
          (members? m fuel (some ⟨op, join m pending ms.whole⟩) .none rest) := by
        intro op rest
        refine ih ?_ canonical_empty rest
        rintro p ⟨⟩
        exact canonical_join hpending hms
      have hadd : ∀ (s : CharSet) (depth : Nat) rest, s.Finished →
          Gives (·.1.set.Canonical) (members? m fuel pending (ms.add ⟨s, depth⟩) rest) :=
        fun s depth rest hs => ih hpending (Members.canonical_add hms hs) rest
      unfold members?
      dsimp only
      split
      · exact .none
      · exact gives_some.mpr (canonical_join hpending hms)
      · exact hoperation _ _
      · exact hoperation _ _
      · exact hoperation _ _
      · split
        · next hclass =>
            have hs := posixClass?_canonical _ _ hclass
            exact .bind (Modes.close?_finished hs _) fun s hs => hadd s _ _ hs
        · refine .bind (opening?_canonical _) fun (negated, inner, rest) hinner => ?_
          refine .bind (ih Pending.canonical_none hinner rest) fun (inner, rest) hinner => ?_
          exact .bind (Modes.close?_finished hinner _) fun s hs => hadd s _ _ hs
      · exact .bind (member?_finished _) fun (s, rest) hs => hadd s _ _ hs

theorem bracketed?_finished (cs : List Char) : Gives (·.1.set.Finished) (bracketed? m cs) := by
  unfold bracketed?
  refine .bind (opening?_canonical cs) fun (negated, ms, rest) hms => ?_
  refine .bind (members?_canonical _ Pending.canonical_none hms rest) fun (inner, rest) hinner => ?_
  exact .bind (Modes.close?_finished hinner _) fun s hs => gives_some.mpr hs

/-! ### Forms -/

namespace Form

/-- A form that is a set is a finished one. -/
def Finished : Form → Prop
  | .set s | .bytes s => s.Finished
  | .empty | .text _ | .other _ => True

theorem finished_ite {c : Prop} [Decidable c] {f g : Form} (hf : f.Finished) (hg : g.Finished) :
    (if c then f else g).Finished := by
  split
  · exact hf
  · exact hg

theorem ofSet_finished {s : CharSet} (h : s.Finished) : (ofSet m s).Finished := by
  unfold ofSet
  split
  · exact canonical_empty.finished
  · exact finished_ite trivial (finished_ite h h)
  · exact finished_ite h h

theorem ofSign?_finished (h : sign.Finished) : Gives Finished (ofSign? m sign) := by
  cases sign with
  | char c byByte =>
      simp only [ofSign?]
      refine .ite .none (.ite (gives_some.mpr ?_) (gives_some.mpr trivial))
      exact ofSet_finished (m.canonical_fold (canonical_range c c)).finished
  | set s => exact gives_some.mpr (ofSet_finished h)
  | place => exact gives_some.mpr trivial

theorem dot?_finished (m : Modes) : Gives Finished (dot? m) := by
  have hends : ∀ cs, (CharSet.ofChars cs).negate.Finished := fun cs =>
    (canonical_ofChars cs).finished_negateIf true
  unfold dot?
  exact .ite .none (.ite (gives_some.mpr canonical_any.finished)
    (.ite (gives_some.mpr (hends _)) (gives_some.mpr (hends _))))

theorem repeated_finished {f : Form} (h : f.Finished) (least : Nat) (most : Option Nat) :
    (f.repeated least most).Finished := by
  exact finished_ite trivial (finished_ite h trivial)

theorem sequence_finished {fs : List Form} (h : ∀ f ∈ fs, f.Finished) :
    (sequence fs).Finished := by
  unfold sequence
  split
  · trivial
  · next f hfilter =>
      have hf : f ∈ fs.filter (· ≠ .empty) := hfilter ▸ List.mem_singleton_self f
      exact h f (List.mem_filter.mp hf).1
  · split
    · trivial
    · trivial

/-- The union of sets has the form of a set, however the sets themselves look. -/
theorem canonical_foldl_union {sets : List CharSet} {s : CharSet} (hs : s.Canonical)
    (h : ∀ t ∈ sets, t.Finished) : (sets.foldl CharSet.union s).Canonical := by
  induction sets generalizing s with
  | nil => exact hs
  | cons t sets ih =>
      obtain ⟨ht, hsets⟩ := List.forall_mem_cons.mp h
      exact ih (hs.union ht.spaced.ordered) hsets

theorem gives_mapM_set? {fs : List Form} (h : ∀ f ∈ fs, f.Finished) :
    Gives (∀ s ∈ ·, s.Finished) (fs.mapM set?) := by
  induction fs with
  | nil => exact gives_some.mpr (by simp)
  | cons f fs ih =>
      obtain ⟨hf, hfs⟩ := List.forall_mem_cons.mp h
      have hset : Gives CharSet.Finished f.set? := by
        cases f with
        | set s => exact gives_some.mpr hf
        | bytes s => exact gives_some.mpr hf
        | empty => exact .none
        | text cs => exact .none
        | other z => exact .none
      rw [List.mapM_cons]
      exact hset.bind fun s hs => (ih hfs).bind fun sets hsets =>
        gives_some.mpr (List.forall_mem_cons.mpr ⟨hs, hsets⟩)

theorem choice_finished {fs : List Form} (h : ∀ f ∈ fs, f.Finished) : (choice fs).Finished := by
  unfold choice
  split
  · exact ofSet_finished (canonical_ofChars _).finished
  · next sets _ hsets =>
      have hsets := gives_mapM_set? h sets hsets
      exact ofSet_finished (canonical_foldl_union canonical_empty hsets).finished
  · trivial

end Form

/-! ### Expressions -/

namespace State

variable {st : State}

/-- All parts that have been read so far have finished forms. -/
structure Finished (st : State) : Prop where
  branches : ∀ p ∈ st.branches, p.form.Finished
  parts : ∀ p ∈ st.parts, p.form.Finished

theorem start_finished (m : Modes) (names : List (List Char)) : (start m names).Finished :=
  ⟨by simp [start], by simp [start]⟩

theorem Finished.push (h : st.Finished) {form : Form} (hform : form.Finished) (depth : Nat) :
    (st.push form depth).Finished :=
  ⟨h.branches, List.forall_mem_cons.mpr ⟨hform, h.parts⟩⟩

theorem Finished.branch (h : st.Finished) : st.branch.form.Finished := by
  have hparts : ∀ p ∈ st.parts.reverse, p.form.Finished := fun p hp =>
    h.parts p (List.mem_reverse.mp hp)
  unfold State.branch
  split
  · trivial
  · next p hreverse => exact hparts p (by simp [hreverse])
  · exact Form.sequence_finished (List.forall_mem_map.mpr hparts)

theorem Finished.nextBranch (h : st.Finished) : st.nextBranch.Finished :=
  ⟨List.forall_mem_cons.mpr ⟨h.branch, h.branches⟩, by simp [State.nextBranch]⟩

theorem Finished.finish (h : st.Finished) : st.finish.form.Finished := by
  unfold State.finish
  split
  · exact h.branch
  · refine Form.choice_finished (List.forall_mem_map.mpr fun p hp => ?_)
    rcases List.mem_append.mp hp with hp | hp
    · exact h.branches p (List.mem_reverse.mp hp)
    · rw [List.mem_singleton.mp hp]
      exact h.branch

theorem Finished.repeatLast? (h : st.Finished) (least : Nat) (most : Option Nat) :
    Gives Finished (st.repeatLast? least most) := by
  unfold State.repeatLast?
  split
  · exact .none
  · next p before hparts =>
      obtain ⟨hp, hbefore⟩ := List.forall_mem_cons.mp (hparts ▸ h.parts)
      refine .ite (gives_some.mpr ⟨h.branches, ?_⟩) .none
      exact List.forall_mem_cons.mpr ⟨Form.repeated_finished hp least most, hbefore⟩

end State

theorem expression?_finished (fuel : Nat) {st : State} (h : st.Finished) (cs : List Char) :
    Gives (·.1.Finished) (expression? fuel st cs) := by
  induction fuel generalizing st cs with
  | zero => exact .none
  | succ fuel ih =>
      have hrepeat : ∀ least most rest, Gives (·.1.Finished)
          (do expression? fuel (← st.repeatLast? least most) rest) :=
        fun least most rest => (h.repeatLast? least most).bind fun st hst => ih hst rest
      have hpush : ∀ {form : Form} (depth : Nat) (rest : List Char), form.Finished →
          Gives (·.1.Finished) (expression? fuel (st.push form depth) rest) :=
        fun depth rest hform => ih (h.push hform depth) rest
      have hother : ∀ zeroWidth, (Form.other zeroWidth).Finished := fun _ => trivial
      have hnames : ∀ names, State.Finished { st with names } := fun _ => ⟨h.branches, h.parts⟩
      unfold expression?
      dsimp only
      split
      · exact gives_some.mpr h
      · exact gives_some.mpr h
      · exact ih h.nextBranch _
      · exact hrepeat _ _ _
      · exact hrepeat _ _ _
      · exact hrepeat _ _ _
      · exact .bind' fun _ => hrepeat _ _ _
      · exact .bind (bracketed?_finished _) fun (s, rest) hs => hpush _ _ (Form.ofSet_finished hs)
      · exact .bind (Form.dot?_finished _) fun form hform => hpush _ _ hform
      · exact hpush _ _ (hother true)
      · exact hpush _ _ (hother true)
      · refine .bind' fun opening => ?_
        split
        · refine ih ⟨?_, ?_⟩ _
          · exact h.branches
          · exact List.forall_mem_cons.mpr ⟨trivial, h.parts⟩
        · refine .bind' fun (inner, rest) => ?_
          dsimp only
          split
          · exact .none
          · exact ih ((hnames _).push (hother _) _) _
        · refine .bind (ih (State.start_finished _ _) _) fun (inner, rest) hinner => ?_
          dsimp only
          split
          · exact .none
          · exact ih ((hnames _).push hinner.finish _) _
      · exact .bind (sign?_finished _) fun (sign, rest) hsign =>
          .bind (Form.ofSign?_finished hsign) fun form hform => hpush _ _ hform

/-- The set of an expression is in canonical form or the complement of a set that is. -/
theorem set?_finished (cs : List Char) : Gives CharSet.Finished (set? cs) := by
  unfold set?
  split
  · next st hst =>
      have hfinished := (expression?_finished _ (State.start_finished _ _) cs _ hst).finish
      split
      · next s hs =>
          rw [hs] at hfinished
          exact .ite (gives_some.mpr hfinished) .none
      · exact .none
  · exact .none

end SetExpr

/-! ### Named sets -/

namespace CharSet

theorem getD_set?_finished (cs : List Char) : ((SetExpr.set? cs).getD any).Finished := by
  cases hset : SetExpr.set? cs with
  | none => exact canonical_any.finished
  | some s => exact SetExpr.set?_finished cs s hset

theorem posix_spaced (name : String) (negated : Bool) : (posix name negated).Spaced 0 :=
  (getD_set?_finished _).spaced_negateIf negated

theorem property_finished (name : String) : (property name).Finished := by
  unfold property
  dsimp only
  split
  · exact canonical_any.finished
  · exact getD_set?_finished _
  · exact getD_set?_finished _

theorem ofShorthand_finished (kind : ShorthandKind) : (ofShorthand kind).Finished := by
  cases kind with
  | digit => exact (canonical_range _ _).finished
  | word => exact (canonical_ofPairs _).finished
  | space => exact (canonical_ofPairs _).finished
  | horizontalSpace => exact (canonical_ofCodePoints _).finished
  | verticalSpace => exact (canonical_ofCodePoints _).finished
  | newline => exact (canonical_ofCodePoints _).finished
  | notNewline => exact (canonical_range '\n' '\n').finished_negateIf true
  | grapheme => exact canonical_any.finished
  | codeUnit => exact canonical_any.finished
  | property name => exact property_finished name

theorem shorthand_spaced (kind : ShorthandKind) (negated : Bool) :
    (shorthand kind negated).Spaced 0 :=
  (ofShorthand_finished kind).spaced_negateIf negated

end CharSet

end PatternLint
