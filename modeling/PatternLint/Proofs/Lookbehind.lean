import PatternLint.Proofs.Lengths
import PatternLint.Proofs.References

/-!
# Lookbehinds can step back

A lookbehind is checked by its width alone, and the width of a body without
references and calls is a bound on the lengths of its matches. So what the check
says about widths holds of lengths: a width that is fixed leaves room for one length,
and one that is bounded for finitely many. That there is a length at all has nothing
to do with widths. It holds because every choice of a tree that is read has something
to choose and every repetition may stop where it has to start.

The check is made at every group of the tree, wherever it stands.
-/

namespace PatternLint

open scoped Pointwise

/-! ### Few lengths -/

namespace Width

variable {w : Width} {S : Set Nat}

theorem Bounds.finite (h : w.Bounds S) {m : Nat} (hm : w.max = some m) : S.Finite := by
  have hbounded : BddAbove S := ⟨m, h.upper m hm⟩
  exact hbounded.finite

/-- All lengths within a fixed width are the same. -/
theorem Bounds.eq_singleton (h : w.Bounds S) (hfixed : w.isFixed = true) (hS : S.Nonempty) :
    S = {w.min} := by
  have hmax : w.max = some w.min := beq_iff_eq.mp hfixed
  refine hS.subset_singleton_iff.mp ?_
  intro k hk
  have hle : k ≤ w.min := h.upper w.min hmax hk
  have hge : w.min ≤ k := h.lower hk
  exact Nat.le_antisymm hle hge

end Width

theorem sum_nonempty {l : List (Set Nat)} (h : ∀ S ∈ l, S.Nonempty) : l.sum.Nonempty := by
  induction l with
  | nil => exact Set.zero_nonempty
  | cons S l ih =>
      rw [List.sum_cons]
      exact (h S (by simp)).add (ih fun T hT => h T (by simp [hT]))

theorem Atom.lengths_nonempty (a : Atom) : a.lengths.Nonempty := by
  cases a with
  | shorthand kind negated =>
      cases kind with
      | newline => exact ⟨1, .inl rfl⟩
      | grapheme => exact ⟨1, Nat.le_refl 1⟩
      | _ => exact ⟨1, rfl⟩
  | backref ref caseless => exact Set.univ_nonempty
  | subroutine target => exact Set.univ_nonempty
  | _ => exact Set.singleton_nonempty _

namespace Node

/-- A node has a match of some length, if every choice in it has something to choose and every
repetition may stop when it has taken its least number of turns. -/
theorem lengths_nonempty {n : Node} (hproper : ∀ m ∈ n.preorder, m.Proper)
    (hchoice : ∀ m ∈ n.preorder, m.hasChoice = true) : n.lengths.Nonempty := by
  induction n using children_induction with
  | h n ih =>
      have hbelow : ∀ c ∈ n.children, c.lengths.Nonempty := fun c hc =>
        ih c hc (forall_preorder_child hproper hc) (forall_preorder_child hchoice hc)
      cases n with
      | atom s a => exact a.lengths_nonempty
      | sequence s items =>
          rw [lengths, lengthSets_eq_map]
          refine sum_nonempty fun S hS => ?_
          obtain ⟨c, hc, rfl⟩ := List.mem_map.mp hS
          exact hbelow c hc
      | alternation s branches =>
          have hne : branches ≠ [] := by simpa [hasChoice] using hchoice _ (self_mem_preorder _)
          obtain ⟨c, hc⟩ := List.exists_mem_of_ne_nil branches hne
          obtain ⟨k, hk⟩ := hbelow c hc
          rw [lengths, lengthSets_eq_map]
          exact ⟨k, c.lengths, List.mem_map_of_mem hc, hk⟩
      | group s head body =>
          rw [lengths]
          split
          · exact Set.singleton_nonempty 0
          · exact hbelow body (by simp [children])
      | quantifier s count target =>
          obtain ⟨k, hk⟩ := hbelow target (by simp [children])
          have hturns := (hproper _ (self_mem_preorder _)).turns s count target rfl
          rw [lengths]
          exact ⟨_, mul_mem_lengths hturns hk⟩
      | charClass s negated caseless expr => exact Set.singleton_nonempty 1
      | classOp s op operands => exact Set.singleton_nonempty 1
      | conditional s test yes no =>
          obtain ⟨k, hk⟩ := hbelow yes (by simp [children])
          exact ⟨k, .inl hk⟩
      | define s body => exact Set.singleton_nonempty 0

/-! ### The check -/

/-- What the check of a lookbehind lets pass, where a width without bounds is refused. -/
theorem lookbehindFault?_eq_none {s : ParserSettings} {scope : Scope} {body : Node}
    (hs : s.allowUnboundedLookbehind = false) (h : lookbehindFault? s scope body = none) :
    ∃ m, (scope.width body).max = some m ∧
      (s.dialect.supports .variableLookbehind = true →
        (scope.width body).isFixed = true ∨ m ≤ s.maxLookbehind) ∧
      (s.dialect.supports .variableLookbehind = false →
        ∀ b ∈ body.branches, (scope.width b).isFixed = true) := by
  rw [lookbehindFault?] at h
  cases hmax : (scope.width body).max with
  | none => simp [hmax, hs] at h
  | some m =>
      refine ⟨m, rfl, ?_, ?_⟩
      · intro hvariable
        simp only [hmax, hvariable, if_true] at h
        by_contra hneither
        rw [not_or, Bool.not_eq_true, Nat.not_le] at hneither
        simp [hneither] at h
      · intro hvariable
        simp only [hmax, hvariable, Bool.false_eq_true, if_false] at h
        by_contra hsome
        rw [← List.all_eq_true] at hsome
        simp [hsome] at h

/-- The branches of a node are parts of it. -/
theorem mem_preorder_of_branch {b n : Node} (hb : b ∈ n.branches) : b ∈ n.preorder := by
  have hself : b ∈ [n] → b ∈ n.preorder := by
    intro hb
    rw [List.mem_singleton.mp hb]
    exact n.self_mem_preorder
  cases n with
  | alternation s branches =>
      exact mem_preorder.mpr (.inr ⟨b, hb, b.self_mem_preorder⟩)
  | _ => exact hself hb

end Node

/-! ### Patterns -/

namespace Pattern

variable {s : ParserSettings} {body modifiers : String} {delimiter : Char} {p : Pattern}

/-- A node of a pattern that is read, if its width is fixed, has matches of a single length. -/
theorem lengths_of_isFixed (h : parseBody s body modifiers delimiter = .ok p) {n : Node}
    (hn : n ∈ p.root.preorder) (hfree : n.CallFree) (hfixed : (p.scope.width n).isFixed = true) :
    ∃ k, n.lengths = {k} := by
  have hbounds : (p.scope.width n).Bounds n.lengths := n.widthIn_bounds _ hfree {}
  have hbelow : ∀ m ∈ n.preorder, m ∈ p.root.preorder := fun m hm => Node.mem_preorder_trans hn hm
  have hsome : n.lengths.Nonempty := Node.lengths_nonempty
    (fun m hm => (parseBody_proper h).2 m (hbelow m hm))
    (fun m hm => parseBody_hasChoice h m (hbelow m hm))
  exact ⟨_, hbounds.eq_singleton hfixed hsome⟩

/-- A lookbehind in a pattern that is accepted, wherever it stands, has matches of finitely many
lengths, unless it contains references or calls. Where lookbehinds may vary, all its matches have
the same length or none is longer than the limit; elsewhere each of its branches has matches of a
single length. -/
theorem parseBody_lookbehind (h : parseBody s body modifiers delimiter = .ok p)
    (hs : s.allowUnboundedLookbehind = false) {span : Span} {head : GroupHead} {inner : Node}
    (hn : .group span head inner ∈ p.root.preorder) (hbehind : head.kind.isLookbehind = true)
    (hfree : inner.CallFree) :
    inner.lengths.Finite ∧
    (s.dialect.supports .variableLookbehind = true →
      (∃ k, inner.lengths = {k}) ∨ ∀ k ∈ inner.lengths, k ≤ s.maxLookbehind) ∧
    (s.dialect.supports .variableLookbehind = false →
      ∀ b ∈ inner.branches, ∃ k, b.lengths = {k}) := by
  have hinner : inner ∈ p.root.preorder := Node.mem_preorder_trans hn
    (Node.mem_preorder.mpr (.inr ⟨inner, by simp [Node.children], inner.self_mem_preorder⟩))
  have hfault := (readFrom_of_ok h).2
  have hown := (Node.firstFault?_eq_none_iff.mp (Option.map_eq_none_iff.mp hfault)).2 _ hn
  rw [Node.ownFault?, if_pos hbehind] at hown
  obtain ⟨m, hm, hvariable, hfixed⟩ := Node.lookbehindFault?_eq_none hs hown
  have hbounds : (p.scope.width inner).Bounds inner.lengths := inner.widthIn_bounds _ hfree {}
  refine ⟨hbounds.finite hm, ?_, ?_⟩
  · intro hsupports
    rcases hvariable hsupports with hone | hle
    · exact .inl (lengths_of_isFixed h hinner hfree hone)
    · exact .inr fun k hk => (hbounds.upper m hm hk).trans hle
  · intro hsupports b hb
    have hb' := Node.mem_preorder_of_branch hb
    exact lengths_of_isFixed h (Node.mem_preorder_trans hinner hb') (hfree.below hb')
      (hfixed hsupports b hb)

/-- Before lookbehinds could vary, the branches of one could still differ. Here it stands in the
test of a conditional. -/
theorem parseBody_lookbehind_test :
    ∃ p, parseBody { dialect := .pcre34 } "(?(?<=ab|c)d)" "" '/' = .ok p ∧
      ∃ span head inner, Node.group span head inner ∈ p.root.preorder ∧
        head.kind.isLookbehind = true ∧ inner.CallFree ∧ inner.branches.length = 2 ∧
        inner.lengths.Finite ∧ ∀ b ∈ inner.branches, ∃ k, b.lengths = {k} := by
  obtain ⟨⟨_, _, _, root, _, _, _⟩, hp, rfl⟩ := exists_of_root
    (x := parseBody { dialect := .pcre34 } "(?(?<=ab|c)d)" "" '/')
    (n := .conditional ⟨0, 13⟩
      (.assertion (.group ⟨2, 11⟩ { kind := .look .behind }
        (.alternation ⟨6, 10⟩ [.sequence ⟨6, 8⟩ [.letter 6 'a', .letter 7 'b'], .letter 9 'c'])))
      (.letter 11 'd') none) (by cbv)
  refine ⟨_, hp, _, _, _, List.mem_of_getElem? (i := 1) rfl, rfl, by decide, rfl, ?_⟩
  obtain ⟨hfinite, -, hbranches⟩ :=
    parseBody_lookbehind hp rfl (List.mem_of_getElem? (i := 1) rfl) rfl (by decide)
  exact ⟨hfinite, hbranches rfl⟩

end Pattern

end PatternLint
