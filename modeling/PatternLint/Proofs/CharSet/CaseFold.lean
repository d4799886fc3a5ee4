import Mathlib
import PatternLint.Pattern
import PatternLint.Proofs.CharSet.Class

/-!
# Case variants in classes

A caseless class gets the case variants of its characters after its members have been
combined. A literal has its variants with it even before that, but a range from the same
character to itself has not, so the two may come apart in an operation: what they have in
common with another member, or leave of it, need not be the same.

The sets of two such classes differ in variants of the character only, and they have a
variant both or neither as long as no other operand tells the character from its variants.
In that case there is no difference left once the variants are added.
-/

namespace PatternLint

namespace Unicode

/-- Whether a test tells a character from its variants in no other way than that it takes the
character alone. -/
def Harmless (c : Char) (p : Char → Bool) : Prop :=
  (∀ d ∈ variants c, p d = true) ∨ ∀ d ∈ variants c, p d = true → d = c

end Unicode

open Unicode CharRange

/-! ### Sets that differ in variants -/

namespace CharSet

variable {s t u s' t' : CharSet} {c d : Char} {n : Nat}

/-- Two sets cover the same numbers, but for variants of a character. -/
def SameOff (c : Char) (s t : CharSet) : Prop :=
  ∀ n, (∀ d ∈ variants c, d ≠ c → d.toNat ≠ n) → (s.covers n ↔ t.covers n)

theorem SameOff.refl (c : Char) (s : CharSet) : SameOff c s s := fun _ _ => Iff.rfl

theorem SameOff.contains (h : SameOff c s t) (hd : d ∈ variants c → d = c) :
    s.contains d = t.contains d := by
  rw [Bool.eq_iff_iff, laws.contains_iff, laws.contains_iff]
  refine h _ fun e he hne heq => hne ?_
  rw [Char.toNat_inj.mp heq] at he ⊢
  exact hd he

theorem SameOff.combine (op : ClassOp) (h : SameOff c s t) (h' : SameOff c s' t') :
    SameOff c (op.combine s s') (op.combine t t') := by
  intro n hn
  cases op with
  | union =>
      show (s.union s').covers n ↔ (t.union t').covers n
      rw [laws.covers_union, laws.covers_union, h n hn, h' n hn]
  | intersection =>
      show (s.intersect s').covers n ↔ (t.intersect t').covers n
      rw [laws.covers_intersect, laws.covers_intersect, h n hn, h' n hn]
  | subtraction =>
      have hlow := h' 0xd7ff fun d hd hne => (laws.variants_off_surrogates hd hne).1
      have hhigh := h' 0xe000 fun d hd hne => (laws.variants_off_surrogates hd hne).2
      show (s.subtract s').covers n ↔ (t.subtract t').covers n
      rw [laws.covers_subtract, laws.covers_subtract, h n hn, h' n hn, hlow, hhigh]

/-- Operands that differ in variants of a character come to sets that differ in these. -/
theorem SameOff.combineAll (op : ClassOp) (h : SameOff c s t) (before after : List CharSet) :
    SameOff c (op.combineAll (before ++ s :: after)) (op.combineAll (before ++ t :: after)) := by
  have hafter : ∀ {s t}, SameOff c s t →
      SameOff c (after.foldl op.combine s) (after.foldl op.combine t) := by
    clear h
    induction after with
    | nil => exact fun h => h
    | cons u after ih => exact fun h => ih (h.combine op (.refl c u))
  cases before with
  | nil => exact hafter h
  | cons u before =>
      simp only [List.cons_append, ClassOp.combineAll, List.foldl_append, List.foldl_cons]
      exact hafter (SameOff.combine op (.refl c _) h)

/-- Two sets cover the same numbers but for variants of a character, and have a variant both or
neither. -/
structure Alike (c : Char) (s t : CharSet) : Prop where
  sameOff : SameOff c s t
  variant : (∃ d ∈ variants c, s.contains d = true) ↔ ∃ d ∈ variants c, t.contains d = true

theorem Alike.refl (c : Char) (s : CharSet) : Alike c s s := ⟨.refl c s, Iff.rfl⟩

/-- A character with its variants and the character alone. -/
theorem alike_single (c : Char) : Alike c (single c true) (single c false) := by
  have hfold : (single c true) = (single c false).foldCase := rfl
  have hself : (single c false).contains c = true := by simp [contains_single]
  rw [hfold]
  refine ⟨fun n hn => ?_, ⟨fun _ => ?_, fun _ => ?_⟩⟩
  · rw [laws.covers_foldCase]
    refine or_iff_left_of_imp ?_
    rintro ⟨e, rfl, d, hd, hdc⟩
    rw [contains_single, beq_iff_eq] at hdc
    subst hdc
    by_cases he : e = d
    · subst he
      exact laws.contains_iff.mp hself
    · exact absurd rfl (hn e (laws.variants_symm hd) he)
  · exact ⟨c, laws.variants_self c, hself⟩
  · exact ⟨c, laws.variants_self c, laws.contains_foldCase.mpr ⟨c, laws.variants_self c, hself⟩⟩

/-- Where two sets differ in variants of a character, the sets with all variants are the same. -/
theorem Alike.foldCase_eq (h : Alike c s t) (hs : ∀ r ∈ s.ranges, r.Ordered)
    (ht : ∀ r ∈ t.ranges, r.Ordered) : s.foldCase = t.foldCase := by
  have hchars : ∀ e, (∃ d ∈ variants e, s.contains d = true) ↔
      ∃ d ∈ variants e, t.contains d = true := by
    intro e
    by_cases he : e ∈ variants c
    · have hsame : ∀ d, d ∈ variants e ↔ d ∈ variants c := fun d =>
        ⟨fun hd => laws.variants_trans he hd,
          fun hd => laws.variants_trans (laws.variants_symm he) hd⟩
      simpa only [hsame] using h.variant
    · have hcontains : ∀ d ∈ variants e, s.contains d = t.contains d := fun d hd =>
        h.sameOff.contains fun hdc => absurd (laws.variants_trans hdc (laws.variants_symm hd)) he
      constructor
      · exact fun ⟨d, hd, hsd⟩ => ⟨d, hd, hcontains d hd ▸ hsd⟩
      · exact fun ⟨d, hd, htd⟩ => ⟨d, hd, hcontains d hd ▸ htd⟩
  refine laws.canonical_ext (laws.canonical_foldCase hs) (laws.canonical_foldCase ht) fun n => ?_
  by_cases hn : ∃ e : Char, e.toNat = n
  · obtain ⟨e, rfl⟩ := hn
    rw [← laws.contains_iff, ← laws.contains_iff, laws.contains_foldCase, laws.contains_foldCase]
    exact hchars e
  · have hsame := h.sameOff n fun d _ _ hd => hn ⟨d, hd⟩
    rw [laws.covers_foldCase, laws.covers_foldCase, hsame]
    simp only [hchars]

end CharSet

/-! ### Operands -/

/-- Whether an operation cannot tell a character from its variants in one of its operands, for the
operands before it and after it. -/
def ClassOp.Keeps (c : Char) : ClassOp → (before after : List CharSet) → Prop
  | union, _, _ => True
  | intersection, before, after => ∀ s ∈ before ++ after, Harmless c s.contains
  | subtraction, [], after => ∀ s ∈ after, Harmless c fun d => !s.contains d
  | subtraction, s :: _, _ => ∀ d ∈ variants c, s.contains d = true → d = c

variable {c : Char}

namespace ClassOp

open CharSet

/-- Tests that are harmless one by one are harmless together. -/
theorem harmless_all {α : Type} {xs : List α} {p : α → Char → Bool}
    (h : ∀ x ∈ xs, Harmless c (p x)) : Harmless c fun d => xs.all fun x => p x d := by
  by_cases halone : ∃ x ∈ xs, ∀ d ∈ variants c, p x d = true → d = c
  · obtain ⟨x, hx, halone⟩ := halone
    exact .inr fun d hd hall => halone d hd (List.all_eq_true.mp hall x hx)
  · refine .inl fun d hd => List.all_eq_true.mpr fun x hx => ?_
    rcases h x hx with hevery | hx'
    · exact hevery d hd
    · exact absurd ⟨x, hx, hx'⟩ halone

/-- A harmless test leaves a variant of two sets, or of neither. -/
theorem exists_variant_and {s t : CharSet} (h : Alike c s t) {p : Char → Bool}
    (hp : Harmless c p) :
    (∃ d ∈ variants c, s.contains d = true ∧ p d = true) ↔
      ∃ d ∈ variants c, t.contains d = true ∧ p d = true := by
  have hself : s.contains c = t.contains c := h.sameOff.contains fun _ => rfl
  rcases hp with hevery | halone
  · have hand : ∀ u : CharSet, (∃ d ∈ variants c, u.contains d = true ∧ p d = true) ↔
        ∃ d ∈ variants c, u.contains d = true := fun u =>
      ⟨fun ⟨d, hd, hud, _⟩ => ⟨d, hd, hud⟩, fun ⟨d, hd, hud⟩ => ⟨d, hd, hud, hevery d hd⟩⟩
    rw [hand, hand]
    exact h.variant
  · have hand : ∀ u : CharSet, (∃ d ∈ variants c, u.contains d = true ∧ p d = true) ↔
        u.contains c = true ∧ p c = true := by
      intro u
      constructor
      · rintro ⟨d, hd, hud, hpd⟩
        rw [← halone d hd hpd]
        exact ⟨hud, hpd⟩
      · exact fun hc => ⟨c, laws.variants_self c, hc⟩
    rw [hand, hand, hself]

section Operand

variable {before after : List CharSet} {d : Char}

theorem contains_union_operand (u : CharSet) :
    (union.combineAll (before ++ u :: after)).contains d =
      (u.contains d || (before ++ after).any (·.contains d)) := by
  rw [union.contains_combineAll (by simp)]
  simp [holds, Bool.or_left_comm]

theorem contains_intersection_operand (u : CharSet) :
    (intersection.combineAll (before ++ u :: after)).contains d =
      (u.contains d && (before ++ after).all (·.contains d)) := by
  rw [intersection.contains_combineAll (by simp)]
  simp [holds, Bool.and_left_comm]

theorem contains_subtraction_first (u : CharSet) :
    (subtraction.combineAll (u :: after)).contains d =
      (u.contains d && after.all fun v => !v.contains d) := by
  rw [subtraction.contains_combineAll (by simp)]
  simp [holds, List.not_any_eq_all_not]

end Operand

theorem alike_combineAll {op : ClassOp} {s t : CharSet} {before after : List CharSet}
    (h : Alike c s t) (hop : op.Keeps c before after) :
    Alike c (op.combineAll (before ++ s :: after)) (op.combineAll (before ++ t :: after)) := by
  have hsame := h.sameOff.combineAll op before after
  refine ⟨hsame, ?_⟩
  cases op with
  | union =>
      simp only [contains_union_operand, Bool.or_eq_true, and_or_left, exists_or, h.variant]
  | intersection =>
      simp only [contains_intersection_operand, Bool.and_eq_true]
      exact exists_variant_and h (harmless_all hop)
  | subtraction =>
      cases before with
      | nil =>
          simp only [List.nil_append, contains_subtraction_first, Bool.and_eq_true]
          exact exists_variant_and h (harmless_all hop)
      | cons v before =>
          -- Whatever is taken away, no variant but the character itself has been there.
          have halone : ∀ sets, (∃ d ∈ variants c,
              (subtraction.combineAll (v :: sets)).contains d = true) ↔
              (subtraction.combineAll (v :: sets)).contains c = true := by
            intro sets
            refine ⟨?_, fun hc => ⟨c, laws.variants_self c, hc⟩⟩
            rintro ⟨d, hd, hcontains⟩
            have hvd : v.contains d = true := by
              rw [contains_subtraction_first, Bool.and_eq_true] at hcontains
              exact hcontains.1
            rwa [← hop d hd hvd]
          have hself := hsame.contains fun _ => rfl
          rw [List.cons_append, List.cons_append] at hself ⊢
          rw [halone, halone, hself]

end ClassOp

/-! ### Classes -/

namespace CharSet

theorem ordered_foldCaseIf {s : CharSet} (h : ∀ r ∈ s.ranges, r.Ordered) (caseless : Bool) :
    ∀ r ∈ (s.foldCaseIf caseless).ranges, r.Ordered := by
  cases caseless with
  | false => exact h
  | true => exact (laws.canonical_foldCase h).ordered

theorem ordered_negateIf {s : CharSet} (h : ∀ r ∈ s.ranges, r.Ordered) (negated : Bool) :
    ∀ r ∈ (s.negateIf negated).ranges, r.Ordered := by
  cases negated with
  | false => exact h
  | true => exact laws.ordered_negate s

end CharSet

open CharSet

theorem Atom.ordered_memberSet (a : Atom) (caseless : Bool) :
    ∀ r ∈ (a.memberSet caseless).ranges, r.Ordered := by
  cases a with
  | literal c form caseless' => exact ordered_foldCaseIf (laws.canonical_range c c).ordered caseless
  | range first last => exact (laws.canonical_range first last).ordered
  | shorthand kind negated => exact (laws.shorthand_spaced kind negated).ordered
  | posix name negated => exact (laws.posix_spaced name negated).ordered
  | _ => exact laws.canonical_empty.ordered

theorem ClassOp.ordered_combineAll (op : ClassOp) {sets : List CharSet}
    (hsets : ∀ s ∈ sets, ∀ r ∈ s.ranges, r.Ordered) :
    ∀ r ∈ (op.combineAll sets).ranges, r.Ordered := by
  refine op.combineAll_induction laws.canonical_empty.ordered (fun s t hs ht => ?_) hsets
  cases op with
  | union => exact laws.ordered_union hs ht
  | intersection => exact laws.ordered_intersect s t
  | subtraction => exact laws.ordered_subtract hs t

/-- Wherever a member is, its set has its ranges in order. -/
theorem Node.ordered_memberSet (n : Node) (caseless : Bool) :
    ∀ r ∈ (n.memberSet caseless).ranges, r.Ordered := by
  have hempty : ∀ r ∈ empty.ranges, r.Ordered := laws.canonical_empty.ordered
  induction n using children_induction generalizing caseless with
  | h n ih =>
      cases n with
      | atom s a => exact a.ordered_memberSet caseless
      | classOp s op operands =>
          rw [memberSet, memberSets_eq_map]
          exact op.ordered_combineAll (List.forall_mem_map.mpr fun n hn => ih n hn caseless)
      | charClass s negated caseless' expr =>
          have hexpr := ih expr (by simp [children]) caseless'
          exact ordered_negateIf (ordered_foldCaseIf hexpr caseless') negated
      | sequence s items => exact hempty
      | alternation s branches => exact hempty
      | group s head body => exact hempty
      | quantifier s count target => exact hempty
      | conditional s test yes no => exact hempty
      | define s body => exact hempty

/-- A class in which one literal is written as a range from its character to the same character,
where no operation around it can tell the character from its variants. -/
inductive Node.Respelled (c : Char) : (caseless : Bool) → Node → Node → Prop where
  | literal {caseless : Bool} {s : Span} {form : LiteralForm} {caseless' : Bool} :
    Respelled c caseless (.atom s (.literal c form caseless')) (.atom s (.range c c))
  | operand {caseless : Bool} {s : Span} {op : ClassOp} {before after : List Node} {n n' : Node} :
    Respelled c caseless n n' →
    (caseless = true → op.Keeps c (memberSets caseless before) (memberSets caseless after)) →
    Respelled c caseless (.classOp s op (before ++ n :: after))
      (.classOp s op (before ++ n' :: after))
  | inner {caseless : Bool} {s : Span} {negated caseless' : Bool} {expr expr' : Node} :
    Respelled c caseless' expr expr' →
    Respelled c caseless (.charClass s negated caseless' expr)
      (.charClass s negated caseless' expr')

namespace Node

theorem Respelled.alike {caseless : Bool} {n n' : Node} (h : Respelled c caseless n n') :
    (caseless = true → CharSet.Alike c (n.memberSet caseless) (n'.memberSet caseless)) ∧
      (caseless = false → n.memberSet caseless = n'.memberSet caseless) := by
  induction h with
  | literal =>
      refine ⟨?_, ?_⟩
      · rintro rfl
        exact CharSet.alike_single c
      · rintro rfl
        rfl
  | operand h hop ih =>
      refine ⟨fun hcaseless => ?_, fun hcaseless => ?_⟩
      · simp only [Node.memberSet, memberSets_eq_map, List.map_append, List.map_cons]
        simp only [memberSets_eq_map] at hop
        exact ClassOp.alike_combineAll (ih.1 hcaseless) (hop hcaseless)
      · simp only [Node.memberSet, memberSets_eq_map, List.map_append, List.map_cons, ih.2 hcaseless]
  | @inner caseless s negated caseless' expr expr' h ih =>
      have hfold : (expr.memberSet caseless').foldCaseIf caseless' =
          (expr'.memberSet caseless').foldCaseIf caseless' := by
        cases caseless' with
        | false => exact congrArg (CharSet.foldCaseIf · false) (ih.2 rfl)
        | true =>
            exact (ih.1 rfl).foldCase_eq (ordered_memberSet _ _) (ordered_memberSet _ _)
      simp only [Node.memberSet, hfold]
      exact ⟨fun _ => .refl c _, fun _ => trivial⟩

/-- A literal in a class means the same as the range from its character to the same character,
where no operation around it tells the character from its variants. -/
theorem Respelled.classSet?_eq {caseless : Bool} {expr expr' : Node}
    (h : Respelled c caseless expr expr') (s : Span) (negated : Bool) :
    (charClass s negated caseless expr).classSet? =
      (charClass s negated caseless expr').classSet? := by
  have hwhole : Respelled c false (charClass s negated caseless expr)
      (charClass s negated caseless expr') := .inner h
  exact congrArg some (hwhole.alike.2 rfl)

/-- A letter that is taken out of a range where it is the only one of its variants. -/
theorem classSet?_eq_difference :
    (∀ d ∈ variants 'k', (CharSet.range 'a' 'z').contains d = true → d = 'k') ∧
      (charClass ⟨0, 8⟩ true true (.classOp ⟨2, 7⟩ .subtraction
        [.atom ⟨2, 5⟩ (.range 'a' 'z'), .atom ⟨7, 8⟩ (.literal 'k' .verbatim true)])).classSet? =
      (charClass ⟨0, 8⟩ true true (.classOp ⟨2, 7⟩ .subtraction
        [.atom ⟨2, 5⟩ (.range 'a' 'z'), .atom ⟨7, 8⟩ (.range 'k' 'k')])).classSet? := by
  have halone : ∀ d ∈ variants 'k', (CharSet.range 'a' 'z').contains d = true → d = 'k' := by
    decide +kernel
  have hoperand : Respelled 'k' true
      (.classOp ⟨2, 7⟩ .subtraction ([.atom ⟨2, 5⟩ (.range 'a' 'z')] ++
        .atom ⟨7, 8⟩ (.literal 'k' .verbatim true) :: []))
      (.classOp ⟨2, 7⟩ .subtraction ([.atom ⟨2, 5⟩ (.range 'a' 'z')] ++
        .atom ⟨7, 8⟩ (.range 'k' 'k') :: [])) :=
    .operand .literal fun _ => halone
  exact ⟨halone, Respelled.classSet?_eq hoperand ⟨0, 8⟩ true⟩

/-- Without regard to case, a capital is in the common part of a range of small letters and itself
if it is written as a literal. As a range it is not. -/
theorem classSet?_intersection_literal :
    let members (a : Atom) : Node := .charClass ⟨0, 8⟩ false true
      (.classOp ⟨1, 7⟩ .intersection [.atom ⟨1, 4⟩ (.range 'a' 'c'), .atom ⟨6, 7⟩ a])
    (Pattern.parse { dialect := .pcre45 } "/[a-c&&A]/i").toOption.map Pattern.root =
        some (members (.literal 'A' .verbatim true)) ∧
      (∃ t, (members (.literal 'A' .verbatim true)).classSet? = some t ∧
        t.contains 'A' = true) ∧
      ∃ t, (members (.range 'A' 'A')).classSet? = some t ∧ t.contains 'A' = false := by
  have hvariant : 'a' ∈ variants 'A' ∧ 'A' ∈ variants 'a' := by decide +kernel
  refine ⟨by cbv, ⟨_, rfl, ?_⟩, _, rfl, ?_⟩
  · show ((CharSet.range 'a' 'c').intersect (single 'A' true)).foldCase.contains 'A' = true
    have hsmall : (single 'A' true).contains 'a' = true :=
      laws.contains_foldCase.mpr ⟨'A', hvariant.2, rfl⟩
    refine laws.contains_foldCase.mpr ⟨'a', hvariant.1, ?_⟩
    rw [laws.contains_intersect, hsmall]
    rfl
  · show ((CharSet.range 'a' 'c').intersect (range 'A' 'A')).foldCase.contains 'A' = false
    have hempty : (CharSet.range 'a' 'c').intersect (range 'A' 'A') = .empty := rfl
    rw [hempty, Bool.eq_false_iff]
    intro hcontains
    obtain ⟨d, -, hd⟩ := laws.contains_foldCase.mp hcontains
    cases hd

end Node

end PatternLint
