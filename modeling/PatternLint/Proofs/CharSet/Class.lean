import PatternLint.CharSet.Class
import PatternLint.Proofs.CharSet.Laws
import PatternLint.Proofs.Tree

/-!
# What classes and set operations mean

A class can be read as a predicate on characters: a member says which characters it names,
and an operation combines what its operands say. `Node.admits` is this reading. The set of a
class has just the characters that the class admits, and so have the sets that are built by
operations from intervals.

This is so as long as the sets of the members keep off the surrogates. A set with a range
that ends or starts there has a complement that goes wrong, and a set with two ranges that
touch has been through such a complement already.
-/

namespace PatternLint

open CharRange

/-! ### Operations on sets -/

namespace CharSet

/-- A set that is built from intervals by operations. -/
inductive Term where
  | interval (first last : Char)
  | union (s t : Term)
  | intersect (s t : Term)
  | subtract (s t : Term)
  | negate (s : Term)

namespace Term

/-- The set that a term builds. -/
def eval : Term → CharSet
  | interval first last => .range first last
  | union s t => s.eval.union t.eval
  | intersect s t => s.eval.intersect t.eval
  | subtract s t => s.eval.subtract t.eval
  | negate s => s.eval.negate

/-- What a term says of a character. -/
def holds (c : Char) : Term → Bool
  | interval first last => decide (first ≤ c) && decide (c ≤ last)
  | union s t => s.holds c || t.holds c
  | intersect s t => s.holds c && t.holds c
  | subtract s t => s.holds c && !t.holds c
  | negate s => !s.holds c

/-- The intervals are in order and do not end or start at the surrogates. -/
def Clear : Term → Prop
  | interval first last => first ≤ last ∧ CharRange.Clear ⟨first, last⟩
  | union s t | intersect s t | subtract s t => s.Clear ∧ t.Clear
  | negate s => s.Clear

end Term

theorem Term.Clear.regular {e : Term} (h : e.Clear) : e.eval.Regular := by
  induction e with
  | interval first last => exact laws.regular_range h.1 h.2
  | union s t ihs iht => exact laws.regular_union (ihs h.1) (iht h.2)
  | intersect s t ihs iht => exact laws.regular_intersect (ihs h.1) (iht h.2)
  | subtract s t ihs iht => exact laws.regular_subtract (ihs h.1) (iht h.2)
  | negate s ih => exact laws.regular_negate (ih h)

theorem Term.Clear.contains_eval {e : Term} (h : e.Clear) (c : Char) :
    e.eval.contains c = e.holds c := by
  induction e with
  | interval first last => exact laws.contains_range h.1
  | union s t ihs iht => rw [eval, laws.contains_union, holds, ihs h.1, iht h.2]
  | intersect s t ihs iht => rw [eval, laws.contains_intersect, holds, ihs h.1, iht h.2]
  | subtract s t ihs iht => rw [eval, laws.contains_subtract, holds, ihs h.1, iht h.2]
  | negate s ih =>
      have hregular : s.eval.Regular := Term.Clear.regular h
      rw [eval, laws.contains_negate hregular, holds, ih h]

end CharSet

/-! ### Classes as predicates -/

/-- What an operation says of a character when its operands say so much. -/
def ClassOp.holds : ClassOp → List Bool → Bool
  | union, bs => bs.any id
  | intersection, bs => bs.all id
  | subtraction, [] => false
  | subtraction, b :: bs => b && !bs.any id

/-- Whether a member of a class names a character. -/
def Atom.admits (c : Char) : Atom → Bool
  | literal d _ _ => c == d
  | range first last => decide (first ≤ c) && decide (c ≤ last)
  | shorthand kind negated => (CharSet.shorthand kind negated).contains c
  | posix name negated => (CharSet.posix name negated).contains c
  | _ => false

/-- A range has its ends in order, and the set of a member has no range with an end at the
surrogates. -/
structure Atom.Clear (a : Atom) : Prop where
  inOrder : ∀ first last, a = .range first last → first ≤ last
  clear : ∀ r ∈ (a.memberSet false).ranges, r.Clear

/-- No two ranges in the set of a member touch. -/
def Atom.Untouching (a : Atom) : Prop :=
  (a.memberSet false).ranges.Pairwise fun r t => r.touches t = false

namespace Node

mutual
/-- Whether a character is in a class or is named by a member of one. -/
def admits (c : Char) : Node → Bool
  | .atom _ a => a.admits c
  | .classOp _ op operands => op.holds (admitsEach c operands)
  | .charClass _ negated _ expr => admits c expr != negated
  | .sequence .. | .alternation .. | .group .. | .quantifier .. | .conditional .. | .define .. =>
    false
/-- What each of several members says of a character. -/
def admitsEach (c : Char) : List Node → List Bool
  | [] => []
  | n :: ns => admits c n :: admitsEach c ns
end

mutual
/-- A member of a class, of which the atoms have a property. No operation is without operands, and
case counts in the classes inside. -/
def IsMember (p : Atom → Prop) : Node → Prop
  | .atom _ a => p a
  | .classOp _ _ operands => operands ≠ [] ∧ AreMembers p operands
  | .charClass _ _ caseless expr => caseless = false ∧ IsMember p expr
  | .sequence .. | .alternation .. | .group .. | .quantifier .. | .conditional .. | .define .. =>
    True
/-- Members of a class, all of the same kind. -/
def AreMembers (p : Atom → Prop) : List Node → Prop
  | [] => True
  | n :: ns => IsMember p n ∧ AreMembers p ns
end

variable {p : Atom → Prop} {c : Char}

theorem memberSets_eq_map (caseless : Bool) (ns : List Node) :
    memberSets caseless ns = ns.map (memberSet caseless) := by
  induction ns with
  | nil => rfl
  | cons n ns ih => rw [memberSets, ih, List.map_cons]

theorem admitsEach_eq_map (c : Char) (ns : List Node) : admitsEach c ns = ns.map (admits c) := by
  induction ns with
  | nil => rfl
  | cons n ns ih => rw [admitsEach, ih, List.map_cons]

theorem areMembers_iff (ns : List Node) : AreMembers p ns ↔ ∀ n ∈ ns, IsMember p n := by
  induction ns with
  | nil => simp [AreMembers]
  | cons n ns ih => rw [AreMembers, ih, List.forall_mem_cons]

end Node

/-! ### The sets of members -/

open CharSet

/-- The set of a member is sorted, whatever the member is. -/
theorem Atom.spaced_memberSet (a : Atom) : (a.memberSet false).Spaced 0 := by
  cases a with
  | literal c form caseless => exact (laws.canonical_range c c).spaced.mono (Nat.zero_le 2)
  | range first last => exact (laws.canonical_range first last).spaced.mono (Nat.zero_le 2)
  | shorthand kind negated => exact laws.shorthand_spaced kind negated
  | posix name negated => exact laws.posix_spaced name negated
  | _ => exact laws.canonical_empty.spaced.mono (Nat.zero_le 2)

theorem Atom.Clear.regular {a : Atom} (h : a.Clear) (huntouching : a.Untouching) :
    (a.memberSet false).Regular :=
  laws.regular_of_spaced a.spaced_memberSet h.clear huntouching

theorem Atom.Clear.contains {a : Atom} (h : a.Clear) (c : Char) :
    (a.memberSet false).contains c = a.admits c := by
  cases a with
  | literal d form caseless => exact contains_single
  | range first last => exact laws.contains_range (h.inOrder first last rfl)
  | shorthand kind negated => rfl
  | posix name negated => rfl
  | _ => rfl

namespace ClassOp

/-- From the left, two operands may be taken as one. -/
theorem holds_cons_cons (op : ClassOp) (b b' : Bool) (bs : List Bool) :
    op.holds (b :: b' :: bs) = op.holds (op.holds [b, b'] :: bs) := by
  cases op <;> simp [holds, Bool.or_assoc, Bool.and_assoc]

theorem holds_singleton (op : ClassOp) (b : Bool) : op.holds [b] = b := by
  cases op <;> simp [holds]

theorem regular_combine {s t : CharSet} (op : ClassOp) (hs : s.Regular) (ht : t.Regular) :
    (op.combine s t).Regular := by
  cases op with
  | union => exact laws.regular_union hs ht
  | intersection => exact laws.regular_intersect hs ht
  | subtraction => exact laws.regular_subtract hs ht

theorem contains_combine (op : ClassOp) (s t : CharSet) (c : Char) :
    (op.combine s t).contains c = op.holds [s.contains c, t.contains c] := by
  cases op with
  | union => simp [combine, holds, laws.contains_union]
  | intersection => simp [combine, holds, laws.contains_intersect]
  | subtraction => simp [combine, holds, laws.contains_subtract]

/-- What the empty set has, and two operands hand on to what they are combined to, the operands
hand on together. -/
theorem combineAll_induction (op : ClassOp) {p : CharSet → Prop} (hempty : p .empty)
    (hcombine : ∀ s t, p s → p t → p (op.combine s t)) {sets : List CharSet}
    (hsets : ∀ s ∈ sets, p s) : p (op.combineAll sets) := by
  cases sets with
  | nil => exact hempty
  | cons s rest =>
      obtain ⟨hs, hrest⟩ := List.forall_mem_cons.mp hsets
      clear hsets
      induction rest generalizing s with
      | nil => exact hs
      | cons t rest ih =>
          obtain ⟨ht, hrest⟩ := List.forall_mem_cons.mp hrest
          exact ih _ (hcombine s t hs ht) hrest

theorem regular_combineAll (op : ClassOp) {sets : List CharSet} (hsets : ∀ s ∈ sets, s.Regular) :
    (op.combineAll sets).Regular :=
  op.combineAll_induction laws.regular_empty (fun _ _ => op.regular_combine) hsets

/-- The sets of several operands are combined as what they say of a character is. -/
theorem contains_combineAll (op : ClassOp) {sets : List CharSet} (hne : sets ≠ []) (c : Char) :
    (op.combineAll sets).contains c = op.holds (sets.map (·.contains c)) := by
  obtain ⟨s, rest, rfl⟩ := List.exists_cons_of_ne_nil hne
  clear hne
  induction rest generalizing s with
  | nil => exact (op.holds_singleton _).symm
  | cons t rest ih =>
      rw [List.map_cons, List.map_cons, op.holds_cons_cons, ← contains_combine]
      exact ih (op.combine s t)

end ClassOp

/-! ### The sets of classes -/

namespace Node

/-- The set of a member keeps off the surrogates, and has the characters that the member
admits. -/
theorem IsMember.memberSet_spec {n : Node} (h : n.IsMember fun a => a.Clear ∧ a.Untouching) :
    (n.memberSet false).Regular ∧ ∀ c, (n.memberSet false).contains c = n.admits c := by
  have hempty : empty.Regular ∧ ∀ c, empty.contains c = false := ⟨laws.regular_empty, fun c => rfl⟩
  induction n using children_induction with
  | h n ih =>
      cases n with
      | atom s a => exact ⟨h.1.regular h.2, h.1.contains⟩
      | classOp s op operands =>
          obtain ⟨hne, hoperands⟩ := h
          rw [areMembers_iff] at hoperands
          have hspec := fun n hn => ih n hn (hoperands n hn)
          have hsets : ∀ s ∈ operands.map (memberSet false), s.Regular :=
            List.forall_mem_map.mpr fun n hn => (hspec n hn).1
          simp only [memberSet, memberSets_eq_map, admits, admitsEach_eq_map]
          refine ⟨op.regular_combineAll hsets, fun c => ?_⟩
          rw [op.contains_combineAll (by simpa using hne), List.map_map]
          exact congrArg op.holds (List.map_congr_left fun n hn => (hspec n hn).2 c)
      | charClass s negated caseless expr =>
          obtain ⟨rfl, hexpr⟩ := h
          obtain ⟨hregular, hcontains⟩ := ih expr (by simp [children]) hexpr
          simp only [memberSet, foldCaseIf, negateIf, admits]
          cases negated with
          | false => exact ⟨hregular, by simpa using hcontains⟩
          | true =>
              refine ⟨laws.regular_negate hregular, fun c => ?_⟩
              simp [laws.contains_negate hregular, hcontains]
      | sequence s items => exact hempty
      | alternation s branches => exact hempty
      | group s head body => exact hempty
      | quantifier s count target => exact hempty
      | conditional s test yes no => exact hempty
      | define s body => exact hempty

/-- The set of a class has just the characters that the class admits, and the set that a term
builds has those of which the term holds. The ranges of the latter are sorted, with a gap between
any two. -/
theorem classSet?_denotes :
    (∀ (s : Span) (negated : Bool) (expr : Node),
      (expr.IsMember fun a => a.Clear ∧ a.Untouching) →
      ∃ t, (charClass s negated false expr).classSet? = some t ∧
        ∀ c, t.contains c = (charClass s negated false expr).admits c) ∧
    ∀ e : CharSet.Term, e.Clear →
      (∀ c, e.eval.contains c = e.holds c) ∧ e.eval.Canonical := by
  refine ⟨fun s negated expr h => ⟨_, rfl, ?_⟩, fun e h => ⟨h.contains_eval, h.regular.1⟩⟩
  have hclass : (charClass s negated false expr).IsMember fun a => a.Clear ∧ a.Untouching :=
    ⟨rfl, h⟩
  exact hclass.memberSet_spec.2

/-- All characters but digits and the letters from `a` to `z` without `e`. -/
theorem classSet?_denotes_difference :
    (∃ t, (charClass default true false (.classOp default .union [
          .classOp default .subtraction [.atom default (.range 'a' 'z'),
            .charClass default false false (.atom default (.literal 'e' .verbatim false))],
          .atom default (.shorthand .digit false)])).classSet? = some t ∧
        ∀ c, t.contains c = (charClass default true false (.classOp default .union [
          .classOp default .subtraction [.atom default (.range 'a' 'z'),
            .charClass default false false (.atom default (.literal 'e' .verbatim false))],
          .atom default (.shorthand .digit false)])).admits c) ∧
      (CharSet.Term.subtract (.interval 'a' 'z') (.negate (.interval 'e' 'i'))).eval.Canonical := by
  have hrange : (Atom.range 'a' 'z').Clear ∧ (Atom.range 'a' 'z').Untouching :=
    ⟨⟨fun first last h => by cases h; decide, by decide⟩, List.pairwise_singleton _ _⟩
  have hliteral : (Atom.literal 'e' .verbatim false).Clear ∧
      (Atom.literal 'e' .verbatim false).Untouching :=
    ⟨⟨fun first last h => (nomatch h), by decide⟩, List.pairwise_singleton _ _⟩
  have hdigit : (Atom.shorthand .digit false).Clear ∧ (Atom.shorthand .digit false).Untouching :=
    ⟨⟨fun first last h => (nomatch h), by decide⟩, List.pairwise_singleton _ _⟩
  refine ⟨classSet?_denotes.1 default true _ ?_, (classSet?_denotes.2 _ ?_).2⟩
  · exact ⟨by simp, ⟨by simp, hrange, ⟨rfl, hliteral⟩, trivial⟩, hdigit, trivial⟩
  · exact ⟨⟨by decide, by decide⟩, by decide, by decide⟩

/-- The members of a class with the characters on both sides of the surrogates and two colons, one
added after the other. -/
def besideSurrogates : CharSet :=
  (((CharSet.empty.union (.range ':' ':')).union (.range '\ud7ff' '\ud7ff')).union
    (.range '\ue000' '\ue000')).union (.range ':' ':')

theorem union_besideSurrogates : CharSet.empty.union besideSurrogates =
    ⟨[⟨':', ':'⟩, ⟨'\ud7ff', '\ud7ff'⟩, ⟨'\ue000', '\ue000'⟩]⟩ := by
  have hordered : ∀ c, ∀ r ∈ (CharSet.range c c).ranges, r.Ordered := fun c =>
    (canonical_range c c).ordered
  have hmembers : besideSurrogates.Canonical :=
    (((canonical_empty.union (hordered ':')).union (hordered '\ud7ff')).union
      (hordered '\ue000')).union (hordered ':')
  refine (canonical_empty.union hmembers.ordered).ext
    ⟨by simp [Ordered], by simp [Apart]⟩ fun n => ?_
  have hrange : ∀ c, (CharSet.range c c).covers n ↔ CharRange.covers ⟨c, c⟩ n := by
    simp [CharSet.range, CharSet.covers, between]
  have hempty : ¬ CharSet.empty.covers n := by simp [CharSet.empty, CharSet.covers]
  have hlisted : CharSet.covers ⟨[⟨':', ':'⟩, ⟨'\ud7ff', '\ud7ff'⟩, ⟨'\ue000', '\ue000'⟩]⟩ n ↔
      CharRange.covers ⟨':', ':'⟩ n ∨ CharRange.covers ⟨'\ud7ff', '\ud7ff'⟩ n ∨
        CharRange.covers ⟨'\ue000', '\ue000'⟩ n := by
    simp [CharSet.covers]
  simp only [besideSurrogates, covers_union, hrange, hempty, hlisted, false_or]
  rw [or_comm, or_assoc, ← or_assoc, or_self]

/-- The characters on both sides of the surrogates and a colon, as a POSIX class that is negated.
Its set stops on neither side of the surrogates, and two of its ranges touch. -/
theorem posix_beside_surrogates :
    CharSet.posix "\ud7ff\ue000" true =
      ⟨[⟨'\x00', '9'⟩, ⟨';', '\ud7fe'⟩, ⟨'\ud7ff', '\ue000'⟩, ⟨'\ue001', lastChar⟩]⟩ := by
  have hread : ∃ st, SetExpr.expression? 9 (.start {} []) "[[:\ud7ff\ue000:]]".toList =
      some (st, []) ∧
      st.finish.form = SetExpr.Form.ofSet {} (CharSet.empty.union besideSurrogates) ∧
      st.finish.depth ≤ SetExpr.maxDepth := ⟨_, rfl, rfl, by decide⟩
  obtain ⟨st, hread, hform, hdepth⟩ := hread
  have hset : SetExpr.set? "[[:\ud7ff\ue000:]]".toList =
      some ⟨[⟨':', ':'⟩, ⟨'\ud7ff', '\ud7ff'⟩, ⟨'\ue000', '\ue000'⟩]⟩ := by
    have hset : st.finish.form =
        .set ⟨[⟨':', ':'⟩, ⟨'\ud7ff', '\ud7ff'⟩, ⟨'\ue000', '\ue000'⟩]⟩ := by
      rw [hform, union_besideSurrogates]
      rfl
    have hlength : "[[:\ud7ff\ue000:]]".toList.length + 1 = 9 := rfl
    rw [SetExpr.set?, hlength, hread]
    simp only [hset, if_pos hdepth]
  have hname : "[[:" ++ "\ud7ff\ue000" ++ ":]]" = "[[:\ud7ff\ue000:]]" := rfl
  rw [CharSet.posix, hname, hset]
  decide +kernel

/-- That no range has an end at the surrogates is not enough: the complement of this class should
be a colon. -/
theorem classSet?_beside_surrogates :
    (atom default (.posix "\ud7ff\ue000" true)).IsMember Atom.Clear ∧
      ∃ t, (charClass default true false
          (atom default (.posix "\ud7ff\ue000" true))).classSet? = some t ∧
        t.contains '\ud7fe' = true ∧
        (charClass default true false
          (atom default (.posix "\ud7ff\ue000" true))).admits '\ud7fe' = false := by
  have hclear : ∀ r ∈ (CharSet.posix "\ud7ff\ue000" true).ranges, r.Clear := by
    rw [posix_beside_surrogates]
    decide
  refine ⟨⟨fun first last h => (nomatch h), hclear⟩, _, rfl, ?_, ?_⟩
  · show (CharSet.posix "\ud7ff\ue000" true).negate.contains '\ud7fe' = true
    rw [posix_beside_surrogates]
    decide +kernel
  · show ((CharSet.posix "\ud7ff\ue000" true).contains '\ud7fe' != true) = false
    rw [posix_beside_surrogates]
    decide +kernel

end Node

end PatternLint
