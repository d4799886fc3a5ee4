import Mathlib
import PatternLint.Proofs.Hazard.Width

/-!
# Repetitions in repetitions

A repetition without bound whose target can have a character can go on and on. If
another one that can is inside it, the two share a text among them in many ways;
if its target can be empty, a turn need not get on. Both are reported, once for each
repetition, and nothing else is reported as such.

How deeply repetitions are nested is the length of the longest chain of them, each
inside the one before. An atomic assertion, a definition and the test of a
conditional break the chain: what they matched is not given back.
-/

namespace PatternLint

namespace Node

/-- A repetition that can go on and on, as its span and its target. -/
def growth? (scope : Scope) : Node → Option (Span × Node)
  | .quantifier s count target =>
    if count.isUnbounded && (scope.width target).max != some 0 then some (s, target) else none
  | _ => none

/-- The parts of a node in which a chain of repetitions goes on. What takes no turn breaks it
too. -/
def openParts : Node → List Node
  | .sequence _ items => items
  | .alternation _ branches => branches
  | .group _ head body => if head.kind.isLookaround && head.kind.isAtomic then [] else [body]
  | .quantifier _ count target => if count.max = some 0 then [] else [target]
  | .conditional _ _ yes no => yes :: no.toList
  | .atom .. | .charClass .. | .classOp .. | .define .. => []

/-- A chain of repetitions in a tree that can go on and on, each in the target of the one before, by
their spans. -/
inductive Chain (scope : Scope) : Node → List Span → Prop where
  | nil (n : Node) : Chain scope n []
  | inside {n c : Node} {spans : List Span} (hc : c ∈ n.openParts) (h : Chain scope c spans) :
      Chain scope n spans
  | loop {n target : Node} {s : Span} {spans : List Span} (hn : n.growth? scope = some (s, target))
      (h : Chain scope target spans) : Chain scope n (s :: spans)

mutual
/-- The length of the longest chain of repetitions in a tree. -/
def chainLength (scope : Scope) : Node → Nat
  | .sequence _ items => (chainLengths scope items).foldl max 0
  | .alternation _ branches => (chainLengths scope branches).foldl max 0
  | .group _ head body =>
    if head.kind.isLookaround && head.kind.isAtomic then 0 else chainLength scope body
  | .quantifier _ count target =>
    if count.max = some 0 then 0
    else if count.isUnbounded && (scope.width target).max != some 0 then
      chainLength scope target + 1
    else chainLength scope target
  | .conditional _ _ yes no => max (chainLength scope yes) (optionalChainLength scope no)
  | .atom .. | .charClass .. | .classOp .. | .define .. => 0
/-- The lengths in several trees. -/
def chainLengths (scope : Scope) : List Node → List Nat
  | [] => []
  | n :: ns => chainLength scope n :: chainLengths scope ns
/-- The length in a tree that may be missing. -/
def optionalChainLength (scope : Scope) : Option Node → Nat
  | none => 0
  | some n => chainLength scope n
end

theorem chainLengths_eq_map (scope : Scope) (ns : List Node) :
    chainLengths scope ns = ns.map (chainLength scope) := by
  induction ns with
  | nil => rfl
  | cons n ns ih => rw [chainLengths, ih, List.map_cons]

/-! ### The longest chain -/

variable {scope : Scope} {n : Node}

theorem chainLength_openPart {c : Node} (hc : c ∈ n.openParts) :
    c.chainLength scope ≤ n.chainLength scope := by
  have hmem : ∀ {ns : List Node}, c ∈ ns →
      c.chainLength scope ≤ (chainLengths scope ns).foldl max 0 := by
    intro ns hc
    have hle := (foldl_max_le.mp (Nat.le_refl ((chainLengths scope ns).foldl max 0))).2
    rw [chainLengths_eq_map] at hle ⊢
    exact hle _ (List.mem_map_of_mem hc)
  cases n with
  | sequence s items => exact hmem hc
  | alternation s branches => exact hmem hc
  | group s head body =>
      rw [openParts] at hc
      rw [chainLength]
      split at hc
      · cases hc
      next h =>
        obtain rfl := List.mem_singleton.mp hc
        rw [if_neg h]
  | quantifier s count target =>
      rw [openParts] at hc
      split at hc
      · cases hc
      next h =>
        obtain rfl := List.mem_singleton.mp hc
        rw [chainLength, if_neg h]
        split <;> omega
  | conditional s test yes no =>
      rw [chainLength]
      rcases List.mem_cons.mp hc with rfl | hc
      · exact Nat.le_max_left _ _
      · obtain rfl := Option.mem_toList.mp hc
        exact Nat.le_max_right _ _
  | _ => cases hc

theorem chainLength_growth {s : Span} {target : Node} (h : n.growth? scope = some (s, target)) :
    n.chainLength scope = target.chainLength scope + 1 := by
  cases n with
  | quantifier s' count target' =>
      rw [growth?] at h
      split at h
      next hgrows =>
        obtain ⟨rfl, rfl⟩ := Prod.mk.inj (Option.some.inj h)
        have hmax : count.max ≠ some 0 := by
          intro hmax
          simp [Repeat.isUnbounded, hmax] at hgrows
        rw [chainLength, if_neg hmax, if_pos hgrows]
      next => cases h
  | _ => cases h

theorem Chain.length_le {spans : List Span} (h : n.Chain scope spans) :
    spans.length ≤ n.chainLength scope := by
  induction h with
  | nil n => exact Nat.zero_le _
  | inside hc _ ih => exact Nat.le_trans ih (chainLength_openPart hc)
  | loop hn _ ih =>
      rw [chainLength_growth hn, List.length_cons]
      omega

theorem foldl_max_mem (l : List Nat) (b : Nat) : l.foldl max b = b ∨ l.foldl max b ∈ l := by
  induction l generalizing b with
  | nil => exact .inl rfl
  | cons x l ih =>
      rw [List.foldl_cons, List.mem_cons]
      rcases ih (max b x) with h | h
      · rw [h]
        omega
      · exact .inr (.inr h)

/-- A longest chain starts at the node itself, or it is one in an open part. -/
theorem chainLength_cases (scope : Scope) (n : Node) :
    n.chainLength scope = 0 ∨ (∃ c ∈ n.openParts, n.chainLength scope = c.chainLength scope) ∨
      ∃ s target, n.growth? scope = some (s, target) ∧ target ∈ n.children := by
  have hmax : ∀ {ns : List Node}, (chainLengths scope ns).foldl max 0 = 0 ∨
      ∃ c ∈ ns, (chainLengths scope ns).foldl max 0 = c.chainLength scope := by
    intro ns
    rw [chainLengths_eq_map]
    rcases foldl_max_mem (ns.map (chainLength scope)) 0 with h | h
    · exact .inl h
    · obtain ⟨c, hc, heq⟩ := List.mem_map.mp h
      exact .inr ⟨c, hc, heq.symm⟩
  cases n with
  | sequence s items => exact hmax.imp_right .inl
  | alternation s branches => exact hmax.imp_right .inl
  | group s head body =>
      rw [chainLength, openParts]
      split
      · exact .inl rfl
      · exact .inr (.inl ⟨body, by simp, rfl⟩)
  | quantifier s count target =>
      rw [chainLength, openParts, growth?]
      split
      · exact .inl rfl
      · split
        · exact .inr (.inr ⟨s, target, rfl, by simp [children]⟩)
        · exact .inr (.inl ⟨target, by simp, rfl⟩)
  | conditional s test yes no =>
      rw [chainLength, openParts]
      cases no with
      | none => exact .inr (.inl ⟨yes, by simp, by simp [optionalChainLength]⟩)
      | some m =>
          rw [optionalChainLength]
          rcases Nat.le_total (m.chainLength scope) (yes.chainLength scope) with hle | hle
          · exact .inr (.inl ⟨yes, by simp, Nat.max_eq_left hle⟩)
          · exact .inr (.inl ⟨m, by simp, Nat.max_eq_right hle⟩)
  | _ => exact .inl rfl

theorem mem_children_of_openPart {c : Node} (hc : c ∈ n.openParts) : c ∈ n.children := by
  cases n with
  | group s head body =>
      rw [openParts] at hc
      split at hc
      · cases hc
      · exact hc
  | quantifier s count target =>
      rw [openParts] at hc
      split at hc
      · cases hc
      · exact hc
  | conditional s test yes no => exact List.mem_append_right _ hc
  | sequence s items => exact hc
  | alternation s branches => exact hc
  | _ => cases hc

/-- The length of the longest chain is that of a chain, and no chain is longer. -/
theorem exists_chain (scope : Scope) (n : Node) :
    ∃ spans, n.Chain scope spans ∧ spans.length = n.chainLength scope := by
  induction n using children_induction with
  | h n ih =>
      rcases chainLength_cases scope n with h | ⟨c, hc, h⟩ | ⟨s, target, hgrowth, hc⟩
      · exact ⟨[], .nil n, h.symm⟩
      · obtain ⟨spans, hchain, hlength⟩ := ih c (mem_children_of_openPart hc)
        exact ⟨spans, .inside hc hchain, hlength.trans h.symm⟩
      · obtain ⟨spans, hchain, hlength⟩ := ih target hc
        refine ⟨s :: spans, .loop hgrowth hchain, ?_⟩
        rw [chainLength_growth hgrowth, List.length_cons, hlength]

end Node

/-! ### The height of profiles -/

namespace Hazard

theorem height_foldl_andThen (p : Profile) (ps : List Profile) :
    (ps.foldl Profile.andThen p).height = (ps.map Profile.height).foldl max p.height := by
  induction ps generalizing p with
  | nil => rfl
  | cons q ps ih => exact ih (p.andThen q)

theorem height_foldl_or (p : Profile) (ps : List Profile) :
    (ps.foldl Profile.or p).height = (ps.map Profile.height).foldl max p.height := by
  induction ps generalizing p with
  | nil => rfl
  | cons q ps ih => exact ih (p.or q)

theorem height_anyOf (ps : List Profile) :
    (Profile.anyOf ps).height = (ps.map Profile.height).foldl max 0 := by
  cases ps with
  | nil => rfl
  | cons p ps =>
      rw [Profile.anyOf, height_foldl_or, List.map_cons, List.foldl_cons, Nat.zero_max]

theorem height_group (kind : GroupKind) (p : Profile) :
    (ofGroup kind p).height = if kind.isLookaround && kind.isAtomic then 0 else p.height := by
  rw [ofGroup]
  cases kind.isLookaround <;> cases kind.isAtomic <;> rfl

/-- Whether a repetition goes on and on is told alike by profile and width. -/
theorem grows_eq (ctx : Context) (count : Repeat) {target : Node} (h : target.Regular) :
    grows count (profile ctx target) =
      (count.isUnbounded && (ctx.scope.width target).max != some 0) := by
  have hfits := profile_fits ctx ctx.scope.call h {} (by simp)
  have hconsumes : (profile ctx target).consumes = ((ctx.scope.width target).max != some 0) := by
    rw [Bool.eq_iff_iff, bne_iff_ne]
    exact hfits.consumes
  rw [grows, hconsumes]

theorem profile_height (ctx : Context) {n : Node} (h : n.Regular) :
    (profile ctx n).height = n.chainLength ctx.scope := by
  induction n using Node.children_induction with
  | h n ih =>
      have hbelow : n.isClass = false → ∀ c ∈ n.children,
          (profile ctx c).height = c.chainLength ctx.scope := fun hclass c hc =>
        ih c hc (h.child hclass hc)
      have hmap : n.isClass = false →
          (n.children.map (profile ctx)).map Profile.height =
            n.children.map (Node.chainLength ctx.scope) := by
        intro hclass
        rw [List.map_map]
        exact List.map_congr_left (hbelow hclass)
      cases n with
      | atom s a => cases a <;> rfl
      | sequence s items =>
          rw [profile, Node.chainLength, profiles_eq_map, Node.chainLengths_eq_map,
            Profile.sequence, height_foldl_andThen]
          exact congrArg (List.foldl max 0) (hmap rfl)
      | alternation s branches =>
          rw [profile, Node.chainLength, profiles_eq_map, Node.chainLengths_eq_map, height_anyOf]
          exact congrArg (List.foldl max 0) (hmap rfl)
      | group s head body =>
          rw [profile, Node.chainLength, height_group, hbelow rfl body (by simp [Node.children])]
      | quantifier s count target =>
          have hc : target ∈ (Node.quantifier s count target).children := by simp [Node.children]
          have hgrows := grows_eq ctx count (h.child rfl hc)
          rw [profile, Node.chainLength]
          split
          · rfl
          · rw [ofQuantifier, ← hgrows, hbelow rfl target hc]
            split <;> rfl
      | charClass s negated caseless expr => rfl
      | classOp s op operands => rfl
      | conditional s test yes no =>
          have hyes := hbelow rfl yes (by simp [Node.children])
          rw [profile, Node.chainLength, Profile.or, hyes]
          cases no with
          | none => rfl
          | some m =>
              rw [optionalProfile, Node.optionalChainLength, hbelow rfl m (by simp [Node.children])]
      | define s body => rfl

/-! ### Findings at nodes -/

variable {ctx : Context} {above : List Node}

theorem kind_of_mem_adjacent {env : Surroundings} {xs : List (Node × Profile)} {f : Finding}
    (h : f ∈ adjacent env xs) : f.kind = .adjacentQuantifiers := by
  induction xs with
  | nil => cases h
  | cons x xs ih =>
      rw [adjacent] at h
      rcases List.mem_append.mp h with h | h
      · split at h
        · cases h
        · split at h
          · obtain ⟨next, -, rfl⟩ := Option.map_eq_some_iff.mp (Option.mem_toList.mp h)
            rfl
          · cases h
      · exact ih h

theorem kind_of_mem_overlapping {env : Surroundings} {s : Span} {ps : List Profile} {f : Finding}
    (h : f ∈ (overlapping env s ps).toList) : f.kind = .overlappingAlternation := by
  rw [Option.mem_toList, overlapping] at h
  split at h
  · cases h
  · split at h
    · obtain ⟨severity, -, rfl⟩ := Option.map_eq_some_iff.mp h
      rfl
    · cases h

theorem kind_of_mem_atomNotes {env : Surroundings} {s : Span} {a : Atom} {f : Finding}
    (h : f ∈ (atomNotes ctx env s a).filterMap Note.finding?) : f.kind = .backreferenceLoop := by
  cases a with
  | backref ref caseless =>
      rw [atomNotes, filterMap_finding, Option.mem_toList, backreference] at h
      split at h
      · cases h
      · split at h
        · cases h
          rfl
        · cases h
  | subroutine target =>
      rw [atomNotes] at h
      split at h <;> cases h
  | _ => cases h

/-- Only repetitions are reported as nested or as empty. -/
theorem ownFindings_other {n : Node} (hn : ∀ s count target, n ≠ .quantifier s count target) :
    ∀ f ∈ ownFindings ctx above n, f.kind ≠ .nestedQuantifier ∧ f.kind ≠ .emptyRepetition := by
  intro f hf
  cases n with
  | atom s a => simp [kind_of_mem_atomNotes hf]
  | sequence s items =>
      rw [ownFindings, ownNotes, filterMap_finding] at hf
      simp [kind_of_mem_adjacent hf]
  | alternation s branches =>
      rw [ownFindings, ownNotes, filterMap_finding] at hf
      simp [kind_of_mem_overlapping hf]
  | quantifier s count target => exact absurd rfl (hn s count target)
  | _ => cases hf

theorem ownFindings_quantifier {s : Span} {count : Repeat} {target : Node} :
    ownFindings ctx above (.quantifier s count target) =
      if grows count (profile ctx target) then
        repetition (around above) s count (profile ctx target) else [] := by
  rw [ownFindings, ownNotes, filterMap_finding]

theorem nested_repetition (env : Surroundings) (s : Span) (count : Repeat) (target : Profile) :
    ((repetition env s count target).filter fun f => f.kind == .nestedQuantifier).map
      (fun f => (f.span, f.height)) =
    if 0 < target.height then [(s, 1 + target.height)] else [] := by
  rw [repetition, List.filter_append]
  by_cases hheight : 0 < target.height <;> cases target.nullable <;>
    simp [Finding.of, hheight, Nat.add_comm]

theorem empty_repetition (env : Surroundings) (s : Span) (count : Repeat) (target : Profile) :
    ((repetition env s count target).filter fun f => f.kind == .emptyRepetition).map Finding.span =
      if target.nullable then [s] else [] := by
  rw [repetition, List.filter_append]
  by_cases hheight : 0 < target.height <;> cases target.nullable <;> simp [Finding.of, hheight]

theorem flatMap_filter_congr {α β : Type} {l : List α} {p q : α → Bool} {f g : α → List β}
    (h : ∀ x ∈ l, (if p x then f x else []) = if q x then g x else []) :
    (l.filter p).flatMap f = (l.filter q).flatMap g := by
  induction l with
  | nil => rfl
  | cons x l ih =>
      have hx := h x (by simp)
      have hl := ih fun y hy => h y (by simp [hy])
      rw [List.filter_cons, List.filter_cons]
      split <;> split <;> simp_all

end Hazard

namespace Pattern

open Hazard

/-- The repetitions of a pattern that can go on and on, as their spans and targets. Below what takes
no turn there are none. -/
def growing (p : Pattern) : List (Span × Node) :=
  (p.root.occurrences.filter fun o => o.1.all fun q => !q.isNever).filterMap
    fun o => o.2.growth? p.scope

variable {body modifiers : String} {delimiter : Char} {p : Pattern}

theorem parseBody_regular (h : parseBody {} body modifiers delimiter = .ok p)
    (hfree : p.root.CallFree) : p.root.Regular :=
  ⟨hfree, (parseBody_proper h).2, (parseBody_proper h).1⟩

/-- The search comes to a repetition just if none without turns is above it. -/
theorem reached_quantifier (hregular : p.root.Regular) {above : List Node} {s : Span}
    {count : Repeat} {target : Node}
    (ho : (above, .quantifier s count target) ∈ p.root.occurrences) :
    reached above = above.all fun q => !q.isNever := by
  rw [Bool.eq_iff_iff, List.all_eq_true]
  constructor
  · intro hall q hq
    exact (Bool.and_eq_true_iff.mp (List.all_eq_true.mp hall q hq)).1
  · intro hall
    exact reached_of_proper hregular.proper ho rfl (by simp) fun q hq => by simpa using hall q hq

/-- The findings of a kind that only repetitions have, if it is known what is found at each. -/
theorem reported_perm {α : Type} (h : parseBody {} body modifiers delimiter = .ok p)
    (hfree : p.root.CallFree) {kind : HazardKind}
    (hkind : kind = .nestedQuantifier ∨ kind = .emptyRepetition) (view : Finding → α)
    (test : Span × Node → Bool) (image : Span × Node → α)
    (hown : ∀ env s count target, target.Regular →
      ((repetition env s count (profile p.searchContext target)).filter fun f =>
        f.kind == kind).map view = if test (s, target) then [image (s, target)] else []) :
    (((p.analyze {}).findings.filter fun f => f.kind == kind).map view).Perm
      ((p.growing.filter test).map image) := by
  have hregular := parseBody_regular h hfree
  refine (((findings_perm (parseBody_depth h) rfl).filter _).map _).trans (.of_eq ?_)
  rw [growing, List.filterMap_eq_flatMap_toList, List.filter_flatMap, List.filter_flatMap,
    List.map_flatMap, List.map_flatMap]
  -- Both lists go over the same occurrences, so that it is enough to look at one of them.
  refine flatMap_filter_congr fun o ho => ?_
  obtain ⟨above, n⟩ := o
  by_cases hn : ∀ s count target, n ≠ .quantifier s count target
  · have hnone : (ownFindings p.searchContext above n).filter (fun f => f.kind == kind) = [] := by
      refine List.filter_eq_nil_iff.mpr fun f hf => ?_
      have hother := ownFindings_other hn f hf
      rcases hkind with rfl | rfl <;> simp [hother]
    have hgrowth : n.growth? p.scope = none := by
      cases n with
      | quantifier s count target => exact absurd rfl (hn s count target)
      | _ => rfl
    simp [hnone, hgrowth]
  · obtain ⟨s, count, target, rfl⟩ : ∃ s count target, n = .quantifier s count target := by
      simpa using hn
    have htarget := hregular.target (Node.mem_preorder_of_occurrence ho)
    have hgrows : grows count (profile p.searchContext target) =
        (count.isUnbounded && (p.scope.width target).max != some 0) :=
      grows_eq p.searchContext count htarget
    simp only [reached_quantifier hregular ho, ownFindings_quantifier, Node.growth?, ← hgrows]
    cases grows count (profile p.searchContext target) with
    | false => rfl
    | true =>
        rw [if_pos rfl, if_pos rfl, hown _ s count target htarget]
        cases htest : test (s, target) <;> simp [htest]

/-- The findings of nested repetitions are one for each repetition that can go on and on and has
another one in a chain inside it, with the length of the longest chain from there on, and those of
empty repetitions one for each that can go on and on and whose target can be empty. -/
theorem analyze_nesting (h : parseBody {} body modifiers delimiter = .ok p)
    (hfree : p.root.CallFree) :
    (((p.analyze {}).findings.filter fun f => f.kind == .nestedQuantifier).map
        fun f => (f.span, f.height)).Perm
      ((p.growing.filter fun g => decide (0 < g.2.chainLength p.scope)).map
        fun g => (g.1, 1 + g.2.chainLength p.scope)) ∧
    (((p.analyze {}).findings.filter fun f => f.kind == .emptyRepetition).map Finding.span).Perm
      ((p.growing.filter fun g => (p.scope.width g.2).min == 0).map Prod.fst) ∧
    ∀ n : Node, (∃ spans, n.Chain p.scope spans ∧ spans.length = n.chainLength p.scope) ∧
      ∀ spans, n.Chain p.scope spans → spans.length ≤ n.chainLength p.scope := by
  refine ⟨?_, ?_, fun n => ⟨n.exists_chain p.scope, fun spans hchain => hchain.length_le⟩⟩
  · refine reported_perm h hfree (.inl rfl) _ _ _ fun env s count target htarget => ?_
    have hheight : (profile p.searchContext target).height = target.chainLength p.scope :=
      profile_height p.searchContext htarget
    rw [nested_repetition, hheight]
    simp only [decide_eq_true_eq]
  · refine reported_perm h hfree (.inr rfl) _ _ _ fun env s count target htarget => ?_
    have hnullable : (profile p.searchContext target).nullable =
        ((p.scope.width target).min == 0) := by
      rw [Bool.eq_iff_iff, beq_iff_eq]
      exact (profile_fits p.searchContext p.scope.call htarget {} (by simp)).nullable
    rw [empty_repetition, hnullable]

theorem analyze_nesting_stars :
    ∃ p, parseBody {} "((?:a+)*b?)*" "" '/' = .ok p ∧
      (((p.analyze {}).findings.filter fun f => f.kind == .nestedQuantifier).map
        fun f => (f.span, f.height)).Perm [(⟨1, 8⟩, 2), (⟨0, 12⟩, 3)] ∧
      (((p.analyze {}).findings.filter fun f => f.kind == .emptyRepetition).map
        Finding.span).Perm [⟨0, 12⟩] := by
  obtain ⟨⟨_, _, _, root, _, _, _⟩, hp, rfl⟩ := exists_of_root
    (x := parseBody {} "((?:a+)*b?)*" "" '/')
    (n := .quantifier ⟨0, 12⟩ ⟨0, none, .greedy⟩ (.group ⟨0, 11⟩
      { kind := .capturing, number := some 1 }
      (.sequence ⟨1, 10⟩ [.quantifier ⟨1, 8⟩ ⟨0, none, .greedy⟩
        (.group ⟨1, 7⟩ { kind := .nonCapturing }
          (.quantifier ⟨4, 6⟩ ⟨1, none, .greedy⟩ (.letter 4 'a'))),
        .quantifier ⟨8, 10⟩ ⟨0, some 1, .greedy⟩ (.letter 8 'b')]))) (by cbv)
  obtain ⟨hnested, hempty, -⟩ := analyze_nesting hp (by dsimp only; decide)
  exact ⟨_, hp, hnested.trans (.of_eq rfl), hempty.trans (.of_eq rfl)⟩

end Pattern

end PatternLint
