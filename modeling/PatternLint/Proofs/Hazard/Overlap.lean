import PatternLint.Proofs.Hazard.Language
import PatternLint.Proofs.Hazard.Proper
import PatternLint.Proofs.Positions

/-!
# No overlap is missed

Two places in which a text can be matched in more than one way: branches of an
alternation that begin alike, under a repetition, and repetitions after one another
of which the first can end as the second begins. The search compares profiles, and
profiles cover what is matched. So wherever there are two matches that overlap, the
search reports it.
-/

namespace PatternLint

open Hazard

namespace Node

/-- Whether a node is a repetition without bound. -/
def isUnbounded : Node → Bool
  | .quantifier _ count _ => count.isUnbounded
  | _ => false

/-- A repetition without bound, or a group around one that is neither atomic nor an assertion. -/
inductive IsLoop : Node → Prop where
  | quantifier {s : Span} {count : Repeat} {target : Node} (h : count.isUnbounded = true) :
      IsLoop (.quantifier s count target)
  | group {s : Span} {head : GroupHead} {body : Node} (hatomic : head.kind.isAtomic = false)
      (hlook : head.kind.isLookaround = false) (hbody : IsLoop body) : IsLoop (.group s head body)

theorem IsLoop.loop? {n : Node} (h : n.IsLoop) : n.loop?.isSome = true := by
  induction h with
  | quantifier h => simp [Node.loop?, h]
  | group hatomic hlook _ ih => simpa [Node.loop?, GroupKind.isPlain, hatomic, hlook] using ih

end Node

/-! ### Under a repetition -/

namespace Hazard

theorem loopDepth_inside (env : Surroundings) (n : Node) :
    env.loopDepth ≤ (inside env n).loopDepth := by
  cases n with
  | group s head body => exact Nat.le_refl _
  | quantifier s count target =>
      rw [inside, Surroundings.inQuantifier]
      split
      · simp only [Surroundings.loopDepth, List.filter_cons]
        split <;> simp
      · exact Nat.le_refl _
  | _ => exact Nat.le_refl _

theorem loopDepth_inside_unbounded (env : Surroundings) {n : Node} (h : n.isUnbounded = true) :
    0 < (inside env n).loopDepth := by
  cases n with
  | quantifier s count target =>
      have hmax : count.max = none := by simpa [Node.isUnbounded, Repeat.isUnbounded] using h
      simp [inside, Surroundings.inQuantifier, Repeat.allows, hmax, Surroundings.loopDepth,
        Turning.isUnbounded]
  | _ => cases h

/-- Below a repetition without bound the search knows that it is. -/
theorem inLoop_around {above : List Node} (h : ∃ q ∈ above, q.isUnbounded = true) :
    (around above).inLoop = true := by
  obtain ⟨q, hq, hunbounded⟩ := h
  refine decide_eq_true ?_
  induction above with
  | nil => cases hq
  | cons n above ih =>
      rcases List.mem_cons.mp hq with rfl | hq
      · exact loopDepth_inside_unbounded _ hunbounded
      · exact Nat.lt_of_lt_of_le (ih hq) (loopDepth_inside _ n)

/-! ### Branches -/

theorem anyOverlap_of_mem {ps : List Profile} {i j : Nat} {p q : Profile} (hij : i < j)
    (hi : ps[i]? = some p) (hj : ps[j]? = some q) (h : p.overlaps q = true) :
    Profile.anyOverlap ps = true := by
  induction ps generalizing i j with
  | nil => simp at hi
  | cons r rest ih =>
      rw [Profile.anyOverlap, Bool.or_eq_true]
      obtain ⟨j, rfl⟩ : ∃ k, j = k + 1 := ⟨j - 1, by omega⟩
      rw [List.getElem?_cons_succ] at hj
      cases i with
      | zero =>
          obtain rfl : r = p := by simpa using hi
          exact .inl (List.any_eq_true.mpr ⟨q, List.mem_of_getElem? hj, h⟩)
      | succ i =>
          rw [List.getElem?_cons_succ] at hi
          exact .inr (ih (by omega) hi hj)

theorem overlapping_inLoop {env : Surroundings} {s : Span} {ps : List Profile}
    (hloop : env.inLoop = true) (hps : Profile.anyOverlap ps = true) :
    ∃ f ∈ (overlapping env s ps).toList, f.kind = .overlappingAlternation ∧ f.span = s := by
  rw [overlapping]
  split
  next hnone => simp [Surroundings.inLoop, Surroundings.loopDepth, hnone] at hloop
  next turning _ _ =>
    obtain ⟨severity, hseverity⟩ :
        ∃ severity, branchSeverity? env.inLoop turning.isLong
          (env.repeatedAlternation == some s) = some severity := by
      rw [hloop]
      cases env.repeatedAlternation == some s with
      | true => exact ⟨.high, rfl⟩
      | false => exact ⟨.medium, rfl⟩
    rw [if_pos hps, hseverity]
    exact ⟨_, List.mem_singleton.mpr rfl, rfl, rfl⟩

theorem Covers.overlaps {p q : Profile} {l m : Language Char} {c : Char} {v w : List Char}
    (hp : p.Covers l) (hq : q.Covers m) (hv : c :: v ∈ l) (hw : c :: w ∈ m) :
    p.overlaps q = true := by
  obtain ⟨hpc, hpf⟩ := hp.begins hv
  obtain ⟨hqc, hqf⟩ := hq.begins hw
  simp [Profile.overlaps, hpc, hqc, CharSet.laws.intersects_of_contains hpf hqf]

/-! ### Neighbours -/

/-- The search for the next repetition does not go beyond one that takes over, if it gets there. -/
theorem nextLoop?_of_nullable {last : CharSet} {mid : List (Node × Profile)} {b : Node}
    {q : Profile} (hmid : ∀ x ∈ mid, x.2.nullable = true) (hb : b.IsLoop)
    (hq : last.intersects q.first = true) (after : List (Node × Profile)) :
    ∃ next ∈ mid.map Prod.fst ++ [b], nextLoop? last (mid ++ (b, q) :: after) = some next := by
  induction mid with
  | nil =>
      refine ⟨b, by simp, ?_⟩
      simp [nextLoop?, hb.loop?, hq]
  | cons x mid ih =>
      rw [List.cons_append, nextLoop?]
      split
      next => exact ⟨x.1, by simp, rfl⟩
      next =>
        obtain ⟨next, hnext, hfound⟩ := ih fun y hy => hmid y (by simp [hy])
        rw [if_pos (hmid x (by simp))]
        exact ⟨next, by simpa using .inr (by simpa using hnext), hfound⟩

/-- A list around two of its elements, and where those between them stand. -/
theorem exists_split {α : Type} {l : List α} {i j : Nat} {a b : α} (hij : i < j)
    (ha : l[i]? = some a) (hb : l[j]? = some b) :
    ∃ before mid after, l = before ++ a :: (mid ++ b :: after) ∧
      ∀ m ∈ mid, ∃ k, i < k ∧ k < j ∧ l[k]? = some m := by
  induction l generalizing i j with
  | nil => cases ha
  | cons x l ih =>
      obtain ⟨j, rfl⟩ : ∃ k, j = k + 1 := ⟨j - 1, by omega⟩
      rw [List.getElem?_cons_succ] at hb
      cases i with
      | zero =>
          obtain rfl : x = a := by simpa using ha
          obtain ⟨hj, rfl⟩ := List.getElem?_eq_some_iff.mp hb
          refine ⟨[], l.take j, l.drop (j + 1), ?_, ?_⟩
          · rw [← List.drop_eq_getElem_cons hj, List.take_append_drop, List.nil_append]
          · intro m hm
            obtain ⟨k, hk, rfl⟩ := List.mem_take_iff_getElem.mp hm
            exact ⟨k + 1, by omega, by omega, by simp⟩
      | succ i =>
          rw [List.getElem?_cons_succ] at ha
          obtain ⟨before, mid, after, rfl, hmid⟩ := ih (by omega) ha hb
          refine ⟨x :: before, mid, after, rfl, fun m hm => ?_⟩
          obtain ⟨k, hik, hkj, hk⟩ := hmid m hm
          exact ⟨k + 1, by omega, by omega, by rwa [List.getElem?_cons_succ]⟩

/-- What is found further on in a sequence is found in all of it. -/
theorem mem_adjacent_append {env : Surroundings} {f : Finding} (before : List (Node × Profile))
    {rest : List (Node × Profile)} (h : f ∈ adjacent env rest) :
    f ∈ adjacent env (before ++ rest) := by
  induction before with
  | nil => exact h
  | cons x before ih =>
      rw [List.cons_append, adjacent]
      exact List.mem_append_right _ ih

theorem adjacent_of_loops (env : Surroundings) (g : Node → Profile) (before : List Node)
    {mid : List Node} {a b : Node} (after : List Node) (ha : a.IsLoop)
    (hconsumes : (g a).consumes = true) (hmid : ∀ m ∈ mid, (g m).nullable = true) (hb : b.IsLoop)
    (hshared : (g a).last.intersects (g b).first = true) :
    ∃ f ∈ adjacent env ((before ++ a :: (mid ++ b :: after)).map fun n => (n, g n)),
      f.kind = .adjacentQuantifiers ∧ ∃ next ∈ mid ++ [b], f.span = ⟨a.start, next.stop⟩ := by
  have hnullable : ∀ x ∈ mid.map fun n => (n, g n), x.2.nullable = true := by
    intro x hx
    obtain ⟨m, hm, rfl⟩ := List.mem_map.mp hx
    exact hmid m hm
  obtain ⟨next, hnext, hfound⟩ :=
    nextLoop?_of_nullable hnullable hb hshared (after.map fun n => (n, g n))
  obtain ⟨⟨span, count⟩, hloop⟩ := Option.isSome_iff_exists.mp ha.loop?
  refine ⟨Finding.of .adjacentQuantifiers ⟨a.start, next.stop⟩
    (if env.inLoop then .high else .medium) (count.isPossessive || env.shielded)
    (env.loopDepth + 1) span, ?_, rfl, next, by simpa using hnext, rfl⟩
  rw [List.map_append, List.map_cons, List.map_append, List.map_cons]
  refine mem_adjacent_append _ ?_
  rw [adjacent]
  simp [hloop, hconsumes, hfound]

end Hazard

namespace Pattern

variable {body modifiers : String} {delimiter : Char} {p : Pattern} {above : List Node}

/-- If two branches of an alternation under an unbounded repetition have matches that begin with the
same character, the analysis reports the alternation. -/
theorem analyze_overlapping (h : parseBody {} body modifiers delimiter = .ok p)
    (hfree : p.root.CallFree) {span : Span} {branches : List Node}
    (ho : (above, .alternation span branches) ∈ p.root.occurrences)
    (hloop : ∃ q ∈ above, q.isUnbounded = true) (hnever : ∀ q ∈ above, q.isNever = false)
    {i j : Nat} {a b : Node} (hij : i ≠ j) (ha : branches[i]? = some a) (hb : branches[j]? = some b)
    {c : Char} {v w : List Char} (hv : c :: v ∈ a.language) (hw : c :: w ∈ b.language) :
    ∃ f ∈ (p.analyze {}).findings, f.kind = .overlappingAlternation ∧ f.span = span := by
  have halternation := hfree.below (Node.mem_preorder_of_occurrence ho)
  have hcovers : ∀ m ∈ branches, (profile p.searchContext m).Covers m.language :=
    fun m hm => profile_covers _ m (halternation.child hm)
  have hpa := hcovers a (List.mem_of_getElem? ha)
  have hpb := hcovers b (List.mem_of_getElem? hb)
  have ha' : (branches.map (profile p.searchContext))[i]? = some (profile p.searchContext a) := by
    rw [List.getElem?_map, ha, Option.map_some]
  have hb' : (branches.map (profile p.searchContext))[j]? = some (profile p.searchContext b) := by
    rw [List.getElem?_map, hb, Option.map_some]
  have hoverlap : Profile.anyOverlap (branches.map (profile p.searchContext)) = true := by
    rcases Nat.lt_or_gt_of_ne hij with hlt | hlt
    · exact anyOverlap_of_mem hlt ha' hb' (Covers.overlaps hpa hpb hv hw)
    · exact anyOverlap_of_mem hlt hb' ha' (Covers.overlaps hpb hpa hw hv)
  obtain ⟨f, hf, hkind, hspan⟩ := overlapping_inLoop (s := span) (inLoop_around hloop) hoverlap
  have hreached := reached_of_proper (parseBody_proper h).2 ho rfl (by simp) hnever
  refine ⟨f, mem_findings (parseBody_depth h) rfl ho hreached ?_, hkind, hspan⟩
  rwa [ownFindings, ownNotes, filterMap_finding]

theorem analyze_overlapping_letters :
    ∃ p, parseBody {} "(a|ab)*" "" '/' = .ok p ∧
      ∃ f ∈ (p.analyze {}).findings, f.kind = .overlappingAlternation ∧ f.span = ⟨1, 5⟩ := by
  obtain ⟨⟨_, _, _, root, _, _, _⟩, hp, rfl⟩ := exists_of_root (x := parseBody {} "(a|ab)*" "" '/')
    (n := .quantifier ⟨0, 7⟩ ⟨0, none, .greedy⟩ (.group ⟨0, 6⟩
      { kind := .capturing, number := some 1 }
      (.alternation ⟨1, 5⟩ [.letter 1 'a', .sequence ⟨3, 5⟩ [.letter 3 'a', .letter 4 'b']])))
    (by cbv)
  have hword : 'a' :: ['b'] ∈ (Node.sequence ⟨3, 5⟩ [.letter 3 'a', .letter 4 'b']).language := by
    rw [Node.language, Node.languages_eq_map, List.map_cons, List.map_cons, List.prod_cons]
    refine Language.mem_mul.mpr ⟨['a'], Node.mem_language_letter 3 'a', ['b'], ?_, rfl⟩
    simpa using Node.mem_language_letter 4 'b'
  exact ⟨_, hp, analyze_overlapping hp (by dsimp only; decide) (List.mem_of_getElem? (i := 4) rfl)
    ⟨_, List.mem_cons_of_mem _ List.mem_cons_self, rfl⟩ (by simp [Node.isNever]) (i := 0) (j := 1)
    (by decide) rfl rfl (Node.mem_language_letter 1 'a') hword⟩

/-- If a repetition can end with a character that a later one in the same sequence can begin with,
and all between them can match nothing, the analysis reports the first of them, up to no further
than the second. -/
theorem analyze_adjacent (h : parseBody {} body modifiers delimiter = .ok p)
    (hfree : p.root.CallFree) {span : Span} {items : List Node}
    (ho : (above, .sequence span items) ∈ p.root.occurrences)
    (hnever : ∀ q ∈ above, q.isNever = false) {i j : Nat} {a b : Node} (hij : i < j)
    (ha : items[i]? = some a) (hb : items[j]? = some b) (hla : a.IsLoop) (hlb : b.IsLoop)
    (hmid : ∀ k m, i < k → k < j → items[k]? = some m → [] ∈ m.language)
    {c : Char} {v w : List Char} (hv : v ++ [c] ∈ a.language) (hw : c :: w ∈ b.language) :
    ∃ f ∈ (p.analyze {}).findings, f.kind = .adjacentQuantifiers ∧ f.span.start = a.start ∧
      f.span.stop ≤ b.stop := by
  have hsequence := Node.mem_preorder_of_occurrence ho
  have hcovers : ∀ m ∈ items, (profile p.searchContext m).Covers m.language :=
    fun m hm => profile_covers _ m ((hfree.below hsequence).child hm)
  obtain ⟨before, mid, after, rfl, hbetween⟩ := exists_split hij ha hb
  have hpa := (hcovers a (by simp)).ends hv
  have hpb := (hcovers b (by simp)).begins hw
  have hnullable : ∀ m ∈ mid, (profile p.searchContext m).nullable = true := by
    intro m hm
    obtain ⟨k, hik, hkj, hk⟩ := hbetween m hm
    exact (hcovers m (by simp [hm])).empty (hmid k m hik hkj hk)
  obtain ⟨f, hf, hkind, next, hnext, hspan⟩ := adjacent_of_loops (around above)
    (profile p.searchContext) before after hla hpa.1 hnullable hlb
    (CharSet.laws.intersects_of_contains hpa.2 hpb.2)
  have hreached := reached_of_proper (parseBody_proper h).2 ho rfl (by simp) hnever
  refine ⟨f, mem_findings (parseBody_depth h) rfl ho hreached ?_, hkind, by rw [hspan], ?_⟩
  · rwa [ownFindings, ownNotes, filterMap_finding, ← List.map_prod_left_eq_zip]
  · -- The repetition that is found is the later one or stands before it.
    obtain ⟨flags, -, hp⟩ := parseBody_ok h
    have hplaced := parseWith_placed hp
    have hordered := (hplaced _ hsequence).ordered
    have hle := (hplaced b (Node.mem_preorder_trans hsequence
      (Node.mem_preorder.mpr (.inr ⟨b, by simp [Node.children], b.self_mem_preorder⟩)))).le
    rw [hspan]
    rcases List.mem_append.mp hnext with hnext | hnext
    · have hlater := (List.pairwise_cons.mp (List.pairwise_append.mp hordered).2.1).2
      have hbefore := (List.pairwise_append.mp hlater).2.2 next hnext b (by simp)
      exact Nat.le_trans hbefore hle
    · obtain rfl := List.mem_singleton.mp hnext
      exact Nat.le_refl _

theorem analyze_adjacent_letters :
    ∃ p, parseBody {} "a+b?(a+)" "" '/' = .ok p ∧
      ∃ f ∈ (p.analyze {}).findings, f.kind = .adjacentQuantifiers ∧ f.span.start = 0 ∧
        f.span.stop ≤ 8 := by
  obtain ⟨⟨_, _, _, root, _, _, _⟩, hp, rfl⟩ := exists_of_root
    (x := parseBody {} "a+b?(a+)" "" '/')
    (n := .sequence ⟨0, 8⟩ [.quantifier ⟨0, 2⟩ ⟨1, none, .greedy⟩ (.letter 0 'a'),
      .quantifier ⟨2, 4⟩ ⟨0, some 1, .greedy⟩ (.letter 2 'b'),
      .group ⟨4, 8⟩ { kind := .capturing, number := some 1 }
        (.quantifier ⟨5, 7⟩ ⟨1, none, .greedy⟩ (.letter 5 'a'))]) (by cbv)
  have honce : ∀ s start,
      ['a'] ∈ (Node.quantifier s ⟨1, none, .greedy⟩ (.letter start 'a')).language :=
    fun s start => ⟨1, Nat.le_refl 1, rfl, by simpa using Node.mem_language_letter start 'a'⟩
  have hlast : 'a' :: [] ∈ (Node.group ⟨4, 8⟩ { kind := .capturing, number := some 1 }
      (.quantifier ⟨5, 7⟩ ⟨1, none, .greedy⟩ (.letter 5 'a'))).language := honce ⟨5, 7⟩ 5
  refine ⟨_, hp, analyze_adjacent hp (by dsimp only; decide) (Node.self_mem_occurrences _) (by simp)
    (i := 0) (j := 2) (by decide) rfl rfl (.quantifier rfl) (.group rfl rfl (.quantifier rfl)) ?_
    (v := []) (honce ⟨0, 2⟩ 0) hlast⟩
  intro k m hi hj hk
  obtain rfl : k = 1 := by omega
  cases hk
  exact ⟨0, by simp, rfl, by simp⟩

end Pattern

end PatternLint
