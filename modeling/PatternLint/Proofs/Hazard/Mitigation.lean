import PatternLint.Proofs.Hazard.Limit
import PatternLint.Proofs.Hazard.Overlap
import PatternLint.Proofs.Hazard.Rules
import PatternLint.Proofs.Transforms

/-!
# Transforms that mitigate

A repetition does no harm if it gives nothing back, or if nothing can make it give
back. The two transforms see to the one and to the other: `possessive` makes the
repetitions possessive, and `atomic` puts atomic groups around them. The search
looks for the same in its own way, as what shields a node. Here the two are brought
together, for all trees and all settings.

Behind either transform a repetition without bound that is not shielded gives
nothing back (`Held`). What is left to find without mitigation are branches and
references under a repetition that is no shield. A possessive one is a shield; one
that `atomic` leaves as it is has a bound.
-/

namespace PatternLint

open Hazard

/-! ### What shields -/

namespace Node

/-- Whether what is below a node is shielded by it. -/
def shields : Node → Bool
  | .group _ head _ => head.kind.isAtomic
  | .quantifier _ count _ => count.isPossessive
  | _ => false

/-- A node that, if it is a repetition without bound, gives nothing back. -/
def Held (n : Node) : Prop := ∀ loop count, n.loop? = some (loop, count) → count.isPossessive = true

end Node

namespace Hazard

theorem shielded_inside (env : Surroundings) (n : Node) :
    (inside env n).shielded = (env.shielded || n.shields) := by
  cases n with
  | group s head body => rfl
  | quantifier s count target =>
      rw [inside, Surroundings.inQuantifier]
      split <;> rfl
  | _ => simp [inside, Node.shields]

theorem reached_tail {n : Node} {above : List Node} (h : reached (n :: above) = true) :
    reached above = true ∧ n.isClass = false := by
  obtain ⟨hn, habove⟩ := List.forall_mem_cons.mp (reached_iff.mp h)
  exact ⟨reached_iff.mpr habove, hn.2⟩

/-- Without a repetition without bound above it, a node is not in a loop. -/
theorem loopDepth_around {above : List Node} (h : ∀ q ∈ above, q.isUnbounded = false) :
    (around above).loopDepth = 0 := by
  induction above with
  | nil => rfl
  | cons n above ih =>
      obtain ⟨hn, habove⟩ := List.forall_mem_cons.mp h
      rw [around]
      have hbase := ih habove
      cases n with
      | quantifier s count target =>
          rw [inside, Surroundings.inQuantifier]
          split
          · have hbounded : Turning.isUnbounded ⟨s, count.max⟩ = false := hn
            rw [Surroundings.loopDepth, List.filter_cons, hbounded]
            exact hbase
          · exact hbase
      | _ => exact hbase

/-- If all repetitions above a node are possessive, it is shielded by the innermost of them. -/
theorem shielded_around {above : List Node}
    (h : ∀ s count target, .quantifier s count target ∈ above → count.isPossessive = true)
    (hrepeats : (around above).repeats ≠ []) : (around above).shielded = true := by
  induction above with
  | nil => exact absurd rfl hrepeats
  | cons n above ih =>
      have hbase := ih fun s count target hmem => h s count target (by simp [hmem])
      rw [around, shielded_inside, Bool.or_eq_true]
      rw [around] at hrepeats
      cases n with
      | quantifier s count target => exact .inr (h s count target (by simp))
      | _ => exact .inl (hbase hrepeats)

theorem loopDepth_of_innermostLoop {env : Surroundings} {loop : Span}
    (h : env.innermostLoop? = some loop) : 0 < env.loopDepth := by
  obtain ⟨turning, hfind, -⟩ := Option.map_eq_some_iff.mp h
  rw [Surroundings.loopDepth, List.length_pos_iff_exists_mem]
  exact ⟨turning, List.mem_filter.mpr
    ⟨List.mem_of_find?_eq_some hfind, List.find?_some hfind⟩⟩

theorem branchSeverity?_outside {long direct : Bool} {severity : Severity}
    (h : branchSeverity? false long direct = some severity) :
    severity = .low ∨ severity = .medium := by
  cases long <;> cases direct <;> cases h <;> simp

variable {ctx : Context} {env : Surroundings} {n : Node} {f : Finding}

theorem Found.shielded_eq_false (h : Found ctx env n f) (hmitigated : f.mitigated = false) :
    env.shielded = false := by
  cases h with
  | nested hgrows hheight =>
      rw [Finding.of, Bool.or_eq_false_iff, Bool.or_eq_false_iff] at hmitigated
      exact hmitigated.1.2
  | empty hgrows hnullable => exact (Bool.or_eq_false_iff.mp hmitigated).2
  | adjacent hloop hconsumes hnext => exact (Bool.or_eq_false_iff.mp hmitigated).2
  | overlapping hrepeats hoverlap hseverity => exact hmitigated
  | backreference hloop hrepeated => exact hmitigated

/-- Where repetitions are held, what is found and not mitigated is below a repetition: in a loop, or
it is about branches and medium at most. -/
theorem Found.exposed (h : Found ctx env n f) (hmitigated : f.mitigated = false) (hself : n.Held)
    (hitems : ∀ s items, n = .sequence s items → ∀ c ∈ items, c.Held) :
    env.repeats ≠ [] ∧ (env.inLoop = true ∨
      f.kind = .overlappingAlternation ∧ (f.severity = .low ∨ f.severity = .medium) ∧
        ∃ branches, n = .alternation f.span branches) := by
  have hshielded := h.shielded_eq_false hmitigated
  cases h with
  | @nested s count target hgrows hheight =>
      have hunbounded : count.isUnbounded = true := (Bool.and_eq_true_iff.mp hgrows).1
      have hheld := hself s count (by rw [Node.loop?, if_pos hunbounded])
      simp [Finding.of, hheld] at hmitigated
  | @empty s count target hgrows hnullable =>
      have hunbounded : count.isUnbounded = true := (Bool.and_eq_true_iff.mp hgrows).1
      have hheld := hself s count (by rw [Node.loop?, if_pos hunbounded])
      simp [Finding.of, hheld] at hmitigated
  | @adjacent s before after item next loop count hloop hconsumes hnext =>
      have hheld := hitems s _ rfl item (by simp) loop count hloop
      simp [Finding.of, hheld] at hmitigated
  | @overlapping s branches turning outer severity hrepeats hoverlap hseverity =>
      refine ⟨by simp [hrepeats], ?_⟩
      cases hloop : env.inLoop with
      | true => exact .inl rfl
      | false =>
          refine .inr ⟨rfl, ?_, branches, rfl⟩
          rw [hloop] at hseverity
          rw [Finding.of, hshielded]
          exact branchSeverity?_outside hseverity
  | @backreference s ref caseless loop hloop hrepeated =>
      have hpos := loopDepth_of_innermostLoop hloop
      refine ⟨?_, .inl (decide_eq_true hpos)⟩
      intro hnone
      simp [Surroundings.loopDepth, hnone] at hpos

end Hazard

/-! ### Atomic groups -/

namespace Node

/-- What takes the place of a node is an atomic group or assertion. -/
theorem atomic_of_isolate {n r : Node} (h : Transform.isolate n = some r) :
    n.atomic = r ∧ r.shields = true ∧ r.loop? = none := by
  refine ⟨Transform.node_of_replace (t := .atomic) h, ?_⟩
  rcases Transform.isolate_cases h with
    ⟨s, head, body, rfl, hkind, rfl⟩ | ⟨s, count, target, -, -, rfl⟩
  · exact ⟨hkind, by simp [loop?, GroupKind.isPlain, hkind]⟩
  · exact ⟨rfl, rfl⟩

theorem held_atomic (n : Node) : n.atomic.Held := by
  intro loop count h
  induction n using children_induction with
  | h n ih =>
      cases hisolate : Transform.isolate n with
      | some r =>
          obtain ⟨heq, -, hloop⟩ := atomic_of_isolate hisolate
          rw [heq, hloop] at h
          cases h
      | none =>
          have hreplace : Transform.atomic.replace n = none := hisolate
          cases n with
          | group s head body =>
              rw [atomic, Transform.node, hreplace, Option.getD_none, loop?] at h
              split at h
              · exact ih body (by simp [children]) h
              · cases h
          | quantifier s c target =>
              rw [atomic, Transform.node, hreplace, Option.getD_none, loop?] at h
              split at h
              next hunbounded =>
                obtain ⟨-, rfl⟩ := Prod.mk.inj (Option.some.inj h)
                -- A repetition that could give back would have been replaced.
                rw [Transform.isolate] at hisolate
                split at hisolate
                · cases hisolate
                next hkeeps =>
                  have hc : c.isUnbounded = true := hunbounded
                  show c.isPossessive = true
                  simpa [Transform.givesBack, hc] using hkeeps
              next => cases h
          | _ => cases h

theorem mem_children_atomic {n c : Node} (hc : c ∈ n.atomic.children)
    (hopen : n.atomic.shields = false) (hclass : n.atomic.isClass = false) :
    ∃ k : Node, c = k.atomic := by
  cases hisolate : Transform.isolate n with
  | some r =>
      obtain ⟨heq, hshields, -⟩ := atomic_of_isolate hisolate
      rw [heq, hshields] at hopen
      cases hopen
  | none =>
      rcases Transform.mem_children_node hisolate hc with h | ⟨k, -, hk⟩
      · exact absurd (h.symm.trans hclass) (by decide)
      · exact ⟨k, hk⟩

theorem held_items_atomic {n : Node} {s : Span} {items : List Node}
    (h : n.atomic = .sequence s items) : ∀ c ∈ items, c.Held := by
  intro c hc
  obtain ⟨k, rfl⟩ := mem_children_atomic (n := n) (c := c) (by rw [h]; exact hc) (by rw [h]; rfl)
    (by rw [h]; rfl)
  exact k.held_atomic

theorem Held.shields {n : Node} (h : n.Held) (hunbounded : n.isUnbounded = true) :
    n.shields = true := by
  cases n with
  | quantifier s count target =>
      have hcount : count.isUnbounded = true := hunbounded
      exact h s count (by rw [loop?, if_pos hcount])
  | _ => cases hunbounded

/-- What the search comes to in the open, behind `atomic`, is transformed, and every repetition
above it has a bound. -/
theorem exposed_atomic {root n : Node} {above : List Node}
    (ho : (above, n) ∈ root.atomic.occurrences) (hreached : reached above = true)
    (hopen : (around above).shielded = false) :
    (∀ q ∈ above, q.isUnbounded = false) ∧ ∃ m : Node, n = m.atomic := by
  refine occurrences_induction (P := fun above n => reached above = true →
    (around above).shielded = false →
      (∀ q ∈ above, q.isUnbounded = false) ∧ ∃ m : Node, n = m.atomic) ?_ ?_ ho hreached hopen
  · intro _ _
    exact ⟨fun q hq => (nomatch hq), root, rfl⟩
  · intro above n c ih hc hreached hopen
    rw [around, shielded_inside, Bool.or_eq_false_iff] at hopen
    obtain ⟨hreached, hclass⟩ := reached_tail hreached
    obtain ⟨habove, m, rfl⟩ := ih hreached hopen.1
    refine ⟨List.forall_mem_cons.mpr ⟨?_, habove⟩, mem_children_atomic hc hopen.2 hclass⟩
    by_contra hunbounded
    have hshields := (held_atomic m).shields (by simpa using hunbounded)
    rw [hopen.2] at hshields
    cases hshields

end Node

/-! ### Possessive repetitions -/

namespace Node

/-- Whether a node is a repetition that takes as few turns as it can. -/
def isLazy : Node → Bool
  | .quantifier _ count _ => count.greed == .lazy
  | _ => false

theorem isPossessive_possess {count : Repeat} (h : count.greed ≠ .lazy) :
    (Transform.possess count).isPossessive = true := by
  cases hgreed : count.greed with
  | lazy => exact absurd hgreed h
  | _ => simp [Transform.possess, Repeat.isPossessive, hgreed]

theorem isPossessive_of_possessive {n target : Node} {s : Span} {count : Repeat}
    (hlazy : n.isLazy = false) (h : n.possessive = .quantifier s count target) :
    count.isPossessive = true := by
  cases n with
  | quantifier s' c target' =>
      have hcount : Transform.possess c = count := by
        injection h
      rw [← hcount]
      exact isPossessive_possess (by simpa [isLazy] using hlazy)
  | _ => cases h

theorem held_possessive {n : Node} (hlazy : ∀ m ∈ n.preorder, m.isLazy = false) :
    n.possessive.Held := by
  intro loop count h
  induction n using children_induction with
  | h n ih =>
      cases n with
      | group s head body =>
          have hbody : body ∈ (Node.group s head body).children := by simp [children]
          have hloop : (if head.kind.isPlain then body.possessive.loop? else none) =
            some (loop, count) := h
          split at hloop
          · exact ih body hbody (forall_preorder_child hlazy hbody) hloop
          · cases hloop
      | quantifier s c target =>
          have hself := isPossessive_of_possessive (hlazy _ (self_mem_preorder _)) rfl
          have hloop : (if (Transform.possess c).isUnbounded then some (s, Transform.possess c)
            else none) = some (loop, count) := h
          split at hloop
          · obtain ⟨-, rfl⟩ := Prod.mk.inj (Option.some.inj hloop)
            exact hself
          · cases hloop
      | _ => cases h

theorem mem_children_possessive {n c : Node} (hc : c ∈ n.possessive.children)
    (hclass : n.possessive.isClass = false) : ∃ k ∈ n.children, c = k.possessive := by
  rcases Transform.mem_children_node (t := .possessive) rfl hc with h | h
  · exact absurd (h.symm.trans hclass) (by decide)
  · exact h

theorem held_items_possessive {n : Node} {s : Span} {items : List Node}
    (hlazy : ∀ m ∈ n.preorder, m.isLazy = false) (h : n.possessive = .sequence s items) :
    ∀ c ∈ items, c.Held := by
  intro c hc
  obtain ⟨k, hk, rfl⟩ := mem_children_possessive (n := n) (c := c) (by rw [h]; exact hc)
    (by rw [h]; rfl)
  exact held_possessive (forall_preorder_child hlazy hk)

/-- What the search comes to, behind `possessive`, is transformed, and every repetition above it is
possessive. -/
theorem exposed_possessive {root n : Node} {above : List Node}
    (hlazy : ∀ m ∈ root.preorder, m.isLazy = false)
    (ho : (above, n) ∈ root.possessive.occurrences) (hreached : reached above = true) :
    (∀ s count target, .quantifier s count target ∈ above → count.isPossessive = true) ∧
      ∃ m : Node, n = m.possessive ∧ ∀ k ∈ m.preorder, k.isLazy = false := by
  refine occurrences_induction (P := fun above n => reached above = true →
    (∀ s count target, .quantifier s count target ∈ above → count.isPossessive = true) ∧
      ∃ m : Node, n = m.possessive ∧ ∀ k ∈ m.preorder, k.isLazy = false) ?_ ?_ ho hreached
  · intro _
    exact ⟨fun _ _ _ hq => (nomatch hq), root, rfl, hlazy⟩
  · intro above n c ih hc hreached
    obtain ⟨hreached, hclass⟩ := reached_tail hreached
    obtain ⟨habove, m, rfl, hm⟩ := ih hreached
    constructor
    · intro s count target hmem
      rcases List.mem_cons.mp hmem with heq | hmem
      · exact isPossessive_of_possessive (hm m m.self_mem_preorder) heq.symm
      · exact habove s count target hmem
    · obtain ⟨k, hk, rfl⟩ := mem_children_possessive hc hclass
      exact ⟨k, rfl, forall_preorder_child hm hk⟩

end Node

/-! ### Reports -/

namespace Hazard

/-- Findings that are low or medium where they are not mitigated do not grow exponentially. -/
theorem growth_of_mild {fs : List Finding}
    (h : ∀ f ∈ fs, f.mitigated = false → f.severity = .low ∨ f.severity = .medium) :
    growth fs = .linear ∨ growth fs = .polynomial := by
  have hnone : ((fs.filter fun f => !f.mitigated).any fun f =>
      f.severity.atLeast .high && multiplies f.kind) = false := by
    rw [List.any_eq_false]
    intro f hf
    obtain ⟨hmem, hopen⟩ := List.mem_filter.mp hf
    rcases h f hmem (by simpa using hopen) with hs | hs <;> rw [hs] <;> simp [Severity.atLeast,
      Severity.exceeds, Severity.rank?]
  rw [growth, hnone]
  simp only [Bool.false_eq_true, if_false]
  split
  · exact .inr rfl
  · exact .inl rfl

end Hazard

namespace Pattern

variable {s : AnalysisSettings} {p : Pattern} {f : Finding}

/-- Whatever is mitigated in a report is medium at most. -/
theorem severity_of_mitigated (hf : f ∈ (p.analyze s).findings) (hmitigated : f.mitigated = true) :
    f.severity.exceeds .medium = false := by
  obtain ⟨above, n, -, -, hown⟩ := exists_of_mem_findings hf
  exact (mem_ownFindings_iff.mp hown).severity_of_mitigated hmitigated

theorem exposed_finding_atomic (hf : f ∈ ((p.transform .atomic).analyze s).findings)
    (hmitigated : f.mitigated = false) :
    f.kind = .overlappingAlternation ∧ (f.severity = .low ∨ f.severity = .medium) ∧
      ∃ above branches,
        (above, .alternation f.span branches) ∈ (p.transform .atomic).root.occurrences ∧
        f ∈ ownFindings (p.transform .atomic).searchContext above (.alternation f.span branches) ∧
        ∀ q ∈ above, q.isUnbounded = false := by
  obtain ⟨above, n, ho, hreached, hown⟩ := exists_of_mem_findings hf
  have hfound := mem_ownFindings_iff.mp hown
  obtain ⟨habove, m, rfl⟩ :=
    Node.exposed_atomic ho hreached (hfound.shielded_eq_false hmitigated)
  obtain ⟨-, hloop | ⟨hkind, hseverity, branches, heq⟩⟩ :=
    hfound.exposed hmitigated m.held_atomic fun _ _ => Node.held_items_atomic
  · rw [Surroundings.inLoop, loopDepth_around habove] at hloop
    cases hloop
  · rw [heq] at ho hown
    exact ⟨hkind, hseverity, above, branches, ho, hown, habove⟩

theorem mitigated_possessive (hlazy : ∀ n ∈ p.root.preorder, n.isLazy = false)
    (hf : f ∈ ((p.transform .possessive).analyze s).findings) : f.mitigated = true := by
  by_contra hmitigated
  have hopen : f.mitigated = false := by simpa using hmitigated
  obtain ⟨above, n, ho, hreached, hown⟩ := exists_of_mem_findings hf
  have hfound := mem_ownFindings_iff.mp hown
  obtain ⟨habove, m, rfl, hm⟩ := Node.exposed_possessive hlazy ho hreached
  obtain ⟨hrepeats, -⟩ := hfound.exposed hopen (Node.held_possessive hm)
    fun _ _ => Node.held_items_possessive hm
  -- The repetition that the finding is below is possessive, and so a shield.
  have hshielded := shielded_around habove hrepeats
  rw [hfound.shielded_eq_false hopen] at hshielded
  cases hshielded

/-- Behind `atomic` an analysis finds nothing that grows exponentially: it is medium at most, and
what is not mitigated are branches that overlap with no repetition without bound around them. -/
theorem analyze_atomic (s : AnalysisSettings) (p : Pattern) :
    (((p.transform .atomic).analyze s).growth = .linear ∨
      ((p.transform .atomic).analyze s).growth = .polynomial) ∧
    ((p.transform .atomic).analyze s).severity ∈ [Severity.safe, .low, .medium, .unknown] ∧
    ∀ f ∈ ((p.transform .atomic).analyze s).findings, f.mitigated = false →
      f.kind = .overlappingAlternation ∧ (f.severity = .low ∨ f.severity = .medium) ∧
      ∃ above branches,
        (above, .alternation f.span branches) ∈ (p.transform .atomic).root.occurrences ∧
        f ∈ ownFindings (p.transform .atomic).searchContext above (.alternation f.span branches) ∧
        ∀ q ∈ above, q.isUnbounded = false := by
  refine ⟨growth_of_mild fun f hf hm => (exposed_finding_atomic hf hm).2.1,
    overall_of_mild _ fun f hf => ?_, fun f hf hm => exposed_finding_atomic hf hm⟩
  cases hmitigated : f.mitigated with
  | true => exact severity_of_mitigated hf hmitigated
  | false => rcases (exposed_finding_atomic hf hmitigated).2.1 with h | h <;> rw [h] <;> rfl

theorem analyze_atomic_branches :
    ∃ p, parseBody {} "(a+)+(?:a|ab){12}" "" '/' = .ok p ∧
      ∃ f ∈ ((p.transform .atomic).analyze {}).findings, f.mitigated = false ∧
        f.span = ⟨8, 12⟩ ∧ f.kind = .overlappingAlternation ∧
        (f.severity = .low ∨ f.severity = .medium) := by
  obtain ⟨⟨_, _, _, root, _, _, _⟩, hp, rfl⟩ := exists_of_root
    (x := parseBody {} "(a+)+(?:a|ab){12}" "" '/')
    (n := .sequence ⟨0, 17⟩ [.quantifier ⟨0, 5⟩ ⟨1, none, .greedy⟩
        (.group ⟨0, 4⟩ { kind := .capturing, number := some 1 }
          (.quantifier ⟨1, 3⟩ ⟨1, none, .greedy⟩ (.letter 1 'a'))),
      .quantifier ⟨5, 17⟩ ⟨12, some 12, .greedy⟩ (.group ⟨5, 13⟩ { kind := .nonCapturing }
        (.alternation ⟨8, 12⟩ [.letter 8 'a',
          .sequence ⟨10, 12⟩ [.letter 10 'a', .letter 11 'b']]))]) (by cbv)
  refine ⟨_, hp, ?_⟩
  generalize hq : (Pattern.mk _ _ _ _ _ _ _) = q
  have hf : Finding.of .overlappingAlternation ⟨8, 12⟩ .medium false 0 ⟨5, 17⟩ ∈
      ((q.transform .atomic).analyze {}).findings := by
    subst hq
    refine mem_findings (by simp only [transform]; decide) rfl (List.mem_of_getElem? (i := 9) rfl)
      (by decide) ?_
    exact mem_ownFindings_iff.mpr
      (@Found.overlapping _ _ _ _ ⟨⟨5, 17⟩, some 12⟩ [] .medium rfl (by cbv) rfl)
  obtain ⟨hkind, hseverity, -⟩ := (analyze_atomic {} q).2.2 _ hf rfl
  exact ⟨_, hf, rfl, rfl, hkind, hseverity⟩

/-- Without lazy repetitions `possessive` mitigates all that an analysis can find, so that nothing is
left to recommend. -/
theorem analyze_possessive (s : AnalysisSettings) (p : Pattern)
    (hlazy : ∀ n ∈ p.root.preorder, n.isLazy = false) :
    (∀ f ∈ ((p.transform .possessive).analyze s).findings, f.mitigated = true) ∧
    ((p.transform .possessive).analyze s).growth = .linear ∧
    ((p.transform .possessive).analyze s).recommendations = [] ∧
    ((p.transform .possessive).analyze s).severity ∈ [Severity.safe, .low, .medium, .unknown] := by
  have hnone : (((p.transform .possessive).analyze s).findings.filter fun f => !f.mitigated) = [] :=
    List.filter_eq_nil_iff.mpr fun f hf => by simp [mitigated_possessive hlazy hf]
  refine ⟨fun f hf => mitigated_possessive hlazy hf, ?_, ?_, overall_of_mild _ fun f hf => ?_⟩
  · show growth ((p.transform .possessive).analyze s).findings = .linear
    rw [growth, hnone]
    rfl
  · show advice (p.transform .possessive) ((p.transform .possessive).analyze s).findings _ = []
    simp only [advice, hnone, List.mergeSort_nil, List.foldl_nil, List.take_nil]
  · exact severity_of_mitigated hf (mitigated_possessive hlazy hf)

theorem analyze_possessive_loops :
    ∃ p, parseBody {} "(a+)+(?:a|ab)*" "" '/' = .ok p ∧
      (∀ n ∈ p.root.preorder, n.isLazy = false) ∧
      (∃ f ∈ ((p.transform .possessive).analyze {}).findings, f.span = ⟨8, 12⟩) ∧
      (∀ f ∈ ((p.transform .possessive).analyze {}).findings, f.mitigated = true) ∧
      ((p.transform .possessive).analyze {}).growth = .linear ∧
      ((p.transform .possessive).analyze {}).recommendations = [] := by
  obtain ⟨⟨_, _, _, root, _, _, _⟩, hp, rfl⟩ := exists_of_root
    (x := parseBody {} "(a+)+(?:a|ab)*" "" '/')
    (n := .sequence ⟨0, 14⟩ [.quantifier ⟨0, 5⟩ ⟨1, none, .greedy⟩
        (.group ⟨0, 4⟩ { kind := .capturing, number := some 1 }
          (.quantifier ⟨1, 3⟩ ⟨1, none, .greedy⟩ (.letter 1 'a'))),
      .quantifier ⟨5, 14⟩ ⟨0, none, .greedy⟩ (.group ⟨5, 13⟩ { kind := .nonCapturing }
        (.alternation ⟨8, 12⟩ [.letter 8 'a',
          .sequence ⟨10, 12⟩ [.letter 10 'a', .letter 11 'b']]))]) (by cbv)
  refine ⟨_, hp, ?_⟩
  generalize hq : (Pattern.mk _ _ _ _ _ _ _) = q
  have hlazy : ∀ n ∈ q.root.preorder, n.isLazy = false := by
    subst hq
    dsimp only
    decide
  have hf : Finding.of .overlappingAlternation ⟨8, 12⟩ .high true 1 ⟨5, 14⟩ ∈
      ((q.transform .possessive).analyze {}).findings := by
    subst hq
    refine mem_findings (by simp only [transform]; decide) rfl (List.mem_of_getElem? (i := 8) rfl)
      (by decide) ?_
    exact mem_ownFindings_iff.mpr
      (@Found.overlapping _ _ _ _ ⟨⟨5, 14⟩, none⟩ [] .high rfl (by cbv) rfl)
  obtain ⟨hall, hgrowth, hadvice, -⟩ := analyze_possessive {} q hlazy
  exact ⟨hlazy, ⟨_, hf, rfl⟩, hall, hgrowth, hadvice⟩

end Pattern

end PatternLint
