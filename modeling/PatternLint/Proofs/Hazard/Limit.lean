import PatternLint.Proofs.Hazard.Search

/-!
# A search that stops early

The limit of a traversal only decides where it stops. A guard with a higher limit
lets through all that the lower one did, and a traversal that came to an end comes
to the same end. One that stopped has written nothing else by then: its notes are
the first of those it would have written. `Steady` says both, with one lemma for
each way to put traversals together.

So whatever the limit is, each finding of an analysis is one at some node that the
search comes to.
-/

namespace PatternLint

/-- A guard that lets through `extra` more levels. -/
def Guard.raise (g : Guard) (extra : Nat) : Guard := { g with limit := g.limit + extra }

namespace Walk

variable {ω α β : Type} {w : Walk ω α} {f : α → Walk ω β}

/-- A traversal that a higher limit does not change as far as it went. -/
structure Steady (w : Walk ω α) : Prop where
  ends : ∀ (g : Guard) (extra : Nat) (a : α), (w g).value = .ok a →
    w (g.raise extra) = ⟨.ok a, (w g).notes, (w g).guard.raise extra⟩
  notes : ∀ (g : Guard) (extra : Nat), (w g).notes <+: (w (g.raise extra)).notes

theorem steady_pure (a : α) : (pure a : Walk ω α).Steady :=
  ⟨fun _ _ _ h => by rw [← h]; rfl, fun _ _ => List.prefix_refl _⟩

theorem steady_noteAll (ns : List ω) : (noteAll ns).Steady :=
  ⟨fun _ _ _ h => by rw [← h]; rfl, fun _ _ => List.prefix_refl _⟩

theorem notes_prefix_bind (w : Walk ω α) (f : α → Walk ω β) (g : Guard) :
    (w g).notes <+: ((w >>= f) g).notes := by
  simp only [Bind.bind, andThen]
  cases (w g).value with
  | error e => exact List.prefix_refl _
  | ok a => exact List.prefix_append _ _

theorem Steady.bind (hw : w.Steady) (hf : ∀ a, (f a).Steady) : (w >>= f).Steady := by
  constructor
  · intro g extra b hb
    simp only [Bind.bind, andThen] at hb ⊢
    cases hvalue : (w g).value with
    | error e =>
        rw [hvalue] at hb
        cases hb
    | ok a =>
        simp only [hvalue] at hb
        rw [hw.ends g extra a hvalue]
        simp only [(hf a).ends _ extra b hb]
  · intro g extra
    cases hvalue : (w g).value with
    | error e =>
        have hstop : ((w >>= f) g).notes = (w g).notes := by
          simp only [Bind.bind, andThen, hvalue]
        rw [hstop]
        exact (hw.notes g extra).trans (notes_prefix_bind w f _)
    | ok a =>
        simp only [Bind.bind, andThen, hvalue, hw.ends g extra a hvalue]
        exact List.prefix_append_right_inj _ |>.mpr ((hf a).notes _ extra)

theorem Steady.visit (hw : w.Steady) (offset : Nat) : (Walk.visit offset w).Steady := by
  have henter : ∀ (g : Guard) (extra : Nat), ¬ g.limit ≤ g.depth →
      (g.raise extra).enter offset = (.ok (), Guard.raise { g with depth := g.depth + 1 } extra) := by
    intro g extra h
    have hroom : ¬ (g.raise extra).limit ≤ (g.raise extra).depth := by
      simp only [Guard.raise]
      omega
    rw [Guard.enter, if_neg hroom]
    rfl
  constructor
  · intro g extra a ha
    simp only [Walk.visit] at ha ⊢
    by_cases hfull : g.limit ≤ g.depth
    · rw [Guard.enter, if_pos hfull] at ha
      cases ha
    · rw [henter g extra hfull]
      rw [Guard.enter, if_neg hfull] at ha ⊢
      simp only [hw.ends _ extra a ha]
      rfl
  · intro g extra
    simp only [Walk.visit]
    by_cases hfull : g.limit ≤ g.depth
    · rw [Guard.enter, if_pos hfull]
      exact List.nil_prefix
    · rw [henter g extra hfull, Guard.enter, if_neg hfull]
      exact hw.notes _ extra

end Walk

namespace Hazard

open Walk

variable {ctx : Context} {env : Surroundings}

theorem scanAtom_steady (ctx : Context) (env : Surroundings) (s : Span) (a : Atom) :
    (scanAtom ctx s env a).Steady := by
  cases a with
  | backref ref caseless => exact (steady_noteAll _).bind fun _ => steady_pure _
  | subroutine target =>
      rw [scanAtom]
      split
      · exact (steady_noteAll [Note.unclear]).bind fun _ => steady_pure _
      · exact (steady_pure ()).bind fun _ => steady_pure _
  | _ => exact steady_pure _

theorem scanAll_steady {ns : List Node} (h : ∀ n ∈ ns, (scan ctx n env).Steady) :
    (scanAll ctx ns env).Steady := by
  induction ns with
  | nil => exact steady_pure _
  | cons n ns ih =>
      rw [scanAll]
      refine (h n (by simp)).bind fun _ => ?_
      exact (ih fun m hm => h m (by simp [hm])).bind fun _ => steady_pure _

theorem scanCondition_steady {test : Condition Node}
    (h : ∀ n ∈ Node.conditionChildren test, (scan ctx n env).Steady) :
    (scanCondition ctx test env).Steady := by
  cases test with
  | assertion a =>
      rw [scanCondition]
      exact (h a (by simp [Node.conditionChildren])).bind fun _ => steady_pure _
  | _ => exact steady_pure _

theorem scanOptional_steady {no : Option Node} (h : ∀ n ∈ no, (scan ctx n env).Steady) :
    (scanOptional ctx no env).Steady := by
  cases no with
  | none => exact steady_pure _
  | some n => exact h n rfl

theorem scan_steady (ctx : Context) (n : Node) (env : Surroundings) :
    (scan ctx n env).Steady := by
  induction n using Node.children_induction generalizing env with
  | h n ih =>
      cases n with
      | atom s a => exact (scanAtom_steady ctx env s a).visit s.start
      | sequence s items =>
          rw [scan]
          refine ((scanAll_steady fun c hc => ih c hc env).bind fun _ => ?_).visit s.start
          exact (steady_noteAll _).bind fun _ => steady_pure _
      | alternation s branches =>
          rw [scan]
          refine ((scanAll_steady fun c hc => ih c hc env).bind fun _ => ?_).visit s.start
          exact (steady_noteAll _).bind fun _ => steady_pure _
      | group s head body =>
          rw [scan]
          exact ((ih body (by simp [Node.children]) _).bind fun _ => steady_pure _).visit s.start
      | quantifier s count target =>
          rw [scan]
          split
          · exact (steady_pure _).visit s.start
          · refine ((ih target (by simp [Node.children]) _).bind fun _ => ?_).visit s.start
            exact (steady_noteAll _).bind fun _ => steady_pure _
      | charClass s negated caseless expr =>
          rw [scan]
          exact (steady_pure _).visit s.start
      | classOp s op operands => exact (steady_pure _).visit s.start
      | conditional s test yes no =>
          rw [scan]
          refine Steady.visit ?_ s.start
          refine (scanCondition_steady fun c hc => ih c (by simp [Node.children, hc]) env).bind
            fun _ => ?_
          refine (ih yes (by simp [Node.children]) env).bind fun _ => ?_
          refine (scanOptional_steady fun c hc => ?_).bind fun _ => steady_pure _
          exact ih c (by simp [Node.children, Option.mem_def.mp hc]) env
      | define s body =>
          rw [scan]
          exact ((ih body (by simp [Node.children]) env).bind fun _ => steady_pure _).visit s.start

/-- Whatever the limit, the search writes nothing but notes of the tree. -/
theorem notes_prefix_notesUnder (ctx : Context) (n : Node) (limit : Nat) :
    (scan ctx n {} ⟨limit, 0, false⟩).notes <+: notesUnder ctx [] n := by
  have hprefix := (scan_steady ctx n {}).notes ⟨limit, 0, false⟩ n.height
  have hfull := scan_yields ctx n [] rfl (Guard.raise ⟨limit, 0, false⟩ n.height)
    (by simp [Guard.raise])
  rwa [show scan ctx n {} _ = _ from hfull] at hprefix

end Hazard

namespace Pattern

open Hazard

/-- Each finding of an analysis is one at a node that the search comes to, whatever the settings. -/
theorem exists_of_mem_findings {s : AnalysisSettings} {p : Pattern} {f : Finding}
    (h : f ∈ (p.analyze s).findings) :
    ∃ above n, (above, n) ∈ p.root.occurrences ∧ reached above = true ∧
      f ∈ ownFindings p.searchContext above n := by
  have hlisted := List.mem_mergeSort.mp h
  obtain ⟨note, hnote, hfinding⟩ := List.mem_filterMap.mp (List.mem_filter.mp hlisted).1
  have hmem := (notes_prefix_notesUnder p.searchContext p.root s.depthLimit).subset hnote
  obtain ⟨⟨above, n⟩, ho, hown⟩ := List.mem_flatMap.mp hmem
  obtain ⟨hoccurs, hreached⟩ := List.mem_filter.mp ho
  exact ⟨above, n, hoccurs, hreached, List.mem_filterMap.mpr ⟨note, hown, hfinding⟩⟩

end Pattern

end PatternLint
