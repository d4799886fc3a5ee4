import PatternLint.Proofs.Hazard.Mitigation
import PatternLint.Proofs.Places

/-!
# Advice for every finding

A finding names the repetition to change by its span alone. That is enough: in a tree
that was read, spans that are not empty tell nodes apart, and looking for a span where
it is contained leads to its repetition. So each finding that is not mitigated has its
turn, and gets advice unless there is some for its repetition already; and a list that
has room for two pieces of advice for each finding cuts none off. `analyze_advice` says
which repetition that is, for each kind of finding.
-/

namespace PatternLint

open Hazard

/-! ### Finding a repetition by its span -/

namespace Node

theorem quantifierAt?_quantifier (s : Span) (count : Repeat) (target : Node) :
    (quantifier s count target).quantifierAt? s = some (count, target) := by
  rw [quantifierAt?, foldTree_eq]
  simp

/-- The search ends at a repetition with the span, or goes on in what is right below. -/
theorem quantifierAt?_eq (span : Span) (n : Node) :
    (∃ count target, n = .quantifier span count target) ∨
      n.quantifierAt? span =
        if n.span.contains span then n.children.findSome? (quantifierAt? span) else none := by
  have hbelow : (n.children.map (quantifierAt? span)).findSome? id =
      n.children.findSome? (quantifierAt? span) := List.findSome?_map ..
  rw [← hbelow]
  cases n with
  | quantifier s count target =>
      by_cases h : s = span
      · exact .inl ⟨count, target, h ▸ rfl⟩
      · refine .inr ?_
        rw [quantifierAt?, foldTree_eq]
        exact if_neg h
  | _ =>
      refine .inr ?_
      rw [quantifierAt?, foldTree_eq]

/-- What is found at a span is a repetition of the tree with that span. -/
theorem mem_of_quantifierAt? {n target : Node} {s : Span} {count : Repeat}
    (h : n.quantifierAt? s = some (count, target)) : .quantifier s count target ∈ n.preorder := by
  induction n using children_induction with
  | h n ih =>
      rcases quantifierAt?_eq s n with ⟨count', target', rfl⟩ | heq
      · rw [quantifierAt?_quantifier] at h
        cases h
        exact self_mem_preorder _
      · rw [heq] at h
        split at h
        · obtain ⟨c, hc, hfound⟩ := List.exists_of_findSome?_eq_some h
          exact mem_preorder.mpr (.inr ⟨c, hc, ih c hc hfound⟩)
        · cases h

/-- In a well placed tree a repetition is found at the span of each repetition. -/
theorem exists_quantifierAt? {cs : List Char} {n target : Node} {s : Span} {count : Repeat}
    (hp : AllPlaced cs n) (h : .quantifier s count target ∈ n.preorder) :
    ∃ found, n.quantifierAt? s = some found := by
  induction n using children_induction with
  | h n ih =>
      rcases quantifierAt?_eq s n with ⟨count', target', rfl⟩ | heq
      · exact ⟨_, quantifierAt?_quantifier s count' target'⟩
      · rcases mem_preorder.mp h with rfl | ⟨c, hc, hmem⟩
        · exact ⟨_, quantifierAt?_quantifier s count target⟩
        · have hcontains : n.span.contains s = true := by
            obtain ⟨hstart, hstop⟩ := hp.bounds h
            simp only [Span.contains, Bool.and_eq_true, decide_eq_true_eq]
            exact ⟨hstart, hstop⟩
          obtain ⟨found, hfound⟩ := ih c hc ((allPlaced_iff.mp hp).2 c hc) hmem
          rw [heq, if_pos hcontains, ← Option.isSome_iff_exists, List.findSome?_isSome_iff]
          exact ⟨c, hc, by rw [hfound]; rfl⟩

/-- The repetition that a node consists of is below it. -/
theorem mem_preorder_of_loop? {n : Node} {s : Span} {count : Repeat}
    (h : n.loop? = some (s, count)) : ∃ target, .quantifier s count target ∈ n.preorder := by
  induction n using children_induction with
  | h n ih =>
      cases n with
      | quantifier _ c target =>
          rw [loop?] at h
          split at h
          · obtain ⟨rfl, rfl⟩ := Prod.mk.inj (Option.some.inj h)
            exact ⟨target, self_mem_preorder _⟩
          · cases h
      | group _ head body =>
          rw [loop?] at h
          split at h
          · obtain ⟨target, hmem⟩ := ih body (by simp [children]) h
            exact ⟨target, mem_preorder.mpr (.inr ⟨body, by simp [children], hmem⟩)⟩
          · cases h
      | _ => cases h

theorem repeats_of_isUnbounded {n : Node} (h : n.isUnbounded = true) : n.repeats = true := by
  cases n with
  | quantifier s count target =>
      have hmax : count.max = none := by simpa [isUnbounded, Repeat.isUnbounded] using h
      simp [repeats, Repeat.allows, hmax]
  | _ => cases h

theorem exists_of_repeats {n : Node} (h : n.repeats = true) :
    ∃ count target, n = .quantifier n.span count target := by
  cases n with
  | quantifier s count target => exact ⟨count, target, rfl⟩
  | _ => cases h

end Node

/-! ### The repetitions around a node -/

namespace Hazard

theorem repeats_inside (env : Surroundings) (n : Node) :
    (n.repeats = false ∧ (inside env n).repeats = env.repeats) ∨
      ∃ s count target, n = .quantifier s count target ∧ count.allows 2 = true ∧
        (inside env n).repeats = ⟨s, count.max⟩ :: env.repeats := by
  cases n with
  | quantifier s count target =>
      rw [inside, Surroundings.inQuantifier]
      split
      next h => exact .inr ⟨s, count, target, rfl, h, rfl⟩
      next h => exact .inl ⟨by simpa [Node.repeats] using h, rfl⟩
  | _ => exact .inl ⟨rfl, rfl⟩

/-- The innermost of the repetitions around a node is the first above it. -/
theorem head?_repeats_around (above : List Node) :
    (around above).repeats.head?.map Turning.span = (above.find? Node.repeats).map Node.span := by
  induction above with
  | nil => rfl
  | cons n above ih =>
      rw [around]
      rcases repeats_inside (around above) n with ⟨hno, heq⟩ | ⟨s, count, target, rfl, htwo, heq⟩
      · rw [heq, ih, List.find?_cons, hno]
      · rw [heq, List.find?_cons, Node.repeats, htwo]
        rfl

/-- So it is with the innermost of those without bound. -/
theorem innermostLoop?_around (above : List Node) :
    (around above).innermostLoop? = (above.find? Node.isUnbounded).map Node.span := by
  induction above with
  | nil => rfl
  | cons n above ih =>
      rw [around]
      rcases repeats_inside (around above) n with ⟨hno, heq⟩ | ⟨s, count, target, rfl, htwo, heq⟩
      · have hbounded : n.isUnbounded = false := by
          by_contra h
          rw [Node.repeats_of_isUnbounded (by simpa using h)] at hno
          cases hno
        rw [Surroundings.innermostLoop?, heq, List.find?_cons, hbounded]
        exact ih
      · rw [Surroundings.innermostLoop?, heq, List.find?_cons, List.find?_cons]
        cases hmax : count.isUnbounded with
        | true =>
            have ht : Turning.isUnbounded ⟨s, count.max⟩ = true := hmax
            have hn : (Node.quantifier s count target).isUnbounded = true := hmax
            rw [ht, hn]
            rfl
        | false =>
            have ht : Turning.isUnbounded ⟨s, count.max⟩ = false := hmax
            have hn : (Node.quantifier s count target).isUnbounded = false := hmax
            rw [ht, hn]
            exact ih

/-! ### The repetition that a finding is about -/

theorem mem_of_nextLoop? {last : CharSet} {rest : List (Node × Profile)} {next : Node}
    (h : nextLoop? last rest = some next) : next ∈ rest.map Prod.fst := by
  induction rest with
  | nil => cases h
  | cons item rest ih =>
      rw [nextLoop?] at h
      split at h
      · exact List.mem_cons.mpr (.inl (Option.some.inj h).symm)
      · split at h
        · exact List.mem_cons_of_mem _ (ih h)
        · cases h

end Hazard

/-- Where advice for a finding may stand: at a repetition that is itself hazardous; at the innermost
repetition that can take a second turn around branches, and at the innermost one without bound
around a reference; and for neighbours at both of them or at the repetition that the first one
consists of. -/
def Finding.AdvisedAt (root : Node) (f : Finding) (s : Span) : Prop :=
  match f.kind with
  | .nestedQuantifier | .emptyRepetition => s = f.span
  | .overlappingAlternation => ∃ above branches,
      (above, .alternation f.span branches) ∈ root.occurrences ∧
        (above.find? Node.repeats).map Node.span = some s
  | .backreferenceLoop => ∃ above ref caseless,
      (above, .atom f.span (.backref ref caseless)) ∈ root.occurrences ∧
        (above.find? Node.isUnbounded).map Node.span = some s
  | .adjacentQuantifiers => s = f.span ∨ ∃ above t before item after next count,
      (above, .sequence t (before ++ item :: after)) ∈ root.occurrences ∧ next ∈ after ∧
        f.span = ⟨item.start, next.stop⟩ ∧ item.loop? = some (s, count)

namespace Hazard

variable {ctx : Context} {root n : Node} {above : List Node} {f : Finding}

/-- The repetition that a finding asks to change is the one that it is about. -/
theorem Found.advisedAt (ho : (above, n) ∈ root.occurrences) (h : Found ctx (around above) n f) :
    f.AdvisedAt root f.loop := by
  cases h with
  | nested _ _ => rfl
  | empty _ _ => rfl
  | @adjacent s before after item next loop count hloop hconsumes hnext =>
      refine .inr ⟨above, s, before, item, after, next, count, ho, ?_, rfl, hloop⟩
      simpa using mem_of_nextLoop? hnext
  | @overlapping s branches turning outer severity hrepeats hoverlap hseverity =>
      refine ⟨above, branches, ho, ?_⟩
      rw [← head?_repeats_around, hrepeats]
      rfl
  | @backreference s ref caseless loop hloop hrepeated =>
      exact ⟨above, ref, caseless, ho, innermostLoop?_around above ▸ hloop⟩

theorem exists_mem_of_find? {test : Node → Bool} {s : Span}
    (htest : ∀ q, test q = true → q.repeats = true)
    (h : (above.find? test).map Node.span = some s) :
    ∃ count target, .quantifier s count target ∈ above := by
  obtain ⟨q, hq, rfl⟩ := Option.map_eq_some_iff.mp h
  obtain ⟨count, target, heq⟩ := Node.exists_of_repeats (htest q (List.find?_some hq))
  exact ⟨count, target, heq ▸ List.mem_of_find?_eq_some hq⟩

/-- For branches and references, the repetition to change is above them. -/
theorem Found.loop_mem_above (h : Found ctx (around above) n f)
    (hkind : f.kind = .overlappingAlternation ∨ f.kind = .backreferenceLoop) :
    ∃ count target, .quantifier f.loop count target ∈ above := by
  cases h with
  | nested _ _ => simp [Finding.of] at hkind
  | empty _ _ => simp [Finding.of] at hkind
  | adjacent _ _ _ => simp [Finding.of] at hkind
  | overlapping hrepeats _ _ =>
      refine exists_mem_of_find? (fun _ h => h) ?_
      rw [← head?_repeats_around, hrepeats]
      rfl
  | backreference hloop _ =>
      exact exists_mem_of_find? (fun _ => Node.repeats_of_isUnbounded)
        (innermostLoop?_around above ▸ hloop)

/-- The repetition that a finding asks to change is one of the tree. -/
theorem Found.exists_loop (ho : (above, n) ∈ root.occurrences)
    (h : Found ctx (around above) n f) :
    ∃ count target, .quantifier f.loop count target ∈ root.preorder := by
  have hn := Node.mem_preorder_of_occurrence ho
  by_cases hkind : f.kind = .overlappingAlternation ∨ f.kind = .backreferenceLoop
  · obtain ⟨count, target, hmem⟩ := h.loop_mem_above hkind
    rcases Node.mem_above ho hmem with hnil | ⟨hmem, -⟩
    · cases hnil
    · exact ⟨count, target, hmem⟩
  · cases h with
    | nested _ _ => exact ⟨_, _, hn⟩
    | empty _ _ => exact ⟨_, _, hn⟩
    | @adjacent s before after item next loop count hloop hconsumes hnext =>
        obtain ⟨target, hmem⟩ := Node.mem_preorder_of_loop? hloop
        have hitem : .quantifier loop count target ∈
            (Node.sequence s (before ++ item :: after)).preorder :=
          Node.mem_preorder.mpr (.inr ⟨item, by simp [Node.children], hmem⟩)
        exact ⟨count, target, Node.mem_preorder_trans hn hitem⟩
    | overlapping _ _ _ => exact absurd (.inl rfl) hkind
    | backreference _ _ => exact absurd (.inr rfl) hkind

/-! ### Advice, finding by finding -/

variable {p : Pattern} {soFar : List Recommendation} {count : Repeat} {target : Node}

/-- Advice that deals with a finding: about its repetition, or about neighbours as a whole. -/
def Settles (f : Finding) (r : Recommendation) : Prop :=
  r.span = f.loop ∨ f.kind = .adjacentQuantifiers ∧ r.span = f.span

theorem exists_settles (p : Pattern) (f : Finding) (count : Repeat) (target : Node) :
    ∃ r ∈ adviceFor p f count target, Settles f r := by
  unfold adviceFor
  simp only
  split
  · exact ⟨_, List.mem_cons_self, .inl rfl⟩
  · exact ⟨_, List.mem_cons_self, .inl rfl⟩
  · exact ⟨_, List.mem_cons_self, .inl rfl⟩
  · exact ⟨_, List.mem_cons_self, .inl rfl⟩
  · next hkind => exact ⟨_, List.mem_cons_self, .inr ⟨hkind, rfl⟩⟩

theorem length_adviceFor_le (p : Pattern) (f : Finding) (count : Repeat) (target : Node) :
    (adviceFor p f count target).length ≤ 2 := by
  unfold adviceFor
  simp only
  split <;> try split
  all_goals simp

/-- One more finding keeps the advice so far, adds two pieces at most and is dealt with. -/
theorem addAdvice_spec (p : Pattern) (soFar : List Recommendation) (f : Finding) :
    soFar <+: addAdvice p soFar f ∧ (addAdvice p soFar f).length ≤ soFar.length + 2 ∧
      ((∃ found, p.root.quantifierAt? f.loop = some found) →
        ∃ r ∈ addAdvice p soFar f, Settles f r) := by
  unfold addAdvice
  split
  next hnone => exact ⟨List.prefix_refl _, by omega, fun ⟨_, h⟩ => by simp [hnone] at h⟩
  next count target hsome =>
    split
    next hany =>
      obtain ⟨r, hr, hspan⟩ := List.any_eq_true.mp hany
      exact ⟨List.prefix_refl _, by omega, fun _ => ⟨r, hr, .inl (by simpa using hspan)⟩⟩
    next =>
      refine ⟨List.prefix_append _ _, ?_, fun _ => ?_⟩
      · have := length_adviceFor_le p f count target
        rw [List.length_append]
        omega
      · obtain ⟨r, hr, hsettles⟩ := exists_settles p f count target
        exact ⟨r, List.mem_append_right _ hr, hsettles⟩

theorem prefix_foldl_addAdvice (p : Pattern) (fs : List Finding) (soFar : List Recommendation) :
    soFar <+: fs.foldl (addAdvice p) soFar := by
  induction fs generalizing soFar with
  | nil => exact List.prefix_refl _
  | cons f fs ih => exact (addAdvice_spec p soFar f).1.trans (ih _)

theorem length_foldl_addAdvice_le (p : Pattern) (fs : List Finding)
    (soFar : List Recommendation) :
    (fs.foldl (addAdvice p) soFar).length ≤ soFar.length + 2 * fs.length := by
  induction fs generalizing soFar with
  | nil => simp
  | cons f fs ih =>
      have hstep := (addAdvice_spec p soFar f).2.1
      have hrest := ih (addAdvice p soFar f)
      simp only [List.foldl_cons, List.length_cons]
      omega

/-- Each finding has its turn, and what deals with it stays. -/
theorem exists_settles_foldl {fs : List Finding} (hf : f ∈ fs)
    (hfound : ∃ found, p.root.quantifierAt? f.loop = some found) (soFar : List Recommendation) :
    ∃ r ∈ fs.foldl (addAdvice p) soFar, Settles f r := by
  induction fs generalizing soFar with
  | nil => cases hf
  | cons g fs ih =>
      rcases List.mem_cons.mp hf with rfl | hf
      · obtain ⟨r, hr, hsettles⟩ := (addAdvice_spec p soFar f).2.2 hfound
        exact ⟨r, (prefix_foldl_addAdvice p fs _).subset hr, hsettles⟩
      · exact ih hf _

/-- All advice is for some finding. -/
theorem mem_foldl_addAdvice {fs : List Finding} {soFar : List Recommendation} {r : Recommendation}
    (hr : r ∈ fs.foldl (addAdvice p) soFar) :
    r ∈ soFar ∨ ∃ f ∈ fs, ∃ count target,
      p.root.quantifierAt? f.loop = some (count, target) ∧ r ∈ adviceFor p f count target := by
  induction fs generalizing soFar with
  | nil => exact .inl hr
  | cons f fs ih =>
      rcases ih hr with hr | ⟨g, hg, hadvice⟩
      · unfold addAdvice at hr
        split at hr
        next => exact .inl hr
        next count target hsome =>
          split at hr
          next => exact .inl hr
          next =>
            rcases List.mem_append.mp hr with hr | hr
            · exact .inl hr
            · exact .inr ⟨f, by simp, count, target, hsome, hr⟩
      · exact .inr ⟨g, by simp [hg], hadvice⟩

/-- A list of advice that has room for two pieces for each finding deals with all of them. -/
theorem exists_settles_advice {fs : List Finding} {limit : Nat} (hroom : 2 * fs.length ≤ limit)
    (hf : f ∈ fs) (hopen : f.mitigated = false)
    (hfound : ∃ found, p.root.quantifierAt? f.loop = some found) :
    ∃ r ∈ advice p fs limit, Settles f r := by
  unfold advice
  simp only
  generalize hranked : ((fs.filter fun f => !f.mitigated).mergeSort
    fun f g => decide (urgency g ≤ urgency f)) = ranked
  have hmem : f ∈ ranked := by
    rw [← hranked, List.mem_mergeSort]
    exact List.mem_filter.mpr ⟨hf, by simp [hopen]⟩
  have hlength : ranked.length ≤ fs.length := by
    rw [← hranked, List.length_mergeSort]
    exact List.length_filter_le _ _
  have hshort := length_foldl_addAdvice_le p ranked []
  rw [List.take_of_length_le (by simp only [List.length_nil] at hshort; omega)]
  exact exists_settles_foldl hmem hfound []

end Hazard

/-! ### Reports -/

namespace Pattern

variable {s : ParserSettings} {p : Pattern}

/-- The nodes of a pattern are well placed and solid. -/
theorem AcceptedBy.placed (h : p.AcceptedBy s) :
    AllPlaced p.source.toList p.root ∧ AllSolid p.root := by
  obtain ⟨body, modifiers, delimiter, hp⟩ := h.parseBody
  obtain ⟨-, rfl, -, hp⟩ := parseBody_fields hp
  exact ⟨parseWith_placed hp, parseWith_solid hp⟩

/-- If the list of recommendations has room for two for each finding, there is one for each finding
that is not mitigated, at the repetition that the finding is about. No two parts of the pattern have
the same span, unless it is empty, so the span says which repetition that is. -/
theorem analyze_advice (h : p.AcceptedBy s) (a : AnalysisSettings)
    (hroom : 2 * (p.analyze a).findings.length ≤ a.maxRecommendations) :
    (∀ f ∈ (p.analyze a).findings, f.mitigated = false →
      ∃ r ∈ (p.analyze a).recommendations, f.AdvisedAt p.root r.span) ∧
    ∀ o ∈ p.root.occurrences, ∀ o' ∈ p.root.occurrences, o.2.start < o.2.stop →
      o.2.span = o'.2.span → o = o' := by
  obtain ⟨hplaced, hsolid⟩ := h.placed
  refine ⟨fun f hf hopen => ?_, fun o ho o' ho' hlt hspan =>
    occurrence_unique hplaced hsolid ho ho' hspan hlt⟩
  obtain ⟨above, n, ho, -, hown⟩ := exists_of_mem_findings hf
  have hfound := mem_ownFindings_iff.mp hown
  obtain ⟨count, target, hloop⟩ := hfound.exists_loop ho
  obtain ⟨r, hr, hsettles⟩ := exists_settles_advice (p := p) hroom hf hopen
    (Node.exists_quantifierAt? hplaced hloop)
  refine ⟨r, hr, ?_⟩
  rcases hsettles with hspan | ⟨hkind, hspan⟩
  · exact hspan ▸ hfound.advisedAt ho
  · rw [Finding.AdvisedAt, hkind]
    exact .inl hspan

theorem analyze_advice_branches :
    ∃ p, parseBody {} "(a|ab)+c+c+" "" '/' = .ok p ∧
      2 * (p.analyze {}).findings.length ≤ ({} : AnalysisSettings).maxRecommendations ∧
      ∃ f ∈ (p.analyze {}).findings, f.kind = .overlappingAlternation ∧ f.mitigated = false ∧
        ∃ r ∈ (p.analyze {}).recommendations, f.AdvisedAt p.root r.span := by
  obtain ⟨⟨_, _, _, root, _, _, _⟩, hp, rfl⟩ := exists_of_root
    (x := parseBody {} "(a|ab)+c+c+" "" '/')
    (n := .sequence ⟨0, 11⟩ [.quantifier ⟨0, 7⟩ ⟨1, none, .greedy⟩
        (.group ⟨0, 6⟩ { kind := .capturing, number := some 1 }
          (.alternation ⟨1, 5⟩ [.letter 1 'a',
            .sequence ⟨3, 5⟩ [.letter 3 'a', .letter 4 'b']])),
      .quantifier ⟨7, 9⟩ ⟨1, none, .greedy⟩ (.letter 7 'c'),
      .quantifier ⟨9, 11⟩ ⟨1, none, .greedy⟩ (.letter 9 'c')]) (by cbv)
  refine ⟨_, hp, ?_⟩
  generalize hq : (Pattern.mk _ _ _ _ _ _ _) = q at *
  have hdepth : q.root.height ≤ ({} : AnalysisSettings).depthLimit := parseBody_depth hp
  have hroom : 2 * (q.analyze {}).findings.length ≤ ({} : AnalysisSettings).maxRecommendations := by
    rw [(findings_perm hdepth rfl).length_eq]
    subst hq
    cbv
  have hf : Finding.of .overlappingAlternation ⟨1, 5⟩ .high false 1 ⟨0, 7⟩ ∈
      (q.analyze {}).findings := by
    subst hq
    refine mem_findings hdepth rfl (List.mem_of_getElem? (i := 4) rfl) (by decide) ?_
    exact mem_ownFindings_iff.mpr
      (@Found.overlapping _ _ _ _ ⟨⟨0, 7⟩, none⟩ [] .high rfl (by cbv) rfl)
  have haccepted : q.AcceptedBy {} := .inl ⟨_, _, _, hp⟩
  exact ⟨hroom, _, hf, rfl, rfl, (analyze_advice haccepted {} hroom).1 _ hf rfl⟩

end Pattern

end PatternLint
