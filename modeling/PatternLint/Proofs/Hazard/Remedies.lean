import PatternLint.Proofs.Hazard.Advice

/-!
# What becomes of a finding when its advice is taken

Advice with a replacement names a repetition and shows another node to put in its
place. There are three such remedies. Two of them put a shield around what is repeated,
and then nothing below is found without mitigation; the third takes the backtracking
out of the target of a repetition. `cures_of_works` says when they are enough.

They are not always. A target that gives nothing back may still match nothing, and the
repetition of it is as empty as before; and what makes repetitions possessive leaves
those alone that are lazy. `not_cures` has a pattern for either.

The argument goes by where a finding of the rewritten pattern is made. Below the new
node it is shielded; anywhere else the tree is the old one, where the place is that of
the old finding and the old repetition is still around it.
-/

namespace PatternLint

open Hazard

/-! ### Replacing a repetition -/

/-- Puts another node in the place of the repetition with a span. -/
def Transform.substitute (s : Span) (new : Node) : Transform where
  replace
    | .quantifier s' _ _ => if s' = s then some new else none
    | _ => none

/-- The pattern with another node in the place of the repetition with a span. -/
def Pattern.substitute (p : Pattern) (s : Span) (new : Node) : Pattern :=
  p.transform (.substitute s new)

namespace Node

variable {root n c m : Node} {above base : List Node}

/-- What is right below a node occurs where the node does. -/
theorem child_mem_occurrencesUnder (ho : (above, n) ∈ root.occurrencesUnder base)
    (hc : c ∈ n.children) : (n :: above, c) ∈ root.occurrencesUnder base := by
  induction root using children_induction generalizing base with
  | h root ih =>
      rcases mem_occurrencesUnder.mp ho with heq | ⟨k, hk, hmem⟩
      · obtain ⟨rfl, rfl⟩ := Prod.mk.inj heq
        exact mem_occurrencesUnder.mpr (.inr ⟨c, hc, mem_occurrencesUnder.mpr (.inl rfl)⟩)
      · exact mem_occurrencesUnder.mpr (.inr ⟨k, hk, ih k hk hmem⟩)

/-- Every node of a tree occurs in it. -/
theorem exists_occurrence (hm : m ∈ root.preorder) (base : List Node) :
    ∃ above, (above, m) ∈ root.occurrencesUnder base := by
  induction root using children_induction generalizing base with
  | h root ih =>
      rcases mem_preorder.mp hm with rfl | ⟨c, hc, hm⟩
      · exact ⟨base, mem_occurrencesUnder.mpr (.inl rfl)⟩
      · obtain ⟨above, ho⟩ := ih c hc hm (root :: base)
        exact ⟨above, mem_occurrencesUnder.mpr (.inr ⟨c, hc, ho⟩)⟩

/-- What occurs in a tree is its root or below it. -/
theorem root_or_below (ho : (above, n) ∈ root.occurrencesUnder base) :
    n = root ∨ root ∈ above ∧ ∃ c ∈ root.children, n ∈ c.preorder := by
  rcases mem_occurrencesUnder.mp ho with heq | ⟨c, hc, hmem⟩
  · exact .inl (Prod.mk.inj heq).2
  · refine .inr ⟨(suffix_of_occurrence hmem).subset (by simp), c, hc, ?_⟩
    exact mem_preorder_of_occurrence hmem

end Node

namespace Transform

variable {t : Transform} {root n m r : Node} {above : List Node}

/-- A place in a node that took the place of another. -/
def Grafted (t : Transform) (root : Node) (above : List Node) (n : Node) : Prop :=
  ∃ old r base, old ∈ root.preorder ∧ t.replace old = some r ∧ (above, n) ∈ r.occurrencesUnder base

/-- A node that was put together again, as all above it were. -/
def Kept (t : Transform) (root n : Node) : Prop :=
  ∃ above m, (above, m) ∈ root.occurrences ∧ n = t.node m ∧ ∀ q ∈ m :: above, t.replace q = none

theorem grafted_or_kept {above₀ : List Node} (hm : (above₀, m) ∈ root.occurrences)
    (habove : ∀ q ∈ above₀, t.replace q = none) (above : List Node) :
    Grafted t root above (t.node m) ∨ Kept t root (t.node m) := by
  cases hreplace : t.replace m with
  | none => exact .inr ⟨above₀, m, hm, rfl, List.forall_mem_cons.mpr ⟨hreplace, habove⟩⟩
  | some r =>
      rw [node_of_replace hreplace]
      exact .inl ⟨m, r, above, Node.mem_preorder_of_occurrence hm, hreplace,
        Node.mem_occurrencesUnder.mpr (.inl rfl)⟩

/-- What the search comes to in a transformed tree is in a node that took the place of another, or
it was put together again. -/
theorem occurrence_node (ho : (above, n) ∈ (t.node root).occurrences)
    (hreached : reached above = true) : Grafted t root above n ∨ Kept t root n := by
  refine Node.occurrences_induction (P := fun above n => reached above = true →
    Grafted t root above n ∨ Kept t root n) ?_ ?_ ho hreached
  · exact fun _ =>
      grafted_or_kept (Node.self_mem_occurrences root) (fun _ hq => (nomatch hq)) []
  · intro above n c ih hc hreached
    obtain ⟨hreached, hclass⟩ := reached_tail hreached
    rcases ih hreached with ⟨old, r, base, hold, hreplace, hmem⟩ | ⟨above₀, m, hm, rfl, hnone⟩
    · exact .inl ⟨old, r, base, hold, hreplace, Node.child_mem_occurrencesUnder hmem hc⟩
    · rcases mem_children_node (hnone m (by simp)) hc with h | ⟨k, hk, rfl⟩
      · exact absurd (h.symm.trans hclass) (by decide)
      · exact grafted_or_kept (Node.child_mem_occurrencesUnder hm hk) hnone _

/-- Without replacements, what is below a transformed node has the spans of what was below it. -/
theorem exists_span_of_mem_preorder (hnone : ∀ n, t.replace n = none)
    (hm : m ∈ (t.node n).preorder) : ∃ k ∈ n.preorder, k.span = m.span := by
  have hspan : m.span ∈ (t.node n).preorder.map Node.span := List.mem_map_of_mem hm
  rw [map_span_preorder_node hnone] at hspan
  exact List.mem_map.mp hspan

/-- A node that was put together again is of the kind that it was. -/
theorem exists_of_node_eq_quantifier {s : Span} {count : Repeat} {target : Node}
    (hnone : t.replace m = none) (h : t.node m = .quantifier s count target) :
    ∃ count target, m = .quantifier s count target := by
  cases m <;> simp_all [node]

theorem exists_of_node_eq_alternation {s : Span} {branches : List Node}
    (hnone : t.replace m = none) (h : t.node m = .alternation s branches) :
    ∃ branches, m = .alternation s branches := by
  cases m <;> simp_all [node]

theorem eq_of_node_eq_atom {s : Span} {a : Atom} (hnone : t.replace m = none)
    (h : t.node m = .atom s a) : m = .atom s a := by
  cases m <;> simp_all [node]

end Transform

/-! ### Where a rewritten pattern is safe -/

namespace Hazard

variable {ctx : Context} {env : Surroundings} {n q : Node} {above : List Node} {f g : Finding}

theorem shielded_of_mem (hq : q ∈ above) (h : q.shields = true) :
    (around above).shielded = true := by
  induction above with
  | nil => cases hq
  | cons n above ih =>
      rw [around, shielded_inside, Bool.or_eq_true]
      rcases List.mem_cons.mp hq with rfl | hq
      · exact .inr h
      · exact .inl (ih hq)

/-- What is found at a shield is mitigated by it. -/
theorem Found.shields_eq_false (h : Found ctx env n f) (hopen : f.mitigated = false) :
    n.shields = false := by
  cases h with
  | nested _ _ =>
      rw [Finding.of, Bool.or_eq_false_iff, Bool.or_eq_false_iff] at hopen
      exact hopen.1.1
  | empty _ _ => exact (Bool.or_eq_false_iff.mp hopen).1
  | _ => rfl

/-- What is found in a shield, without mitigation, is not found. -/
theorem Found.not_in_shield {r : Node} {base : List Node} (h : Found ctx (around above) n f)
    (hopen : f.mitigated = false) (ho : (above, n) ∈ r.occurrencesUnder base) :
    r.shields = false := by
  rcases Node.root_or_below ho with rfl | ⟨hmem, -⟩
  · exact h.shields_eq_false hopen
  · by_contra hshields
    have := shielded_of_mem hmem (by simpa using hshields)
    rw [h.shielded_eq_false hopen] at this
    cases this

/-- A hazardous repetition is without bound and, without mitigation, not possessive. -/
theorem Found.eq_quantifier (h : Found ctx env n f)
    (hkind : f.kind = .nestedQuantifier ∨ f.kind = .emptyRepetition) :
    f.loop = f.span ∧ ∃ count target, n = .quantifier f.span count target ∧
      count.isUnbounded = true ∧ (f.mitigated = false → count.isPossessive = false) := by
  cases h with
  | @nested s count target hgrows _ =>
      refine ⟨rfl, count, target, rfl, (Bool.and_eq_true_iff.mp hgrows).1, fun hopen => ?_⟩
      rw [Finding.of, Bool.or_eq_false_iff, Bool.or_eq_false_iff] at hopen
      exact hopen.1.1
  | @empty s count target hgrows _ =>
      exact ⟨rfl, count, target, rfl, (Bool.and_eq_true_iff.mp hgrows).1,
        fun hopen => (Bool.or_eq_false_iff.mp hopen).1⟩
  | _ => simp [Finding.of] at hkind

theorem Found.eq_alternation (h : Found ctx env n f) (hkind : f.kind = .overlappingAlternation) :
    ∃ branches, n = .alternation f.span branches := by
  cases h with
  | overlapping _ _ _ => exact ⟨_, rfl⟩
  | _ => simp [Finding.of] at hkind

theorem Found.eq_atom (h : Found ctx env n f) (hkind : f.kind = .backreferenceLoop) :
    ∃ ref caseless, n = .atom f.span (.backref ref caseless) := by
  cases h with
  | backreference _ _ => exact ⟨_, _, rfl⟩
  | _ => simp [Finding.of] at hkind

/-- Where a repetition is replaced, a finding about it is not made again at a node that is kept: the
old node had the repetition above it, or was the repetition. -/
theorem Found.not_kept {cs : List Char} {root m r : Node} {ctx' : Context} {env' : Surroundings}
    (hplaced : AllPlaced cs root) (hsolid : AllSolid root) (ho : (above, n) ∈ root.occurrences)
    (h : Found ctx (around above) n f) (hg : Found ctx' env' m g) (hkind : g.kind = f.kind)
    (hspan : g.span = f.span) (hneighbours : f.kind ≠ .adjacentQuantifiers) :
    ¬ Transform.Kept (.substitute f.loop r) root m := by
  rintro ⟨above₀, k, hk, rfl, hnone⟩
  have hself := hnone k (by simp)
  have hloop : ∀ count target, .quantifier f.loop count target ∉ k :: above₀ := by
    intro count target hmem
    have := hnone _ hmem
    simp [Transform.substitute] at this
  -- Branches and references are told by their spans.
  have hsame : k.span = n.span → (∀ s, n ≠ .atom s .empty) →
      f.kind = .overlappingAlternation ∨ f.kind = .backreferenceLoop → False := by
    intro heq hne hkind
    have hlt := (hsolid n (Node.mem_preorder_of_occurrence ho)).covers hne
    cases occurrence_unique hplaced hsolid ho hk heq.symm hlt
    obtain ⟨count, target, hmem⟩ := h.loop_mem_above hkind
    exact hloop count target (List.mem_cons_of_mem _ hmem)
  have hrepetition : f.kind = .nestedQuantifier ∨ f.kind = .emptyRepetition → False := by
    intro hfkind
    obtain ⟨-, count, target, hm, -⟩ := hg.eq_quantifier (hkind ▸ hfkind)
    obtain ⟨count, target, rfl⟩ := Transform.exists_of_node_eq_quantifier hself hm
    refine hloop count target ?_
    rw [(h.eq_quantifier hfkind).1, ← hspan]
    exact List.mem_cons_self
  cases hfkind : f.kind with
  | nestedQuantifier => exact hrepetition (.inl hfkind)
  | emptyRepetition => exact hrepetition (.inr hfkind)
  | overlappingAlternation =>
      obtain ⟨branches, rfl⟩ := h.eq_alternation hfkind
      obtain ⟨branches', hm⟩ := hg.eq_alternation (hkind.trans hfkind)
      obtain ⟨branches', rfl⟩ := Transform.exists_of_node_eq_alternation hself hm
      exact hsame hspan (fun _ => nofun) (.inl hfkind)
  | backreferenceLoop =>
      obtain ⟨ref, caseless, rfl⟩ := h.eq_atom hfkind
      obtain ⟨ref', caseless', hm⟩ := hg.eq_atom (hkind.trans hfkind)
      obtain rfl := Transform.eq_of_node_eq_atom hself hm
      exact hsame hspan (fun _ => nofun) (.inr hfkind)
  | adjacentQuantifiers => exact hneighbours hfkind

/-! ### Targets that give nothing back -/

theorem openHeight_foldl {op : Profile → Profile → Profile}
    (hop : ∀ p q, (op p q).openHeight = max p.openHeight q.openHeight) {ps : List Profile}
    {p : Profile} (hp : p.openHeight = 0) (hps : ∀ q ∈ ps, q.openHeight = 0) :
    (ps.foldl op p).openHeight = 0 := by
  induction ps generalizing p with
  | nil => exact hp
  | cons q ps ih =>
      refine ih ?_ fun r hr => hps r (by simp [hr])
      rw [hop, hp, hps q (by simp), Nat.max_self]

/-- Behind `possessive`, a part without lazy repetitions that have no bound gives nothing back. -/
theorem openHeight_possessive (ctx : Context) {n : Node}
    (hlazy : ∀ m ∈ n.preorder, m.isLazy = true → m.isUnbounded = false) :
    (profile ctx n.possessive).openHeight = 0 := by
  induction n using Node.children_induction with
  | h n ih =>
      have hbelow : ∀ c ∈ n.children, (profile ctx c.possessive).openHeight = 0 :=
        fun c hc => ih c hc (Node.forall_preorder_child hlazy hc)
      have hmap : ∀ ns : List Node, ns = n.children →
          ∀ q ∈ (Transform.possessive.nodes ns).map (profile ctx), q.openHeight = 0 := by
        intro ns hns q hq
        rw [Transform.nodes_eq_map, List.map_map] at hq
        obtain ⟨c, hc, rfl⟩ := List.mem_map.mp hq
        exact hbelow c (hns ▸ hc)
      cases n with
      | atom s a => cases a <;> rfl
      | sequence s items =>
          show (profile ctx (.sequence s (Transform.possessive.nodes items))).openHeight = 0
          rw [profile, profiles_eq_map]
          exact openHeight_foldl (fun _ _ => rfl) rfl (hmap items rfl)
      | alternation s branches =>
          show (profile ctx (.alternation s (Transform.possessive.nodes branches))).openHeight = 0
          rw [profile, profiles_eq_map]
          have hall := hmap branches rfl
          revert hall
          generalize (Transform.possessive.nodes branches).map (profile ctx) = ps
          intro hall
          cases ps with
          | nil => rfl
          | cons p ps =>
              exact openHeight_foldl (fun _ _ => rfl) (hall p (by simp))
                fun q hq => hall q (by simp [hq])
      | group s head body =>
          have hbody := hbelow body (by simp [Node.children])
          show (ofGroup head.kind (profile ctx body.possessive)).openHeight = 0
          unfold ofGroup
          split
          · split
            · rfl
            · simp [hbody]
          · split
            · rfl
            · exact hbody
      | quantifier s count target =>
          have htarget := hbelow target (by simp [Node.children])
          show (profile ctx (.quantifier s (Transform.possess count) target.possessive)).openHeight = 0
          rw [profile]
          split
          · rfl
          · unfold ofQuantifier
            simp only
            split
            · rfl
            next hpossessive =>
              -- What was not made possessive is lazy, and so it has a bound.
              have hlazy' : count.greed = .lazy := by
                by_contra h
                exact hpossessive (Node.isPossessive_possess h)
              have hbounded : (Transform.possess count).isUnbounded = false := by
                have := hlazy _ (Node.self_mem_preorder _) (by simp [Node.isLazy, hlazy'])
                rw [Transform.possess, hlazy']
                exact this
              simp [htarget, grows, hbounded]
      | charClass s negated caseless expr => rfl
      | classOp s op operands => rfl
      | conditional s test yes no =>
          have hyes := hbelow yes (by simp [Node.children])
          have hno : (optionalProfile ctx (Transform.possessive.optional no)).openHeight = 0 := by
            cases no with
            | none => rfl
            | some n => exact hbelow n (by simp [Node.children])
          show ((profile ctx yes.possessive).or
            (optionalProfile ctx (Transform.possessive.optional no))).openHeight = 0
          simp [Profile.or, hyes, hno]
      | define s body => rfl

end Hazard

/-! ### Remedies -/

/-- The ways to rewrite a repetition. -/
inductive Remedy where
  /-- To make the repetitions in its target possessive. -/
  | innerPossessive
  /-- To make it possessive, with those in its target. -/
  | possessive
  /-- To put it in an atomic group. -/
  | isolated
deriving DecidableEq, Repr

namespace Remedy

/-- What is recommended. -/
def message : Remedy → String
  | innerPossessive => "make the inner repetition possessive"
  | possessive => "make the repetition possessive"
  | isolated => "wrap the repetition in an atomic group"

/-- The node to put in the place of a repetition. -/
def node (s : Span) (count : Repeat) (target : Node) : Remedy → Node
  | innerPossessive => .quantifier s count target.possessive
  | possessive => (Node.quantifier s count target).possessive
  | isolated => (Node.quantifier s count target).atomic

/-- The remedies that are recommended for a finding of a kind about a repetition. -/
def recommended (kind : HazardKind) (count : Repeat) : List Remedy :=
  match kind with
  | .nestedQuantifier | .emptyRepetition => [innerPossessive, isolated]
  | .overlappingAlternation | .backreferenceLoop =>
    possessive :: if count.isUnbounded then [isolated] else []
  | .adjacentQuantifiers => []

/-- Whether a remedy makes a difference: what gives nothing back may still match nothing, and lazy
repetitions are not made possessive. -/
def Works (kind : HazardKind) (count : Repeat) (target : Node) : Remedy → Prop
  | innerPossessive => kind = .nestedQuantifier ∧
      ∀ m ∈ target.preorder, m.isLazy = true → m.isUnbounded = false
  | possessive => count.greed ≠ .lazy
  | isolated => True

/-- Whether a pattern in which a remedy is taken has no finding left, of the kind and the span of the
old one, that is not mitigated. -/
def Cures (remedy : Remedy) (a : AnalysisSettings) (p : Pattern) (f : Finding) (count : Repeat)
    (target : Node) : Prop :=
  ∀ g ∈ ((p.substitute f.loop (remedy.node f.loop count target)).analyze a).findings,
    g.kind = f.kind → g.span = f.span → g.mitigated = true

variable {p : Pattern} {f : Finding} {count : Repeat} {target : Node}

/-- Advice is about remedies, but for neighbours. -/
theorem adviceFor_eq_map (hkind : f.kind ≠ .adjacentQuantifiers) :
    adviceFor p f count target = (recommended f.kind count).map fun remedy =>
      ⟨f.loop, p.fragment f.loop, (remedy.node f.loop count target).text?, remedy.message⟩ := by
  unfold adviceFor recommended
  cases hf : f.kind with
  | nestedQuantifier => rfl
  | emptyRepetition => rfl
  | overlappingAlternation => cases count.isUnbounded <;> rfl
  | backreferenceLoop => cases count.isUnbounded <;> rfl
  | adjacentQuantifiers => exact absurd hf hkind

/-- Advice with a replacement recommends a remedy and shows what it leads to. -/
theorem exists_of_mem_adviceFor {r : Recommendation} {text : String}
    (hr : r ∈ adviceFor p f count target) (htext : r.replacement = some text) :
    f.kind ≠ .adjacentQuantifiers ∧ ∃ remedy ∈ recommended f.kind count,
      r = ⟨f.loop, p.fragment f.loop, (remedy.node f.loop count target).text?, remedy.message⟩ := by
  have hkind : f.kind ≠ .adjacentQuantifiers := by
    intro hkind
    rw [adviceFor, hkind] at hr
    obtain rfl := List.mem_singleton.mp hr
    cases htext
  rw [adviceFor_eq_map hkind] at hr
  obtain ⟨remedy, hremedy, rfl⟩ := List.mem_map.mp hr
  exact ⟨hkind, remedy, hremedy, rfl⟩

theorem shields_possessive {s : Span} (h : count.greed ≠ .lazy) :
    (possessive.node s count target).shields = true :=
  Node.isPossessive_possess h

theorem shields_isolated {s : Span} (h : Transform.givesBack count = true) :
    (isolated.node s count target).shields = true := by
  have hisolate : Transform.isolate (.quantifier s count target) =
      some (.group s { kind := .atomic } (.quantifier s count target)) := if_pos h
  obtain ⟨heq, hshields, -⟩ := Node.atomic_of_isolate hisolate
  rw [node, heq]
  exact hshields

variable {cs : List Char} {root n : Node} {above : List Node} {ctx : Context}

theorem quantifier_unique {s : Span} {count' : Repeat} {target' : Node}
    (hplaced : AllPlaced cs root) (hsolid : AllSolid root)
    (h : .quantifier s count target ∈ root.preorder)
    (h' : .quantifier s count' target' ∈ root.preorder) : count = count' := by
  obtain ⟨above, ho⟩ := Node.exists_occurrence h []
  obtain ⟨above', ho'⟩ := Node.exists_occurrence h' []
  have heq := occurrence_unique hplaced hsolid ho ho' rfl ((hsolid _ h).covers fun _ => nofun)
  cases heq
  rfl

/-- A repetition that is recommended to be put in an atomic group could give back. -/
theorem givesBack_of_recommended (hplaced : AllPlaced cs root) (hsolid : AllSolid root)
    (ho : (above, n) ∈ root.occurrences) (h : Found ctx (around above) n f)
    (hopen : f.mitigated = false) (hloop : .quantifier f.loop count target ∈ root.preorder)
    (hrecommended : isolated ∈ recommended f.kind count) : Transform.givesBack count = true := by
  have haround : f.kind = .overlappingAlternation ∨ f.kind = .backreferenceLoop →
      count.isPossessive = false := by
    intro hkind
    obtain ⟨count', target', hmem⟩ := h.loop_mem_above hkind
    rcases Node.mem_above ho hmem with hnil | ⟨hroot, -⟩
    · cases hnil
    · by_contra hpossessive
      rw [quantifier_unique hplaced hsolid hloop hroot] at hpossessive
      have := shielded_of_mem hmem (by simpa [Node.shields] using hpossessive)
      rw [h.shielded_eq_false hopen] at this
      cases this
  have hitself : f.kind = .nestedQuantifier ∨ f.kind = .emptyRepetition →
      Transform.givesBack count = true := by
    intro hkind
    obtain ⟨hspan, count', target', rfl, hunbounded, hpossessive⟩ := h.eq_quantifier hkind
    rw [quantifier_unique hplaced hsolid hloop (hspan ▸ Node.mem_preorder_of_occurrence ho)]
    simp [Transform.givesBack, hunbounded, hpossessive hopen]
  cases hkind : f.kind with
  | nestedQuantifier => exact hitself (.inl hkind)
  | emptyRepetition => exact hitself (.inr hkind)
  | overlappingAlternation =>
      have hunbounded : count.isUnbounded = true := by simpa [recommended, hkind] using hrecommended
      simp [Transform.givesBack, hunbounded, haround (.inl hkind)]
  | backreferenceLoop =>
      have hunbounded : count.isUnbounded = true := by simpa [recommended, hkind] using hrecommended
      simp [Transform.givesBack, hunbounded, haround (.inr hkind)]
  | adjacentQuantifiers => simp [recommended, hkind] at hrecommended

/-- A repetition whose target gives nothing back is not found to be nested without mitigation, nor
is one below it that has its span. -/
theorem not_nested_innerPossessive {s : Span} {base : List Node} {g : Finding}
    (hplaced : AllPlaced cs root) (hsolid : AllSolid root)
    (hloop : .quantifier s count target ∈ root.preorder)
    (hlazy : ∀ m ∈ target.preorder, m.isLazy = true → m.isUnbounded = false)
    (ho : (above, n) ∈ (innerPossessive.node s count target).occurrencesUnder base)
    (hg : Found ctx (around above) n g) (hopen : g.mitigated = false)
    (hkind : g.kind = .nestedQuantifier) : g.span ≠ s := by
  intro hspan
  rcases Node.root_or_below ho with rfl | ⟨-, c, hc, hn⟩
  · cases hg with
    | nested _ _ =>
        simp [Finding.of, openHeight_possessive ctx hlazy] at hopen
    | empty _ _ => simp [Finding.of] at hkind
  · obtain ⟨-, count', target', rfl, -⟩ := hg.eq_quantifier (.inl hkind)
    obtain rfl := List.mem_singleton.mp hc
    obtain ⟨k, hk, hkspan⟩ :=
      Transform.exists_span_of_mem_preorder (t := .possessive) (fun _ => rfl) hn
    have hwhole : AllPlaced cs (.quantifier s count target) ∧
        AllSolid (.quantifier s count target) :=
      ⟨fun m hm => hplaced m (Node.mem_preorder_trans hloop hm),
        fun m hm => hsolid m (Node.mem_preorder_trans hloop hm)⟩
    refine hwhole.1.span_ne hwhole.2 (by simp [Node.children]) hk ?_
    exact hkspan.trans hspan

/-- A remedy that works cures the pattern of the finding. -/
theorem cures_of_works {s : ParserSettings} {a : AnalysisSettings} {remedy : Remedy}
    (h : p.AcceptedBy s) (hf : f ∈ (p.analyze a).findings) (hopen : f.mitigated = false)
    (hloop : p.root.quantifierAt? f.loop = some (count, target))
    (hkind : f.kind ≠ .adjacentQuantifiers) (hrecommended : remedy ∈ recommended f.kind count)
    (hworks : remedy.Works f.kind count target) : remedy.Cures a p f count target := by
  intro g hg hgkind hgspan
  by_contra hgopen
  have hgopen : g.mitigated = false := by simpa using hgopen
  obtain ⟨hplaced, hsolid⟩ := h.placed
  have hmem := Node.mem_of_quantifierAt? hloop
  obtain ⟨above, n, ho, -, hown⟩ := Pattern.exists_of_mem_findings hf
  have hfound := mem_ownFindings_iff.mp hown
  obtain ⟨above', n', ho', hreached, hown'⟩ := Pattern.exists_of_mem_findings hg
  have hgfound := mem_ownFindings_iff.mp hown'
  rcases Transform.occurrence_node ho' hreached with ⟨old, r, base, -, hreplace, hr⟩ | hkept
  · have hnew : r = remedy.node f.loop count target := by
      simp only [Transform.substitute] at hreplace
      split at hreplace
      · split at hreplace
        · exact (Option.some.inj hreplace).symm
        · cases hreplace
      · cases hreplace
    subst hnew
    cases remedy with
    | innerPossessive =>
        obtain ⟨hnested, hlazy⟩ := hworks
        refine not_nested_innerPossessive hplaced hsolid hmem hlazy hr hgfound hgopen
          (hgkind.trans hnested) ?_
        rw [hgspan, (hfound.eq_quantifier (.inl hnested)).1]
    | possessive =>
        have := hgfound.not_in_shield hgopen hr
        rw [shields_possessive hworks] at this
        cases this
    | isolated =>
        have := hgfound.not_in_shield hgopen hr
        rw [shields_isolated (givesBack_of_recommended hplaced hsolid ho hfound hopen hmem
          hrecommended)] at this
        cases this
  · exact hfound.not_kept hplaced hsolid ho hgfound hgkind hgspan hkind hkept

end Remedy

/-! ### Patterns -/

namespace Pattern

variable {s : ParserSettings} {a : AnalysisSettings} {p : Pattern} {f : Finding} {count : Repeat}
  {target : Node} {r : Recommendation}

/-- Advice of an analysis for a finding that is not mitigated, about the repetition with the given
count and target. -/
structure Advises (p : Pattern) (a : AnalysisSettings) (f : Finding) (count : Repeat)
    (target : Node) (r : Recommendation) : Prop where
  finding : f ∈ (p.analyze a).findings
  pressing : f.mitigated = false
  loop : p.root.quantifierAt? f.loop = some (count, target)
  advice : r ∈ adviceFor p f count target

theorem exists_advises (hr : r ∈ (p.analyze a).recommendations) :
    ∃ f count target, p.Advises a f count target r := by
  have hr : r ∈ Hazard.advice p (p.analyze a).findings a.maxRecommendations := hr
  rcases mem_foldl_addAdvice (List.mem_of_mem_take hr) with hnil | ⟨f, hf, count, target, hloop, h⟩
  · cases hnil
  · obtain ⟨hf, hopen⟩ := List.mem_filter.mp (List.mem_mergeSort.mp hf)
    exact ⟨f, count, target, hf, by simpa using hopen, hloop, h⟩

/-- Every recommendation is advice for a finding that is not mitigated. If it has a replacement, that
is the text of a remedy for the repetition at its span; and if the remedy works, then the pattern with
the remedy in the place of the repetition has no such finding left. -/
theorem analyze_substitute (h : p.AcceptedBy s) (a : AnalysisSettings) :
    (∀ r ∈ (p.analyze a).recommendations, ∃ f count target, p.Advises a f count target r) ∧
    ∀ f count target r text, p.Advises a f count target r → r.replacement = some text →
      ∃ remedy ∈ Remedy.recommended f.kind count,
        r.span = f.loop ∧ r.message = remedy.message ∧
        (remedy.node f.loop count target).text? = some text ∧
        (remedy.Works f.kind count target → remedy.Cures a p f count target) := by
  refine ⟨fun r hr => exists_advises hr, fun f count target r text hadvises htext => ?_⟩
  obtain ⟨hkind, remedy, hrecommended, rfl⟩ :=
    Remedy.exists_of_mem_adviceFor hadvises.advice htext
  exact ⟨remedy, hrecommended, rfl, rfl, htext, Remedy.cures_of_works h hadvises.finding
    hadvises.pressing hadvises.loop hkind hrecommended⟩

theorem analyze_substitute_nested :
    ∃ p f count target r, parseBody {} "(a+)+b" "" '/' = .ok p ∧ p.Advises {} f count target r ∧
      r.replacement = some "(a++)+" ∧ Remedy.innerPossessive.Works f.kind count target ∧
      Remedy.innerPossessive.Cures {} p f count target := by
  let target : Node := .group ⟨0, 4⟩ { kind := .capturing, number := some 1 }
    (.quantifier ⟨1, 3⟩ ⟨1, none, .greedy⟩ (.letter 1 'a'))
  let f : Finding := .of .nestedQuantifier ⟨0, 5⟩ .high false 2 ⟨0, 5⟩
  let r : Recommendation := ⟨⟨0, 5⟩, "(a+)+", some "(a++)+", Remedy.innerPossessive.message⟩
  obtain ⟨p, hp, h⟩ := exists_of_map (x := parseBody {} "(a+)+b" "" '/')
    (f := fun p => ((p.analyze {}).findings, p.root.quantifierAt? ⟨0, 5⟩,
      (adviceFor p f ⟨1, none, .greedy⟩ target).head?))
    (b := ([f], some (⟨1, none, .greedy⟩, target), some r)) (by cbv)
  simp only [Prod.mk.injEq] at h
  obtain ⟨hfindings, hloop, hadvice⟩ := h
  have hadvises : p.Advises {} f ⟨1, none, .greedy⟩ target r :=
    ⟨by simp [hfindings], rfl, hloop, List.mem_of_head? hadvice⟩
  have hworks : Remedy.innerPossessive.Works f.kind ⟨1, none, .greedy⟩ target :=
    ⟨rfl, by decide⟩
  obtain ⟨remedy, hrecommended, -, hmessage, -, hcures⟩ :=
    (analyze_substitute (s := {}) (.inl ⟨_, _, _, hp⟩) {}).2 _ _ _ _ _ hadvises rfl
  -- The message tells which remedy it is.
  obtain rfl : remedy = .innerPossessive := by
    cases remedy with
    | innerPossessive => rfl
    | _ => exact absurd hmessage (by decide)
  exact ⟨p, f, _, target, r, hp, hadvises, rfl, hworks, hcures hworks⟩

/-- A run in which the first recommendation is for the only finding, and in which the pattern with the
remedy in place has that finding as before. -/
theorem exists_not_cures (body : String) (remedy : Remedy) (f : Finding) (count : Repeat)
    (target : Node) (r : Recommendation)
    (h : (parseBody {} body "" '/').map (fun p =>
      ((p.analyze {}).findings, p.root.quantifierAt? f.loop, (adviceFor p f count target).head?,
        (p.analyze {}).recommendations.head?,
        ((p.substitute f.loop (remedy.node f.loop count target)).analyze {}).findings)) =
      .ok ([f], some (count, target), some r, some r, [f]))
    (hopen : f.mitigated = false) :
    ∃ p, parseBody {} body "" '/' = .ok p ∧ p.Advises {} f count target r ∧
      r ∈ (p.analyze {}).recommendations ∧ ¬ remedy.Cures {} p f count target := by
  obtain ⟨p, hp, h⟩ := exists_of_map h
  simp only [Prod.mk.injEq] at h
  obtain ⟨hfindings, hloop, hadvice, hfirst, hafter⟩ := h
  have hf : f ∈ (p.analyze {}).findings := by simp [hfindings]
  refine ⟨p, hp, ⟨hf, hopen, hloop, List.mem_of_head? hadvice⟩, List.mem_of_head? hfirst, ?_⟩
  intro hcures
  have := hcures f (by simp [hafter]) rfl rfl
  rw [hopen] at this
  cases this

/-- Advice need not help. What is recommended for `(a?)*` is `(a?+)*`, which is an empty repetition as
well; and what is recommended for `(a+?)+`, whose inner repetition is lazy, is the same again. -/
theorem not_cures :
    (∃ p f count target r, parseBody {} "(a?)*b" "" '/' = .ok p ∧ p.Advises {} f count target r ∧
      r ∈ (p.analyze {}).recommendations ∧ r.replacement = some "(a?+)*" ∧
      r.message = Remedy.innerPossessive.message ∧ f.kind = .emptyRepetition ∧
      ¬ Remedy.innerPossessive.Cures {} p f count target) ∧
    ∃ p f count target r, parseBody {} "(a+?)+" "" '/' = .ok p ∧ p.Advises {} f count target r ∧
      r ∈ (p.analyze {}).recommendations ∧ r.replacement = some "(a+?)+" ∧
      r.message = Remedy.innerPossessive.message ∧ f.kind = .nestedQuantifier ∧
      ¬ Remedy.innerPossessive.Cures {} p f count target := by
  constructor
  · obtain ⟨p, hp, hadvises, hr, hcures⟩ := exists_not_cures "(a?)*b" .innerPossessive
      (.of .emptyRepetition ⟨0, 5⟩ .medium false 1 ⟨0, 5⟩) ⟨0, none, .greedy⟩
      (.group ⟨0, 4⟩ { kind := .capturing, number := some 1 }
        (.quantifier ⟨1, 3⟩ ⟨0, some 1, .greedy⟩ (.letter 1 'a')))
      ⟨⟨0, 5⟩, "(a?)*", some "(a?+)*", Remedy.innerPossessive.message⟩ (by cbv) rfl
    exact ⟨p, _, _, _, _, hp, hadvises, hr, rfl, rfl, rfl, hcures⟩
  · obtain ⟨p, hp, hadvises, hr, hcures⟩ := exists_not_cures "(a+?)+" .innerPossessive
      (.of .nestedQuantifier ⟨0, 6⟩ .high false 2 ⟨0, 6⟩) ⟨1, none, .greedy⟩
      (.group ⟨0, 5⟩ { kind := .capturing, number := some 1 }
        (.quantifier ⟨1, 4⟩ ⟨1, none, .lazy⟩ (.letter 1 'a')))
      ⟨⟨0, 6⟩, "(a+?)+", some "(a+?)+", Remedy.innerPossessive.message⟩ (by cbv) rfl
    exact ⟨p, _, _, _, _, hp, hadvises, hr, rfl, rfl, rfl, hcures⟩

end Pattern

end PatternLint
