import PatternLint.Hazard.Report
import PatternLint.Proofs.Tree
import PatternLint.Proofs.Walk

/-!
# What the search finds

The search goes over a tree once, with a guard, with what is around each node, and
with notes. None of this is needed to say what it finds. The profile of a node
depends on the node alone, and its notes on the node and the nodes above it:
`scan_yields` takes the traversal apart into these two. All findings are then a
list over the occurrences of nodes, and a statement about one kind of finding looks
at one kind of node.
-/

namespace PatternLint

namespace Node

/-- The nodes of a tree, each after those below it and with the nodes above it, of which the
innermost comes first; `above` are those above the tree. -/
def occurrencesUnder : Node → List Node → List (List Node × Node) := foldTree label
where
  /-- Labels a node and puts it above what is below it. -/
  label (n : Node) (below : List (List Node → List (List Node × Node))) (above : List Node) :
      List (List Node × Node) :=
    (below.flatMap fun list => list (n :: above)) ++ [(above, n)]

/-- The nodes of a tree with the nodes above them. -/
def occurrences (n : Node) : List (List Node × Node) := n.occurrencesUnder []

theorem occurrencesUnder_eq (n : Node) (above : List Node) :
    n.occurrencesUnder above =
      (n.children.flatMap fun c => c.occurrencesUnder (n :: above)) ++ [(above, n)] := by
  rw [occurrencesUnder, foldTree_eq, occurrencesUnder.label, List.flatMap_map]

theorem mem_occurrencesUnder {n : Node} {above : List Node} {o : List Node × Node} :
    o ∈ n.occurrencesUnder above ↔
      o = (above, n) ∨ ∃ c ∈ n.children, o ∈ c.occurrencesUnder (n :: above) := by
  rw [occurrencesUnder_eq]
  simp [or_comm]

theorem self_mem_occurrences (n : Node) : ([], n) ∈ n.occurrences :=
  mem_occurrencesUnder.mpr (.inl rfl)

/-- What occurs in a tree is a node of it. -/
theorem mem_preorder_of_occurrence {n m : Node} {above path : List Node}
    (h : (path, m) ∈ n.occurrencesUnder above) : m ∈ n.preorder := by
  induction n using children_induction generalizing above with
  | h n ih =>
      rcases mem_occurrencesUnder.mp h with heq | ⟨c, hc, hmem⟩
      · exact mem_preorder.mpr (.inl (congrArg Prod.snd heq))
      · exact mem_preorder.mpr (.inr ⟨c, hc, ih c hc hmem⟩)

/-- The nodes above the tree are above all that occurs in it. -/
theorem suffix_of_occurrence {n : Node} {above : List Node} {o : List Node × Node}
    (h : o ∈ n.occurrencesUnder above) : above <:+ o.1 := by
  induction n using children_induction generalizing above with
  | h n ih =>
      rcases mem_occurrencesUnder.mp h with rfl | ⟨c, hc, hmem⟩
      · exact List.suffix_refl _
      · exact (List.suffix_cons n above).trans (ih c hc hmem)

/-- What holds of a tree, and passes from a node to what is right below it, holds wherever a node
occurs. -/
theorem occurrences_induction {P : List Node → Node → Prop} {root : Node} (hroot : P [] root)
    (hchild : ∀ above n c, P above n → c ∈ n.children → P (n :: above) c) {above : List Node}
    {n : Node} (ho : (above, n) ∈ root.occurrences) : P above n := by
  have hunder : ∀ (root : Node) (base : List Node), P base root →
      (above, n) ∈ root.occurrencesUnder base → P above n := by
    intro root
    induction root using children_induction with
    | h root ih =>
        intro base hbase ho
        rcases mem_occurrencesUnder.mp ho with heq | ⟨c, hc, ho⟩
        · obtain ⟨rfl, rfl⟩ := Prod.mk.inj heq
          exact hbase
        · exact ih c hc (root :: base) (hchild base root c hbase hc) ho
  exact hunder root [] hroot ho

/-- Whether a node is a repetition that takes no turn at all. -/
def isNever : Node → Bool
  | .quantifier _ count _ => count.max == some 0
  | _ => false

end Node

namespace Hazard

/-- Whether the search goes on below the given nodes. -/
def reached (above : List Node) : Bool := above.all fun n => !n.isNever && !n.isClass

theorem reached_iff {above : List Node} :
    reached above = true ↔ ∀ q ∈ above, q.isNever = false ∧ q.isClass = false := by
  simp [reached]

/-- What is around the nodes below `n`. -/
def inside (env : Surroundings) : Node → Surroundings
  | .group _ head _ => env.inGroup head.kind
  | .quantifier s count target => env.inQuantifier s count target
  | _ => env

/-- What is around a node, by the nodes above it. -/
def around : List Node → Surroundings
  | [] => {}
  | n :: above => inside (around above) n

/-! ### Profiles -/

/-- The profile of an atom. -/
def atomProfile (ctx : Context) : Atom → Profile
  | .literal c _ caseless => .single (.single c caseless)
  | .dot dotAll => .single (dotSet dotAll)
  | .shorthand kind negated => .single (.shorthand kind negated)
  | .backref ref _ => ofWidth (ctx.scope.call {} (.group ref))
  | .subroutine target => ofWidth (ctx.scope.call {} target)
  | .empty | .range .. | .posix .. | .anchor .. | .inlineFlags _ | .verb .. | .callout _
  | .comment _ => .blank

mutual
/-- The profile of a node. -/
def profile (ctx : Context) : Node → Profile
  | .atom _ a => atomProfile ctx a
  | .sequence _ items => .sequence (profiles ctx items)
  | .alternation _ branches => .anyOf (profiles ctx branches)
  | .group _ head body => ofGroup head.kind (profile ctx body)
  | .quantifier _ count target =>
    if count.max = some 0 then .blank else ofQuantifier count (profile ctx target)
  | .charClass s negated caseless expr =>
    .single (Node.memberSet caseless (.charClass s negated caseless expr))
  | .classOp .. | .define .. => .blank
  | .conditional _ _ yes no => (profile ctx yes).or (optionalProfile ctx no)
/-- The profiles of several nodes. -/
def profiles (ctx : Context) : List Node → List Profile
  | [] => []
  | n :: ns => profile ctx n :: profiles ctx ns
/-- The profile of a node that may be missing. -/
def optionalProfile (ctx : Context) : Option Node → Profile
  | none => .blank
  | some n => profile ctx n
end

@[simp] theorem profiles_eq_map (ctx : Context) (ns : List Node) :
    profiles ctx ns = ns.map (profile ctx) := by
  induction ns with
  | nil => rfl
  | cons n ns ih => rw [profiles, ih, List.map_cons]

/-! ### Notes -/

/-- What is noted at an atom. -/
def atomNotes (ctx : Context) (env : Surroundings) (span : Span) : Atom → List Note
  | .backref ref _ =>
    (backreference ctx env span ref (ctx.scope.call {} (.group ref))).toList.map .finding
  | .subroutine _ => if env.inLoop then [.unclear] else []
  | _ => []

/-- What is noted at a node, besides what is noted below it. -/
def ownNotes (ctx : Context) (above : List Node) : Node → List Note
  | .atom s a => atomNotes ctx (around above) s a
  | .sequence _ items =>
    (adjacent (around above) (items.zip (items.map (profile ctx)))).map .finding
  | .alternation s branches =>
    (overlapping (around above) s (branches.map (profile ctx))).toList.map .finding
  | .quantifier s count target =>
    (if grows count (profile ctx target) then repetition (around above) s count (profile ctx target)
      else []).map .finding
  | .group .. | .charClass .. | .classOp .. | .conditional .. | .define .. => []

/-- What is noted in a tree. -/
def notesUnder (ctx : Context) (above : List Node) (n : Node) : List Note :=
  ((n.occurrencesUnder above).filter fun o => reached o.1).flatMap fun o => ownNotes ctx o.1 o.2

theorem notesUnder_of_not_reached {above : List Node} (ctx : Context) (n : Node)
    (h : reached above = false) : notesUnder ctx above n = [] := by
  have hnone : (n.occurrencesUnder above).filter (fun o => reached o.1) = [] := by
    refine List.filter_eq_nil_iff.mpr fun o ho => ?_
    obtain ⟨path, hpath⟩ := Node.suffix_of_occurrence ho
    rw [← hpath, reached, List.all_append]
    simp only [reached] at h
    simp [h]
  rw [notesUnder, hnone, List.flatMap_nil]

/-- The notes in a tree that is reached are those below its root and then those at the root. -/
theorem notesUnder_eq {above : List Node} (ctx : Context) (n : Node) (h : reached above = true) :
    notesUnder ctx above n =
      (n.children.flatMap fun c => notesUnder ctx (n :: above) c) ++ ownNotes ctx above n := by
  simp only [notesUnder]
  rw [Node.occurrencesUnder_eq, List.filter_append, List.flatMap_append, List.filter_flatMap,
    List.flatMap_assoc]
  simp [h]

theorem reached_cons {n : Node} {above : List Node} (h : reached above = true)
    (hnever : n.isNever = false) (hclass : n.isClass = false) : reached (n :: above) = true := by
  rw [reached, List.all_cons, hnever, hclass]
  exact h

/-! ### The traversal -/

open Walk

variable {ctx : Context}

theorem scanAtom_yields (ctx : Context) (env : Surroundings) (s : Span) (a : Atom) (room : Nat) :
    (scanAtom ctx s env a).Yields room (atomProfile ctx a) (atomNotes ctx env s a) := by
  cases a with
  | backref ref caseless =>
      exact (yields_noteAll _ room).map fun _ => ofWidth (ctx.scope.call {} (.group ref))
  | subroutine target =>
      by_cases h : env.inLoop = true
      · simp only [scanAtom, atomNotes, h, if_true]
        exact (yields_noteAll [Note.unclear] room).map fun _ => ofWidth (ctx.scope.call {} target)
      · simp only [scanAtom, atomNotes, h]
        exact yields_pure _ _
  | _ => exact yields_pure _ _

section Below

variable {env : Surroundings} {found : Node → List Note} {room : Nat}

theorem scanAll_yields {ns : List Node}
    (h : ∀ n ∈ ns, (scan ctx n env).Yields room (profile ctx n) (found n)) :
    (scanAll ctx ns env).Yields room (ns.map (profile ctx)) (ns.flatMap found) := by
  induction ns with
  | nil => exact yields_pure _ _
  | cons n ns ih =>
      rw [scanAll, List.flatMap_cons]
      refine (h n (by simp)).bind ?_
      exact (ih fun m hm => h m (by simp [hm])).map (profile ctx n :: ·)

theorem scanCondition_yields {test : Condition Node}
    (h : ∀ n ∈ Node.conditionChildren test,
      (scan ctx n env).Yields room (profile ctx n) (found n)) :
    (scanCondition ctx test env).Yields room () ((Node.conditionChildren test).flatMap found) := by
  cases test with
  | assertion a =>
      rw [scanCondition, Node.conditionChildren, List.flatMap_singleton]
      exact (h a (by simp [Node.conditionChildren])).map fun _ => ()
  | _ => exact yields_pure _ _

theorem scanOptional_yields {no : Option Node}
    (h : ∀ n ∈ no, (scan ctx n env).Yields room (profile ctx n) (found n)) :
    (scanOptional ctx no env).Yields room (optionalProfile ctx no) (no.toList.flatMap found) := by
  cases no with
  | none => exact yields_pure _ _
  | some n =>
      rw [Option.toList_some, List.flatMap_singleton]
      exact h n rfl

end Below

/-- Where there is room for a tree, the search in it comes to its profile and its notes. -/
theorem scan_yields (ctx : Context) (n : Node) (above : List Node) (h : reached above = true) :
    (scan ctx n (around above)).Yields n.height (profile ctx n) (notesUnder ctx above n) := by
  induction n using Node.children_induction generalizing above with
  | h n ih =>
      obtain ⟨room, hroom⟩ : ∃ room, n.height = room + 1 := ⟨_, n.height_eq⟩
      rw [hroom, notesUnder_eq ctx n h]
      have hbelow : reached (n :: above) = true → ∀ c ∈ n.children,
          (scan ctx c (around (n :: above))).Yields room (profile ctx c)
            (notesUnder ctx (n :: above) c) := by
        intro hn c hc
        have := Node.height_child hc
        exact (ih c hc (n :: above) hn).mono (by omega)
      cases n with
      | atom s a => exact (scanAtom_yields ctx (around above) s a room).visit s.start
      | sequence s items =>
          have hc := hbelow (reached_cons h rfl rfl)
          rw [scan, profile, profiles_eq_map]
          refine Yields.visit ((scanAll_yields hc).bind ?_) s.start
          exact (yields_noteAll _ room).map fun _ => Profile.sequence (items.map (profile ctx))
      | alternation s branches =>
          have hc := hbelow (reached_cons h rfl rfl)
          rw [scan, profile, profiles_eq_map]
          refine Yields.visit ((scanAll_yields hc).bind ?_) s.start
          exact (yields_noteAll _ room).map fun _ => Profile.anyOf (branches.map (profile ctx))
      | group s head body =>
          have hc := hbelow (reached_cons h rfl rfl) body (by simp [Node.children])
          rw [scan, profile, Node.children, List.flatMap_singleton, ownNotes, List.append_nil]
          exact (hc.map (ofGroup head.kind)).visit s.start
      | quantifier s count target =>
          rw [scan, profile]
          by_cases hmax : count.max = some 0
          · -- Below a repetition that takes no turn there are no notes, nor does it grow.
            have hstop : reached (.quantifier s count target :: above) = false := by
              simp [reached, Node.isNever, hmax]
            have hgrows : grows count (profile ctx target) = false := by
              simp [grows, Repeat.isUnbounded, hmax]
            simp only [if_pos hmax, Node.children, List.flatMap_singleton, ownNotes, hgrows,
              notesUnder_of_not_reached ctx target hstop]
            exact (yields_pure _ room).visit s.start
          · have hnever : (Node.quantifier s count target).isNever = false := by
              simpa [Node.isNever] using hmax
            have hc := hbelow (reached_cons h hnever rfl) target (by simp [Node.children])
            simp only [if_neg hmax, Node.children, List.flatMap_singleton, ownNotes]
            refine Yields.visit (hc.bind ?_) s.start
            exact (yields_noteAll _ room).map fun _ => ofQuantifier count (profile ctx target)
      | charClass s negated caseless expr =>
          have hstop : reached (.charClass s negated caseless expr :: above) = false := by
            simp [reached, Node.isClass]
          simp only [scan, Node.children, List.flatMap_singleton, ownNotes,
            notesUnder_of_not_reached ctx expr hstop]
          exact (yields_pure _ room).visit s.start
      | classOp s op operands =>
          have hstop : reached (.classOp s op operands :: above) = false := by
            simp [reached, Node.isClass]
          have hnone : (operands.flatMap fun c =>
              notesUnder ctx (.classOp s op operands :: above) c) = [] := by
            simp [notesUnder_of_not_reached ctx _ hstop]
          simp only [scan, Node.children, hnone, ownNotes]
          exact (yields_pure _ room).visit s.start
      | conditional s test yes no =>
          have hc := hbelow (reached_cons h rfl rfl)
          rw [scan, profile, ownNotes, List.append_nil, Node.children, List.flatMap_append,
            List.flatMap_cons]
          refine Yields.visit ?_ s.start
          refine (scanCondition_yields fun c hc' => hc c (by simp [Node.children, hc'])).bind ?_
          refine (hc yes (by simp [Node.children])).bind ?_
          refine (scanOptional_yields fun c hc' => ?_).map ((profile ctx yes).or ·)
          exact hc c (by simp [Node.children, Option.mem_def.mp hc'])
      | define s body =>
          have hc := hbelow (reached_cons h rfl rfl) body (by simp [Node.children])
          rw [scan, profile, Node.children, List.flatMap_singleton, ownNotes, List.append_nil]
          exact (hc.map fun _ => Profile.blank).visit s.start

end Hazard

/-! ### Findings -/

/-- What is found at a node, besides what is found below it. -/
def Hazard.ownFindings (ctx : Hazard.Context) (above : List Node) (n : Node) : List Finding :=
  (Hazard.ownNotes ctx above n).filterMap Hazard.Note.finding?

theorem Hazard.filterMap_finding (fs : List Finding) :
    (fs.map Hazard.Note.finding).filterMap Hazard.Note.finding? = fs := by
  rw [List.filterMap_map]
  exact List.filterMap_some

namespace Pattern

open Hazard

/-- What the search knows about a pattern. -/
def searchContext (p : Pattern) : Hazard.Context := .new p.root p.names

/-- The findings of an analysis that gets to the bottom of the tree, and that lists them all, are
those at the nodes that the search comes to. -/
theorem findings_perm {s : AnalysisSettings} {p : Pattern} (hdepth : p.root.height ≤ s.depthLimit)
    (hlists : s.reportMitigated = true) :
    (p.analyze s).findings.Perm ((p.root.occurrences.filter fun o => reached o.1).flatMap
      fun o => ownFindings p.searchContext o.1 o.2) := by
  have hfound := scan_yields p.searchContext p.root [] rfl ⟨s.depthLimit, 0, false⟩
    (by simpa using hdepth)
  have hnotes : (scan p.searchContext p.root {} ⟨s.depthLimit, 0, false⟩).notes =
      notesUnder p.searchContext [] p.root := congrArg Outcome.notes hfound
  have hall : (notesUnder p.searchContext [] p.root).filterMap Note.finding? =
      (p.root.occurrences.filter fun o => reached o.1).flatMap
        fun o => ownFindings p.searchContext o.1 o.2 := by
    rw [notesUnder, List.filterMap_flatMap]
    rfl
  rw [← hall, ← hnotes]
  refine (List.mergeSort_perm _ _).trans (.of_eq ?_)
  exact List.filter_eq_self.mpr fun f _ => by simp [hlists]

theorem mem_findings {s : AnalysisSettings} {p : Pattern} (hdepth : p.root.height ≤ s.depthLimit)
    (hlists : s.reportMitigated = true) {above : List Node} {n : Node} {f : Finding}
    (ho : (above, n) ∈ p.root.occurrences) (hreached : reached above = true)
    (hf : f ∈ ownFindings p.searchContext above n) : f ∈ (p.analyze s).findings := by
  rw [(findings_perm hdepth hlists).mem_iff, List.mem_flatMap]
  exact ⟨(above, n), List.mem_filter.mpr ⟨ho, hreached⟩, hf⟩

/-- The severity of an analysis that gets to the bottom of the tree: the search is complete unless a
note says that something could not be told. -/
theorem severity_eq_overall {s : AnalysisSettings} {p : Pattern}
    (hdepth : p.root.height ≤ s.depthLimit) :
    (p.analyze s).severity =
      overall (!(notesUnder p.searchContext [] p.root).any Note.isUnclear)
        (p.analyze s).findings := by
  have hfound := scan_yields p.searchContext p.root [] rfl ⟨s.depthLimit, 0, false⟩
    (by simpa using hdepth)
  show (summarize s p (scan p.searchContext p.root (around []) _)).severity =
    overall _ (summarize s p (scan p.searchContext p.root (around []) _)).findings
  rw [hfound]
  simp only [summarize, Except.isOk, Except.toBool, Bool.not_false, Bool.true_and]

end Pattern

end PatternLint
