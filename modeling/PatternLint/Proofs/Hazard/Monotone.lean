import Mathlib
import PatternLint.Proofs.Hazard.Limit
import PatternLint.Proofs.Hazard.Rules
import PatternLint.Proofs.Hazard.Width

/-!
# Repetition never lowers a severity

A pattern is compared with the same pattern in a group that is repeated without
bound. The search goes over both in step, and what it knows differs in few things:
there is one more repetition around everything, outside of all others; groups count
as repeated that did not before; and an alternation may be all that is repeated, but
only where no repetition was around it, and there nothing is said about branches.
The profiles are the same, as long as nothing calls the whole pattern.

So every finding in the first pattern is made in the second too, and it is at least
as bad there.
-/

namespace PatternLint

open Hazard

namespace Node

/-- A node in a group of its own, repeated any number of times. -/
def starred (outer inner : Span) (n : Node) : Node :=
  .quantifier outer ⟨0, none, .greedy⟩ (.group inner { kind := .nonCapturing } n)

/-- Whether a node is a call. -/
def isSubroutine : Node → Bool
  | .atom _ (.subroutine _) => true
  | _ => false

theorem height_starred (outer inner : Span) (n : Node) :
    (n.starred outer inner).height = n.height + 2 := by
  rw [starred, height_eq, children, List.map_singleton, height_eq]
  simp [children]

theorem preorder_starred (outer inner : Span) (n : Node) :
    (n.starred outer inner).preorder =
      n.starred outer inner :: .group inner { kind := .nonCapturing } n :: n.preorder := by
  rw [starred, preorder_eq, children, List.flatMap_singleton, preorder_eq, children,
    List.flatMap_singleton]

theorem numberedGroups_starred (outer inner : Span) (n : Node) :
    (n.starred outer inner).numberedGroups = n.numberedGroups := by
  rw [numberedGroups, preorder_starred]
  rfl

/-- What is above a tree is above all that occurs in it. -/
theorem mem_occurrencesUnder_append {n m : Node} {above path : List Node} (base : List Node)
    (h : (path, m) ∈ n.occurrencesUnder above) :
    (path ++ base, m) ∈ n.occurrencesUnder (above ++ base) := by
  induction n using children_induction generalizing above with
  | h n ih =>
      rcases mem_occurrencesUnder.mp h with heq | ⟨c, hc, hmem⟩
      · obtain ⟨rfl, rfl⟩ := Prod.mk.inj heq
        exact mem_occurrencesUnder.mpr (.inl rfl)
      · exact mem_occurrencesUnder.mpr (.inr ⟨c, hc, ih c hc hmem⟩)

theorem mem_occurrences_starred {n m : Node} {path : List Node} (outer inner : Span)
    (h : (path, m) ∈ n.occurrences) :
    (path ++ [.group inner { kind := .nonCapturing } n, n.starred outer inner], m) ∈
      (n.starred outer inner).occurrences := by
  have hin := mem_occurrencesUnder_append
    [.group inner { kind := .nonCapturing } n, n.starred outer inner] h
  refine mem_occurrencesUnder.mpr (.inr ⟨_, List.mem_singleton.mpr rfl, ?_⟩)
  exact mem_occurrencesUnder.mpr (.inr ⟨n, List.mem_singleton.mpr rfl, hin⟩)

/-! ### Widths without calls -/

/-- Without calls a width does not depend on the width of the whole pattern. -/
theorem widthIn_congr {call call' : Active → CallTarget → Width}
    (hcall : ∀ a ref, call' a (.group ref) = call a (.group ref)) {n : Node}
    (hn : ∀ m ∈ n.preorder, m.isSubroutine = false) (a : Active) :
    n.widthIn call' a = n.widthIn call a := by
  induction n using children_induction generalizing a with
  | h n ih =>
      have hbelow : ∀ c ∈ n.children, ∀ a, c.widthIn call' a = c.widthIn call a := fun c hc a =>
        ih c hc (forall_preorder_child hn hc) a
      have hall : ∀ ns : List Node, (∀ c ∈ ns, c ∈ n.children) →
          widthsIn call' ns a = widthsIn call ns a := by
        intro ns hns
        rw [widthsIn_eq_map, widthsIn_eq_map]
        exact List.map_congr_left fun c hc => hbelow c (hns c hc) a
      cases n with
      | atom s x =>
          cases x with
          | backref ref caseless => exact hcall a ref
          | subroutine target => cases hn _ (self_mem_preorder _)
          | shorthand kind negated => cases kind <;> rfl
          | _ => rfl
      | sequence s items => rw [widthIn, widthIn, hall items fun c hc => hc]
      | alternation s branches => rw [widthIn, widthIn, hall branches fun c hc => hc]
      | group s head body =>
          have hbody : body.widthIn call' = body.widthIn call :=
            funext (hbelow body (by simp [children]))
          rw [widthIn, widthIn, hbody]
      | quantifier s count target => rw [widthIn, widthIn, hbelow target (by simp [children])]
      | charClass s negated caseless expr => rfl
      | classOp s op operands => rfl
      | conditional s test yes no =>
          rw [widthIn, widthIn, hbelow yes (by simp [children])]
          cases no with
          | none => rfl
          | some m => rw [optionalWidthIn, optionalWidthIn, hbelow m (by simp [children])]
      | define s body => rfl

end Node

/-- Without calls in groups the width of a reference depends on the groups and their names alone. -/
theorem Scope.callWithin_congr {s s' : Scope} (hgroups : s'.groups = s.groups)
    (hnames : s'.names = s.names)
    (hcalls : ∀ g ∈ s.groups, ∀ m ∈ g.body.preorder, m.isSubroutine = false) (fuel : Nat)
    (a : Active) (ref : GroupRef) :
    s'.callWithin fuel a (.group ref) = s.callWithin fuel a (.group ref) := by
  induction fuel generalizing a ref with
  | zero => rfl
  | succ fuel ih =>
      have hnumber : ∀ a k, s'.numberWidth (s'.callWithin fuel) a k =
          s.numberWidth (s.callWithin fuel) a k := by
        intro a k
        rw [numberWidth, numberWidth, group?, group?, hgroups]
        cases hfound : s.groups.find? fun g => g.number == k with
        | none => rfl
        | some g =>
            have hbody : g.body.widthIn (s'.callWithin fuel) = g.body.widthIn (s.callWithin fuel) :=
              funext (Node.widthIn_congr ih (hcalls g (List.mem_of_find?_eq_some hfound)))
            simp only [hbody]
      cases ref with
      | number k => exact hnumber a k
      | relative i k => exact hnumber a k
      | name name =>
          have hfun : s'.numberWidth (s'.callWithin fuel) a = s.numberWidth (s.callWithin fuel) a :=
            funext (hnumber a)
          have hnumbers : s'.numbersOf name = s.numbersOf name := by
            rw [numbersOf, numbersOf, hnames]
          simp only [callWithin, hnumbers, hfun]

/-! ### Contexts -/

namespace Hazard

variable {ctx ctx' : Context}

/-- Without calls a profile depends on the width of references alone. -/
theorem profile_congr
    (hcall : ∀ ref, ctx'.scope.call {} (.group ref) = ctx.scope.call {} (.group ref)) {n : Node}
    (hn : ∀ m ∈ n.preorder, m.isSubroutine = false) : profile ctx' n = profile ctx n := by
  induction n using Node.children_induction with
  | h n ih =>
      have hbelow : ∀ c ∈ n.children, profile ctx' c = profile ctx c := fun c hc =>
        ih c hc (Node.forall_preorder_child hn hc)
      cases n with
      | atom s a =>
          cases a with
          | backref ref caseless => rw [profile, profile, atomProfile, atomProfile, hcall]
          | subroutine target => cases hn _ (Node.self_mem_preorder _)
          | _ => rfl
      | sequence s items =>
          rw [profile, profile, profiles_eq_map, profiles_eq_map]
          exact congrArg Profile.sequence (List.map_congr_left hbelow)
      | alternation s branches =>
          rw [profile, profile, profiles_eq_map, profiles_eq_map]
          exact congrArg Profile.anyOf (List.map_congr_left hbelow)
      | group s head body => rw [profile, profile, hbelow body (by simp [Node.children])]
      | quantifier s count target =>
          rw [profile, profile, hbelow target (by simp [Node.children])]
      | charClass s negated caseless expr => rfl
      | classOp s op operands => rfl
      | conditional s test yes no =>
          rw [profile, profile, hbelow yes (by simp [Node.children])]
          cases no with
          | none => rfl
          | some m =>
              rw [optionalProfile, optionalProfile, hbelow m (by simp [Node.children])]
      | define s body => rfl

/-- What is repeated somewhere is repeated under a repetition too. -/
theorem repeatedGroups_outer {n : Node} {k : Nat} {outer : Bool}
    (h : k ∈ Node.foldTree Node.repeatedGroups.collect n outer) :
    k ∈ Node.foldTree Node.repeatedGroups.collect n true := by
  induction n using Node.children_induction generalizing outer with
  | h n ih =>
      rw [Node.foldTree_eq, Node.repeatedGroups.collect, List.flatMap_map, List.mem_append] at h ⊢
      rw [Bool.true_or, if_pos rfl]
      rcases h with h | h
      · split at h
        · exact .inl h
        · cases h
      · obtain ⟨c, hc, hk⟩ := List.mem_flatMap.mp h
        exact .inr (List.mem_flatMap.mpr ⟨c, hc, ih c hc hk⟩)

theorem repeatedGroups_starred {n : Node} {k : Nat} (outer inner : Span)
    (h : k ∈ n.repeatedGroups) : k ∈ (n.starred outer inner).repeatedGroups := by
  have hinner : (n.starred outer inner).repeatedGroups =
      Node.foldTree Node.repeatedGroups.collect n true := by
    rw [Node.repeatedGroups, Node.starred, Node.foldTree_eq, Node.children, List.map_singleton,
      Node.foldTree_eq, Node.children, List.map_singleton]
    simp [Node.repeatedGroups.collect, Node.number?, Node.repeats, Repeat.allows]
  rw [hinner]
  exact repeatedGroups_outer h

/-! ### Surroundings -/

/-- Surroundings with one more repetition, outside of all others. -/
structure Surroundings.Within (env env' : Surroundings) (t : Turning) : Prop where
  repeats : env'.repeats = env.repeats ++ [t]
  shielded : env'.shielded = env.shielded
  alternation : env.repeats ≠ [] → env'.repeatedAlternation = env.repeatedAlternation

variable {env env' : Surroundings} {t : Turning}

theorem Surroundings.Within.inside (h : env.Within env' t) (n : Node) :
    (Hazard.inside env n).Within (Hazard.inside env' n) t := by
  cases n with
  | group s head body =>
      refine ⟨h.repeats, ?_, h.alternation⟩
      simp only [Hazard.inside, Surroundings.inGroup, h.shielded]
  | quantifier s count target =>
      simp only [Hazard.inside, Surroundings.inQuantifier, h.shielded]
      split
      · exact ⟨by simp [h.repeats], rfl, fun _ => rfl⟩
      · exact ⟨h.repeats, rfl, h.alternation⟩
  | _ => exact h

theorem Surroundings.Within.around {base : List Node} (h : ({} : Surroundings).Within
    (Hazard.around base) t) (above : List Node) :
    (Hazard.around above).Within (Hazard.around (above ++ base)) t := by
  induction above with
  | nil => exact h
  | cons n above ih => exact ih.inside n

theorem Surroundings.Within.inLoop (h : env.Within env' t) (ht : t.isUnbounded = true) :
    env'.inLoop = true := by
  refine decide_eq_true ?_
  rw [Surroundings.loopDepth, h.repeats, List.filter_append, List.length_append]
  simp [ht]

theorem Surroundings.Within.innermostLoop? {loop : Span} (h : env.Within env' t)
    (hloop : env.innermostLoop? = some loop) : env'.innermostLoop? = some loop := by
  obtain ⟨turning, hfind, rfl⟩ := Option.map_eq_some_iff.mp hloop
  rw [Surroundings.innermostLoop?, h.repeats, List.find?_append, hfind]
  rfl

/-! ### Findings -/

theorem level_of_le {kind : HazardKind} {span : Span} {severity severity' : Severity}
    {mitigated : Bool} {height height' : Nat} {loop loop' : Span}
    (h : severity.level ≤ severity'.level) :
    (Finding.of kind span severity mitigated height loop).severity.level ≤
      (Finding.of kind span severity' mitigated height' loop').severity.level := by
  cases mitigated with
  | false => exact h
  | true =>
      show (severity.reduce Finding.relief).level ≤ (severity'.reduce Finding.relief).level
      rw [Severity.level_reduce, Severity.level_reduce]
      omega

theorem branchSeverity?_inLoop {inLoop long direct : Bool} {severity : Severity}
    (h : branchSeverity? inLoop long direct = some severity) :
    ∃ severity', branchSeverity? true long direct = some severity' ∧
      severity.level ≤ severity'.level := by
  cases inLoop <;> cases long <;> cases direct <;> cases h <;> exact ⟨_, rfl, by decide⟩

/-- What is found at a node is found there with one more loop around, and is at least as bad. -/
theorem Found.within {n : Node} {f : Finding} (h : Found ctx env n f) (henv : env.Within env' t)
    (ht : t.isUnbounded = true) (hprofile : ∀ c ∈ n.children, profile ctx' c = profile ctx c)
    (hcall : ∀ ref, ctx'.scope.call {} (.group ref) = ctx.scope.call {} (.group ref))
    (hrepeated : ∀ ref, ctx.leadsToRepeated ref = true → ctx'.leadsToRepeated ref = true) :
    ∃ f', Found ctx' env' n f' ∧ f.severity.level ≤ f'.severity.level := by
  have hloop := henv.inLoop ht
  cases h with
  | @nested s count target hgrows hheight =>
      have htarget := hprofile target (by simp [Node.children])
      rw [← htarget] at hgrows hheight ⊢
      refine ⟨_, .nested hgrows hheight, ?_⟩
      rw [henv.shielded]
  | @empty s count target hgrows hnullable =>
      have htarget := hprofile target (by simp [Node.children])
      rw [← htarget] at hgrows hnullable ⊢
      refine ⟨_, .empty hgrows hnullable, ?_⟩
      rw [henv.shielded]
  | @adjacent s before after item next loop count hitem hconsumes hnext =>
      have hitem' := hprofile item (by simp [Node.children])
      have hafter : (after.map fun n => (n, profile ctx' n)) =
          after.map fun n => (n, profile ctx n) :=
        List.map_congr_left fun c hc => by rw [hprofile c (by simp [Node.children, hc])]
      rw [← hitem'] at hconsumes hnext
      rw [← hafter] at hnext
      refine ⟨_, .adjacent hitem hconsumes hnext, ?_⟩
      rw [henv.shielded, hloop]
      refine level_of_le ?_
      cases env.inLoop <;> decide
  | @overlapping s branches turning outer severity hrepeats hoverlap hseverity =>
      have hbranches : branches.map (profile ctx') = branches.map (profile ctx) :=
        List.map_congr_left hprofile
      obtain ⟨severity', hseverity', hle⟩ := branchSeverity?_inLoop hseverity
      rw [← hbranches] at hoverlap
      rw [← hloop, ← henv.alternation (by simp [hrepeats])] at hseverity'
      have hrepeats' : env'.repeats = turning :: (outer ++ [t]) := by
        rw [henv.repeats, hrepeats, List.cons_append]
      refine ⟨_, .overlapping hrepeats' hoverlap hseverity', ?_⟩
      rw [henv.shielded]
      exact level_of_le hle
  | @backreference s ref caseless loop hinner hleads =>
      refine ⟨_, .backreference (henv.innermostLoop? hinner) (hrepeated ref hleads), ?_⟩
      rw [hcall, henv.shielded]
      exact level_of_le (Nat.le_refl _)

/-- Only calls leave something unclear. -/
theorem isUnclear_ownNotes {above : List Node} {n : Node} (hn : n.isSubroutine = false) :
    ∀ note ∈ ownNotes ctx above n, note.isUnclear = false := by
  have hfindings : ∀ fs : List Finding, ∀ note ∈ fs.map Note.finding, note.isUnclear = false := by
    intro fs note hnote
    obtain ⟨f, -, rfl⟩ := List.mem_map.mp hnote
    rfl
  intro note hnote
  cases n with
  | atom s a =>
      cases a with
      | backref ref caseless => exact hfindings _ note hnote
      | subroutine target => cases hn
      | _ => cases hnote
  | sequence s items => exact hfindings _ note hnote
  | alternation s branches => exact hfindings _ note hnote
  | quantifier s count target => exact hfindings _ note hnote
  | _ => cases hnote

end Hazard

/-! ### Reports -/

namespace Pattern

variable {s : AnalysisSettings} {p : Pattern}

/-- A search that gets to the bottom of a tree without calls is complete. -/
theorem severity_eq_worst (hdepth : p.root.height ≤ s.depthLimit)
    (hcalls : ∀ n ∈ p.root.preorder, n.isSubroutine = false) :
    (p.analyze s).severity = worst (p.analyze s).findings := by
  have hclear : (notesUnder p.searchContext [] p.root).any Note.isUnclear = false := by
    rw [List.any_eq_false]
    intro note hnote
    obtain ⟨⟨above, n⟩, ho, hown⟩ := List.mem_flatMap.mp hnote
    have hn := hcalls n (Node.mem_preorder_of_occurrence (List.mem_filter.mp ho).1)
    simp [isUnclear_ownNotes hn note hown]
  have hcomplete := severity_eq_overall hdepth
  rw [hclear] at hcomplete
  exact hcomplete

/-- The pattern in a group that is repeated any number of times. -/
def starred (p : Pattern) (outer inner : Span) : Pattern :=
  { p with root := p.root.starred outer inner }

theorem call_starred (hcalls : ∀ n ∈ p.root.preorder, n.isSubroutine = false)
    (outer inner : Span) (ref : GroupRef) :
    (p.starred outer inner).searchContext.scope.call {} (.group ref) =
      p.searchContext.scope.call {} (.group ref) := by
  have hgroups : (p.starred outer inner).searchContext.scope.groups =
      p.searchContext.scope.groups := Node.numberedGroups_starred outer inner p.root
  rw [Scope.call, Scope.call, hgroups]
  refine Scope.callWithin_congr hgroups rfl ?_ _ _ ref
  intro g hg m hm
  obtain ⟨n, hn, hgroup⟩ := List.mem_filterMap.mp hg
  cases n with
  | group s head body =>
      obtain ⟨k, -, rfl⟩ := Option.map_eq_some_iff.mp hgroup
      have hbody : body ∈ (Node.group s head body).children := by simp [Node.children]
      exact hcalls m (Node.mem_preorder_trans hn (Node.mem_preorder.mpr (.inr ⟨body, hbody, hm⟩)))
  | _ => cases hgroup

theorem leadsToRepeated_starred (outer inner : Span) {ref : GroupRef}
    (h : p.searchContext.leadsToRepeated ref = true) :
    (p.starred outer inner).searchContext.leadsToRepeated ref = true := by
  have hmem : ∀ k, p.searchContext.repeatedGroups.contains k = true →
      (p.starred outer inner).searchContext.repeatedGroups.contains k = true := by
    intro k hk
    rw [List.contains_iff_mem] at hk ⊢
    exact repeatedGroups_starred outer inner hk
  cases ref with
  | number k => exact hmem k h
  | relative i k => exact hmem k h
  | name name =>
      obtain ⟨k, hk, hcontains⟩ := List.any_eq_true.mp h
      exact List.any_eq_true.mpr ⟨k, hk, hmem k hcontains⟩

theorem within_starred (p : Pattern) (outer inner : Span) (above : List Node) :
    (around above).Within (around (above ++
      [.group inner { kind := .nonCapturing } p.root, p.root.starred outer inner]))
      ⟨outer, none⟩ :=
  Surroundings.Within.around ⟨rfl, rfl, fun h => absurd rfl h⟩ above

theorem reached_starred {above : List Node} (outer inner : Span) (n : Node)
    (h : reached above = true) :
    reached (above ++ [.group inner { kind := .nonCapturing } n, n.starred outer inner]) = true := by
  rw [reached, List.all_append, Bool.and_eq_true]
  exact ⟨h, rfl⟩

section Starred

variable {outer inner : Span}

/-- Each finding in a pattern without calls has one in the repeated pattern that is at least as
bad. -/
theorem exists_finding_starred {f : Finding}
    (hdepth : p.root.height + 2 ≤ s.depthLimit) (hlists : s.reportMitigated = true)
    (hcalls : ∀ n ∈ p.root.preorder, n.isSubroutine = false)
    (hf : f ∈ (p.analyze s).findings) :
    ∃ f' ∈ ((p.starred outer inner).analyze s).findings,
      f.severity.level ≤ f'.severity.level := by
  obtain ⟨above, n, ho, hreached, hown⟩ := exists_of_mem_findings hf
  have hn := Node.mem_preorder_of_occurrence ho
  have hcall := call_starred hcalls outer inner
  have hprofile : ∀ c ∈ n.children,
      profile (p.starred outer inner).searchContext c = profile p.searchContext c := by
    intro c hc
    refine profile_congr hcall fun m hm => hcalls m ?_
    exact Node.mem_preorder_trans hn (Node.mem_preorder.mpr (.inr ⟨c, hc, hm⟩))
  obtain ⟨f', hfound, hle⟩ := (mem_ownFindings_iff.mp hown).within
    (within_starred p outer inner above) rfl hprofile hcall
    fun _ => leadsToRepeated_starred outer inner
  have hheight : (p.starred outer inner).root.height ≤ s.depthLimit := by
    rw [starred, Node.height_starred]
    exact hdepth
  refine ⟨f', mem_findings hheight hlists (Node.mem_occurrences_starred outer inner ho)
    (reached_starred outer inner p.root hreached) (mem_ownFindings_iff.mpr hfound), hle⟩

theorem isSubroutine_starred (hcalls : ∀ n ∈ p.root.preorder, n.isSubroutine = false) :
    ∀ n ∈ (p.starred outer inner).root.preorder, n.isSubroutine = false := by
  intro n hn
  rw [starred, Node.preorder_starred] at hn
  rcases List.mem_cons.mp hn with rfl | hn
  · rfl
  · rcases List.mem_cons.mp hn with rfl | hn
    · rfl
    · exact hcalls n hn

end Starred

variable {body modifiers : String} {delimiter : Char}

/-- A pattern without calls, read with the default settings, has a known severity, and so it has in
a group that is repeated any number of times. It is at least as bad there, whatever the spans of the
group and the repetition. -/
theorem analyze_starred (h : parseBody {} body modifiers delimiter = .ok p)
    (hcalls : ∀ n ∈ p.root.preorder, n.isSubroutine = false) (outer inner : Span) :
    (p.analyze {}).severity ≠ .unknown ∧ ((p.starred outer inner).analyze {}).severity ≠ .unknown ∧
      ((p.starred outer inner).analyze {}).severity.atLeast (p.analyze {}).severity = true := by
  have hdepth : p.root.height + 2 ≤ ({} : AnalysisSettings).depthLimit := by
    have hlimit : (ParserSettings.treeLimit {}) + 2 ≤ ({} : AnalysisSettings).depthLimit := by decide
    exact Nat.le_trans (Nat.add_le_add_right (parseBody_height h) 2) hlimit
  have hheight : (p.starred outer inner).root.height ≤ ({} : AnalysisSettings).depthLimit := by
    rw [starred, Node.height_starred]
    exact hdepth
  rw [severity_eq_worst (by omega) hcalls, severity_eq_worst hheight (isSubroutine_starred hcalls)]
  refine ⟨worst_ne_unknown _, worst_ne_unknown _, ?_⟩
  refine Severity.atLeast_of_level (worst_ne_unknown _) ?_
  rw [worst_level, worst_level, Node.foldl_max_le]
  refine ⟨Nat.zero_le _, fun k hk => ?_⟩
  obtain ⟨f, hf, rfl⟩ := List.mem_map.mp hk
  obtain ⟨f', hf', hle⟩ := exists_finding_starred hdepth rfl hcalls hf
  have hmax := (Node.foldl_max_le.mp (Nat.le_refl
    ((levels ((p.starred outer inner).analyze {}).findings).foldl max 0))).2
  exact Nat.le_trans hle (hmax _ (List.mem_map_of_mem hf'))

theorem analyze_starred_branches :
    ∃ p, parseBody {} "(a|ab){3}x" "" '/' = .ok p ∧
      (∀ n ∈ p.root.preorder, n.isSubroutine = false) ∧
      (p.analyze {}).severity ≠ .unknown ∧
      ((p.starred ⟨0, 15⟩ ⟨0, 14⟩).analyze {}).severity ≠ .unknown ∧
      ((p.starred ⟨0, 15⟩ ⟨0, 14⟩).analyze {}).severity.atLeast (p.analyze {}).severity = true := by
  obtain ⟨⟨_, _, _, root, _, _, _⟩, hp, rfl⟩ := exists_of_root
    (x := parseBody {} "(a|ab){3}x" "" '/')
    (n := .sequence ⟨0, 10⟩ [.quantifier ⟨0, 9⟩ ⟨3, some 3, .greedy⟩
      (.group ⟨0, 6⟩ { kind := .capturing, number := some 1 } (.alternation ⟨1, 5⟩
        [.letter 1 'a', .sequence ⟨3, 5⟩ [.letter 3 'a', .letter 4 'b']])),
      .letter 9 'x']) (by cbv)
  have hcalls : ∀ n ∈ Node.preorder (.sequence ⟨0, 10⟩ [.quantifier ⟨0, 9⟩ ⟨3, some 3, .greedy⟩
      (.group ⟨0, 6⟩ { kind := .capturing, number := some 1 } (.alternation ⟨1, 5⟩
        [.letter 1 'a', .sequence ⟨3, 5⟩ [.letter 3 'a', .letter 4 'b']])),
      .letter 9 'x']), n.isSubroutine = false := by decide
  exact ⟨_, hp, hcalls, analyze_starred hp hcalls ⟨0, 15⟩ ⟨0, 14⟩⟩

end Pattern

end PatternLint
