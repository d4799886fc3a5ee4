import PatternLint.Proofs.Hazard.Search

/-!
# What a finding says

`Found` lists the rules of the search: what has to hold of a node and of what is
around it for a finding to be made there, and what the finding then says. A finding
is made at a node just if a rule makes it, so that a statement about all findings
has five cases and never opens the search again.

The severity of a report is the highest of those of its findings, and `worst_level`
says so with numbers.
-/

namespace PatternLint

namespace Hazard

/-- A finding that is made at a node in the given surroundings. -/
inductive Found (ctx : Context) (env : Surroundings) : Node → Finding → Prop where
  | nested {s : Span} {count : Repeat} {target : Node}
      (hgrows : grows count (profile ctx target) = true)
      (hheight : 0 < (profile ctx target).height) :
      Found ctx env (.quantifier s count target)
        (.of .nestedQuantifier s (nestedSeverity (profile ctx target))
          (count.isPossessive || env.shielded || (profile ctx target).openHeight == 0)
          ((profile ctx target).height + 1) s)
  | empty {s : Span} {count : Repeat} {target : Node}
      (hgrows : grows count (profile ctx target) = true)
      (hnullable : (profile ctx target).nullable = true) :
      Found ctx env (.quantifier s count target)
        (.of .emptyRepetition s .medium (count.isPossessive || env.shielded)
          ((profile ctx target).height + 1) s)
  | adjacent {s : Span} {before after : List Node} {item next : Node} {loop : Span}
      {count : Repeat} (hloop : item.loop? = some (loop, count))
      (hconsumes : (profile ctx item).consumes = true)
      (hnext : nextLoop? (profile ctx item).last (after.map fun n => (n, profile ctx n)) =
        some next) :
      Found ctx env (.sequence s (before ++ item :: after))
        (.of .adjacentQuantifiers ⟨item.start, next.stop⟩ (if env.inLoop then .high else .medium)
          (count.isPossessive || env.shielded) (env.loopDepth + 1) loop)
  | overlapping {s : Span} {branches : List Node} {turning : Turning} {outer : List Turning}
      {severity : Severity} (hrepeats : env.repeats = turning :: outer)
      (hoverlap : Profile.anyOverlap (branches.map (profile ctx)) = true)
      (hseverity : branchSeverity? env.inLoop turning.isLong
        (env.repeatedAlternation == some s) = some severity) :
      Found ctx env (.alternation s branches)
        (.of .overlappingAlternation s severity env.shielded env.loopDepth turning.span)
  | backreference {s : Span} {ref : GroupRef} {caseless : Bool} {loop : Span}
      (hloop : env.innermostLoop? = some loop) (hrepeated : ctx.leadsToRepeated ref = true) :
      Found ctx env (.atom s (.backref ref caseless))
        (.of .backreferenceLoop s
          (if (ctx.scope.call {} (.group ref)).max.isNone then .high else .medium)
          env.shielded env.loopDepth loop)

/-! ### Each rule by itself -/

variable {ctx : Context} {env : Surroundings} {f : Finding}

theorem mem_repetition_iff {s : Span} {count : Repeat} {target : Node} :
    (f ∈ if grows count (profile ctx target) then repetition env s count (profile ctx target)
      else []) ↔ Found ctx env (.quantifier s count target) f := by
  constructor
  · intro h
    split at h
    next hgrows =>
      rw [repetition] at h
      rcases List.mem_append.mp h with h | h
      · split at h
        next hheight =>
          obtain rfl := List.mem_singleton.mp h
          exact .nested hgrows hheight
        next => cases h
      · split at h
        next hnullable =>
          obtain rfl := List.mem_singleton.mp h
          exact .empty hgrows hnullable
        next => cases h
    next => cases h
  · intro h
    cases h with
    | nested hgrows hheight => simp [hgrows, repetition, hheight]
    | empty hgrows hnullable => simp [hgrows, repetition, hnullable]

/-- The items of a sequence are gone through one after another, each with those behind it. -/
theorem mem_adjacent_iff {g : Node → Profile} {items : List Node} :
    f ∈ Hazard.adjacent env (items.map fun n => (n, g n)) ↔
      ∃ before item after loop count next, items = before ++ item :: after ∧
        item.loop? = some (loop, count) ∧ (g item).consumes = true ∧
        nextLoop? (g item).last (after.map fun n => (n, g n)) = some next ∧
        f = .of .adjacentQuantifiers ⟨item.start, next.stop⟩
          (if env.inLoop then .high else .medium) (count.isPossessive || env.shielded)
          (env.loopDepth + 1) loop := by
  induction items with
  | nil => simp [Hazard.adjacent]
  | cons n rest ih =>
      rw [List.map_cons, Hazard.adjacent, List.mem_append, ih]
      constructor
      · rintro (h | ⟨before, item, after, loop, count, next, rfl, h⟩)
        · split at h
          next => cases h
          next loop count hloop =>
            split at h
            next hconsumes =>
              obtain ⟨next, hnext, rfl⟩ := Option.map_eq_some_iff.mp (Option.mem_toList.mp h)
              exact ⟨[], n, rest, loop, count, next, rfl, hloop, hconsumes, hnext, rfl⟩
            next => cases h
        · exact ⟨n :: before, item, after, loop, count, next, rfl, h⟩
      · rintro ⟨before, item, after, loop, count, next, hsplit, hloop, hconsumes, hnext, hf⟩
        cases before with
        | nil =>
            obtain ⟨rfl, rfl⟩ := List.cons.inj hsplit
            left
            simp only [hloop, if_pos hconsumes, hnext, Option.map_some, Option.toList_some]
            exact List.mem_singleton.mpr hf
        | cons m before =>
            obtain ⟨rfl, rfl⟩ := List.cons.inj hsplit
            exact .inr ⟨before, item, after, loop, count, next, rfl, hloop, hconsumes, hnext, hf⟩

theorem mem_overlapping_iff {s : Span} {branches : List Node} :
    f ∈ (Hazard.overlapping env s (branches.map (profile ctx))).toList ↔
      Found ctx env (.alternation s branches) f := by
  rw [Option.mem_toList, Hazard.overlapping]
  constructor
  · intro h
    split at h
    next => cases h
    next turning outer hrepeats =>
      split at h
      next hoverlap =>
        obtain ⟨severity, hseverity, rfl⟩ := Option.map_eq_some_iff.mp h
        exact .overlapping hrepeats hoverlap hseverity
      next => cases h
  · intro h
    cases h with
    | overlapping hrepeats hoverlap hseverity => simp [hrepeats, hoverlap, hseverity]

theorem mem_backreference_iff {s : Span} {ref : GroupRef} {caseless : Bool} :
    f ∈ (Hazard.backreference ctx env s ref (ctx.scope.call {} (.group ref))).toList ↔
      Found ctx env (.atom s (.backref ref caseless)) f := by
  rw [Option.mem_toList, Hazard.backreference]
  constructor
  · intro h
    split at h
    next => cases h
    next loop hloop =>
      split at h
      next hrepeated =>
        cases h
        exact .backreference hloop hrepeated
      next => cases h
  · intro h
    cases h with
    | backreference hloop hrepeated => simp [hloop, hrepeated]

/-- What is found at a node is what the rules say. -/
theorem mem_ownFindings_iff {above : List Node} {n : Node} :
    f ∈ ownFindings ctx above n ↔ Found ctx (around above) n f := by
  cases n with
  | atom s a =>
      cases a with
      | backref ref caseless =>
          rw [ownFindings, ownNotes, atomNotes, filterMap_finding]
          exact mem_backreference_iff
      | subroutine target =>
          have hnone : ownFindings ctx above (.atom s (.subroutine target)) = [] := by
            rw [ownFindings, ownNotes, atomNotes]
            split <;> rfl
          rw [hnone]
          constructor <;> intro h <;> cases h
      | _ => constructor <;> intro h <;> cases h
  | sequence s items =>
      rw [ownFindings, ownNotes, filterMap_finding, ← List.map_prod_left_eq_zip, mem_adjacent_iff]
      constructor
      · rintro ⟨before, item, after, loop, count, next, rfl, hloop, hconsumes, hnext, rfl⟩
        exact .adjacent hloop hconsumes hnext
      · intro h
        cases h with
        | adjacent hloop hconsumes hnext =>
            exact ⟨_, _, _, _, _, _, rfl, hloop, hconsumes, hnext, rfl⟩
  | alternation s branches =>
      rw [ownFindings, ownNotes, filterMap_finding]
      exact mem_overlapping_iff
  | quantifier s count target =>
      rw [ownFindings, ownNotes, filterMap_finding]
      exact mem_repetition_iff
  | _ => constructor <;> intro h <;> cases h

/-- Mitigation takes off so much that what is left is medium at most. -/
theorem Found.severity_of_mitigated {n : Node} (h : Found ctx env n f)
    (hmitigated : f.mitigated = true) : f.severity.exceeds .medium = false := by
  have hof : ∀ kind span severity mitigated height loop,
      (Finding.of kind span severity mitigated height loop).mitigated = true →
      (Finding.of kind span severity mitigated height loop).severity.exceeds .medium = false := by
    intro kind span severity mitigated height loop hm
    obtain rfl : mitigated = true := hm
    cases severity <;> rfl
  cases h <;> exact hof _ _ _ _ _ _ hmitigated

end Hazard

/-! ### The severity of a report -/

namespace Severity

/-- The rank of a severity as a number, where `unknown` counts no more than `safe`. -/
def level (s : Severity) : Nat := s.rank?.getD 0

theorem level_higher {s : Severity} (hs : s ≠ .unknown) (t : Severity) :
    s.higher t ≠ .unknown ∧ (s.higher t).level = max s.level t.level := by
  revert hs
  cases s <;> cases t <;> decide

theorem exceeds_medium_iff {s : Severity} : s.exceeds .medium = false ↔ s.level ≤ 2 := by
  cases s <;> decide

theorem atLeast_of_level {s t : Severity} (hs : s ≠ .unknown) (h : s.level ≤ t.level) :
    t.atLeast s = true := by
  revert hs h
  cases s <;> cases t <;> decide

theorem level_ofRank {r : Nat} (h : r ≤ 4) : (ofRank r).level = r := by
  rcases r with _ | _ | _ | _ | _ | r
  · rfl
  · rfl
  · rfl
  · rfl
  · rfl
  · omega

/-- Lowering takes off ranks down to that of `low`, and none where there is none to take. -/
theorem level_reduce (s : Severity) (ranks : Nat) :
    (s.reduce ranks).level = min s.level (max (s.level - ranks) 1) := by
  have hrank : ∀ r, 1 ≤ r → r ≤ 4 →
      (ofRank (max (r - ranks) 1)).level = min r (max (r - ranks) 1) := by
    intro r hpos hle
    rw [level_ofRank (by omega)]
    omega
  cases s with
  | safe => rfl
  | low => exact hrank 1 (by omega) (by omega)
  | medium => exact hrank 2 (by omega) (by omega)
  | high => exact hrank 3 (by omega) (by omega)
  | critical => exact hrank 4 (by omega) (by omega)
  | unknown => rfl

end Severity

namespace Hazard

variable {fs : List Finding}

/-- The highest severity of several findings. -/
def worst (fs : List Finding) : Severity := fs.foldl (fun s f => s.higher f.severity) .safe

/-- The levels of several findings. -/
def levels (fs : List Finding) : List Nat := fs.map fun f => f.severity.level

theorem foldl_higher_level (fs : List Finding) {s : Severity} (hs : s ≠ .unknown) :
    fs.foldl (fun s f => s.higher f.severity) s ≠ .unknown ∧
      (fs.foldl (fun s f => s.higher f.severity) s).level = (levels fs).foldl max s.level := by
  induction fs generalizing s with
  | nil => exact ⟨hs, rfl⟩
  | cons f fs ih =>
      obtain ⟨hknown, hlevel⟩ := Severity.level_higher hs f.severity
      rw [List.foldl_cons, levels, List.map_cons, List.foldl_cons, ← hlevel]
      exact ih hknown

theorem worst_ne_unknown (fs : List Finding) : worst fs ≠ .unknown :=
  (foldl_higher_level fs (by decide)).1

theorem worst_level (fs : List Finding) : (worst fs).level = (levels fs).foldl max 0 :=
  (foldl_higher_level fs (s := .safe) (by decide)).2

/-- Where no finding is above medium, neither is the report. -/
theorem overall_of_mild (complete : Bool) (h : ∀ f ∈ fs, f.severity.exceeds .medium = false) :
    overall complete fs ∈ [Severity.safe, .low, .medium, .unknown] := by
  have hle : (worst fs).level ≤ 2 := by
    rw [worst_level]
    refine Node.foldl_max_le.mpr ⟨by decide, fun k hk => ?_⟩
    obtain ⟨f, hf, rfl⟩ := List.mem_map.mp hk
    exact Severity.exceeds_medium_iff.mp (h f hf)
  have hknown := worst_ne_unknown fs
  show (if !complete && !(worst fs).exceeds .low then Severity.unknown else worst fs) ∈ _
  revert hle hknown
  generalize worst fs = worst
  cases complete <;> cases worst <;> decide

end Hazard

end PatternLint
