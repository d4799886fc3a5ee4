import PatternLint.Proofs.Hazard.Mitigation
import PatternLint.Proofs.Hazard.Monotone
import PatternLint.Proofs.Hazard.Proper

/-!
# When the severity is unknown

A report says that the severity is unknown where the search has missed something and
what it has found is no reason to worry. A search can miss something in two ways: a
tree may be too deep for it, and a call in a loop runs text that is somewhere else. No
pattern that is accepted under the default settings is too deep, so that what is left
are calls, and which of them count can be read off the tree.

Every finding is at least low, also behind mitigation. So no reason to worry means that
all findings are low.
-/

namespace PatternLint

open Parse

namespace Hazard

variable {ctx : Context} {env : Surroundings} {fs : List Finding} {f : Finding}

/-! ### Findings that are low -/

theorem Found.level_pos {n : Node} (h : Found ctx env n f) : 1 ≤ f.severity.level := by
  have hof : ∀ kind span severity mitigated height loop, 1 ≤ Severity.level severity →
      1 ≤ (Finding.of kind span severity mitigated height loop).severity.level := by
    intro kind span severity mitigated height loop hpos
    cases mitigated with
    | false => exact hpos
    | true =>
        show 1 ≤ (severity.reduce Finding.relief).level
        rw [Severity.level_reduce]
        omega
  cases h with
  | nested =>
      refine hof _ _ _ _ _ _ ?_
      unfold nestedSeverity
      split
      · decide
      · split <;> decide
  | empty => exact hof _ _ _ _ _ _ (by decide)
  | adjacent =>
      refine hof _ _ _ _ _ _ ?_
      split <;> decide
  | overlapping hrepeats hoverlap hseverity =>
      refine hof _ _ _ _ _ _ ?_
      revert hseverity
      unfold branchSeverity?
      split <;> rintro ⟨⟩ <;> decide
  | backreference =>
      refine hof _ _ _ _ _ _ ?_
      split <;> decide

theorem severity_eq_low_iff {s : Severity} (hpos : 1 ≤ s.level) : s = .low ↔ s.level ≤ 1 := by
  revert hpos
  cases s <;> decide

/-- Nothing is above low among findings just if all of them are low. -/
theorem worst_exceeds_low_iff (hpos : ∀ f ∈ fs, 1 ≤ f.severity.level) :
    (worst fs).exceeds .low = false ↔ ∀ f ∈ fs, f.severity = .low := by
  have hexceeds : (worst fs).exceeds .low = false ↔ (worst fs).level ≤ 1 := by
    cases worst fs <;> decide
  rw [hexceeds, worst_level, Node.foldl_max_le]
  constructor
  · rintro ⟨-, hle⟩ f hf
    exact (severity_eq_low_iff (hpos f hf)).mpr (hle _ (List.mem_map_of_mem hf))
  · intro hlow
    refine ⟨Nat.zero_le 1, fun k hk => ?_⟩
    obtain ⟨f, hf, rfl⟩ := List.mem_map.mp hk
    exact (severity_eq_low_iff (hpos f hf)).mp (hlow f hf)

/-- The severity is unknown if the search is not complete and has found nothing above low. -/
theorem overall_eq_unknown_iff {complete : Bool} :
    overall complete fs = .unknown ↔ complete = false ∧ (worst fs).exceeds .low = false := by
  have hknown := worst_ne_unknown fs
  show (if !complete && !(worst fs).exceeds .low then Severity.unknown else worst fs) = _ ↔ _
  split
  · next h => simpa using h
  · next h => simpa [hknown] using h

/-! ### Calls in loops -/

theorem inLoop_around_iff {above : List Node} :
    (around above).inLoop = true ↔ ∃ q ∈ above, q.isUnbounded = true := by
  constructor
  · intro h
    by_contra hnone
    simp only [not_exists, not_and, Bool.not_eq_true] at hnone
    rw [Surroundings.inLoop, loopDepth_around hnone] at h
    cases h
  · exact inLoop_around

/-- Something is unclear at a node if it is a call in a loop. -/
theorem any_isUnclear_ownNotes {above : List Node} {n : Node} :
    (ownNotes ctx above n).any Note.isUnclear = true ↔
      n.isSubroutine = true ∧ ∃ q ∈ above, q.isUnbounded = true := by
  rw [← inLoop_around_iff]
  by_cases hn : n.isSubroutine = true
  · cases n with
    | atom s a =>
        cases a with
        | subroutine target =>
            rw [ownNotes, atomNotes]
            split
            · next h => simp [Node.isSubroutine, Note.isUnclear, h]
            · next h => simp [h]
        | _ => cases hn
    | _ => cases hn
  · rw [Bool.not_eq_true] at hn
    have hclear : (ownNotes ctx above n).any Note.isUnclear = false := by
      rw [List.any_eq_false]
      intro note hnote
      simp [isUnclear_ownNotes hn note hnote]
    simp [hn, hclear]

/-- Something is unclear in a tree if a call in a loop is reached. -/
theorem any_isUnclear_notesUnder {root : Node} :
    (notesUnder ctx [] root).any Note.isUnclear = true ↔
      ∃ above n, (above, n) ∈ root.occurrences ∧ reached above = true ∧ n.isSubroutine = true ∧
        ∃ q ∈ above, q.isUnbounded = true := by
  rw [notesUnder, List.any_flatMap, List.any_eq_true]
  constructor
  · rintro ⟨⟨above, n⟩, ho, hnotes⟩
    obtain ⟨ho, hreached⟩ := List.mem_filter.mp ho
    exact ⟨above, n, ho, hreached, any_isUnclear_ownNotes.mp hnotes⟩
  · rintro ⟨above, n, ho, hreached, hcall⟩
    exact ⟨(above, n), List.mem_filter.mpr ⟨ho, hreached⟩, any_isUnclear_ownNotes.mpr hcall⟩

end Hazard

/-- The search comes to all calls but those below a repetition without turns: no class holds one. -/
theorem Formed.reached_subroutine {ctx : Token.Context} {limit depth : Nat} {role : Role}
    {root n : Node} {e e' : Env} (h : Formed ctx limit root depth role e e') {above : List Node}
    (ho : (above, n) ∈ root.occurrences) (hn : n.isSubroutine = true) :
    Hazard.reached above = true ↔ ∀ q ∈ above, q.isNever = false := by
  have hclass : ∀ q ∈ above, q.isClass = false := by
    rcases h.outside_or_part ho with ⟨-, hclass⟩ | ⟨-, spacing, caseless, hparts⟩
    · exact hclass
    · have hpart := hparts n n.self_mem_preorder
      cases n with
      | atom s a =>
          cases a with
          | subroutine target => exact absurd (hpart.resolve_left (by simp)) id
          | _ => cases hn
      | _ => cases hn
  rw [Hazard.reached_iff]
  constructor
  · intro hall q hq
    exact (hall q hq).1
  · intro hnever q hq
    exact ⟨hnever q hq, hclass q hq⟩

namespace Pattern

open Hazard

theorem findings_level_pos {s : AnalysisSettings} {p : Pattern} :
    ∀ f ∈ (p.analyze s).findings, 1 ≤ f.severity.level := by
  intro f hf
  obtain ⟨above, n, -, -, hown⟩ := exists_of_mem_findings hf
  exact (mem_ownFindings_iff.mp hown).level_pos

/-- The severity of a pattern is unknown just if there is a call under a repetition without bound,
and under no repetition without turns, and all findings are low. -/
theorem analyze_unknown {p : Pattern} (h : p.AcceptedBy {}) :
    (p.analyze {}).severity = .unknown ↔
      (∃ above n, (above, n) ∈ p.root.occurrences ∧ n.isSubroutine = true ∧
        (∃ q ∈ above, q.isUnbounded = true) ∧ ∀ q ∈ above, q.isNever = false) ∧
      ∀ f ∈ (p.analyze {}).findings, f.severity = .low := by
  obtain ⟨body, modifiers, delimiter, hbody⟩ := h.parseBody
  have hdepth := parseBody_depth hbody
  obtain ⟨flags, -, hp⟩ := parseBody_ok hbody
  obtain ⟨last, hformed⟩ := parseWith_formed hp
  rw [severity_eq_overall hdepth, overall_eq_unknown_iff,
    worst_exceeds_low_iff findings_level_pos, Bool.not_eq_false',
    any_isUnclear_notesUnder]
  refine and_congr_left fun _ => ?_
  constructor
  · rintro ⟨above, n, ho, hreached, hn, hloop⟩
    exact ⟨above, n, ho, hn, hloop, (hformed.reached_subroutine ho hn).mp hreached⟩
  · rintro ⟨above, n, ho, hn, hloop, hnever⟩
    exact ⟨above, n, ho, (hformed.reached_subroutine ho hn).mpr hnever, hn, hloop⟩

theorem analyze_unknown_call :
    ∃ p : Pattern, p.AcceptedBy {} ∧ (p.analyze {}).severity = .unknown ∧
      ∀ f ∈ (p.analyze {}).findings, f.severity = .low := by
  have hseverity : ((parseBody {} "(b)(?:(?1)c)*" "" '/').map fun p =>
      (p.analyze {}).severity) = .ok .unknown := by cbv
  obtain ⟨p, hp, hunknown⟩ := exists_of_map hseverity
  have h : p.AcceptedBy {} := .inl ⟨_, _, _, hp⟩
  exact ⟨p, h, hunknown, ((analyze_unknown h).mp hunknown).2⟩

end Pattern

end PatternLint
