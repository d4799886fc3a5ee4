import PatternLint.Proofs.Hazard.Unknown

/-!
# Reports that agree with their findings

A report sums up a list of findings five times over: in a severity, in a score, in the
growth of backtracking, in the place of the worst finding, and in the order of the list.
Each is computed on its own, from other findings: the score counts all of them, the
growth those that are not mitigated, the place those of one severity. Still they agree,
whatever the tree, the settings and the limit on depth.

What makes them agree is known of every single finding: it is low at least, and behind
mitigation it is medium at most. So findings are compared by their levels alone, and
`unknown`, which has no level, can only be the severity of a report.
-/

namespace PatternLint

/-- A report in which severity, score, growth and place agree with the findings and with each
other. -/
structure Report.Consistent (w : ScoreWeights) (r : Report) : Prop where
  sorted : r.findings.Pairwise fun f g =>
    f.span.start < g.span.start ∨ f.span.start = g.span.start ∧ f.span.stop ≤ g.span.stop
  score : r.score = min 100 (r.findings.map fun f => Hazard.weight w f.severity).sum
  mitigated : ∀ f ∈ r.findings, f.mitigated = true → f.severity = .low ∨ f.severity = .medium
  exponential : r.growth = .exponential → r.severity = .high ∨ r.severity = .critical
  polynomial : r.growth = .polynomial →
    r.severity = .medium ∨ r.severity = .high ∨ r.severity = .critical
  linear : r.growth = .linear → r.severity ≠ .high ∧ r.severity ≠ .critical
  culprit : ∀ offset, r.culprit = some offset ↔
    ∃ f, (r.findings.filter fun f => f.severity == r.severity) = [f] ∧ offset = f.span.start
  unknown : r.severity = .unknown → ∀ f ∈ r.findings, f.severity.exceeds .low = false

/-! ### Levels -/

namespace Severity

variable {s t : Severity}

theorem level_medium : Severity.medium.level = 2 := rfl

theorem level_high : Severity.high.level = 3 := rfl

theorem three_le_level_iff : 3 ≤ s.level ↔ s = .high ∨ s = .critical := by
  cases s <;> decide

theorem two_le_level_iff : 2 ≤ s.level ↔ s = .medium ∨ s = .high ∨ s = .critical := by
  cases s <;> decide

/-- Severities that have a level are compared by it. -/
theorem atLeast_iff (hs : 1 ≤ s.level) (ht : 1 ≤ t.level) :
    s.atLeast t = true ↔ t.level ≤ s.level := by
  revert hs ht
  cases s <;> cases t <;> decide

end Severity

namespace Span

variable {s t u : Span}

theorem before_iff :
    s.before t = true ↔ s.start < t.start ∨ s.start = t.start ∧ s.stop ≤ t.stop := by
  simp [before]

theorem before_trans (h : s.before t = true) (h' : t.before u = true) : s.before u = true := by
  rw [before_iff] at *
  omega

theorem before_total (s t : Span) : (s.before t || t.before s) = true := by
  rw [Bool.or_eq_true, before_iff, before_iff]
  omega

end Span

/-- A finding as the search makes it: it is low at least, and medium at most behind mitigation. -/
structure Finding.Graded (f : Finding) : Prop where
  pos : 1 ≤ f.severity.level
  mitigated : f.mitigated = true → f.severity.level ≤ 2

namespace Hazard

variable {w : ScoreWeights} {fs : List Finding} {f : Finding} {complete : Bool}

/-! ### The severity -/

/-- The worst of several findings is as bad as one of them. -/
theorem le_worst_iff {k : Nat} (hk : 1 ≤ k) :
    k ≤ (worst fs).level ↔ ∃ f ∈ fs, k ≤ f.severity.level := by
  rw [← not_iff_not, Nat.not_le, ← Nat.le_sub_one_iff_lt hk, worst_level, Node.foldl_max_le]
  simp only [Nat.zero_le, true_and, levels, List.forall_mem_map, not_exists, not_and, Nat.not_le]
  exact forall₂_congr fun f _ => Nat.le_sub_one_iff_lt hk

/-- A severity is that of the worst finding, but unknown may stand for no more than low. -/
theorem overall_cases (complete : Bool) (fs : List Finding) :
    overall complete fs = worst fs ∨ overall complete fs = .unknown ∧ (worst fs).level ≤ 1 := by
  show (if !complete && !(worst fs).exceeds .low then Severity.unknown else worst fs) = _ ∨
    (if !complete && !(worst fs).exceeds .low then Severity.unknown else worst fs) = _ ∧ _
  split
  · next h =>
      refine .inr ⟨rfl, ?_⟩
      have hlow : (worst fs).exceeds .low = false := by simpa using And.right (by simpa using h)
      revert hlow
      cases worst fs <;> decide
  · exact .inl rfl

/-- Above low the severity is as bad as the worst finding. -/
theorem le_level_overall_iff {k : Nat} (hk : 2 ≤ k) :
    k ≤ (overall complete fs).level ↔ ∃ f ∈ fs, k ≤ f.severity.level := by
  rw [← le_worst_iff (by omega)]
  rcases overall_cases complete fs with h | ⟨h, hle⟩
  · rw [h]
  · rw [h]
    have hzero : Severity.unknown.level = 0 := rfl
    omega

/-! ### The growth -/

/-- Findings that press are those of a level that are not mitigated. -/
theorem any_pressing_iff (hfs : ∀ f ∈ fs, f.Graded) {t : Severity} {k : Nat} (ht : t.level = k)
    (hk : 1 ≤ k) (q : Finding → Bool) :
    ((fs.filter fun f => !f.mitigated).any fun f => f.severity.atLeast t && q f) = true ↔
      ∃ f ∈ fs, f.mitigated = false ∧ k ≤ f.severity.level ∧ q f = true := by
  subst ht
  simp only [List.any_eq_true, List.mem_filter, Bool.not_eq_true', Bool.and_eq_true, and_assoc]
  refine exists_congr fun f => and_congr_right fun hf => ?_
  rw [Severity.atLeast_iff (hfs f hf).pos hk]

theorem growth_eq_exponential_iff (hfs : ∀ f ∈ fs, f.Graded) :
    growth fs = .exponential ↔
      ∃ f ∈ fs, f.mitigated = false ∧ 3 ≤ f.severity.level ∧ multiplies f.kind = true := by
  rw [← any_pressing_iff hfs Severity.level_high (by omega)]
  unfold growth
  simp only
  split
  · next h => simp [h]
  · next h => split <;> simp [h]

theorem growth_ne_linear_iff (hfs : ∀ f ∈ fs, f.Graded) :
    growth fs ≠ .linear ↔ ∃ f ∈ fs, f.mitigated = false ∧ 2 ≤ f.severity.level := by
  have hpressing : ((fs.filter fun f => !f.mitigated).any fun f => f.severity.atLeast .medium) =
      true ↔ ∃ f ∈ fs, f.mitigated = false ∧ 2 ≤ f.severity.level := by
    simpa using any_pressing_iff hfs Severity.level_medium (by omega) fun _ => true
  rw [← hpressing]
  unfold growth
  simp only
  split
  · next h =>
      -- What is exponential presses as well.
      obtain ⟨f, hf, hmitigated, hlevel, -⟩ :=
        (any_pressing_iff hfs Severity.level_high (by omega) _).mp h
      have hmedium := hpressing.mpr ⟨f, hf, hmitigated, by omega⟩
      simp [hmedium]
  · split <;> simp [*]

/-! ### The worst finding -/

/-- A place is named if there is one finding of the severity of the report. -/
theorem culprit_eq_some_iff (hfs : ∀ f ∈ fs, f.Graded) {severity : Severity} {offset : Nat} :
    culprit? severity fs = some offset ↔
      ∃ f, (fs.filter fun f => f.severity == severity) = [f] ∧ offset = f.span.start := by
  unfold culprit?
  split
  · next f hone =>
      obtain ⟨hf, hseverity⟩ : f ∈ fs ∧ f.severity = severity := by
        have hmem : f ∈ fs.filter fun f => f.severity == severity := by simp [hone]
        simpa using hmem
      have hsafe : severity.exceeds .safe = true := by
        have hpos := (hfs f hf).pos
        rw [hseverity] at hpos
        revert hpos
        cases severity <;> decide
      simp [hsafe, hone, eq_comm]
  · next hmany =>
      simp only [reduceCtorEq, false_iff, not_exists, not_and]
      exact fun f hone => absurd hone (hmany f)

/-! ### The score -/

theorem score_eq (w : ScoreWeights) (fs : List Finding) :
    score w fs = min 100 (fs.map fun f => weight w f.severity).sum := by
  rw [score, Nat.min_comm, List.sum_eq_foldr, List.foldr_map]
  rfl

end Hazard

/-! ### Patterns -/

namespace Pattern

open Hazard

variable {s : AnalysisSettings} {p : Pattern}

theorem findings_graded : ∀ f ∈ (p.analyze s).findings, f.Graded := fun f hf =>
  ⟨findings_level_pos f hf, fun hmitigated =>
    Severity.exceeds_medium_iff.mp (severity_of_mitigated hf hmitigated)⟩

/-- The report on a pattern is consistent, whatever its tree and the settings, and also where the
search was cut short. -/
theorem analyze_consistent (s : AnalysisSettings) (p : Pattern) :
    (p.analyze s).Consistent s.weights := by
  have hfs : ∀ f ∈ (p.analyze s).findings, f.Graded := findings_graded
  obtain ⟨complete, hseverity⟩ : ∃ complete,
      (p.analyze s).severity = overall complete (p.analyze s).findings := ⟨_, rfl⟩
  have hgrowth : (p.analyze s).growth = growth (p.analyze s).findings := rfl
  constructor
  case sorted =>
    have hpairwise : ∀ fs : List Finding,
        (fs.mergeSort fun f g => f.span.before g.span).Pairwise fun f g => f.span.before g.span :=
      List.pairwise_mergeSort (fun _ _ _ => Span.before_trans) (fun _ _ => Span.before_total _ _)
    exact (hpairwise _).imp Span.before_iff.mp
  case score => exact score_eq _ _
  case mitigated =>
    intro f hf hmitigated
    have hpos := (hfs f hf).pos
    have hle := (hfs f hf).mitigated hmitigated
    revert hpos hle
    cases f.severity <;> decide
  case exponential =>
    intro h
    obtain ⟨f, hf, -, hlevel, -⟩ := (growth_eq_exponential_iff hfs).mp (hgrowth ▸ h)
    rw [← Severity.three_le_level_iff, hseverity, le_level_overall_iff (by omega)]
    exact ⟨f, hf, hlevel⟩
  case polynomial =>
    intro h
    obtain ⟨f, hf, -, hlevel⟩ := (growth_ne_linear_iff hfs).mp (by rw [← hgrowth, h]; decide)
    rw [← Severity.two_le_level_iff, hseverity, le_level_overall_iff (by omega)]
    exact ⟨f, hf, hlevel⟩
  case linear =>
    intro h
    rw [← not_or, ← Severity.three_le_level_iff, hseverity, le_level_overall_iff (by omega)]
    rintro ⟨f, hf, hlevel⟩
    -- A finding as bad as that is not mitigated, so that the growth is not linear.
    have hmitigated : f.mitigated = false := by
      rw [Bool.eq_false_iff]
      intro hm
      have := (hfs f hf).mitigated hm
      omega
    exact (growth_ne_linear_iff hfs).mpr ⟨f, hf, hmitigated, by omega⟩ (hgrowth ▸ h)
  case culprit => exact fun offset => culprit_eq_some_iff hfs
  case unknown =>
    intro h f hf
    by_contra hexceeds
    have hlevel : 2 ≤ f.severity.level := by
      revert hexceeds
      cases f.severity <;> decide
    have hknown : 2 ≤ (p.analyze s).severity.level := by
      rw [hseverity, le_level_overall_iff (by omega)]
      exact ⟨f, hf, hlevel⟩
    rw [h] at hknown
    exact absurd hknown (by decide)

end Pattern

end PatternLint
