import PatternLint.Proofs.Hazard.Consistency

/-!
# Reports that leave out what is mitigated

A report lists all findings, or only those that the pattern does not defuse itself. The
list is cut first, and all else is computed from what is left: it is sorted, weighed and
turned into advice. That order does not matter. The sort is stable, so that it gives the
findings that are kept in the same order, whether it has the others among them or not;
and growth and advice look at those findings alone. Only the score counts the others too.
-/

namespace PatternLint.Hazard

/-! ### Sorting what is kept -/

section Sorting

variable {α : Type} {le : α → α → Bool}

/-- An element goes behind all that it does not come before, and in front of the others. -/
theorem exists_mergeSort_cons (htrans : ∀ a b c, le a b = true → le b c = true → le a c = true)
    (htotal : ∀ a b, (le a b || le b a) = true) (a : α) (l : List α) :
    ∃ front back, (a :: l).mergeSort le = front ++ a :: back ∧ l.mergeSort le = front ++ back ∧
      (∀ x ∈ front, (!le a x) = true) ∧ ∀ x ∈ back, (!le a x) = false := by
  obtain ⟨front, back, hwhole, hrest, hfront⟩ := List.mergeSort_cons htrans htotal a l
  have hsorted : (front ++ a :: back).Pairwise fun b c => le b c = true := by
    rw [← hwhole]
    exact List.pairwise_mergeSort htrans htotal _
  refine ⟨front, back, hwhole, hrest, hfront, ?_⟩
  intro x hx
  rw [(List.pairwise_cons.mp (List.pairwise_append.mp hsorted).2.1).1 x hx]
  rfl

/-- A list is cut in one way only into elements of one kind and elements of the other. -/
theorem takeWhile_eq_front {test : α → Bool} {front back : List α}
    (hfront : ∀ x ∈ front, test x = true) (hback : ∀ x ∈ back, test x = false) :
    (front ++ back).takeWhile test = front := by
  rw [List.takeWhile_append_of_pos hfront]
  cases back with
  | nil => simp
  | cons x back => simp [hback x (by simp)]

/-- A sort cannot tell whether some elements are taken out before it or after it. -/
theorem filter_mergeSort (htrans : ∀ a b c, le a b = true → le b c = true → le a c = true)
    (htotal : ∀ a b, (le a b || le b a) = true) (keep : α → Bool) (l : List α) :
    (l.mergeSort le).filter keep = (l.filter keep).mergeSort le := by
  induction l with
  | nil => simp
  | cons a l ih =>
      obtain ⟨front, back, hwhole, hrest, hfront, hback⟩ :=
        exists_mergeSort_cons htrans htotal a l
      rw [hrest, List.filter_append] at ih
      rw [hwhole, List.filter_append, List.filter_cons, List.filter_cons]
      split
      · obtain ⟨front', back', hwhole', hrest', hfront', hback'⟩ :=
          exists_mergeSort_cons htrans htotal a (l.filter keep)
        -- What is kept of both sides of `a` are the two sides of `a` among what is kept.
        have hlists : front.filter keep ++ back.filter keep = front' ++ back' := ih.trans hrest'
        have hsides : front.filter keep = front' := by
          rw [← takeWhile_eq_front hfront' hback', ← hlists]
          refine (takeWhile_eq_front ?_ ?_).symm
          · exact fun x hx => hfront x (List.mem_filter.mp hx).1
          · exact fun x hx => hback x (List.mem_filter.mp hx).1
        rw [hsides] at hlists ⊢
        rw [hwhole', List.append_cancel_left hlists]
      · exact ih

end Sorting

/-! ### What is computed from the findings that are kept -/

theorem growth_pressing (fs : List Finding) :
    growth (fs.filter fun f => !f.mitigated) = growth fs := by
  simp only [growth, List.filter_filter, Bool.and_self]

theorem advice_pressing (p : Pattern) (fs : List Finding) (limit : Nat) :
    advice p (fs.filter fun f => !f.mitigated) limit = advice p fs limit := by
  simp only [advice, List.filter_filter, Bool.and_self]

/-- Findings that are left out have no part in the score. -/
theorem score_filter_le (w : ScoreWeights) (fs : List Finding) (keep : Finding → Bool) :
    score w (fs.filter keep) ≤ score w fs := by
  have hsum : ((fs.filter keep).map fun f => weight w f.severity).sum ≤
      (fs.map fun f => weight w f.severity).sum :=
    (List.filter_sublist.map _).sum_le_sum fun _ _ => Nat.zero_le _
  rw [score_eq, score_eq]
  exact min_le_min_left 100 hsum

end PatternLint.Hazard

namespace PatternLint.Pattern

open Hazard

/-- The findings that a report lists without the mitigated ones. -/
theorem findings_hidden (s : AnalysisSettings) (p : Pattern) :
    (p.analyze { s with reportMitigated := false }).findings =
      (p.analyze { s with reportMitigated := true }).findings.filter fun f => !f.mitigated := by
  have htrans : ∀ f g h : Finding, f.span.before g.span = true → g.span.before h.span = true →
      f.span.before h.span = true := fun _ _ _ => Span.before_trans
  have htotal : ∀ f g : Finding, (f.span.before g.span || g.span.before f.span) = true :=
    fun _ _ => Span.before_total _ _
  have hsort := filter_mergeSort htrans htotal
  show List.mergeSort (List.filter _ _) _ = List.filter _ (List.mergeSort (List.filter _ _) _)
  rw [hsort, List.filter_filter]
  simp

/-- A report without the mitigated findings has the other findings of the full report, in the same
order. Backtracking grows alike in both and the advice is the same, and the score is not higher. -/
theorem analyze_hidden (s : AnalysisSettings) (p : Pattern) :
    let short := p.analyze { s with reportMitigated := false }
    let full := p.analyze { s with reportMitigated := true }
    short.findings = full.findings.filter (fun f => !f.mitigated) ∧
      short.growth = full.growth ∧ short.recommendations = full.recommendations ∧
      short.score ≤ full.score := by
  intro short full
  have hfindings : short.findings = full.findings.filter fun f => !f.mitigated :=
    findings_hidden s p
  refine ⟨hfindings, ?_, ?_, ?_⟩
  · show growth short.findings = growth full.findings
    rw [hfindings, growth_pressing]
  · show advice p short.findings s.maxRecommendations =
      advice p full.findings s.maxRecommendations
    rw [hfindings, advice_pressing]
  · show score s.weights short.findings ≤ score s.weights full.findings
    rw [hfindings]
    exact score_filter_le s.weights full.findings _

end PatternLint.Pattern
