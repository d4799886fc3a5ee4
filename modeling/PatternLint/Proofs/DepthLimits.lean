import PatternLint.Proofs.Depth
import PatternLint.Proofs.Hazard.Mitigation
import PatternLint.Proofs.Hazard.Proper

/-!
# Limits on the depth of trees

Three traversals have each a limit of their own: the one that checks references when a
pattern is read, the one that writes a tree and the search for hazards. Only the first
one can turn a pattern down. The others are not meant to stop, and they do not where
they may go as deep as it does.

What their limits have in common is the height of the tree. The check lets a tree pass
that is low enough, writing and searching need no more levels than there are, and
making repetitions possessive, which is done before writing, adds none.
-/

namespace PatternLint

/-- The path from the root to a node, with what is below the node, is not longer than the tree is
high. -/
theorem Node.length_add_height_le {n m : Node} {above path : List Node}
    (h : (path, m) ∈ n.occurrencesUnder above) :
    path.length + m.height ≤ above.length + n.height := by
  induction n using children_induction generalizing above with
  | h n ih =>
      rcases mem_occurrencesUnder.mp h with heq | ⟨c, hc, hmem⟩
      · obtain ⟨rfl, rfl⟩ := Prod.mk.inj heq
        exact Nat.le_refl _
      · have hbelow := ih c hc hmem
        have hheight := height_child hc
        rw [List.length_cons] at hbelow
        omega

theorem Node.height_possessive (n : Node) : n.possessive.height = n.height :=
  Transform.height_node (t := .possessive) (fun _ => rfl) n

/-- A tree that is low enough is written. -/
theorem Node.exists_textWithin {n : Node} (h : n.height ≤ Render.defaultLimit) :
    ∃ text, n.textWithin Render.defaultLimit = .ok text ∧ n.text? = some text := by
  cases htext : n.textWithin Render.defaultLimit with
  | error e =>
      have hnone : n.text? = none := by rw [Node.text?, htext, Except.toOption]
      exact absurd (Node.text?_eq_none_iff.mp hnone) (Nat.not_lt.mpr h)
  | ok text => exact ⟨text, rfl, by rw [Node.text?, htext, Except.toOption]⟩

namespace Pattern

variable {s : ParserSettings} {p : Pattern}

theorem AcceptedBy.height_le (h : p.AcceptedBy s) :
    p.root.height ≤ satAdd (satMul 4 s.nestLimit) 16 := by
  obtain ⟨body, modifiers, delimiter, hp⟩ := h.parseBody
  have hlimit : s.treeLimit = satAdd (satMul 4 s.nestLimit) 16 := by
    rw [ParserSettings.treeLimit, satMul, satMul, Nat.mul_comm]
  exact hlimit ▸ parseBody_height hp

/-- The body of a pattern with a tree that is low enough is the text of the tree, not the source. -/
theorem exists_toBody (h : p.root.height ≤ Render.defaultLimit) :
    ∃ text, p.root.textWithin Render.defaultLimit = .ok text ∧ p.toBody = text := by
  obtain ⟨text, hwithin, htext⟩ := Node.exists_textWithin h
  exact ⟨text, hwithin, by rw [toBody, htext, Option.getD_some]⟩

/-- No path in the tree of an accepted pattern is longer than the limit for nesting allows. Where
the traversals that write the tree and search it go as deep, the tree is written, and with it the
tree with possessive repetitions, and the guard of the search does not trip. -/
theorem depth_limits (h : p.AcceptedBy s) :
    (∀ above n, (above, n) ∈ p.root.occurrences →
      above.length + 1 ≤ satAdd (satMul 4 s.nestLimit) 16) ∧
    (satAdd (satMul 4 s.nestLimit) 16 ≤ 4096 →
      (∃ text, p.root.textWithin Render.defaultLimit = .ok text ∧ p.toBody = text) ∧
      ∃ text, p.root.possessive.textWithin Render.defaultLimit = .ok text ∧
        (p.transform .possessive).toBody = text) ∧
    ∀ a : AnalysisSettings, satAdd (satMul 4 s.nestLimit) 16 ≤ a.depthLimit →
      let found := Hazard.scan p.searchContext p.root {} ⟨a.depthLimit, 0, false⟩
      found.value.isOk = true ∧ found.guard.tripped = false := by
  have hheight := h.height_le
  refine ⟨?_, ?_, ?_⟩
  · intro above n ho
    have hpath := Node.length_add_height_le ho
    have hpos : 1 ≤ n.height := n.height_eq ▸ Nat.le_add_left 1 _
    rw [List.length_nil] at hpath
    omega
  · intro hlimit
    have hroot : p.root.height ≤ Render.defaultLimit := Nat.le_trans hheight hlimit
    refine ⟨exists_toBody hroot, exists_toBody (p := p.transform .possessive) ?_⟩
    exact (Node.height_possessive p.root).symm ▸ hroot
  · intro a hlimit found
    have hroom : 0 + p.root.height ≤ a.depthLimit := by omega
    have hfound : found = ⟨.ok _, _, ⟨a.depthLimit, 0, false⟩⟩ :=
      Hazard.scan_yields p.searchContext p.root [] rfl ⟨a.depthLimit, 0, false⟩ hroom
    rw [hfound]
    exact ⟨rfl, rfl⟩

theorem depth_limits_shallow :
    ∃ p : Pattern, p.AcceptedBy { nestLimit := 2 } ∧
      (∃ text, p.root.possessive.textWithin Render.defaultLimit = .ok text ∧
        (p.transform .possessive).toBody = text) ∧
      (Hazard.scan p.searchContext p.root {} ⟨24, 0, false⟩).guard.tripped = false := by
  have haccepted : (parse { nestLimit := 2 } "/((a+){2}{3})*/i").isOk = true := by cbv
  obtain ⟨p, hp⟩ := exists_of_isOk haccepted
  have h : p.AcceptedBy { nestLimit := 2 } := .inr ⟨_, hp⟩
  obtain ⟨-, hwritten, hsearched⟩ := depth_limits h
  exact ⟨p, h, (hwritten (by decide)).2, (hsearched { depthLimit := 24 } (by decide)).2⟩

end Pattern

end PatternLint
