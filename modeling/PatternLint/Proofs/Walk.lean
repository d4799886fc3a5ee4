import Mathlib.Data.List.Basic
import PatternLint.Proofs.Tree
import PatternLint.Walk

/-!
# Traversals that come to an end

A traversal under a guard may stop at any node. Where the guard leaves room for as
many nodes as the tree is high, it never does, and then it is nothing but a value
and notes. `Yields` says so, and there is one lemma for each way to put traversals
together.

If there is less room, the guard stops it at the first node, in the order of the
text, that is too deep. `Bounded` gives the outcome for every guard, by the function
that finds the first node below a number of levels.
-/

namespace PatternLint

namespace Walk

variable {ω α β : Type} {w : Walk ω α} {f : α → Walk ω β} {a : α} {b : β} {ns ms : List ω}
  {height height' : Nat} {stop stop' : Nat → Option Nat}

/-- A traversal that comes to a value and back to where it was, and writes notes on the way, where
there is room for `height` more nodes. -/
def Yields (w : Walk ω α) (height : Nat) (a : α) (ns : List ω) : Prop :=
  ∀ g : Guard, g.depth + height ≤ g.limit → w g = ⟨.ok a, ns, g⟩

theorem yields_pure (a : α) (height : Nat) : (pure a : Walk ω α).Yields height a [] :=
  fun _ _ => rfl

theorem yields_noteAll (ns : List ω) (height : Nat) : (noteAll ns).Yields height () ns :=
  fun _ _ => rfl

theorem Yields.mono (h : w.Yields height a ns) (hle : height ≤ height') :
    w.Yields height' a ns :=
  fun g hg => h g (by omega)

theorem Yields.bind (hw : w.Yields height a ns) (hf : (f a).Yields height b ms) :
    (w >>= f).Yields height b (ns ++ ms) := by
  intro g hg
  simp only [Bind.bind, andThen, hw g hg, hf g hg]

theorem Yields.map (hw : w.Yields height a ns) (f : α → β) :
    (w >>= fun x => pure (f x)).Yields height (f a) ns := by
  rw [← List.append_nil ns]
  exact hw.bind (yields_pure (f a) height)

theorem Yields.visit (h : w.Yields height a ns) (offset : Nat) :
    (Walk.visit offset w).Yields (height + 1) a ns := by
  intro g hg
  have henter : g.enter offset = (.ok (), { g with depth := g.depth + 1 }) := by
    rw [Guard.enter, if_neg (by omega)]
  have hinner := h { g with depth := g.depth + 1 } (by simp only; omega)
  simp only [Walk.visit, henter, hinner]
  rfl

/-- A traversal that comes to a value and writes notes on the way, unless it stops at an offset that
depends on how many levels are left. Then its notes may be cut short, the guard has tripped, and it
is as deep as it was. -/
def Bounded (w : Walk ω α) (stop : Nat → Option Nat) (a : α) (ns : List ω) : Prop :=
  ∀ g : Guard, g.depth ≤ g.limit → ∃ cut, w g =
    match stop (g.limit - g.depth) with
    | none => ⟨.ok a, ns, g⟩
    | some offset => ⟨.error ⟨g.limit, offset⟩, cut, { g with tripped := true }⟩

theorem bounded_pure (a : α) : (pure a : Walk ω α).Bounded (fun _ => none) a [] :=
  fun _ _ => ⟨[], rfl⟩

theorem bounded_noteAll (ns : List ω) : (noteAll ns).Bounded (fun _ => none) () ns :=
  fun _ _ => ⟨[], rfl⟩

theorem Bounded.bind (hw : w.Bounded stop a ns) (hf : (f a).Bounded stop' b ms) :
    (w >>= f).Bounded (fun left => (stop left).or (stop' left)) b (ns ++ ms) := by
  intro g hg
  obtain ⟨cut, hw⟩ := hw g hg
  obtain ⟨cut', hf⟩ := hf g hg
  simp only [Bind.bind, andThen, hw]
  cases stop (g.limit - g.depth) with
  | some offset => exact ⟨cut, rfl⟩
  | none =>
      simp only [hf, Option.none_or]
      cases stop' (g.limit - g.depth) with
      | some offset => exact ⟨ns ++ cut', rfl⟩
      | none => exact ⟨[], rfl⟩

theorem Bounded.map (hw : w.Bounded stop a ns) (f : α → β) :
    (w >>= fun x => pure (f x)).Bounded stop (f a) ns := by
  have h := hw.bind (f := fun x => pure (f x)) (bounded_pure (f a))
  simpa only [Option.or_none, List.append_nil] using h

theorem Bounded.visit (h : w.Bounded stop a ns) (offset : Nat) :
    (Walk.visit offset w).Bounded
      (fun left => if left = 0 then some offset else stop (left - 1)) a ns := by
  intro g hg
  by_cases hfull : g.limit - g.depth = 0
  · have henter : g.enter offset = (.error ⟨g.limit, offset⟩, { g with tripped := true }) := by
      rw [Guard.enter, if_pos (by omega)]
    simp only [Walk.visit, henter, hfull, if_pos]
    exact ⟨[], rfl⟩
  · have henter : g.enter offset = (.ok (), { g with depth := g.depth + 1 }) := by
      rw [Guard.enter, if_neg (by omega)]
    obtain ⟨cut, hinner⟩ := h { g with depth := g.depth + 1 } (by simp only; omega)
    have hleft : g.limit - (g.depth + 1) = g.limit - g.depth - 1 := by omega
    simp only [Walk.visit, henter, hinner, hfull, if_false, hleft]
    cases stop (g.limit - g.depth - 1) with
    | some offset => exact ⟨cut, rfl⟩
    | none => exact ⟨[], rfl⟩

end Walk

namespace Node

/-- What is one level deeper has labels that are one higher. -/
theorem labels_succ (n : Node) (depth : Nat) :
    foldTree preorderWithDepth.label n (depth + 1) =
      (foldTree preorderWithDepth.label n depth).map fun d => (d.1 + 1, d.2) := by
  induction n using children_induction generalizing depth with
  | h n ih =>
      rw [foldTree_eq, preorderWithDepth.label, preorderWithDepth.label, List.map_cons,
        List.flatMap_map, List.flatMap_map, List.map_flatMap]
      congr 1
      exact List.flatMap_congr fun c hc => ih c hc (depth + 1)

/-- The first node that has too many ancestors is the root, or it is the first one below a child. -/
theorem firstBelow_eq (n : Node) (limit : Nat) :
    n.firstBelow limit = if limit = 0 then some n.start else
      n.children.findSome? fun c => c.firstBelow (limit - 1) := by
  rw [firstBelow, preorderWithDepth, foldTree_eq, preorderWithDepth.label, List.flatMap_map,
    List.find?_cons]
  cases limit with
  | zero => rfl
  | succ limit =>
      have hchild : ∀ c : Node, ((foldTree preorderWithDepth.label c 1).find?
          fun d => decide (limit + 1 ≤ d.1)).map (fun d => d.2.start) = c.firstBelow limit := by
        intro c
        rw [labels_succ, List.find?_map, Option.map_map, firstBelow, preorderWithDepth]
        simp only [Function.comp_def, Nat.add_le_add_iff_right]
      have hroot : decide (limit + 1 ≤ 0) = false := by simp
      simp only [hroot, Nat.succ_ne_zero, if_false, List.find?_flatMap]
      rw [List.map_findSome?]
      exact congrArg (n.children.findSome? ·) (funext hchild)

/-- The first node below a level in several trees is found in the first tree that is too deep. -/
theorem findSome?_firstBelow_cons (n : Node) (ns : List Node) :
    (fun left => (n :: ns).findSome? fun n => n.firstBelow left) = fun left =>
      (n.firstBelow left).or (ns.findSome? fun n => n.firstBelow left) := by
  funext left
  rw [List.findSome?_cons]
  cases n.firstBelow left <;> rfl

/-- The children of a conditional are visited one group after the other. -/
theorem findSome?_firstBelow_conditional (s : Span) (test : Condition Node) (yes : Node)
    (no : Option Node) :
    (fun left => (conditional s test yes no).children.findSome? fun c => c.firstBelow left) =
      fun left => ((conditionChildren test).findSome? fun c => c.firstBelow left).or
        ((yes.firstBelow left).or (no.toList.findSome? fun c => c.firstBelow left)) := by
  funext left
  rw [children, List.findSome?_append, List.findSome?_cons]
  cases yes.firstBelow left <;> rfl

end Node

end PatternLint
