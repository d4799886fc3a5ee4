import PatternLint.Proofs.Restyle
import PatternLint.Proofs.Walk

/-!
# Traversals that go too deep

For the traversal that writes a tree all that can go wrong is that the tree is too
deep, and that depends on the tree alone. So there is one text that the traversal is
bounded by, for every guard, and it stops at the first node below a number of levels.
-/

namespace PatternLint

/-! ### Writing -/

namespace Render

/-- Writing a node comes to a text, unless it stops at a node that is too deep. -/
def Writes (inClass : Bool) (n : Node) : Prop :=
  ∃ text, (node inClass n).Bounded (fun left => n.firstBelow left) text []

variable {inClass : Bool}

/-- A node is written if what is below it is. -/
theorem writes_of_visit (n : Node) (text : String) {w : Walk Empty String}
    (hw : node inClass n = Walk.visit n.start w)
    (h : w.Bounded (fun left => n.children.findSome? fun c => c.firstBelow left) text []) :
    Writes inClass n := by
  refine ⟨text, ?_⟩
  rw [hw, funext (n.firstBelow_eq)]
  exact h.visit n.start

theorem writes_of_child {n c : Node} {inside : Bool} {f : String → String}
    (hw : node inClass n = Walk.visit n.start (node inside c >>= fun x => pure (f x)))
    (hc : n.children = [c]) (h : Writes inside c) : Writes inClass n := by
  obtain ⟨text, h⟩ := h
  refine writes_of_visit n (f text) hw ?_
  simp only [hc, List.findSome?_singleton]
  exact h.map f

theorem nodes_bounded {ns : List Node} (h : ∀ n ∈ ns, Writes inClass n) :
    ∃ texts, (nodes inClass ns).Bounded (fun left => ns.findSome? fun n => n.firstBelow left)
      texts [] := by
  induction ns with
  | nil => exact ⟨[], Walk.bounded_pure []⟩
  | cons n ns ih =>
      obtain ⟨text, hn⟩ := h n (by simp)
      obtain ⟨texts, hns⟩ := ih fun m hm => h m (by simp [hm])
      rw [Node.findSome?_firstBelow_cons]
      exact ⟨text :: texts, hn.bind (hns.map (text :: ·))⟩

theorem condition_bounded {test : Condition Node}
    (h : ∀ n ∈ Node.conditionChildren test, Writes inClass n) :
    ∃ text, (condition inClass test).Bounded
      (fun left => (Node.conditionChildren test).findSome? fun n => n.firstBelow left) text [] := by
  cases test with
  | assertion a =>
      obtain ⟨text, ha⟩ := h a (by simp [Node.conditionChildren])
      simp only [Node.conditionChildren, List.findSome?_singleton]
      exact ⟨_, ha.map ("(?" ++ ·)⟩
  | group ref => cases ref <;> exact ⟨_, Walk.bounded_pure _⟩
  | _ => exact ⟨_, Walk.bounded_pure _⟩

theorem optional_bounded {no : Option Node} (h : ∀ n ∈ no, Writes inClass n) :
    ∃ text, (optional inClass no).Bounded
      (fun left => no.toList.findSome? fun n => n.firstBelow left) text [] := by
  cases no with
  | none => exact ⟨"", Walk.bounded_pure ""⟩
  | some n =>
      obtain ⟨text, hn⟩ := h n rfl
      simp only [Option.toList_some, List.findSome?_singleton]
      exact ⟨_, hn.map ("|" ++ ·)⟩

/-- Whatever the tree, it is written unless it is too deep. -/
theorem writes (n : Node) (inClass : Bool) : Writes inClass n := by
  induction n using Node.children_induction generalizing inClass with
  | h n ih =>
      have hnodes := nodes_bounded fun c hc => ih c hc inClass
      cases n with
      | atom s a => exact writes_of_visit (.atom s a) _ rfl (Walk.bounded_pure _)
      | sequence s items =>
          obtain ⟨texts, h⟩ := hnodes
          exact writes_of_visit (.sequence s items) _ rfl (h.map String.join)
      | alternation s branches =>
          obtain ⟨texts, h⟩ := hnodes
          exact writes_of_visit (.alternation s branches) _ rfl (h.map (String.intercalate "|"))
      | group s head body =>
          exact writes_of_child rfl rfl (ih body (by simp [Node.children]) inClass)
      | quantifier s count target =>
          exact writes_of_child rfl rfl (ih target (by simp [Node.children]) inClass)
      | charClass s negated caseless expr =>
          exact writes_of_child rfl rfl (ih expr (by simp [Node.children]) true)
      | classOp s op operands =>
          obtain ⟨texts, h⟩ := hnodes
          exact writes_of_visit (.classOp s op operands) _ rfl
            (h.map (String.intercalate (classOperator op)))
      | conditional s test yes no =>
          obtain ⟨opening, htest⟩ := @condition_bounded inClass test fun c hc =>
            ih c (by simp [Node.children, hc]) inClass
          obtain ⟨first, hyes⟩ := ih yes (by simp [Node.children]) inClass
          obtain ⟨second, hno⟩ := @optional_bounded inClass no fun c hc =>
            ih c (by simp [Node.children, Option.mem_def.mp hc]) inClass
          refine writes_of_visit (.conditional s test yes no) (opening ++ first ++ second ++ ")")
            rfl ?_
          rw [Node.findSome?_firstBelow_conditional]
          exact htest.bind (hyes.bind (hno.map (opening ++ first ++ · ++ ")")))
      | define s body =>
          exact writes_of_child rfl rfl (ih body (by simp [Node.children]) inClass)

end Render

/-- A tree has a text just if it is not too deep. -/
theorem Node.text?_eq_none_iff {n : Node} :
    n.text? = none ↔ Render.defaultLimit < n.height := by
  obtain ⟨text, h⟩ := Render.writes n false
  obtain ⟨cut, houtcome⟩ := h { limit := Render.defaultLimit } (Nat.zero_le _)
  have hvalue := congrArg Outcome.value houtcome
  rw [text?, textWithin, hvalue, ← Nat.not_le, ← firstBelow_eq_none_iff]
  simp only [Nat.sub_zero]
  cases n.firstBelow Render.defaultLimit <;> simp [Except.toOption]

end PatternLint
