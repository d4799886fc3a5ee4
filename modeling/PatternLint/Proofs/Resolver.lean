import PatternLint.Pattern
import PatternLint.Proofs.Walk

/-!
# The traversal of the resolver

The resolver goes over a tree under a guard and notes what is wrong with each node.
It forgets no node and comes to a node before its children, so that its notes are
the faults of all nodes in the order of the text, or it stops where the tree is too
deep. Either way it refuses the tree for what `Node.firstFault?` finds, and from here
on that is all there is to know about it.
-/

namespace PatternLint

namespace Resolver

open Node

variable {s : ParserSettings} {t : GroupTable} {scope : Scope}

/-- What is wrong with a node, at the node. -/
def ownFaults (s : ParserSettings) (t : GroupTable) (scope : Scope) (n : Node) : List Located :=
  ((n.ownFault? s t scope).map fun fault => ⟨fault, n.start⟩).toList

/-- What is wrong with the nodes of a tree, in the order of the text. -/
def faults (s : ParserSettings) (t : GroupTable) (scope : Scope) (n : Node) : List Located :=
  n.preorder.flatMap (ownFaults s t scope)

theorem faults_eq (n : Node) :
    faults s t scope n = ownFaults s t scope n ++ n.children.flatMap (faults s t scope) := by
  rw [faults, preorder_eq, List.flatMap_cons, List.flatMap_assoc]
  rfl

variable (s t scope) in
/-- The traversal of a tree notes its faults, unless it stops at a node that is too deep. -/
def Checks (n : Node) : Prop :=
  (node s t scope n).Bounded (fun left => n.firstBelow left) () (faults s t scope n)

/-- A node is checked if it notes what is wrong with it and then checks what is below it. -/
theorem checks_of_visit (n : Node) {w : Walk Located Unit}
    (hw : node s t scope n = Walk.visit n.start w)
    (h : w.Bounded (fun left => n.children.findSome? fun c => c.firstBelow left) ()
      (ownFaults s t scope n ++ n.children.flatMap (faults s t scope))) : Checks s t scope n := by
  rw [Checks, hw, faults_eq, funext (n.firstBelow_eq)]
  exact h.visit n.start

theorem report_bounded (offset : Nat) (fault : Option Fault) :
    (report offset fault).Bounded (fun _ => none) ()
      (fault.map fun fault => (⟨fault, offset⟩ : Located)).toList :=
  Walk.bounded_noteAll _

/-- The traversal of a node with one child is that of the child. -/
theorem child_bounded {n c : Node} (hc : n.children = [c]) (h : Checks s t scope c) :
    (node s t scope c).Bounded (fun left => n.children.findSome? fun c => c.firstBelow left) ()
      (n.children.flatMap (faults s t scope)) := by
  simp only [hc, List.findSome?_singleton, List.flatMap_singleton]
  exact h

theorem nodes_bounded {ns : List Node} (h : ∀ n ∈ ns, Checks s t scope n) :
    (nodes s t scope ns).Bounded (fun left => ns.findSome? fun n => n.firstBelow left) ()
      (ns.flatMap (faults s t scope)) := by
  induction ns with
  | nil => exact Walk.bounded_pure ()
  | cons n ns ih =>
      obtain ⟨hn, hns⟩ := List.forall_mem_cons.mp h
      rw [findSome?_firstBelow_cons, List.flatMap_cons]
      exact hn.bind (ih hns)

theorem condition_bounded {test : Condition Node}
    (h : ∀ n ∈ conditionChildren test, Checks s t scope n) :
    (condition s t scope test).Bounded
      (fun left => (conditionChildren test).findSome? fun n => n.firstBelow left) ()
      ((conditionChildren test).flatMap (faults s t scope)) := by
  cases test with
  | assertion a =>
      simp only [conditionChildren, List.findSome?_singleton, List.flatMap_singleton]
      exact h a (by simp [conditionChildren])
  | _ => exact Walk.bounded_pure ()

theorem optional_bounded {no : Option Node} (h : ∀ n ∈ no, Checks s t scope n) :
    (optional s t scope no).Bounded
      (fun left => no.toList.findSome? fun n => n.firstBelow left) ()
      (no.toList.flatMap (faults s t scope)) := by
  cases no with
  | none => exact Walk.bounded_pure ()
  | some n =>
      simp only [Option.toList_some, List.findSome?_singleton, List.flatMap_singleton]
      exact h n rfl

theorem atom_checks (span : Span) (a : Atom) : Checks s t scope (.atom span a) := by
  have hreport := fun fault => report_bounded span.start fault
  cases a with
  | backref ref caseless =>
      refine checks_of_visit (.atom span (.backref ref caseless)) rfl ?_
      rw [children, List.flatMap_nil, List.append_nil]
      exact hreport _
  | subroutine target =>
      cases target with
      | whole => exact checks_of_visit (.atom span (.subroutine .whole)) rfl (Walk.bounded_pure ())
      | group ref =>
          refine checks_of_visit (.atom span (.subroutine (.group ref))) rfl ?_
          rw [children, List.flatMap_nil, List.append_nil]
          exact hreport _
  | _ => exact checks_of_visit (.atom span _) rfl (Walk.bounded_pure ())

/-- No node of a tree is forgotten, of whatever kind it is. -/
theorem checks (s : ParserSettings) (t : GroupTable) (scope : Scope) (n : Node) :
    Checks s t scope n := by
  induction n using children_induction with
  | h n ih =>
      have hnodes := nodes_bounded ih
      cases n with
      | atom span a => exact atom_checks span a
      | sequence span items => exact checks_of_visit (.sequence span items) rfl hnodes
      | alternation span branches => exact checks_of_visit (.alternation span branches) rfl hnodes
      | group span head body =>
          have hbody := child_bounded (n := .group span head body) rfl
            (ih body (by simp [children]))
          exact checks_of_visit (.group span head body) rfl
            ((report_bounded span.start _).bind hbody)
      | quantifier span count target =>
          exact checks_of_visit (.quantifier span count target) rfl
            (child_bounded rfl (ih target (by simp [children])))
      | charClass span negated caseless expr =>
          exact checks_of_visit (.charClass span negated caseless expr) rfl
            (child_bounded rfl (ih expr (by simp [children])))
      | classOp span op operands => exact checks_of_visit (.classOp span op operands) rfl hnodes
      | conditional span test yes no =>
          have htest := @condition_bounded s t scope test fun c hc =>
            ih c (by simp [children, hc])
          have hno := @optional_bounded s t scope no fun c hc =>
            ih c (by simp [children, Option.mem_def.mp hc])
          refine checks_of_visit (.conditional span test yes no) rfl ?_
          rw [findSome?_firstBelow_conditional, children, List.flatMap_append, List.flatMap_cons]
          exact (report_bounded span.start _).bind
            (htest.bind ((ih yes (by simp [children])).bind hno))
      | define span body =>
          exact checks_of_visit (.define span body) rfl
            (child_bounded rfl (ih body (by simp [children])))

end Resolver

/-- The traversal refuses a tree for the first node that is too deep, or else for the first node at
fault. -/
theorem Node.resolve?_eq (s : ParserSettings) (t : GroupTable) (root : Node) :
    root.resolve? s t = root.firstFault? s t := by
  obtain ⟨cut, houtcome⟩ :=
    Resolver.checks s t (Scope.new root t.names) root { limit := s.treeLimit } (Nat.zero_le _)
  simp only [resolve?, firstFault?, houtcome, Nat.sub_zero]
  cases root.firstBelow s.treeLimit with
  | some offset => rfl
  | none =>
      show (Resolver.faults s t (Scope.new root t.names) root).head? = _
      simp only [Resolver.faults, Resolver.ownFaults, List.head?_flatMap, Option.head?_toList]

theorem Pattern.resolve?_eq (s : ParserSettings) (p : Pattern) :
    p.resolve? s = p.firstFault? s :=
  congrArg (Option.map (PatternError.ofLocated p.source)) (p.root.resolve?_eq s p.groupTable)

end PatternLint
