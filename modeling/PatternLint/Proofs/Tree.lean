import PatternLint.Node

/-!
# Reasoning about trees

A node holds others in lists, in an option and in a condition, and the recursor
that comes with it has a case for each. `children_induction` hides them: what
holds of a node whenever it holds of its children holds of all nodes. Together
with `foldTree_eq` it is enough for all that is said about nodes of every kind.
-/

namespace PatternLint.Node

mutual
/-- What passes from the children of a node to the node holds of all nodes. -/
theorem children_induction {P : Node → Prop} (h : ∀ n, (∀ c ∈ n.children, P c) → P n)
    (n : Node) : P n := by
  refine h n ?_
  cases n with
  | atom s a => simp [children]
  | sequence s items => exact forest_induction h items
  | alternation s branches => exact forest_induction h branches
  | group s head body => simpa [children] using children_induction h body
  | quantifier s count target => simpa [children] using children_induction h target
  | charClass s neg caseless expr => simpa [children] using children_induction h expr
  | classOp s op operands => exact forest_induction h operands
  | conditional s test yes no =>
      intro c hc
      simp only [children, List.mem_append, List.mem_cons, Option.mem_toList] at hc
      rcases hc with hc | hc | hc
      · exact condition_induction h test c hc
      · exact hc ▸ children_induction h yes
      · exact optional_induction h no c hc
  | define s body => simpa [children] using children_induction h body
termination_by structural n
theorem forest_induction {P : Node → Prop} (h : ∀ n, (∀ c ∈ n.children, P c) → P n)
    (ns : List Node) : ∀ c ∈ ns, P c := by
  cases ns with
  | nil => simp
  | cons n ns =>
      intro c hc
      rcases List.mem_cons.mp hc with hc | hc
      · exact hc ▸ children_induction h n
      · exact forest_induction h ns c hc
termination_by structural ns
theorem condition_induction {P : Node → Prop} (h : ∀ n, (∀ c ∈ n.children, P c) → P n)
    (test : Condition Node) : ∀ c ∈ conditionChildren test, P c := by
  cases test with
  | assertion a => simpa [conditionChildren] using children_induction h a
  | _ => simp [conditionChildren]
termination_by structural test
theorem optional_induction {P : Node → Prop} (h : ∀ n, (∀ c ∈ n.children, P c) → P n)
    (no : Option Node) : ∀ c ∈ no, P c := by
  cases no with
  | none => simp
  | some n => simpa using children_induction h n
termination_by structural no
end

theorem preorder_eq (n : Node) : n.preorder = n :: n.children.flatMap preorder := by
  rw [preorder, foldTree_eq, ← List.flatMap_def]

/-- The nodes of a tree are its root and the nodes of its children. -/
theorem mem_preorder {m n : Node} : m ∈ n.preorder ↔ m = n ∨ ∃ c ∈ n.children, m ∈ c.preorder := by
  rw [preorder_eq]
  simp

theorem self_mem_preorder (n : Node) : n ∈ n.preorder := mem_preorder.mpr (.inl rfl)

theorem mem_preorder_trans {k m n : Node} (hm : m ∈ n.preorder) (hk : k ∈ m.preorder) :
    k ∈ n.preorder := by
  induction n using children_induction with
  | h n ih =>
      rcases mem_preorder.mp hm with rfl | ⟨c, hc, hm⟩
      · exact hk
      · exact mem_preorder.mpr (.inr ⟨c, hc, ih c hc hm⟩)

/-- What holds of all nodes of a tree holds of all nodes of its children. -/
theorem forall_preorder_child {P : Node → Prop} {c n : Node} (h : ∀ m ∈ n.preorder, P m)
    (hc : c ∈ n.children) : ∀ m ∈ c.preorder, P m :=
  fun m hm => h m (mem_preorder.mpr (.inr ⟨c, hc, hm⟩))

/-- What holds of all nodes of a tree holds of its root and of all nodes of its children. -/
theorem forall_preorder_iff {P : Node → Prop} {n : Node} :
    (∀ m ∈ n.preorder, P m) ↔ P n ∧ ∀ c ∈ n.children, ∀ m ∈ c.preorder, P m := by
  constructor
  · intro h
    exact ⟨h n n.self_mem_preorder, fun c hc => forall_preorder_child h hc⟩
  · rintro ⟨hn, hchildren⟩ m hm
    rcases mem_preorder.mp hm with rfl | ⟨c, hc, hm⟩
    · exact hn
    · exact hchildren c hc m hm

theorem height_eq (n : Node) : n.height = (n.children.map height).foldl max 0 + 1 := by
  rw [height, foldTree_eq]

theorem foldl_max_le {l : List Nat} {b k : Nat} :
    l.foldl max b ≤ k ↔ b ≤ k ∧ ∀ x ∈ l, x ≤ k := by
  induction l generalizing b with
  | nil => simp
  | cons y l ih =>
      simp only [List.foldl_cons, ih, List.forall_mem_cons, Nat.max_le]
      exact and_assoc

/-- A child is lower than its parent. -/
theorem height_child {c n : Node} (hc : c ∈ n.children) : c.height + 1 ≤ n.height := by
  rw [height_eq n]
  have hle := (foldl_max_le.mp (Nat.le_refl ((n.children.map height).foldl max 0))).2
  have := hle c.height (List.mem_map_of_mem hc)
  omega

/-- Whether a node is a class or a part of one that has parts. -/
def isClass : Node → Bool
  | .charClass .. | .classOp .. => true
  | _ => false

end PatternLint.Node
