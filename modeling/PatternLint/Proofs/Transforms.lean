import PatternLint.Pattern
import PatternLint.Proofs.Scopes
import PatternLint.Proofs.Tree

/-!
# What transforms leave alone

A transform that takes away backtracking changes how a pattern is matched and nothing
else that can be read off the pattern. Most of this is about lists that go through a
tree in the order of the text: such a list stays as it is if it does for the nodes
that are replaced, and if a node that is put together again has the same entry as
before. Widths are of this kind as well, once a numbered group is taken for its number
and the width of its body.

The groups that `atomic` puts in are known by their places in the new tree, as the
same groups may have stood in the old one. `nodesOfAtomic` goes through the old tree
and lists the nodes of the new one, each with whether it was put in; `without` goes
through the new tree with these marks and takes the marked groups out.
-/

namespace PatternLint

namespace Node

/-! ### Numbers, names and marks -/

/-- The number and the name of a group with a number. -/
def numberAndName? : Node → Option (Nat × Option String)
  | .group _ head _ => head.number.map fun number => (number, head.name)
  | _ => none

/-- The numbers and names of the groups with numbers, in the order of the text. -/
def groupNumbers (n : Node) : List (Nat × Option String) := n.preorder.filterMap numberAndName?

/-- A node with other children in the places of its own. -/
def withChildren : Node → List Node → Node
  | .atom s a, _ => .atom s a
  | .sequence s _, items => .sequence s items
  | .alternation s _, branches => .alternation s branches
  | .group s head body, below => .group s head (below.headD body)
  | .quantifier s count target, below => .quantifier s count (below.headD target)
  | .charClass s negated caseless expr, below => .charClass s negated caseless (below.headD expr)
  | .classOp s op _, operands => .classOp s op operands
  | .conditional s (.assertion a) yes _, below =>
    .conditional s (.assertion (below.headD a)) (below.tail.headD yes) below.tail.tail.head?
  | .conditional s test yes _, below => .conditional s test (below.headD yes) below.tail.head?
  | .define s body, below => .define s (below.headD body)

theorem withChildren_children (n : Node) : n.withChildren n.children = n := by
  cases n with
  | conditional s test yes no => cases test <;> cases no <;> rfl
  | _ => rfl

/-- Takes the mark of a node from the marks. -/
def nextMark : StateM (List Bool) Bool := modifyGet fun marks => (marks.headD false, marks.tail)

/-- Takes the marked nodes out of a tree: such a node gives way to its child. There is a mark for
each node, in the order of the text. -/
def dropMarked : Node → StateM (List Bool) Node := foldTree fun n below => do
  let marked ← nextMark
  let children ← below.mapM id
  match marked, children with
  | true, [child] => return child
  | _, _ => return n.withChildren children

/-- The tree without the marked nodes. -/
def without (n : Node) (marks : List Bool) : Node := (n.dropMarked.run marks).1

/-- The nodes of the tree that `atomic` makes of a tree, in the order of the text, each with whether
it is a group that was put in. -/
def nodesOfAtomic : Node → List (Node × Bool) := foldTree entries
where
  /-- The entries of a node, from those of its children. -/
  entries (n : Node) (below : List (List (Node × Bool))) : List (Node × Bool) :=
    match n with
    | .quantifier _ count _ =>
      if Transform.givesBack count then (n.atomic, true) :: n.preorder.map (·, false)
      else (n.atomic, false) :: below.flatten
    | .group _ head _ =>
      if head.kind.isAtomic then n.preorder.map (·, false)
      else (n.atomic, false) :: below.flatten
    | .charClass .. | .classOp .. => n.preorder.map (·, false)
    | _ => (n.atomic, false) :: below.flatten

/-- The tree `m` is the tree `n` with atomic groups around repetitions put in. The nodes of `m` are
listed, each with whether it was put in. -/
structure Isolates (m n : Node) (entries : List (Node × Bool)) : Prop where
  nodes : entries.map (·.1) = m.preorder
  group : ∀ e ∈ entries, e.2 = true →
    ∃ s count target, e.1 = .group s { kind := .atomic } (.quantifier s count target)
  spans : (entries.filter fun e => !e.2).map (·.1.span) = n.preorder.map span
  without : m.without (entries.map (·.2)) = n

end Node

namespace Transform

/-! ### One node -/

variable {t : Transform} {n m : Node}

theorem node_of_replace (h : t.replace n = some m) : t.node n = m := by
  cases n <;> rw [node, h, Option.getD_some]

/-- A node that a transform puts together again has the transformed children, unless it is a class
and stays whole. -/
theorem children_node (hnone : t.replace n = none) :
    (t.node n).children = n.children.map t.node ∨ n.isClass = true ∧ t.node n = n := by
  cases n with
  | charClass s negated caseless expr => exact .inr ⟨rfl, by rw [node, hnone, Option.getD_none]⟩
  | classOp s op operands => exact .inr ⟨rfl, by rw [node, hnone, Option.getD_none]⟩
  | conditional s test yes no =>
      refine .inl ?_
      cases test <;> cases no <;>
        simp [node, hnone, condition, optional, Node.children, Node.conditionChildren]
  | _ => exact .inl (by simp [node, hnone, Node.children, nodes_eq_map])

theorem mem_children_node {c : Node} (hnone : t.replace n = none) (hc : c ∈ (t.node n).children) :
    (t.node n).isClass = true ∨ ∃ k ∈ n.children, c = t.node k := by
  rcases children_node hnone with h | ⟨hclass, h⟩
  · rw [h] at hc
    obtain ⟨k, hk, rfl⟩ := List.mem_map.mp hc
    exact .inr ⟨k, hk, rfl⟩
  · rw [h]
    exact .inl hclass

/-- A transform that replaces no node does not make a tree higher or lower. -/
theorem height_node (hnone : ∀ n, t.replace n = none) (n : Node) :
    (t.node n).height = n.height := by
  induction n using Node.children_induction with
  | h n ih =>
      rcases children_node (hnone n) with h | ⟨-, h⟩
      · rw [Node.height_eq, Node.height_eq n, h, List.map_map]
        congr 2
        exact List.map_congr_left ih
      · rw [h]

/-- A node that is put together again keeps its span. -/
theorem span_node (hnone : t.replace n = none) : (t.node n).span = n.span := by
  cases n <;> rw [node, hnone, Option.getD_none] <;> rfl

theorem numberAndName?_node (hnone : t.replace n = none) :
    (t.node n).numberAndName? = n.numberAndName? := by
  cases n <;> rw [node, hnone, Option.getD_none] <;> rfl

/-- With its own children back, a node that was put together again is as it was. -/
theorem withChildren_node (hcount : ∀ c, t.count c = c) (hnone : t.replace n = none) :
    (t.node n).withChildren n.children = n := by
  cases n with
  | conditional s test yes no =>
      rw [node, hnone, Option.getD_none]
      cases test <;> cases no <;> rfl
  | quantifier s count target =>
      rw [node, hnone, Option.getD_none, hcount]
      rfl
  | _ =>
      rw [node, hnone, Option.getD_none]
      rfl

/-- A node stays as it is if nothing takes its place, its children stay and so does its count. -/
theorem node_eq_self (hnone : t.replace n = none)
    (hcount : ∀ s count target, n = .quantifier s count target → t.count count = count)
    (hchildren : ∀ c ∈ n.children, t.node c = c) : t.node n = n := by
  have hnodes : ∀ ns : List Node, ns = n.children → t.nodes ns = ns := by
    intro ns hns
    rw [nodes_eq_map, List.map_congr_left fun c hc => hchildren c (hns ▸ hc), List.map_id']
  cases n with
  | sequence s items => rw [node, hnone, Option.getD_none, hnodes items rfl]
  | alternation s branches => rw [node, hnone, Option.getD_none, hnodes branches rfl]
  | group s head body =>
      rw [node, hnone, Option.getD_none, hchildren body (by simp [Node.children])]
  | quantifier s count target =>
      rw [node, hnone, Option.getD_none, hchildren target (by simp [Node.children]),
        hcount s count target rfl]
  | conditional s test yes no =>
      rw [node, hnone, Option.getD_none, hchildren yes (by simp [Node.children])]
      congr 1
      · cases test with
        | assertion a =>
            rw [condition, hchildren a (by simp [Node.children, Node.conditionChildren])]
        | _ => rfl
      · cases no with
        | none => rfl
        | some k => rw [optional, hchildren k (by simp [Node.children])]
  | define s body =>
      rw [node, hnone, Option.getD_none, hchildren body (by simp [Node.children])]
  | _ => rw [node, hnone, Option.getD_none]

/-! ### Transforms made twice -/

theorem nothing_node (n : Node) : nothing.node n = n := by
  induction n using Node.children_induction with
  | h n ih => exact node_eq_self rfl (fun _ _ _ _ => rfl) ih

/-- A transform made twice is the transform made once, if that holds of what takes the place of a
node and of counts, and if a node that was put together is put together the next time as well. -/
theorem node_node (hreplace : ∀ n m, t.replace n = some m → t.node m = m)
    (hnone : ∀ n, t.replace n = none → t.replace (t.node n) = none)
    (hcount : ∀ c, t.count (t.count c) = t.count c) (n : Node) :
    t.node (t.node n) = t.node n := by
  induction n using Node.children_induction with
  | h n ih =>
      cases hn : t.replace n with
      | some m => rw [node_of_replace hn, hreplace n m hn]
      | none =>
          rcases children_node hn with hchildren | ⟨-, hwhole⟩
          · refine node_eq_self (hnone n hn) ?_ ?_
            · intro s count target h
              cases n with
              | quantifier s' count' target' =>
                  rw [node, hn, Option.getD_none] at h
                  injection h with _ hc _
                  rw [← hc, hcount]
              | _ => rw [node, hn, Option.getD_none] at h; cases h
            · rw [hchildren, List.forall_mem_map]
              exact ih
          · rw [hwhole, hwhole]

/-! ### Lists in the order of the text -/

theorem filterMap_preorder_node {β : Type} {f : Node → Option β}
    (hreplace : ∀ n m, t.replace n = some m →
      m.preorder.filterMap f = n.preorder.filterMap f)
    (hroot : ∀ n, t.replace n = none → f (t.node n) = f n) (n : Node) :
    (t.node n).preorder.filterMap f = n.preorder.filterMap f := by
  induction n using Node.children_induction with
  | h n ih =>
      cases hn : t.replace n with
      | some m => rw [node_of_replace hn, hreplace n m hn]
      | none =>
          rcases children_node hn with hchildren | ⟨-, hwhole⟩
          · rw [Node.preorder_eq, Node.preorder_eq n, hchildren, List.filterMap_cons,
              List.filterMap_cons, hroot n hn, List.flatMap_map, List.filterMap_flatMap,
              List.filterMap_flatMap, List.flatMap_def, List.flatMap_def, List.map_congr_left ih]
          · rw [hwhole]

/-- Where nothing is replaced, the spans of a tree stay. -/
theorem map_span_preorder_node (hnone : ∀ n, t.replace n = none) (n : Node) :
    (t.node n).preorder.map Node.span = n.preorder.map Node.span := by
  rw [← List.filterMap_eq_map]
  refine filterMap_preorder_node ?_ ?_ n
  · intro n m hn
    rw [hnone n] at hn
    cases hn
  · exact fun n hn => congrArg some (span_node hn)

/-! ### Widths -/

/-- A transform that no width depends on. -/
structure Neutral (t : Transform) : Prop where
  replace : ∀ n m, t.replace n = some m → m.Agrees n
  count : ∀ c, (t.count c).min = c.min ∧ (t.count c).max = c.max

theorem Neutral.widthIn (ht : t.Neutral) (call : Active → CallTarget → Width) (n : Node)
    (a : Active) : (t.node n).widthIn call a = n.widthIn call a := by
  induction n using Node.children_induction generalizing a with
  | h n ih =>
      cases hn : t.replace n with
      | some m => rw [node_of_replace hn, (ht.replace n m hn).width]
      | none =>
          have hall : ∀ ns : List Node, (∀ c ∈ ns, c ∈ n.children) →
              Node.widthsIn call (t.nodes ns) a = Node.widthsIn call ns a := by
            intro ns
            induction ns with
            | nil => intro _; rfl
            | cons c cs ihcs =>
                intro hcs
                rw [nodes, Node.widthsIn, Node.widthsIn, ih c (hcs c (by simp)),
                  ihcs fun d hd => hcs d (by simp [hd])]
          cases n with
          | sequence s items =>
              rw [node, hn, Option.getD_none, Node.widthIn, Node.widthIn,
                hall items fun c hc => hc]
          | alternation s branches =>
              rw [node, hn, Option.getD_none, Node.widthIn, Node.widthIn,
                hall branches fun c hc => hc]
          | group s head body =>
              have hbody : (t.node body).widthIn call = body.widthIn call :=
                funext fun a => ih body (by simp [Node.children]) a
              rw [node, hn, Option.getD_none, Node.widthIn, Node.widthIn, hbody]
          | quantifier s count target =>
              rw [node, hn, Option.getD_none, Node.widthIn, Node.widthIn,
                ih target (by simp [Node.children]), (ht.count count).1, (ht.count count).2]
          | conditional s test yes no =>
              rw [node, hn, Option.getD_none, Node.widthIn, Node.widthIn,
                ih yes (by simp [Node.children])]
              cases no with
              | none => rfl
              | some k => rw [optional, Node.optionalWidthIn, Node.optionalWidthIn,
                  ih k (by simp [Node.children])]
          | _ => rw [node, hn, Option.getD_none] <;> rfl

theorem Neutral.agrees (ht : t.Neutral) (n : Node) : (t.node n).Agrees n where
  width call := funext fun a => ht.widthIn call n a
  groups := by
    rw [Node.numberedGroups, Node.numberedGroups, List.map_filterMap, List.map_filterMap]
    refine filterMap_preorder_node ?_ ?_ n
    · intro n m hm
      have hgroups := (ht.replace n m hm).groups
      rwa [Node.numberedGroups, Node.numberedGroups, List.map_filterMap,
        List.map_filterMap] at hgroups
    · intro n hn
      cases n with
      | group s head body =>
          rw [node, hn, Option.getD_none, Node.numbered?, Node.numbered?, Option.map_map,
            Option.map_map]
          congr 1
          funext number
          exact Prod.ext rfl (funext fun call => funext fun a => ht.widthIn call body a)
      | _ => rw [node, hn, Option.getD_none] <;> rfl

/-! ### Possessive repetitions -/

theorem possess_possess (c : Repeat) : possess (possess c) = possess c := by
  unfold possess
  cases h : c.greed <;> simp [h]

theorem neutral_possessive : possessive.Neutral where
  replace _ _ h := nomatch h
  count c := by
    show (possess c).min = c.min ∧ (possess c).max = c.max
    unfold possess
    cases c.greed <;> exact ⟨rfl, rfl⟩

/-! ### Atomic groups -/

/-- What takes the place of a node is the node, an atomic group or assertion, or a new atomic group
around the node, a repetition. -/
theorem isolate_cases {n m : Node} (h : isolate n = some m) :
    (∃ s head body, n = .group s head body ∧ head.kind.isAtomic = true ∧ m = n) ∨
      ∃ s count target, n = .quantifier s count target ∧ givesBack count = true ∧
        m = .group s { kind := .atomic } n := by
  cases n with
  | group s head body =>
      rw [isolate] at h
      split at h
      next hkind => exact .inl ⟨s, head, body, rfl, hkind, (Option.some.inj h).symm⟩
      next => cases h
  | quantifier s count target =>
      rw [isolate] at h
      split at h
      next hback => exact .inr ⟨s, count, target, rfl, hback, (Option.some.inj h).symm⟩
      next => cases h
  | _ => cases h

theorem isolate_atomic_of_some {n m : Node} (h : isolate n = some m) : isolate m = some m := by
  rcases isolate_cases h with ⟨s, head, body, rfl, -, rfl⟩ | ⟨s, count, target, rfl, -, rfl⟩
  · exact h
  · rfl

theorem isolate_atomic_of_none {n : Node} (h : isolate n = none) :
    isolate (atomic.node n) = none := by
  have hreplace : atomic.replace n = none := h
  cases n with
  | group s head body =>
      rw [node, hreplace, Option.getD_none]
      rw [isolate] at h ⊢
      split at h
      next => cases h
      next hkind => rw [if_neg hkind]
  | quantifier s count target =>
      rw [node, hreplace, Option.getD_none]
      rw [isolate] at h ⊢
      split at h
      next => cases h
      next hback => exact if_neg hback
  | _ =>
      rw [node, hreplace, Option.getD_none]
      rfl

theorem preorder_inserted (s : Span) (n : Node) :
    (Node.group s { kind := .atomic } n).preorder = .group s { kind := .atomic } n :: n.preorder := by
  rw [Node.preorder_eq, Node.children, List.flatMap_singleton]

/-- A list that has no entries for new atomic groups does not show where they are put in. -/
theorem filterMap_of_isolate {β : Type} {f : Node → Option β} {n m : Node}
    (hf : ∀ s n, f (.group s { kind := .atomic } n) = none) (h : isolate n = some m) :
    m.preorder.filterMap f = n.preorder.filterMap f := by
  rcases isolate_cases h with ⟨s, head, body, -, -, rfl⟩ | ⟨s, count, target, -, -, rfl⟩
  · rfl
  · rw [preorder_inserted, List.filterMap_cons_none (hf s n)]

theorem neutral_atomic : atomic.Neutral where
  replace n m h := by
    have hgroups : m.numberedGroups = n.numberedGroups := filterMap_of_isolate (fun _ _ => rfl) h
    refine ⟨?_, congrArg _ hgroups⟩
    rcases isolate_cases h with ⟨s, head, body, -, -, rfl⟩ | ⟨s, count, target, -, -, rfl⟩
    · exact fun _ => rfl
    · exact fun _ => rfl
  count _ := ⟨rfl, rfl⟩

end Transform

namespace Node

/-! ### Taking atomic groups out again -/

/-- A computation that takes the given marks and gives the given value. -/
def Takes {α : Type} (w : StateM (List Bool) α) (marks : List Bool) (a : α) : Prop :=
  ∀ rest, w.run (marks ++ rest) = (a, rest)

section Takes

variable {α β : Type} {w : StateM (List Bool) α} {f : α → StateM (List Bool) β}
  {marks marks' : List Bool} {a : α} {b : β}

theorem takes_nextMark (marked : Bool) : Takes nextMark [marked] marked := fun _ => rfl

theorem takes_pure (a : α) : Takes (pure a) [] a := fun _ => rfl

theorem Takes.bind (hw : Takes w marks a) (hf : Takes (f a) marks' b) :
    Takes (w >>= f) (marks ++ marks') b := by
  intro rest
  rw [List.append_assoc, StateT.run_bind, hw]
  exact hf rest

theorem Takes.value (hw : Takes w marks a) (hf : f a = pure b) : Takes (w >>= f) marks b := by
  have hpure : Takes (f a) [] b := hf ▸ takes_pure b
  have hbind := hw.bind hpure
  rwa [List.append_nil] at hbind

/-- Children in turn, each of which takes its own marks. -/
theorem takes_mapM {g : Node → StateM (List Bool) Node} {k : Node → List Bool} {v : Node → Node}
    (cs : List Node) (h : ∀ c ∈ cs, Takes (g c) (k c) (v c)) :
    Takes ((cs.map g).mapM id) (cs.flatMap k) (cs.map v) := by
  induction cs with
  | nil => exact takes_pure []
  | cons c cs ih =>
      rw [List.map_cons, List.mapM_cons, List.flatMap_cons, List.map_cons]
      refine (h c (by simp)).bind ?_
      exact (ih fun d hd => h d (by simp [hd])).value rfl

end Takes

/-- A node that is not marked keeps its place above what its children become. -/
theorem takes_dropMarked {n : Node} {k : Node → List Bool} {v g : Node → Node} {cs : List Node}
    (hchildren : n.children = cs.map g) (h : ∀ c ∈ cs, Takes (g c).dropMarked (k c) (v c)) :
    Takes n.dropMarked (false :: cs.flatMap k) (n.withChildren (cs.map v)) := by
  rw [dropMarked, foldTree_eq, hchildren, List.map_map]
  refine (takes_nextMark false).bind ?_
  exact (takes_mapM cs h).value rfl

/-- Without marks, a tree stays as it is. -/
theorem takes_unmarked (n : Node) :
    Takes n.dropMarked (n.preorder.map fun _ => false) n := by
  induction n using children_induction with
  | h n ih =>
      have hbelow := takes_dropMarked (g := id) (List.map_id _).symm ih
      rw [List.map_id', withChildren_children] at hbelow
      rwa [preorder_eq, List.map_cons, List.map_flatMap]

/-- A marked group gives way to its body. -/
theorem takes_marked {s : Span} {head : GroupHead} {body value : Node} {marks : List Bool}
    (h : Takes body.dropMarked marks value) :
    Takes (Node.group s head body).dropMarked (true :: marks) value := by
  rw [dropMarked, foldTree_eq]
  refine (takes_nextMark true).bind ?_
  have hbody := takes_mapM (k := fun _ => marks) (v := fun _ => value) [body] (by simpa using h)
  rw [List.flatMap_singleton] at hbody
  exact hbody.value rfl

/-! ### The nodes behind `atomic` -/

/-- What `atomic` does with a node: it leaves the whole tree, it puts a group around it, or it puts
the node together again. -/
theorem atomic_cases (n : Node) :
    (n.atomic = n ∧ n.nodesOfAtomic = n.preorder.map (·, false)) ∨
      (∃ s count target, n = .quantifier s count target ∧
        n.atomic = .group s { kind := .atomic } n ∧
        n.nodesOfAtomic = (n.atomic, true) :: n.preorder.map (·, false)) ∨
      (n.atomic.children = n.children.map atomic ∧ n.atomic.span = n.span ∧
        n.atomic.withChildren n.children = n ∧
        n.nodesOfAtomic = (n.atomic, false) :: n.children.flatMap nodesOfAtomic) := by
  rw [nodesOfAtomic, foldTree_eq]
  cases hisolate : Transform.isolate n with
  | some m =>
      have hatomic : n.atomic = m := Transform.node_of_replace (t := .atomic) hisolate
      rcases Transform.isolate_cases hisolate with
        ⟨s, head, body, rfl, hkind, rfl⟩ | ⟨s, count, target, rfl, hback, rfl⟩
      · exact .inl ⟨hatomic, by rw [nodesOfAtomic.entries, if_pos hkind]⟩
      · exact .inr (.inl ⟨s, count, target, rfl, hatomic,
          by rw [nodesOfAtomic.entries, if_pos hback]⟩)
  | none =>
      cases hclass : n.isClass with
      | true =>
          refine .inl ?_
          cases n with
          | charClass s negated caseless expr => exact ⟨rfl, rfl⟩
          | classOp s op operands => exact ⟨rfl, rfl⟩
          | _ => cases hclass
      | false =>
          have hchildren : n.atomic.children = n.children.map atomic := by
            rcases Transform.children_node (t := .atomic) hisolate with h | ⟨h, -⟩
            · exact h
            · rw [hclass] at h
              cases h
          refine .inr (.inr ⟨hchildren, Transform.span_node hisolate,
            Transform.withChildren_node (fun _ => rfl) hisolate, ?_⟩)
          rw [List.flatMap_def, ← nodesOfAtomic]
          cases n with
          | group s head body =>
              rw [Transform.isolate] at hisolate
              split at hisolate
              next => cases hisolate
              next hkind => exact if_neg hkind
          | quantifier s count target =>
              rw [Transform.isolate] at hisolate
              split at hisolate
              next => cases hisolate
              next hback => exact if_neg hback
          | charClass s negated caseless expr => cases hclass
          | classOp s op operands => cases hclass
          | _ => rfl

theorem map_fst_nodesOfAtomic (n : Node) : n.nodesOfAtomic.map (·.1) = n.atomic.preorder := by
  have hwhole : ∀ m : Node, (m.preorder.map (·, false)).map (·.1) = m.preorder := by
    intro m
    rw [List.map_map]
    exact List.map_id _
  induction n using children_induction with
  | h n ih =>
      rcases n.atomic_cases with ⟨hatomic, hentries⟩ | ⟨s, count, target, -, hatomic, hentries⟩ |
        ⟨hchildren, -, -, hentries⟩
      · rw [hentries, hwhole, hatomic]
      · rw [hentries, List.map_cons, hwhole, hatomic, Transform.preorder_inserted]
      · rw [hentries, List.map_cons, preorder_eq n.atomic, hchildren, List.map_flatMap,
          List.flatMap_map, List.flatMap_def, List.flatMap_def, List.map_congr_left ih]

theorem inserted_of_nodesOfAtomic {n : Node} : ∀ e ∈ n.nodesOfAtomic, e.2 = true →
    ∃ s count target, e.1 = .group s { kind := .atomic } (.quantifier s count target) := by
  have hwhole : ∀ m : Node, ∀ e ∈ m.preorder.map (·, false), e.2 = false :=
    fun m => List.forall_mem_map.mpr fun _ _ => rfl
  induction n using children_induction with
  | h n ih =>
      intro e he hput
      rcases n.atomic_cases with ⟨-, hentries⟩ | ⟨s, count, target, hn, hatomic, hentries⟩ |
        ⟨-, -, -, hentries⟩
      · rw [hentries] at he
        rw [hwhole n e he] at hput
        cases hput
      · rw [hentries] at he
        rcases List.mem_cons.mp he with rfl | he
        · exact ⟨s, count, target, hatomic.trans (by rw [hn])⟩
        · rw [hwhole n e he] at hput
          cases hput
      · rw [hentries] at he
        rcases List.mem_cons.mp he with rfl | he
        · cases hput
        · obtain ⟨c, hc, he⟩ := List.mem_flatMap.mp he
          exact ih c hc e he hput

theorem spans_nodesOfAtomic (n : Node) :
    (n.nodesOfAtomic.filter fun e => !e.2).map (·.1.span) = n.preorder.map span := by
  have hwhole : ∀ m : Node, ((m.preorder.map (·, false)).filter fun e => !e.2).map (·.1.span) =
      m.preorder.map span := by
    intro m
    have hkeep : (m.preorder.map (·, false)).filter (fun e => !e.2) = m.preorder.map (·, false) :=
      List.filter_eq_self.mpr (List.forall_mem_map.mpr fun _ _ => rfl)
    rw [hkeep, List.map_map]
    rfl
  induction n using children_induction with
  | h n ih =>
      rcases n.atomic_cases with ⟨-, hentries⟩ | ⟨s, count, target, -, -, hentries⟩ |
        ⟨-, hspan, -, hentries⟩
      · rw [hentries, hwhole]
      · rw [hentries, List.filter_cons_of_neg (by simp), hwhole]
      · rw [hentries, List.filter_cons_of_pos (by simp), List.map_cons, hspan, preorder_eq n,
          List.map_cons, List.filter_flatMap, List.map_flatMap, List.map_flatMap,
          List.flatMap_def, List.flatMap_def, List.map_congr_left ih]

theorem takes_atomic (n : Node) :
    Takes n.atomic.dropMarked (n.nodesOfAtomic.map (·.2)) n := by
  have hwhole : ∀ m : Node, (m.preorder.map (·, false)).map (·.2) = m.preorder.map fun _ => false :=
    fun m => List.map_map
  induction n using children_induction with
  | h n ih =>
      rcases n.atomic_cases with ⟨hatomic, hentries⟩ | ⟨s, count, target, -, hatomic, hentries⟩ |
        ⟨hchildren, -, hback, hentries⟩
      · rw [hentries, hwhole, hatomic]
        exact takes_unmarked n
      · rw [hentries, List.map_cons, hwhole, hatomic]
        exact takes_marked (takes_unmarked n)
      · have hbelow := takes_dropMarked hchildren ih
        rw [List.map_id', hback] at hbelow
        rwa [hentries, List.map_cons, List.map_flatMap]

/-- `atomic` puts atomic groups around repetitions and does nothing else. -/
theorem isolates_atomic (n : Node) : n.atomic.Isolates n n.nodesOfAtomic where
  nodes := n.map_fst_nodesOfAtomic
  group := inserted_of_nodesOfAtomic
  spans := n.spans_nodesOfAtomic
  without := by
    have hdrop := n.takes_atomic []
    rw [List.append_nil] at hdrop
    rw [Node.without, hdrop]

/-- Two atomic groups around the same repetition, the second of which was put in. -/
example :
    let loop : Node := .quantifier ⟨0, 2⟩ ⟨0, none, .greedy⟩ default
    let group : Node := .group ⟨0, 2⟩ { kind := .atomic } loop
    (Node.alternation ⟨0, 2⟩ [group, loop]).atomic = .alternation ⟨0, 2⟩ [group, group] ∧
      (Node.alternation ⟨0, 2⟩ [group, loop]).nodesOfAtomic.map (·.2) =
        [false, false, false, false, true, false, false] := ⟨rfl, rfl⟩

end Node

/-! ### Patterns -/

namespace Pattern

/-- What a transform leaves alone in a pattern if it is about backtracking only. -/
structure Spared (t : Transform) (p : Pattern) : Prop where
  again : (p.transform t).transform t = p.transform t
  fields : { p.transform t with root := p.root } = p
  groupNumbers : (p.transform t).root.groupNumbers = p.root.groupNumbers
  width : (p.transform t).scope.width (p.transform t).root = p.scope.width p.root
  call : (p.transform t).scope.call = p.scope.call
  groupWidth : (p.transform t).scope.groupWidth = p.scope.groupWidth

variable {t : Transform}

theorem spared_of_neutral (ht : t.Neutral) (hagain : ∀ n, t.node (t.node n) = t.node n)
    (hnumbers : ∀ n, (t.node n).groupNumbers = n.groupNumbers) (p : Pattern) : p.Spared t where
  again := by
    rw [transform, transform, hagain]
  fields := rfl
  groupNumbers := hnumbers p.root
  width := (ht.agrees p.root).width_of p.names (ht.agrees p.root).width
  call := (ht.agrees p.root).call p.names
  groupWidth := (ht.agrees p.root).groupWidth p.names

theorem spared_possessive (p : Pattern) : p.Spared .possessive := by
  refine spared_of_neutral Transform.neutral_possessive ?_ ?_ p
  · exact Transform.node_node (fun _ _ h => nomatch h) (fun _ _ => rfl) Transform.possess_possess
  · exact Transform.filterMap_preorder_node (fun _ _ h => nomatch h)
      fun _ => Transform.numberAndName?_node

theorem spared_atomic (p : Pattern) : p.Spared .atomic := by
  refine spared_of_neutral Transform.neutral_atomic ?_ ?_ p
  · exact Transform.node_node
      (fun _ _ h => Transform.node_of_replace (Transform.isolate_atomic_of_some h))
      (fun _ => Transform.isolate_atomic_of_none) fun _ => rfl
  · exact Transform.filterMap_preorder_node
      (fun _ _ => Transform.filterMap_of_isolate fun _ _ => rfl)
      fun _ => Transform.numberAndName?_node

/-- A transform without rules gives back the pattern. `possessive` and `atomic` change nothing the
second time. They leave alone all but the tree, the numbers and names of groups, and the widths of
the pattern, of its groups and of whatever a reference or call leads to. `possessive` keeps the
spans of the nodes as well, and `atomic` only puts atomic groups around repetitions. -/
theorem transform_spared (p : Pattern) :
    p.transform .nothing = p ∧
      (p.Spared .possessive ∧
        (p.transform .possessive).root.preorder.map Node.span = p.root.preorder.map Node.span) ∧
      p.Spared .atomic ∧ (p.transform .atomic).root.Isolates p.root p.root.nodesOfAtomic := by
  have hspans : (p.transform .possessive).root.preorder.map Node.span =
      p.root.preorder.map Node.span :=
    Transform.map_span_preorder_node (t := .possessive) (fun _ => rfl) p.root
  refine ⟨?_, ⟨p.spared_possessive, hspans⟩, p.spared_atomic, p.root.isolates_atomic⟩
  rw [transform, Transform.nothing_node]

end Pattern

end PatternLint
