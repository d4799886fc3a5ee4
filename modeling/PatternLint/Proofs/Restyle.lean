import Mathlib.Data.List.Forall2
import PatternLint.References
import PatternLint.Proofs.Scopes
import PatternLint.Proofs.Spelling

/-!
# Trees that differ in style

A tree that is written and read again comes back with other spans, and its
literals may come back in another form. Both are changes of style: the shape of
the tree stays, and so do the groups and references in it. `Restyle` is such a
change, `erase` the one that takes away the spans and nothing else, and
`respelled` the one that writing and reading make together.

Nothing that the parser checks about a complete tree depends on style, and the
tokens of a tree do not depend on its spans.
-/

namespace PatternLint

open Unicode

/-- A change of the atoms, heads and counts of a tree, in or outside a class. -/
structure Restyle where
  atom : Bool → Atom → Atom := fun _ a => a
  head : GroupHead → GroupHead := id
  count : Repeat → Repeat := id

namespace Restyle

mutual
/-- The tree in another style and without spans. -/
def node (r : Restyle) (inClass : Bool) : Node → Node
  | .atom _ a => .atom ⟨0, 0⟩ (r.atom inClass a)
  | .sequence _ items => .sequence ⟨0, 0⟩ (nodes r inClass items)
  | .alternation _ branches => .alternation ⟨0, 0⟩ (nodes r inClass branches)
  | .group _ head body => .group ⟨0, 0⟩ (r.head head) (node r inClass body)
  | .quantifier _ count target => .quantifier ⟨0, 0⟩ (r.count count) (node r inClass target)
  | .charClass _ negated caseless expr => .charClass ⟨0, 0⟩ negated caseless (node r true expr)
  | .classOp _ op operands => .classOp ⟨0, 0⟩ op (nodes r inClass operands)
  | .conditional _ test yes no =>
    .conditional ⟨0, 0⟩ (condition r inClass test) (node r inClass yes) (optional r inClass no)
  | .define _ body => .define ⟨0, 0⟩ (node r inClass body)
/-- Several trees in another style. -/
def nodes (r : Restyle) (inClass : Bool) : List Node → List Node
  | [] => []
  | n :: ns => node r inClass n :: nodes r inClass ns
/-- A condition in another style. -/
def condition (r : Restyle) (inClass : Bool) : Condition Node → Condition Node
  | .assertion a => .assertion (node r inClass a)
  | .group ref => .group ref
  | .recursion => .recursion
  | .recursionGroup n => .recursionGroup n
  | .recursionName s => .recursionName s
/-- A tree that may be missing in another style. -/
def optional (r : Restyle) (inClass : Bool) : Option Node → Option Node
  | none => none
  | some n => some (node r inClass n)
end

variable (r : Restyle) (inClass : Bool)

theorem nodes_eq_map (ns : List Node) : r.nodes inClass ns = ns.map (r.node inClass) := by
  induction ns with
  | nil => rfl
  | cons n ns ih => simp [nodes, ih]

/-- Whether the children of a node are in a class. -/
def below (inClass : Bool) : Node → Bool
  | .charClass .. => true
  | _ => inClass

theorem children_node (n : Node) :
    (r.node inClass n).children = n.children.map (r.node (below inClass n)) := by
  cases n with
  | conditional s test yes no =>
      cases test <;> cases no <;>
        simp [node, condition, optional, Node.children, Node.conditionChildren, below]
  | _ => simp [node, Node.children, nodes_eq_map, below]

theorem branches_node (n : Node) :
    (r.node inClass n).branches = n.branches.map (r.node inClass) := by
  cases n with
  | alternation s branches => rw [node, Node.branches, Node.branches, nodes_eq_map]
  | _ => rfl

theorem height_node (n : Node) : (r.node inClass n).height = n.height := by
  induction n using Node.children_induction generalizing inClass with
  | h n ih =>
      rw [Node.height_eq, Node.height_eq n, children_node, List.map_map]
      congr 2
      exact List.map_congr_left fun c hc => ih c hc _

/-- The nodes of the tree in another style are those of the tree, each in that style. -/
theorem preorder_node (n : Node) :
    List.Forall₂ (fun m m' => ∃ inClass, m' = r.node inClass m) n.preorder
      (r.node inClass n).preorder := by
  induction n using Node.children_induction generalizing inClass with
  | h n ih =>
      rw [Node.preorder_eq, Node.preorder_eq (r.node inClass n), children_node]
      refine .cons ⟨inClass, rfl⟩ ?_
      have hall : ∀ cs : List Node, (∀ c ∈ cs, c ∈ n.children) →
          List.Forall₂ (fun m m' => ∃ inClass, m' = r.node inClass m) (cs.flatMap Node.preorder)
            ((cs.map (r.node (below inClass n))).flatMap Node.preorder) := by
        intro cs
        induction cs with
        | nil => exact fun _ => .nil
        | cons c cs ihcs =>
            intro hcs
            exact List.rel_append (ih c (hcs c (by simp)) _) (ihcs fun d hd => hcs d (by simp [hd]))
      exact hall n.children fun c hc => hc

end Restyle

/-! ### Faults -/

namespace Node

/-- All labels of a tree are below a limit just if the tree is not higher. -/
theorem labels_lt_iff {limit : Nat} (n : Node) (depth : Nat) :
    (∀ d ∈ foldTree preorderWithDepth.label n depth, d.1 < limit) ↔ depth + n.height ≤ limit := by
  induction n using Node.children_induction generalizing depth with
  | h n ih =>
      rw [foldTree_eq, preorderWithDepth.label, height_eq]
      simp only [List.forall_mem_cons, List.mem_flatMap, List.mem_map, exists_exists_and_eq_and,
        forall_exists_index, and_imp]
      have hchildren : (∀ d c, c ∈ n.children →
          d ∈ foldTree preorderWithDepth.label c (depth + 1) → d.1 < limit) ↔
          ∀ c ∈ n.children, depth + 1 + c.height ≤ limit :=
        ⟨fun h c hc => (ih c hc _).mp fun d hd => h d c hc hd,
          fun h d c hc hd => (ih c hc _).mpr (h c hc) d hd⟩
      rw [hchildren]
      constructor
      · rintro ⟨hself, hbelow⟩
        have hmax : (n.children.map height).foldl max 0 ≤ limit - depth - 1 := by
          refine foldl_max_le.mpr ⟨Nat.zero_le _, ?_⟩
          simp only [List.forall_mem_map]
          intro c hc
          have := hbelow c hc
          omega
        omega
      · intro h
        have hmax := (foldl_max_le.mp (Nat.le_refl ((n.children.map height).foldl max 0))).2
        refine ⟨by omega, fun c hc => ?_⟩
        have := hmax c.height (List.mem_map_of_mem hc)
        omega

theorem firstBelow_eq_none_iff {limit : Nat} {n : Node} :
    n.firstBelow limit = none ↔ n.height ≤ limit := by
  rw [firstBelow, Option.map_eq_none_iff, List.find?_eq_none]
  simp only [decide_eq_true_eq, Nat.not_le]
  rw [preorderWithDepth, labels_lt_iff, Nat.zero_add]

theorem firstFault?_eq_none_iff {s : ParserSettings} {t : GroupTable} {root : Node} :
    root.firstFault? s t = none ↔ root.height ≤ s.treeLimit ∧
      ∀ n ∈ root.preorder, n.ownFault? s t (Scope.new root t.names) = none := by
  rw [firstFault?]
  cases hb : root.firstBelow s.treeLimit with
  | some offset =>
      have hheight : ¬ root.height ≤ s.treeLimit := fun h => by
        simp [firstBelow_eq_none_iff.mpr h] at hb
      simp [hheight]
  | none =>
      have hheight := firstBelow_eq_none_iff.mp hb
      simp [hheight, List.findSome?_eq_none_iff]

end Node

namespace Restyle

/-- A restyling that changes nothing about groups, references and widths: literals may get another
form, heads another kind without assertion, and counts another greed. -/
structure Faithful (r : Restyle) : Prop where
  atom : ∀ inClass a, r.atom inClass a = a ∨ ∃ c form form' caseless,
    a = .literal c form caseless ∧ r.atom inClass a = .literal c form' caseless
  number : ∀ head, (r.head head).number = head.number
  look : ∀ head, (r.head head).kind.isLookaround = head.kind.isLookaround ∧
    (r.head head).kind.isLookbehind = head.kind.isLookbehind
  count : ∀ c, (r.count c).min = c.min ∧ (r.count c).max = c.max

variable {r : Restyle} {inClass : Bool}

theorem Faithful.ofAtom (hr : r.Faithful) (call : CallTarget → Width) (a : Atom) :
    Width.ofAtom call (r.atom inClass a) = Width.ofAtom call a := by
  rcases hr.atom inClass a with h | ⟨c, form, form', caseless, rfl, h⟩
  · rw [h]
  · rw [h]
    rfl

theorem Faithful.widthIn (hr : r.Faithful) (call : Active → CallTarget → Width) (n : Node)
    (a : Active) : (r.node inClass n).widthIn call a = n.widthIn call a := by
  induction n using Node.children_induction generalizing inClass a with
  | h n ih =>
      have hall : ∀ ns : List Node, (∀ c ∈ ns, c ∈ n.children) →
          Node.widthsIn call (r.nodes inClass ns) a = Node.widthsIn call ns a := by
        intro ns
        induction ns with
        | nil => intro _; rfl
        | cons c cs ihcs =>
            intro hcs
            rw [nodes, Node.widthsIn, Node.widthsIn, ih c (hcs c (by simp)),
              ihcs fun d hd => hcs d (by simp [hd])]
      cases n with
      | atom s x => exact hr.ofAtom (call a) x
      | sequence s items => rw [node, Node.widthIn, Node.widthIn, hall items fun c hc => hc]
      | alternation s branches => rw [node, Node.widthIn, Node.widthIn, hall branches fun c hc => hc]
      | group s head body =>
          have hbody : (r.node inClass body).widthIn call = body.widthIn call :=
            funext fun a => ih body (by simp [Node.children]) a
          rw [node, Node.widthIn, Node.widthIn, (hr.look head).1, hr.number, hbody]
      | quantifier s count target =>
          rw [node, Node.widthIn, Node.widthIn, ih target (by simp [Node.children]),
            (hr.count count).1, (hr.count count).2]
      | charClass s negated caseless expr => rfl
      | classOp s op operands => rfl
      | conditional s test yes no =>
          rw [node, Node.widthIn, Node.widthIn, ih yes (by simp [Node.children])]
          cases no with
          | none => rfl
          | some m => rw [optional, Node.optionalWidthIn, Node.optionalWidthIn,
              ih m (by simp [Node.children])]
      | define s body => rfl

/-- References and calls do not see the style of a tree. -/
theorem Faithful.agrees (hr : r.Faithful) (inClass : Bool) (n : Node) :
    (r.node inClass n).Agrees n where
  width call := funext fun a => hr.widthIn call n a
  groups := by
    have hmeasure : ∀ (m : Node) (inClass : Bool),
        ((r.node inClass m).numbered?).map NumberedGroup.measure =
          m.numbered?.map NumberedGroup.measure := by
      intro m inClass
      cases m with
      | group s head body =>
          rw [node, Node.numbered?, Node.numbered?, hr.number, Option.map_map, Option.map_map]
          congr 1
          funext number
          exact Prod.ext rfl (funext fun call => funext fun a => hr.widthIn call body a)
      | _ => rfl
    rw [Node.numberedGroups, Node.numberedGroups, List.map_filterMap, List.map_filterMap]
    have hnodes := r.preorder_node inClass n
    generalize n.preorder = ms at hnodes ⊢
    generalize (r.node inClass n).preorder = ms' at hnodes ⊢
    induction hnodes with
    | nil => rfl
    | @cons m m' ms ms' hm _ ih =>
        obtain ⟨inClass, rfl⟩ := hm
        rw [List.filterMap_cons, List.filterMap_cons, hmeasure, ih]

section Scope

variable (hr : r.Faithful) (inClass : Bool) (root : Node) (names : List (String × Nat))
include hr

theorem Faithful.width (inClass' : Bool) (n : Node) :
    (Scope.new (r.node inClass root) names).width (r.node inClass' n) =
      (Scope.new root names).width n :=
  (hr.agrees inClass root).width_of names fun call => funext fun a => hr.widthIn call n a

theorem Faithful.ownFault? (s : ParserSettings) (t : GroupTable) (inClass' : Bool) (n : Node) :
    (r.node inClass' n).ownFault? s t (Scope.new (r.node inClass root) names) =
      n.ownFault? s t (Scope.new root names) := by
  have hwidth := hr.width inClass root names
  cases n with
  | atom s a =>
      rw [node]
      rcases hr.atom inClass' a with h | ⟨c, form, form', caseless, rfl, h⟩
      · rw [h]
        cases a with
        | subroutine target => cases target <;> rfl
        | _ => rfl
      · rw [h]
        rfl
  | group sp head body =>
      have hbranches : ((r.node inClass' body).branches.all fun b =>
          ((Scope.new (r.node inClass root) names).width b).isFixed) =
          body.branches.all fun b => ((Scope.new root names).width b).isFixed := by
        rw [branches_node]
        simp only [List.all_map, Function.comp_def, hwidth]
      rw [node, Node.ownFault?, Node.ownFault?, (hr.look head).2]
      simp only [Node.lookbehindFault?, hwidth, hbranches]
  | conditional sp test yes no => cases test <;> rfl
  | _ => rfl

end Scope

/-- Whether a tree has a fault does not depend on its style. -/
theorem Faithful.firstFault? (hr : r.Faithful) (inClass : Bool) (s : ParserSettings)
    (t : GroupTable) (root : Node) :
    (r.node inClass root).firstFault? s t = none ↔ root.firstFault? s t = none := by
  rw [Node.firstFault?_eq_none_iff, Node.firstFault?_eq_none_iff, height_node]
  refine and_congr_right fun _ => ?_
  have hown := fun n inClass' => hr.ownFault? inClass root t.names s t inClass' n
  have hnodes := r.preorder_node inClass root
  generalize Scope.new (r.node inClass root) t.names = scope' at hown ⊢
  generalize Scope.new root t.names = scope at hown ⊢
  generalize root.preorder = ms at hnodes ⊢
  generalize (r.node inClass root).preorder = ms' at hnodes ⊢
  induction hnodes with
  | nil => simp
  | @cons m m' ms ms' hm _ ih =>
      obtain ⟨inClass', rfl⟩ := hm
      simp only [List.forall_mem_cons, hown, ih]

/-! ### Tokens -/

/-- A restyling that the tokens of a tree do not show. -/
structure Silent (r : Restyle) : Prop where
  atom : ∀ inClass a, (r.atom inClass a).kinds inClass = a.kinds inClass
  empty : ∀ inClass a, r.atom inClass a = .empty ↔ a = .empty
  head : ∀ head, (r.head head).opener = head.opener
  count : ∀ c, r.count c = c

theorem Silent.needsGroup (hr : r.Silent) (n : Node) :
    Render.needsGroup (r.node inClass n) = Render.needsGroup n := by
  cases n with
  | atom s a =>
      rw [node]
      by_cases h : a = .empty
      · rw [(hr.empty inClass a).mpr h, h]
        rfl
      · have h' : r.atom inClass a ≠ .empty := fun he => h ((hr.empty inClass a).mp he)
        have hnot : ∀ {s : Span} {a : Atom}, a ≠ .empty → Render.needsGroup (.atom s a) = false := by
          intro s a ha
          unfold Render.needsGroup
          split <;> simp_all
        rw [hnot h, hnot h']
  | _ => rfl

theorem Silent.kinds (hr : r.Silent) (n : Node) :
    (r.node inClass n).kinds inClass = n.kinds inClass := by
  induction n using Node.children_induction generalizing inClass with
  | h n ih =>
      have heach : ∀ ns : List Node, (∀ c ∈ ns, c ∈ n.children) →
          Node.kindsEach inClass (r.nodes inClass ns) = Node.kindsEach inClass ns := by
        intro ns hns
        rw [Node.kindsEach_eq_map, Node.kindsEach_eq_map, nodes_eq_map, List.map_map]
        exact List.map_congr_left fun c hc => ih c (hns c hc)
      cases n with
      | atom s a => exact hr.atom inClass a
      | sequence s items => rw [node, Node.kinds, Node.kinds, heach items fun c hc => hc]
      | alternation s branches => rw [node, Node.kinds, Node.kinds, heach branches fun c hc => hc]
      | group s head body =>
          rw [node, Node.kinds, Node.kinds, hr.head, ih body (by simp [Node.children])]
      | quantifier s count target =>
          rw [node, Node.kinds, Node.kinds, hr.needsGroup, hr.count,
            ih target (by simp [Node.children])]
      | charClass s negated caseless expr =>
          rw [node, Node.kinds, Node.kinds, ih expr (by simp [Node.children])]
      | classOp s op operands => rw [node, Node.kinds, Node.kinds, heach operands fun c hc => hc]
      | conditional s test yes no =>
          have htest : Node.testKinds inClass (r.condition inClass test) =
              Node.testKinds inClass test := by
            cases test with
            | assertion a =>
                rw [condition, Node.testKinds, Node.testKinds,
                  ih a (by simp [Node.children, Node.conditionChildren])]
            | _ => rfl
          have hno : Node.optionalKinds inClass (r.optional inClass no) =
              Node.optionalKinds inClass no := by
            cases no with
            | none => rfl
            | some m =>
                rw [optional, Node.optionalKinds, Node.optionalKinds,
                  ih m (by simp [Node.children])]
          rw [node, Node.kinds, Node.kinds, htest, ih yes (by simp [Node.children]), hno]
      | define s body => rw [node, Node.kinds, Node.kinds, ih body (by simp [Node.children])]

end Restyle

/-! ### The two styles -/

/-- A literal in the form that it has when it has been written and read. -/
def Atom.respelled (inClass : Bool) : Atom → Atom
  | .literal c form caseless =>
    match literalKind inClass c form with
    | .escaped _ form => .literal c form caseless
    | _ => .literal c .verbatim caseless
  | a => a

/-- The head of a group when it has been written and read: settings without a letter are lost. -/
def GroupHead.respelled (head : GroupHead) : GroupHead :=
  match head.kind with
  | .modifiers change => if change.letters = "" then { head with kind := .nonCapturing } else head
  | _ => head

/-- The change of style that writing and reading make together. -/
def Restyle.respelling : Restyle where
  atom := Atom.respelled
  head := GroupHead.respelled

namespace Node

/-- The tree without its spans. -/
def erase (n : Node) : Node := Restyle.node {} false n

/-- The tree as it comes back when it has been written and read, without spans. -/
def respelled (inClass : Bool) (n : Node) : Node := Restyle.respelling.node inClass n

end Node

/-- The style of a tree without spans does not depend on where it stands. -/
theorem Restyle.node_true (n : Node) : Restyle.node {} true n = n.erase := by
  induction n using Node.children_induction with
  | h n ih =>
      have hall : ∀ ns : List Node, (∀ c ∈ ns, c ∈ n.children) →
          Restyle.nodes {} true ns = Restyle.nodes {} false ns := by
        intro ns hns
        rw [Restyle.nodes_eq_map, Restyle.nodes_eq_map]
        exact List.map_congr_left fun c hc => ih c (hns c hc)
      unfold Node.erase at ih ⊢
      cases n with
      | sequence s items => rw [node, node, hall items fun c hc => hc]
      | alternation s branches => rw [node, node, hall branches fun c hc => hc]
      | classOp s op operands => rw [node, node, hall operands fun c hc => hc]
      | conditional s test yes no =>
          rw [node, node, ih yes (by simp [Node.children])]
          congr 1
          · cases test with
            | assertion a => rw [condition, condition,
                ih a (by simp [Node.children, Node.conditionChildren])]
            | _ => rfl
          · cases no with
            | none => rfl
            | some m => rw [optional, optional, ih m (by simp [Node.children])]
      | group s head body => rw [node, node, ih body (by simp [Node.children])]
      | quantifier s count target => rw [node, node, ih target (by simp [Node.children])]
      | define s body => rw [node, node, ih body (by simp [Node.children])]
      | _ => rfl

theorem Restyle.faithful_erase : Restyle.Faithful {} where
  atom _ _ := .inl rfl
  number _ := rfl
  look _ := ⟨rfl, rfl⟩
  count _ := ⟨rfl, rfl⟩

theorem Restyle.silent_erase : Restyle.Silent {} where
  atom _ _ := rfl
  empty _ _ := Iff.rfl
  head _ := rfl
  count _ := rfl

/-- A literal has a form of its own behind its token. -/
theorem literalKind_cases (inClass : Bool) (c : Char) (form : LiteralForm) :
    literalKind inClass c form = .literal c ∨
      ∃ form', literalKind inClass c form = .escaped c form' := by
  unfold literalKind
  split
  · split
    · exact .inr ⟨_, rfl⟩
    · exact .inl rfl
  · exact .inr ⟨_, rfl⟩
  · exact .inr ⟨_, rfl⟩
  · split
    · exact .inl rfl
    · exact .inr ⟨_, rfl⟩
  · exact .inr ⟨_, rfl⟩

theorem Restyle.faithful_respelling : Restyle.respelling.Faithful where
  atom inClass a := by
    cases a with
    | literal c form caseless =>
        simp only [respelling, Atom.respelled]
        split <;> exact .inr ⟨c, form, _, caseless, rfl, rfl⟩
    | _ => exact .inl rfl
  number head := by
    simp only [respelling, GroupHead.respelled]
    split
    · split <;> rfl
    · rfl
  look head := by
    simp only [respelling, GroupHead.respelled]
    split
    · next change h =>
        split
        · simp [h, GroupKind.isLookaround, GroupKind.isLookbehind]
        · exact ⟨rfl, rfl⟩
    · exact ⟨rfl, rfl⟩
  count _ := ⟨rfl, rfl⟩

/-- No letter, number or character beyond ASCII means something inside a class. -/
theorem isClassSpecial_eq_false {c : Char}
    (h : (isAlphanumeric c || (0x80 ≤ c.toNat && !isWhiteSpace c)) = true) :
    Render.isClassSpecial c = false := by
  rw [Bool.eq_false_iff]
  intro hc
  have hmem : c ∈ [']', '^', '-', '[', '&'] := List.contains_iff_mem.mp hc
  have hnone : ∀ c ∈ [']', '^', '-', '[', '&'],
      (isAlphanumeric c || (0x80 ≤ c.toNat && !isWhiteSpace c)) = false := by decide
  rw [hnone c hmem] at h
  cases h

/-- A literal that has been written and read is written as before. -/
theorem kinds_respelled (inClass : Bool) (a : Atom) :
    (a.respelled inClass).kinds inClass = a.kinds inClass := by
  cases a with
  | literal c form caseless =>
      simp only [Atom.respelled, Atom.kinds]
      cases form with
      | verbatim =>
          cases h : (inClass && Render.isClassSpecial c) with
          | true => simp [literalKind, h]
          | false => simp [literalKind, h]
      | special =>
          cases h : (Render.specialLetter? inClass c).isSome with
          | true => simp [literalKind, h]
          | false => simp [literalKind, h]
      | control =>
          by_cases h : c.toNat < 0x80
          · simp [literalKind, h]
          · simp [literalKind, h]
      | quoted =>
          cases h : (isAlphanumeric c || (0x80 ≤ c.toNat && !isWhiteSpace c)) with
          | true => simp [literalKind, h, isClassSpecial_eq_false h]
          | false =>
              cases h' : (isWhiteSpace c || isControl c) with
              | true => simp [literalKind, h, h']
              | false => simp [literalKind, h, h']
      | _ => rfl
  | _ => rfl

theorem Restyle.silent_respelling : Restyle.respelling.Silent where
  atom := kinds_respelled
  empty inClass a := by
    cases a with
    | literal c form caseless =>
        simp only [respelling, Atom.respelled]
        split <;> simp
    | _ => exact Iff.rfl
  head head := by
    simp only [respelling, GroupHead.respelled]
    split
    · next change h =>
        split
        · next hl => simp [GroupHead.opener, h, hl]
        · rfl
    · rfl
  count _ := rfl

end PatternLint
