import PatternLint.Proofs.Depth
import PatternLint.Render.Printer

/-!
# The depth of printers

A printer sets its guard and its mark back behind every node, so the next tree is
written as the first one was. `Follows` says so of each part of the writing: it does
what the traversal does that has the guard alone as its state and is told whether it
stands in a class. That traversal stops just where a tree is too deep, and the first
node that is too deep is at the first level that is.
-/

namespace PatternLint

/-! ### The first node of a level -/

namespace Node

/-- Labelled nodes among which `m` is the first one at a level, with only higher levels before
it. -/
def LevelStarts (level : Nat) (ds : List (Nat × Node)) (m : Node) : Prop :=
  ∃ before after, ds = before ++ (level, m) :: after ∧ ∀ d ∈ before, d.1 < level

/-- A node that has `level` ancestors and is the first one that has so many, in the order of the
text. -/
def IsFirstAt (m : Node) (level : Nat) (n : Node) : Prop :=
  LevelStarts level n.preorderWithDepth m

theorem levelStarts_flatMap {level : Nat} {f : Node → List (Nat × Node)} {cs : List Node}
    (h : ∀ c ∈ cs, (∀ d ∈ f c, d.1 < level) ∨ ∃ m, LevelStarts level (f c) m) :
    (∀ d ∈ cs.flatMap f, d.1 < level) ∨ ∃ m, LevelStarts level (cs.flatMap f) m := by
  induction cs with
  | nil => exact .inl (by simp)
  | cons c cs ih =>
      rw [List.flatMap_cons]
      rcases h c (by simp) with hlow | ⟨m, before, after, heq, hbefore⟩
      · rcases ih fun c' hc' => h c' (by simp [hc']) with hrest | ⟨m, before, after, heq, hbefore⟩
        · exact .inl (List.forall_mem_append.mpr ⟨hlow, hrest⟩)
        · refine .inr ⟨m, f c ++ before, after, ?_, List.forall_mem_append.mpr ⟨hlow, hbefore⟩⟩
          rw [heq, List.append_assoc]
      · refine .inr ⟨m, before, after ++ cs.flatMap f, ?_, hbefore⟩
        rw [heq, List.append_assoc, List.cons_append]

/-- No level is left out on the way down. -/
theorem labels_levelStarts (n : Node) (depth limit : Nat) :
    (∀ d ∈ foldTree preorderWithDepth.label n depth, d.1 < depth + limit) ∨
      ∃ m, LevelStarts (depth + limit) (foldTree preorderWithDepth.label n depth) m := by
  induction n using children_induction generalizing depth limit with
  | h n ih =>
      rw [foldTree_eq, preorderWithDepth.label, List.flatMap_map]
      cases limit with
      | zero => exact .inr ⟨n, [], _, rfl, by simp⟩
      | succ limit =>
          have hlevel : depth + (limit + 1) = depth + 1 + limit := by omega
          rw [hlevel]
          have hbelow := levelStarts_flatMap fun c hc => ih c hc (depth + 1) limit
          rcases hbelow with hlow | ⟨m, before, after, heq, hbefore⟩
          · refine .inl (List.forall_mem_cons.mpr ⟨?_, hlow⟩)
            show depth < depth + 1 + limit
            omega
          · refine .inr ⟨m, (depth, n) :: before, after, ?_,
              List.forall_mem_cons.mpr ⟨?_, hbefore⟩⟩
            · rw [heq, List.cons_append]
            · show depth < depth + 1 + limit
              omega

/-- Where a tree is too high, the first node that is too deep is the first one of its level. -/
theorem exists_isFirstAt {n : Node} {limit : Nat} (h : limit < n.height) :
    ∃ m : Node, m.IsFirstAt limit n ∧ n.firstBelow limit = some m.start := by
  have hlevel := labels_levelStarts n 0 limit
  rw [Nat.zero_add] at hlevel
  rcases hlevel with hlow | ⟨m, before, after, heq, hbefore⟩
  · have hheight := (labels_lt_iff n 0).mp hlow
    omega
  · refine ⟨m, ⟨before, after, heq, hbefore⟩, ?_⟩
    have hnone : before.find? (fun d => decide (limit ≤ d.1)) = none := by
      rw [List.find?_eq_none]
      intro d hd
      have := hbefore d hd
      rw [decide_eq_true_eq]
      omega
    rw [firstBelow, preorderWithDepth, heq, List.find?_append, hnone, Option.none_or,
      List.find?_cons_of_pos (by simp), Option.map_some]

end Node

/-! ### The state of a printer -/

namespace Printing

variable {α β : Type} {w : Printing α} {v : Bool → Walk Empty α}

/-- A printer does what a traversal does that is told whether it stands in a class, and is in a
class afterwards just if it was. -/
def Follows (w : Printing α) (v : Bool → Walk Empty α) : Prop :=
  ∀ p : Printer, w p = ((v p.inClass p.guard).value, { p with guard := (v p.inClass p.guard).guard })

theorem Follows.pure (a : α) : Follows (return a) fun _ => return a := fun _ => rfl

theorem Follows.mark (f : Bool → α) :
    (do return f (← get).inClass : Printing α).Follows fun inClass => return f inClass :=
  fun _ => rfl

theorem Follows.bind {f : α → Printing β} {k : Bool → α → Walk Empty β} (hw : w.Follows v)
    (hf : ∀ a, (f a).Follows fun inClass => k inClass a) :
    (w >>= f).Follows fun inClass => v inClass >>= k inClass := by
  intro p
  show (let r := w p; ExceptT.bindCont f r.1 r.2) = ((Walk.andThen (v p.inClass) (k p.inClass)
    p.guard).value, { p with guard := (Walk.andThen (v p.inClass) (k p.inClass) p.guard).guard })
  rw [hw p]
  simp only [Walk.andThen]
  cases (v p.inClass p.guard).value with
  | error e => rfl
  | ok a => exact hf a { p with guard := (v p.inClass p.guard).guard }

theorem Follows.map (hw : w.Follows v) (f : α → β) :
    (do return f (← w) : Printing β).Follows fun inClass => do return f (← v inClass) :=
  hw.bind fun a => .pure (f a)

theorem Follows.visit (hw : w.Follows v) (offset : Nat) :
    (Printing.visit offset w).Follows fun inClass => Walk.visit offset (v inClass) := by
  intro p
  simp only [Printing.visit, Walk.visit]
  rcases p.guard.enter offset with ⟨e | _, g⟩
  · rfl
  · simp only [hw { p with guard := g }]

/-- In a class the mark is set, and it does not matter what it was. -/
theorem Follows.insideClass (hw : w.Follows v) : w.insideClass.Follows fun _ => v true := by
  intro p
  simp only [Printing.insideClass, hw { p with inClass := true }]

end Printing

namespace Printer

mutual
/-- A printer writes a node as the traversal does. -/
theorem node_follows (n : Node) : (node n).Follows fun inClass => Render.node inClass n := by
  cases n with
  | atom span a => exact .visit (.mark (Render.atom · a)) span.start
  | sequence span items => exact .visit ((nodes_follows items).map String.join) span.start
  | alternation span branches =>
      exact .visit ((nodes_follows branches).map (String.intercalate "|")) span.start
  | group span head body => exact .visit ((node_follows body).map _) span.start
  | quantifier span count target => exact .visit ((node_follows target).map _) span.start
  | charClass span negated caseless expr =>
      exact .visit ((node_follows expr).insideClass.map _) span.start
  | classOp span op operands => exact .visit ((nodes_follows operands).map _) span.start
  | conditional span test yes no =>
      exact .visit ((condition_follows test).bind fun opening => (node_follows yes).bind fun yes =>
        (optional_follows no).map _) span.start
  | define span body => exact .visit ((node_follows body).map _) span.start
termination_by structural n
theorem nodes_follows (ns : List Node) :
    (nodes ns).Follows fun inClass => Render.nodes inClass ns := by
  cases ns with
  | nil => exact .pure []
  | cons n ns => exact (node_follows n).bind fun text => (nodes_follows ns).map (text :: ·)
termination_by structural ns
theorem condition_follows (test : Condition Node) :
    (condition test).Follows fun inClass => Render.condition inClass test := by
  cases test with
  | assertion a => exact (node_follows a).map _
  | group ref => cases ref <;> exact .pure _
  | _ => exact .pure _
termination_by structural test
theorem optional_follows (no : Option Node) :
    (optional no).Follows fun inClass => Render.optional inClass no := by
  cases no with
  | none => exact .pure ""
  | some n => exact (node_follows n).map _
termination_by structural no
end

/-- A tree is written from any state in which the guard is not too deep already, or it is found to
be too deep. Only that it was is left to be seen of the printer afterwards. -/
theorem print_eq (n : Node) (inClass : Bool) : ∃ text, ∀ g : Guard, g.depth ≤ g.limit →
    print ⟨g, inClass⟩ n =
      match n.firstBelow (g.limit - g.depth) with
      | none => (.ok text, ⟨g, inClass⟩)
      | some offset => (.error ⟨g.limit, offset⟩, ⟨{ g with tripped := true }, inClass⟩) := by
  obtain ⟨text, htext⟩ := Render.writes n inClass
  refine ⟨text, fun g hg => ?_⟩
  show node n ⟨g, inClass⟩ = _
  obtain ⟨cut, houtcome⟩ := htext g hg
  rw [node_follows n ⟨g, inClass⟩]
  simp only [houtcome]
  cases n.firstBelow (g.limit - g.depth) <;> rfl

/-- Between two trees a printer is in no node and in no class. -/
theorem exists_afterAll (limit : Nat) (earlier : List Node) :
    ∃ tripped, (withLimit limit).afterAll earlier = ⟨⟨limit, 0, tripped⟩, false⟩ := by
  have hall : ∀ (ns : List Node) (tripped : Bool),
      ∃ tripped', afterAll ⟨⟨limit, 0, tripped⟩, false⟩ ns = ⟨⟨limit, 0, tripped'⟩, false⟩ := by
    intro ns
    induction ns with
    | nil => exact fun tripped => ⟨tripped, rfl⟩
    | cons n ns ih =>
        intro tripped
        obtain ⟨text, hprint⟩ := print_eq n false
        have hnext := hprint ⟨limit, 0, tripped⟩ (Nat.zero_le _)
        rw [afterAll, List.foldl_cons, ← afterAll, hnext]
        cases n.firstBelow (limit - 0) with
        | none => exact ih tripped
        | some offset => exact ih true
  exact hall earlier false

/-- A printer writes a tree just if it is not higher than the limit, and then what it writes does
not depend on the limit. If not, it stops at the first node of the first level that is too deep. In
both cases it is in no other node or class than before, and its guard has tripped if it did before
or does here. It is all the same which trees were written before, and what came of them. -/
theorem print_exact (n : Node) : ∃ text, ∀ (limit : Nat) (earlier : List Node),
    let before := (withLimit limit).afterAll earlier
    let result := (before.print n).1
    let after := (before.print n).2
    (result.isOk = true ↔ n.height ≤ limit) ∧
    (n.height ≤ limit → result = .ok text) ∧
    (limit < n.height → ∃ m : Node, m.IsFirstAt limit n ∧ result = .error ⟨limit, m.start⟩) ∧
    result = n.textWithin limit ∧
    after.guard.depth = before.guard.depth ∧ after.inClass = before.inClass ∧
    (after.guard.tripped = true ↔ before.guard.tripped = true ∨ result.isOk = false) := by
  obtain ⟨text, hprint⟩ := print_eq n false
  refine ⟨text, fun limit earlier => ?_⟩
  obtain ⟨tripped, hbefore⟩ := exists_afterAll limit earlier
  have hfresh := hprint { limit } (Nat.zero_le _)
  have hused := hprint ⟨limit, 0, tripped⟩ (Nat.zero_le _)
  have hwithin : n.textWithin limit = (print ⟨{ limit }, false⟩ n).1 :=
    (congrArg Prod.fst (node_follows n ⟨{ limit }, false⟩)).symm
  rw [hbefore, hwithin, hfresh]
  dsimp only
  rw [hused, Nat.sub_zero]
  rcases Nat.lt_or_ge limit n.height with hhigh | hlow
  · obtain ⟨m, hm, hstop⟩ := Node.exists_isFirstAt hhigh
    rw [hstop]
    refine ⟨?_, fun h => absurd hhigh (Nat.not_lt.mpr h), fun _ => ⟨m, hm, rfl⟩, rfl, rfl, rfl, ?_⟩
    · simp [Except.isOk, Except.toBool, hhigh]
    · simp [Except.isOk, Except.toBool]
  · rw [Node.firstBelow_eq_none_iff.mpr hlow]
    refine ⟨?_, fun _ => rfl, fun h => absurd hlow (Nat.not_le.mpr h), rfl, rfl, rfl, ?_⟩
    · simp [Except.isOk, Except.toBool, hlow]
    · simp [Except.isOk, Except.toBool]

end Printer

end PatternLint
