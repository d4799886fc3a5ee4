import Mathlib
import PatternLint.Proofs.Parse.Move
import PatternLint.Proofs.Tree

/-!
# How groups are numbered

The parser numbers groups as it meets them, with a counter that it turns back at
every branch of a group that numbers its branches alike. The same numbers can be
read off the finished tree: `Node.numbering` walks over it with a counter of its
own, and a tree is numbered right if every node that the walk comes to holds what
the counter says there.

The link between the two is that the walk over what has been read of a level,
from the count with which the level was entered, ends at the count of the parser.
Every move of the parser keeps that, and at the end there is only one level.
-/

namespace PatternLint

/-- A walk from a count on: the nodes that it comes to, each with the count there, and the count
after it. -/
abbrev Visit := Nat → List (Nat × Node) × Nat

namespace Visit

/-- One walk after another. -/
def inTurn : List Visit → Visit
  | [], count => ([], count)
  | w :: ws, count =>
    let first := w count
    let rest := inTurn ws first.2
    (first.1 ++ rest.1, rest.2)

/-- Walks that all start from the same count; the highest is the count after them. -/
def alike : List Visit → Visit
  | [], count => ([], count)
  | w :: ws, count =>
    let first := w count
    let rest := alike ws count
    (first.1 ++ rest.1, max first.2 rest.2)

end Visit

/-- The count inside a group: one more if the group captures. -/
def GroupHead.opened (head : GroupHead) (count : Nat) : Nat :=
  if head.kind.isCapturing then count + 1 else count

namespace Node

/-- The walk over a node, from the walks over its children: they come in their order, but the
branches of an alternation that is the body of a branch reset start from the same count. -/
def numberingStep (n : Node) (below : List (Bool → Visit)) (reset : Bool) : Visit := fun count =>
  let plain : List Visit := below.map fun w => w false
  let inside : List (Nat × Node) × Nat := match n with
    | alternation .. => if reset then Visit.alike plain count else Visit.inTurn plain count
    | group _ head _ =>
      Visit.inTurn (below.map fun w => w (head.kind == .branchReset)) (head.opened count)
    | _ => Visit.inTurn plain count
  ((count, n) :: inside.1, inside.2)

/-- The walk over a tree that numbers its groups. -/
def numbering : Node → Bool → Visit := foldTree numberingStep

/-- A node that holds the numbers which a count gives to it. -/
def RightAfter (count : Nat) : Node → Prop
  | group _ head _ => head.number = if head.kind.isCapturing then some (count + 1) else none
  | atom _ a => a.RightAfter count
  | conditional _ (.group ref) _ _ => ref.RightAfter count
  | _ => True

end Node

/-! ### Walks that find nothing wrong -/

/-- A walk that goes from one count to another and finds every node numbered right. -/
def Leads (w : Visit) (a b : Nat) : Prop :=
  (w a).2 = b ∧ ∀ v ∈ (w a).1, v.2.RightAfter v.1

section Leads

variable {w : Visit} {ws vs : List Visit} {a b c : Nat}

theorem leads_inTurn_nil : Leads (Visit.inTurn []) a b ↔ a = b := by
  simp [Leads, Visit.inTurn]

theorem leads_inTurn_cons :
    Leads (Visit.inTurn (w :: ws)) a c ↔ ∃ b, Leads w a b ∧ Leads (Visit.inTurn ws) b c := by
  simp only [Leads, Visit.inTurn, List.mem_append]
  constructor
  · rintro ⟨hc, hv⟩
    exact ⟨_, ⟨rfl, fun v h => hv v (.inl h)⟩, hc, fun v h => hv v (.inr h)⟩
  · rintro ⟨b, ⟨rfl, hw⟩, hc, hws⟩
    exact ⟨hc, fun v h => h.elim (hw v) (hws v)⟩

theorem leads_inTurn_append :
    Leads (Visit.inTurn (ws ++ vs)) a c ↔
      ∃ b, Leads (Visit.inTurn ws) a b ∧ Leads (Visit.inTurn vs) b c := by
  induction ws generalizing a with
  | nil => simp [leads_inTurn_nil]
  | cons w ws ih =>
      simp only [List.cons_append, leads_inTurn_cons, ih]
      constructor
      · rintro ⟨b, hw, d, hws, hvs⟩
        exact ⟨d, ⟨b, hw, hws⟩, hvs⟩
      · rintro ⟨d, ⟨b, hw, hws⟩, hvs⟩
        exact ⟨b, hw, d, hws, hvs⟩

theorem leads_inTurn_singleton : Leads (Visit.inTurn [w]) a b ↔ Leads w a b := by
  simp [leads_inTurn_cons, leads_inTurn_nil]

theorem leads_alike_nil : Leads (Visit.alike []) a b ↔ a = b := by
  simp [Leads, Visit.alike]

theorem leads_alike_cons :
    Leads (Visit.alike (w :: ws)) a c ↔
      ∃ b d, Leads w a b ∧ Leads (Visit.alike ws) a d ∧ c = max b d := by
  simp only [Leads, Visit.alike, List.mem_append]
  constructor
  · rintro ⟨hc, hv⟩
    exact ⟨_, _, ⟨rfl, fun v h => hv v (.inl h)⟩, ⟨rfl, fun v h => hv v (.inr h)⟩, hc.symm⟩
  · rintro ⟨b, d, ⟨rfl, hw⟩, ⟨rfl, hws⟩, rfl⟩
    exact ⟨rfl, fun v h => h.elim (hw v) (hws v)⟩

/-- One more branch raises the count if it comes further than the others. -/
theorem leads_alike_snoc (hws : Leads (Visit.alike ws) a b) (hw : Leads w a c) :
    Leads (Visit.alike (ws ++ [w])) a (max b c) := by
  induction ws generalizing b with
  | nil =>
      cases leads_alike_nil.mp hws
      exact leads_alike_cons.mpr ⟨c, a, hw, leads_alike_nil.mpr rfl, Nat.max_comm a c⟩
  | cons v vs ih =>
      obtain ⟨d, e, hv, hvs, rfl⟩ := leads_alike_cons.mp hws
      exact leads_alike_cons.mpr ⟨d, _, hv, ih hvs, Nat.max_assoc d e c⟩

end Leads

/-! ### Walks over nodes -/

namespace Node

/-- The walk over a node inside a tree. -/
def walk (n : Node) : Visit := n.numbering false

theorem numbering_eq (n : Node) : n.numbering = n.numberingStep (n.children.map numbering) :=
  foldTree_eq numberingStep n

/-- The branch reset matters only to an alternation. -/
theorem numbering_reset {n : Node} (h : ∀ s branches, n ≠ alternation s branches) (reset : Bool) :
    n.numbering reset = n.walk := by
  rw [walk, numbering_eq]
  cases n with
  | alternation s branches => exact absurd rfl (h s branches)
  | _ => rfl

variable {n body : Node} {ns : List Node} {a b : Nat} {s : Span}

/-- A walk that comes to a node first and then does as another walk does. -/
theorem leads_cons {w v : Visit} {inside : Nat}
    (hw : w a = ((a, n) :: (v inside).1, (v inside).2)) :
    Leads w a b ↔ n.RightAfter a ∧ Leads v inside b := by
  simp only [Leads, hw, List.mem_cons]
  constructor
  · rintro ⟨hb, hv⟩
    exact ⟨hv (a, n) (.inl rfl), hb, fun v h => hv v (.inr h)⟩
  · rintro ⟨hn, hb, hv⟩
    refine ⟨hb, ?_⟩
    rintro v (rfl | h)
    · exact hn
    · exact hv v h

theorem map_numbering_false (ns : List Node) :
    (ns.map numbering).map (fun w => w false) = ns.map walk := by
  rw [List.map_map]
  rfl

/-- The walk over a node other than a group goes over its children in turn. -/
theorem leads_walk (hn : ∀ s head body, n ≠ group s head body) :
    Leads n.walk a b ↔ n.RightAfter a ∧ Leads (Visit.inTurn (n.children.map walk)) a b := by
  refine leads_cons ?_
  rw [walk, numbering_eq, ← map_numbering_false]
  cases n with
  | group s head body => exact absurd rfl (hn s head body)
  | _ => rfl

theorem leads_group {head : GroupHead} :
    Leads (group s head body).walk a b ↔
      head.number = (if head.kind.isCapturing then some (a + 1) else none) ∧
        Leads (body.numbering (head.kind == .branchReset)) (head.opened a) b := by
  rw [← leads_inTurn_singleton (w := body.numbering _)]
  have hwalk : (group s head body).walk a =
      ((a, group s head body) ::
        (Visit.inTurn [body.numbering (head.kind == .branchReset)] (head.opened a)).1,
        (Visit.inTurn [body.numbering (head.kind == .branchReset)] (head.opened a)).2) := by
    rw [walk, numbering_eq]
    rfl
  exact leads_cons hwalk

/-- The branches of a body that numbers them alike. -/
theorem leads_branches :
    Leads ((alternation s ns).numbering true) a b ↔ Leads (Visit.alike (ns.map walk)) a b := by
  refine (leads_cons (n := alternation s ns) ?_).trans (and_iff_right trivial)
  rw [numbering_eq, ← map_numbering_false]
  rfl

end Node

/-! ### The count never falls -/

theorem Visit.le_inTurn {ws : List Visit} (h : ∀ w ∈ ws, ∀ a, a ≤ (w a).2) (a : Nat) :
    a ≤ (Visit.inTurn ws a).2 := by
  induction ws generalizing a with
  | nil => exact Nat.le_refl _
  | cons w ws ih =>
      exact Nat.le_trans (h w (by simp) a) (ih (fun v hv => h v (by simp [hv])) _)

theorem Visit.le_alike (ws : List Visit) (a : Nat) : a ≤ (Visit.alike ws a).2 := by
  induction ws with
  | nil => exact Nat.le_refl _
  | cons w ws ih => exact Nat.le_trans ih (Nat.le_max_right _ _)

theorem Node.le_numbering (n : Node) (reset : Bool) (a : Nat) : a ≤ (n.numbering reset a).2 := by
  induction n using Node.children_induction generalizing reset a with
  | h n ih =>
      have hbelow : ∀ r, ∀ w ∈ (n.children.map numbering).map (fun w => w r),
          ∀ a, a ≤ (w a).2 := by
        intro r w hw a
        simp only [List.map_map, List.mem_map, Function.comp] at hw
        obtain ⟨c, hc, rfl⟩ := hw
        exact ih c hc r a
      rw [numbering_eq]
      cases n with
      | alternation s branches =>
          cases reset with
          | true => exact Visit.le_alike _ a
          | false => exact Visit.le_inTurn (hbelow false) a
      | group s head body =>
          have hopened : a ≤ head.opened a := by
            unfold GroupHead.opened
            split <;> omega
          exact Nat.le_trans hopened (Visit.le_inTurn (hbelow _) _)
      | _ => exact Visit.le_inTurn (hbelow false) a

/-! ### Levels -/

namespace Parse

/-- The current branch of a level starts from a count: from the one with which the level was
entered where branches are numbered `alike`, otherwise from where the branch before ended. -/
def Level.BranchFrom (alike : Bool) (l : Level) (start : Nat) : Prop :=
  if alike then start = l.base ∧ Leads (Visit.alike (l.done.reverse.map Node.walk)) l.base l.highest
  else Leads (Visit.inTurn (l.done.reverse.map Node.walk)) l.base start

/-- A level that has come to a count: the walk over what has been read ends there. -/
structure Level.Counted (alike : Bool) (l : Level) (count : Nat) : Prop where
  reached : ∃ start, l.BranchFrom alike start ∧
    Leads (Visit.inTurn (l.items.reverse.map Node.walk)) start count
  flat : ∀ n ∈ l.items, ∀ s branches, n ≠ .alternation s branches

namespace Level

variable {l : Level} {alike : Bool} {count count' : Nat} {n : Node}

theorem counted_new (alike : Bool) (next count : Nat) :
    (Level.new next count).Counted alike count := by
  refine ⟨⟨count, ?_, leads_inTurn_nil.mpr rfl⟩, fun _ hn => nomatch hn⟩
  unfold BranchFrom
  split
  · exact ⟨rfl, leads_alike_nil.mpr rfl⟩
  · exact leads_inTurn_nil.mpr rfl

theorem Counted.push (h : l.Counted alike count) (hn : Leads n.walk count count')
    (hflat : ∀ s branches, n ≠ .alternation s branches) : (l.push n).Counted alike count' := by
  obtain ⟨⟨start, hstart, hitems⟩, hold⟩ := h
  refine ⟨⟨start, hstart, ?_⟩, ?_⟩
  · simp only [Level.push, List.reverse_cons, List.map_append]
    exact leads_inTurn_append.mpr ⟨count, hitems, leads_inTurn_singleton.mpr hn⟩
  · intro m hm
    rcases List.mem_cons.mp hm with rfl | hm
    · exact hflat
    · exact hold m hm

theorem branch_flat (h : ∀ n ∈ l.items, ∀ s branches, n ≠ .alternation s branches) (s : Span)
    (branches : List Node) : l.branch ≠ .alternation s branches := by
  unfold Level.branch
  split
  · simp
  · next n hi => exact h n (by simp [hi]) s branches
  · simp

/-- The walk over the current branch is the one over its items. -/
theorem leads_branch (hitems : Leads (Visit.inTurn (l.items.reverse.map Node.walk)) count count') :
    Leads l.branch.walk count count' := by
  unfold Level.branch
  split
  · next hi =>
      rw [hi] at hitems
      exact (Node.leads_walk (by simp)).mpr ⟨trivial, hitems⟩
  · next n hi =>
      rw [hi] at hitems
      exact leads_inTurn_singleton.mp hitems
  · exact (Node.leads_walk (by simp)).mpr ⟨trivial, hitems⟩

/-- All that has been read at a level, where each branch goes on from the one before. -/
theorem Counted.node (h : l.Counted false count) : Leads l.node.walk l.base count := by
  obtain ⟨start, hstart, hitems⟩ := h.reached
  have hdone : Leads (Visit.inTurn (l.done.reverse.map Node.walk)) l.base start := hstart
  have hbranch := leads_branch hitems
  unfold Level.node
  split
  · next hd =>
      rw [hd] at hdone
      cases leads_inTurn_nil.mp hdone
      exact hbranch
  · refine (Node.leads_walk (by simp)).mpr ⟨trivial, ?_⟩
    simp only [Node.children, List.map_append]
    exact leads_inTurn_append.mpr ⟨start, hdone, leads_inTurn_singleton.mpr hbranch⟩

/-- All that has been read at a level that numbers its branches alike. -/
theorem Counted.node_alike (h : l.Counted true count) :
    Leads (l.node.numbering true) l.base (max l.highest count) := by
  obtain ⟨start, hstart, hitems⟩ := h.reached
  obtain ⟨rfl, hdone⟩ : start = l.base ∧
    Leads (Visit.alike (l.done.reverse.map Node.walk)) l.base l.highest := hstart
  have hbranch := leads_branch hitems
  unfold Level.node
  split
  · next hd =>
      -- A single branch is no alternation, and it comes at least as far as it started.
      rw [hd] at hdone
      rw [Node.numbering_reset (branch_flat h.flat), ← leads_alike_nil.mp hdone]
      have hle : l.base ≤ count := hbranch.1 ▸ Node.le_numbering l.branch false l.base
      rwa [Nat.max_eq_right hle]
  · rw [Node.leads_branches, List.map_append]
    exact leads_alike_snoc hdone hbranch

theorem Counted.nextBranch (h : l.Counted false count) (next highest : Nat) :
    Level.Counted false { l.nextBranch next with highest } count := by
  obtain ⟨start, hstart, hitems⟩ := h.reached
  refine ⟨⟨count, ?_, leads_inTurn_nil.mpr rfl⟩, fun _ hn => nomatch hn⟩
  show Leads (Visit.inTurn ((l.branch :: l.done).reverse.map Node.walk)) l.base count
  rw [List.reverse_cons, List.map_append]
  exact leads_inTurn_append.mpr ⟨start, hstart, leads_inTurn_singleton.mpr (leads_branch hitems)⟩

theorem Counted.nextBranch_alike (h : l.Counted true count) (next : Nat) :
    Level.Counted true { l.nextBranch next with highest := max l.highest count } l.base := by
  obtain ⟨start, hstart, hitems⟩ := h.reached
  obtain ⟨rfl, hdone⟩ : start = l.base ∧
    Leads (Visit.alike (l.done.reverse.map Node.walk)) l.base l.highest := hstart
  refine ⟨⟨l.base, ⟨rfl, ?_⟩, leads_inTurn_nil.mpr rfl⟩, fun _ hn => nomatch hn⟩
  show Leads (Visit.alike ((l.branch :: l.done).reverse.map Node.walk)) l.base (max l.highest count)
  rw [List.reverse_cons, List.map_append]
  exact leads_alike_snoc hdone (leads_branch hitems)

end Level

/-! ### Open parentheses and classes -/

/-- A construct that was opened at a count, with the level inside it. -/
def Construct.Counted (count : Nat) (inner : Level) : Construct → Prop
  | .group head => head.number = (if head.kind.isCapturing then some (count + 1) else none) ∧
      inner.base = head.opened count
  | .define | .assertion _ => inner.base = count
  | .conditional test => (∀ ref, test = .group ref → ref.RightAfter count) ∧
      Leads (Visit.inTurn ((Node.conditionChildren test).map Node.walk)) count inner.base ∧
      inner.done.length ≤ 1

/-- Open parentheses around a level, each opened at the count that the level outside had come
to. -/
def FramesCounted : List Frame → Level → Prop
  | [], inner => inner.base = 0
  | f :: fs, inner => ∃ count, f.outer.Counted (resets fs) count ∧
      f.construct.Counted count inner ∧ FramesCounted fs f.outer

/-- A node that the count passes by. -/
def Inert (n : Node) : Prop := ∀ count, Leads n.walk count count

theorem inert_atom {span : Span} {at' : Atom} (h : ∀ count, at'.RightAfter count) :
    Inert (.atom span at') :=
  fun count => (Node.leads_walk (by simp)).mpr ⟨h count, leads_inTurn_nil.mpr rfl⟩

theorem leads_inert {ns : List Node} (h : ∀ n ∈ ns, Inert n) (count : Nat) :
    Leads (Visit.inTurn (ns.map Node.walk)) count count := by
  induction ns with
  | nil => exact leads_inTurn_nil.mpr rfl
  | cons n ns ih =>
      exact leads_inTurn_cons.mpr ⟨count, h n (by simp) count, ih fun m hm => h m (by simp [hm])⟩

namespace OpenClass

/-- An open class holds no groups and no references. -/
structure Inert (c : OpenClass) : Prop where
  members : ∀ n ∈ c.settled.members, Parse.Inert n
  left : ∀ l ∈ c.left, Parse.Inert l.1

variable {c c' : OpenClass} {t : Token}

theorem inert_unionOf {ns : List Node} (h : ∀ n ∈ ns, Parse.Inert n) (offset : Nat) :
    Parse.Inert (unionOf ns offset) := by
  unfold unionOf
  split
  · exact inert_atom fun _ => trivial
  · exact h _ (by simp)
  · exact fun count => (Node.leads_walk (by simp)).mpr ⟨trivial, leads_inert h count⟩

theorem inert_setOperation {pending : Option (Node × ClassOp)} {right : Node}
    (hleft : ∀ l ∈ pending, Parse.Inert l.1) (hright : Parse.Inert right) :
    Parse.Inert (setOperation pending right) := by
  unfold setOperation
  split
  · exact hright
  · next l op =>
      refine fun count => (Node.leads_walk (by simp)).mpr ⟨trivial, leads_inert ?_ count⟩
      intro n hn
      simp only [Node.children, List.mem_cons, List.not_mem_nil, or_false] at hn
      rcases hn with rfl | rfl
      · exact hleft (n, op) rfl
      · exact hright

theorem Inert.expr (h : c.Inert) (offset : Nat) :
    Parse.Inert (setOperation c.settled.left (unionOf c.settled.members.reverse offset)) := by
  rw [settled_left]
  exact inert_setOperation h.left
    (inert_unionOf (fun n hn => h.members n (List.mem_reverse.mp hn)) offset)

theorem MemberOf.inert {caseless : Bool} {k : TokenKind} {at' : Atom}
    (h : MemberOf caseless k at') (span : Span) : Parse.Inert (.atom span at') := by
  cases h <;> exact inert_atom fun _ => trivial

theorem ClassMove.inert (hm : ClassMove c t (.more c')) (h : c.Inert) : c'.Inert := by
  -- A member that joins the others is inert as they are.
  have hcons : ∀ {n : Node} {ns : List Node}, Parse.Inert n → (∀ m ∈ ns, Parse.Inert m) →
      ∀ m ∈ n :: ns, Parse.Inert m := by
    intro n ns hn hns m hm
    rcases List.mem_cons.mp hm with rfl | hm
    · exact hn
    · exact hns m hm
  cases hm with
  | @operate op =>
      have hs : (c.settled.operate op t).settled = c.settled.operate op t :=
        settled_of_none (settled_pending c)
      refine ⟨?_, ?_⟩
      · rw [hs]
        exact fun _ hn => nomatch hn
      · rintro l ⟨⟩
        exact h.expr t.start
  | @hold at' ha =>
      refine ⟨hcons (ha.inert t.span) h.members, ?_⟩
      rw [show ({ c.settled with pending := Pending.member (.atom t.span at') } : OpenClass).left =
        c.left from settled_left c]
      exact h.left
  | @hyphen m hp =>
      have hmembers := h.members
      rw [settled_of_member hp] at hmembers
      refine ⟨?_, h.left⟩
      rw [settled_of_hyphen rfl]
      exact hcons (inert_atom fun _ => trivial) hmembers
  | @range m hy x y form hp =>
      have hmembers := h.members
      rw [settled_of_hyphen hp] at hmembers
      refine ⟨?_, h.left⟩
      rw [settled_of_none rfl]
      exact hcons (inert_atom fun _ => trivial) fun n hn => hmembers n (by simp [hn])

theorem ClassMove.inert_done {n : Node} (hm : ClassMove c t (.done n)) (h : c.Inert) :
    Parse.Inert n ∧ ∀ s branches, n ≠ .alternation s branches := by
  cases hm
  rw [OpenClass.close]
  refine ⟨fun count => (Node.leads_walk (by simp)).mpr ⟨trivial, ?_⟩, by simp⟩
  exact leads_inTurn_singleton.mpr (h.expr t.start count)

end OpenClass

/-- The frames look at no more of the level inside than its base and its complete branches. -/
theorem FramesCounted.of_eq {frames : List Frame} {l l' : Level} (h : FramesCounted frames l)
    (hbase : l'.base = l.base) (hdone : l'.done = l.done) : FramesCounted frames l' := by
  cases frames with
  | nil => exact hbase.trans h
  | cons f fs =>
      obtain ⟨count, houter, hconstruct, hrest⟩ := h
      refine ⟨count, houter, ?_, hrest⟩
      unfold Construct.Counted at hconstruct ⊢
      split at hconstruct <;> simpa only [hbase, hdone] using hconstruct

/-! ### States -/

/-- A state whose count of groups is that of the walk over what has been read. -/
structure State.Counted (st : State) : Prop where
  level : st.level.Counted (resets st.frames) st.captures
  frames : FramesCounted st.frames st.level
  members : ∀ c ∈ st.openClass, c.Inert

namespace State

variable {st st' : State} {t : Token} {next : Nat}

theorem counted_initial (flags : Flags) (next : Nat) :
    State.Counted { flags, level := .new next 0 } :=
  ⟨Level.counted_new false next 0, rfl, fun _ hc => nomatch hc⟩

theorem counted_of_closed (hc : st.openClass = none)
    (hl : st.level.Counted (resets st.frames) st.captures) (hf : FramesCounted st.frames st.level) :
    st.Counted :=
  ⟨hl, hf, by rw [hc]; exact fun _ hc => nomatch hc⟩

/-- An item that the count passes by. -/
theorem Counted.push (h : st.Counted) (hopen : st.openClass = none) {n : Node} {flags : Flags}
    {warnings : List Warning} (hn : Leads n.walk st.captures st.captures)
    (hflat : ∀ s branches, n ≠ .alternation s branches) :
    (State.push { st with flags, warnings } n).Counted :=
  counted_of_closed hopen (h.level.push hn hflat) (h.frames.of_eq rfl rfl)

theorem leads_atom {span : Span} {at' : Atom} {count : Nat} (h : at'.RightAfter count) :
    Leads (Node.atom span at').walk count count :=
  (Node.leads_walk (by simp)).mpr ⟨h, leads_inTurn_nil.mpr rfl⟩

theorem Counted.pushDigits {offset : Nat} {digits : List Char} (h : st.Counted)
    (hopen : st.openClass = none) : (st.pushDigits offset digits).Counted := by
  induction digits generalizing st offset with
  | nil => exact h
  | cons d digits ih =>
      exact ih (@Counted.push st h hopen _ st.flags st.warnings (leads_atom trivial) (by simp)) hopen

theorem Means.rightAfter {count : Nat} {ref : Reference} {r : GroupRef}
    (h : Means count ref r) : r.RightAfter count := by
  cases h with
  | relative hr _ _ => exact hr
  | _ => trivial

theorem AtomOf.rightAfter {e : Env} {k : TokenKind} {at' : Atom} (h : AtomOf e k at') :
    at'.RightAfter e.captures := by
  cases h with
  | backref hr => exact Means.rightAfter hr
  | call hr _ => exact Means.rightAfter hr
  | _ => trivial

theorem OpensGroup.counted {e inner : Env} {opener : Opener} {head : GroupHead}
    (ho : OpensGroup e opener head inner) :
    head.number = (if head.kind.isCapturing then some (e.captures + 1) else none) ∧
      inner.captures = head.opened e.captures := by
  cases ho <;> exact ⟨rfl, rfl⟩

theorem Opens.counted {e inner : Env} {k : TokenKind} {construct : Construct}
    (ho : Opens e k construct inner) (next : Nat) :
    construct.Counted e.captures (.new next inner.captures) := by
  have htest : ∀ {test : Condition Node}, Node.conditionChildren test = [] →
      (∀ ref, test = .group ref → ref.RightAfter e.captures) →
      (Construct.conditional test).Counted e.captures (.new next e.captures) := by
    intro test hnone href
    refine ⟨href, ?_, Nat.zero_le _⟩
    rw [hnone]
    exact leads_inTurn_nil.mpr rfl
  cases ho with
  | group ho => exact OpensGroup.counted ho
  | test hr =>
      refine htest rfl ?_
      rintro ref ⟨⟩
      exact Means.rightAfter hr
  | define => rfl
  | assertion look => rfl
  | _ => exact htest rfl (by simp)

theorem rightAfter_conditional {span : Span} {test : Condition Node} {yes : Node}
    {no : Option Node} {count : Nat} (h : ∀ ref, test = .group ref → ref.RightAfter count) :
    (Node.conditional span test yes no).RightAfter count := by
  cases test with
  | group ref => exact h ref rfl
  | _ => trivial

/-- What is closed takes the count from where it was opened to where the parser has come to. -/
theorem Closes.leads {f : Frame} {fs : List Frame} {n : Node} {captures count : Nat}
    (hc : Closes st t f n captures) (hl : st.level.Counted (resets (f :: fs)) st.captures)
    (hconstruct : f.construct.Counted count st.level) :
    Leads n.walk count captures ∧ ∀ s branches, n ≠ .alternation s branches := by
  obtain ⟨offset, construct, flags, outer⟩ := f
  cases hc with
  | @group head hk =>
      refine ⟨?_, by simp⟩
      obtain rfl : construct = .group head := hk
      obtain ⟨hnumber, hbase⟩ := hconstruct
      refine Node.leads_group.mpr ⟨hnumber, ?_⟩
      rw [← hbase]
      unfold capturesAfter
      have hresets : resets (⟨offset, .group head, flags, outer⟩ :: fs) =
          (head.kind == .branchReset) := rfl
      rw [hresets] at hl
      by_cases hr : head.kind = .branchReset
      · rw [beq_iff_eq.mpr hr] at hl ⊢
        rw [if_pos hr]
        exact hl.node_alike
      · rw [beq_eq_false_iff_ne.mpr hr] at hl ⊢
        rw [if_neg hr]
        exact hl.node
  | define hk hd =>
      refine ⟨?_, by simp⟩
      obtain rfl : construct = .define := hk
      refine (Node.leads_walk (by simp)).mpr ⟨trivial, leads_inTurn_singleton.mpr ?_⟩
      exact (show st.level.base = count from hconstruct) ▸ hl.node
  | @single test hk hd =>
      refine ⟨?_, by simp⟩
      obtain rfl : construct = .conditional test := hk
      obtain ⟨href, htest, -⟩ := hconstruct
      have hbranch : Leads st.level.branch.walk st.level.base st.captures := by
        simpa [Level.node, hd] using Level.Counted.node hl
      refine (Node.leads_walk (by simp)).mpr ⟨rightAfter_conditional href, ?_⟩
      simp only [Node.children, Option.toList_none, List.map_append, List.map_cons, List.map_nil]
      exact leads_inTurn_append.mpr ⟨_, htest, leads_inTurn_singleton.mpr hbranch⟩
  | @double test yes more hk hd =>
      refine ⟨?_, by simp⟩
      obtain rfl : construct = .conditional test := hk
      obtain ⟨href, htest, hlen⟩ := hconstruct
      obtain rfl : more = [] := by
        rw [hd] at hlen
        exact List.eq_nil_of_length_eq_zero (by simpa using hlen)
      obtain ⟨start, hstart, hitems⟩ := hl.reached
      have hyes : Leads yes.walk st.level.base start := by
        have hdone : Leads (Visit.inTurn (st.level.done.reverse.map Node.walk)) st.level.base start :=
          hstart
        rw [hd] at hdone
        exact leads_inTurn_singleton.mp hdone
      refine (Node.leads_walk (by simp)).mpr ⟨rightAfter_conditional href, ?_⟩
      simp only [Node.children, Option.toList_some, List.map_append, List.map_cons, List.map_nil]
      refine leads_inTurn_append.mpr ⟨_, htest, leads_inTurn_cons.mpr ⟨start, hyes, ?_⟩⟩
      exact leads_inTurn_singleton.mpr (Level.leads_branch hitems)

/-- The end of a branch turns the count back or leaves it, as the walk does. -/
theorem Turns.counted {captures highest : Nat} (ht : Turns st captures highest) (h : st.Counted)
    (next : Nat) :
    Level.Counted (resets st.frames) { st.level.nextBranch next with highest } captures ∧
      FramesCounted st.frames { st.level.nextBranch next with highest } := by
  have hlevel := h.level
  have hframes := h.frames
  cases ht with
  | @reset f fs head hf hc hk =>
      obtain ⟨offset, construct, flags, outer⟩ := f
      obtain rfl : construct = .group head := hc
      rw [hf] at hlevel hframes ⊢
      have hresets : resets (⟨offset, .group head, flags, outer⟩ :: fs) = true := beq_iff_eq.mpr hk
      rw [hresets] at hlevel ⊢
      exact ⟨hlevel.nextBranch_alike next, hframes⟩
  | keep hr hd =>
      have hresets : resets st.frames = false := by
        unfold resets
        split
        · next head _ _ _ hf => exact beq_eq_false_iff_ne.mpr (hr _ (by rw [hf]; rfl) head rfl)
        · rfl
      rw [hresets] at hlevel ⊢
      refine ⟨hlevel.nextBranch next _, ?_⟩
      cases hf : st.frames with
      | nil =>
          rw [hf] at hframes
          exact hframes
      | cons f fs =>
          rw [hf] at hframes
          obtain ⟨count, houter, hconstruct, hrest⟩ := hframes
          refine ⟨count, houter, ?_, hrest⟩
          cases hcon : f.construct with
          | conditional test =>
              rw [hcon] at hconstruct
              have hdone := hd f (by rw [hf]; rfl) test hcon
              refine ⟨hconstruct.1, hconstruct.2.1, ?_⟩
              simp [Level.nextBranch, hdone]
          | _ =>
              rw [hcon] at hconstruct
              exact hconstruct

theorem Move.counted {limit : Nat} (hm : Move limit st t next st') (hopen : st.openClass = none)
    (h : st.Counted) : st'.Counted := by
  cases hm with
  | atom ha => exact h.push hopen (leads_atom (AtomOf.rightAfter ha)) (by simp)
  | octal _ _ _ _ _ =>
      refine Counted.pushDigits ?_ hopen
      exact @Counted.push st h hopen _ st.flags st.warnings (leads_atom trivial) (by simp)
  | @again count n items hk hi =>
      obtain ⟨⟨start, hstart, hitems⟩, hflat⟩ := h.level
      rw [hi, List.reverse_cons, List.map_append] at hitems
      obtain ⟨mid, hbefore, hn⟩ := leads_inTurn_append.mp hitems
      refine counted_of_closed hopen ⟨⟨start, hstart, ?_⟩, ?_⟩ (h.frames.of_eq rfl rfl)
      · simp only [List.reverse_cons, List.map_append]
        refine leads_inTurn_append.mpr ⟨mid, hbefore, leads_inTurn_singleton.mpr ?_⟩
        exact (Node.leads_walk (by simp)).mpr ⟨trivial, hn⟩
      · intro m hm
        rcases List.mem_cons.mp hm with rfl | hm
        · simp
        · exact hflat m (by simp [hi, hm])
  | branch hk hc =>
      obtain ⟨hl, hf⟩ := hc.counted h next
      exact counted_of_closed hopen hl hf
  | enter ho hn =>
      exact counted_of_closed hopen (Level.counted_new _ _ _)
        ⟨st.captures, h.level, Opens.counted ho next, h.frames⟩
  | @leave f fs n captures hk hf hc =>
      have hlevel := h.level
      have hframes := h.frames
      rw [hf] at hlevel hframes
      obtain ⟨count, houter, hconstruct, hrest⟩ := hframes
      obtain ⟨hn, hflat⟩ := hc.leads hlevel hconstruct
      exact counted_of_closed hopen (houter.push hn hflat) (hrest.of_eq rfl rfl)
  | @test f fs look hk hf hc =>
      have hlevel := h.level
      have hframes := h.frames
      rw [hf] at hlevel hframes
      obtain ⟨count, houter, hconstruct, hrest⟩ := hframes
      obtain ⟨offset, construct, flags, outer⟩ := f
      obtain rfl : construct = .assertion look := hc
      refine counted_of_closed hopen (Level.counted_new _ _ _) ⟨count, houter, ?_, hrest⟩
      refine ⟨by simp, leads_inTurn_singleton.mpr (Node.leads_group.mpr ⟨rfl, ?_⟩), Nat.zero_le _⟩
      exact (show st.level.base = count from hconstruct) ▸ hlevel.node
  | startClass hk =>
      refine ⟨h.level, h.frames, ?_⟩
      rintro c ⟨⟩
      refine ⟨?_, fun _ hl => nomatch hl⟩
      rw [OpenClass.settled_of_none rfl]
      exact fun _ hn => nomatch hn
  | finish _ _ => exact h

end State

theorem step_counted {s : ParserSettings} {st st' : State} {t : Token} {next : Nat}
    (h : st.Counted) (hs : step s st t next = .ok st') : st'.Counted := by
  rcases step_move hs with ⟨hopen, hm⟩ | ⟨c, c', hopen, hm, rfl⟩ | ⟨c, n, hopen, hm, rfl⟩
  · exact hm.counted hopen h
  · refine ⟨h.level, h.frames, ?_⟩
    rintro d ⟨⟩
    exact hm.inert (h.members c hopen)
  · obtain ⟨hn, hflat⟩ := hm.inert_done (h.members c hopen)
    exact State.counted_of_closed rfl (h.level.push (hn _) hflat) (h.frames.of_eq rfl rfl)

end Parse

/-! ### What the walk comes to -/

/-- The nodes that a walk comes to, in their order. -/
def Visit.nodes (w : Visit) (a : Nat) : List Node := (w a).1.map Prod.snd

namespace Node

theorem nodes_inTurn {ns : List Node} {r : Bool}
    (h : ∀ c ∈ ns, ∀ a, (c.numbering r).nodes a = c.preorder) (a : Nat) :
    (Visit.inTurn ((ns.map numbering).map fun w => w r)).nodes a = ns.flatMap preorder := by
  induction ns generalizing a with
  | nil => rfl
  | cons n ns ih =>
      have hn := h n (by simp) a
      have hns := ih (fun c hc => h c (by simp [hc])) (n.numbering r a).2
      simp only [Visit.nodes, List.map_cons, Visit.inTurn, List.map_append] at hn hns ⊢
      rw [hn, hns, List.flatMap_cons]

theorem nodes_alike {ns : List Node} {r : Bool}
    (h : ∀ c ∈ ns, ∀ a, (c.numbering r).nodes a = c.preorder) (a : Nat) :
    (Visit.alike ((ns.map numbering).map fun w => w r)).nodes a = ns.flatMap preorder := by
  induction ns with
  | nil => rfl
  | cons n ns ih =>
      have hn := h n (by simp) a
      have hns := ih (fun c hc => h c (by simp [hc]))
      simp only [Visit.nodes, List.map_cons, Visit.alike, List.map_append] at hn hns ⊢
      rw [hn, hns, List.flatMap_cons]

/-- The walk comes to every node, each before its children. -/
theorem nodes_numbering (n : Node) (reset : Bool) (a : Nat) :
    (n.numbering reset).nodes a = n.preorder := by
  induction n using Node.children_induction generalizing reset a with
  | h n ih =>
      have hbelow : ∀ r, ∀ c ∈ n.children, ∀ a, (c.numbering r).nodes a = c.preorder :=
        fun r c hc a => ih c hc r a
      rw [numbering_eq, preorder_eq]
      cases n with
      | alternation s branches =>
          cases reset with
          | true => exact congrArg (List.cons _) (nodes_alike (hbelow false) a)
          | false => exact congrArg (List.cons _) (nodes_inTurn (hbelow false) a)
      | group s head body => exact congrArg (List.cons _) (nodes_inTurn (hbelow _) _)
      | _ => exact congrArg (List.cons _) (nodes_inTurn (hbelow false) a)

end Node

/-- A walk that raises its count only at groups that capture, by one at each. -/
def Visit.Carried (w : Visit) : Prop :=
  ∀ a k, a < k → k ≤ (w a).2 → ∃ v ∈ (w a).1, v.1 + 1 = k ∧
    ∃ s head body, v.2 = .group s head body ∧ head.kind.isCapturing = true

namespace Visit

theorem carried_inTurn {ws : List Visit} (h : ∀ w ∈ ws, w.Carried) : (inTurn ws).Carried := by
  induction ws with
  | nil =>
      intro a k hlt hle
      exact absurd hle (Nat.not_le.mpr hlt)
  | cons w ws ih =>
      intro a k hlt hle
      rcases Nat.lt_or_ge (w a).2 k with hk | hk
      · obtain ⟨v, hv, hright⟩ := ih (fun v hv => h v (by simp [hv])) _ k hk hle
        exact ⟨v, List.mem_append_right _ hv, hright⟩
      · obtain ⟨v, hv, hright⟩ := h w (by simp) a k hlt hk
        exact ⟨v, List.mem_append_left _ hv, hright⟩

theorem carried_alike {ws : List Visit} (h : ∀ w ∈ ws, w.Carried) : (alike ws).Carried := by
  induction ws with
  | nil =>
      intro a k hlt hle
      exact absurd hle (Nat.not_le.mpr hlt)
  | cons w ws ih =>
      intro a k hlt hle
      have hmax : k ≤ max (w a).2 (alike ws a).2 := hle
      have heither : k ≤ (w a).2 ∨ k ≤ (alike ws a).2 := by omega
      rcases heither with hk | hk
      · obtain ⟨v, hv, hright⟩ := h w (by simp) a k hlt hk
        exact ⟨v, List.mem_append_left _ hv, hright⟩
      · obtain ⟨v, hv, hright⟩ := ih (fun v hv => h v (by simp [hv])) a k hlt hk
        exact ⟨v, List.mem_append_right _ hv, hright⟩

end Visit

theorem Node.carried_numbering (n : Node) (reset : Bool) : (n.numbering reset).Carried := by
  induction n using Node.children_induction generalizing reset with
  | h n ih =>
      have hbelow : ∀ r, ∀ w ∈ (n.children.map numbering).map (fun w => w r), w.Carried := by
        intro r w hw
        simp only [List.map_map, List.mem_map, Function.comp] at hw
        obtain ⟨c, hc, rfl⟩ := hw
        exact ih c hc r
      -- Where a node itself does not count, what its children carry is carried.
      have hplain : ∀ {w : Visit}, w.Carried →
          Visit.Carried fun a => ((a, n) :: (w a).1, (w a).2) := by
        intro w hw a k hlt hle
        obtain ⟨v, hv, hright⟩ := hw a k hlt hle
        exact ⟨v, List.mem_cons_of_mem _ hv, hright⟩
      rw [numbering_eq]
      cases n with
      | alternation s branches =>
          cases reset with
          | true => exact hplain (Visit.carried_alike (hbelow false))
          | false => exact hplain (Visit.carried_inTurn (hbelow false))
      | group s head body =>
          intro a k hlt hle
          by_cases hk : head.opened a < k
          · obtain ⟨v, hv, hright⟩ := Visit.carried_inTurn (hbelow (head.kind == .branchReset)) _ k hk hle
            exact ⟨v, List.mem_cons_of_mem _ hv, hright⟩
          · -- The group itself carries the one number that it adds.
            unfold GroupHead.opened at hk
            split at hk
            · next hcap =>
                exact ⟨(a, group s head body), List.mem_cons_self, by omega, s, head, body, rfl, hcap⟩
            · omega
      | _ => exact hplain (Visit.carried_inTurn (hbelow false))

/-! ### Patterns -/

/-- The numbers of a pattern are those of the walk over its tree. The walk comes to every node in
its order; each group that captures holds the next number, every other group holds none, and every
relative reference holds the number that its distance comes to. The number of groups is the count
at the end of the walk, and each number up to it is that of some group. -/
theorem Pattern.parseBody_numbering {s : ParserSettings} {body modifiers : String}
    {delimiter : Char} {p : Pattern}
    (h : Pattern.parseBody s body modifiers delimiter = .ok p) :
    (p.root.numbering false 0).1.map Prod.snd = p.root.preorder ∧
    (∀ v ∈ (p.root.numbering false 0).1, v.2.RightAfter v.1) ∧
    p.captures = (p.root.numbering false 0).2 ∧
    ∀ k, 1 ≤ k → k ≤ p.captures →
      ∃ span head inner, Node.group span head inner ∈ p.root.preorder ∧ head.number = some k := by
  obtain ⟨flags, -, hp⟩ := parseBody_ok h
  obtain ⟨st, rfl, hst, hframes, -⟩ :=
    @parseWith_invariant s delimiter flags body p (fun _ st => st.Counted)
      (fun next _ => Parse.State.counted_initial flags next)
      (fun _ _ _ hi hs => Parse.step_counted hi hs) hp
  have hbase := hst.frames
  have hlevel := hst.level
  rw [hframes] at hbase hlevel
  have hroot : Leads st.level.node.walk 0 st.captures :=
    (show st.level.base = 0 from hbase) ▸ hlevel.node
  have hnodes := Node.nodes_numbering st.level.node false 0
  refine ⟨hnodes, hroot.2, hroot.1.symm, ?_⟩
  intro k hpos hle
  obtain ⟨v, hv, hk, span, head, inner, hgroup, hcap⟩ :=
    Node.carried_numbering st.level.node false 0 k hpos (hroot.1 ▸ hle)
  refine ⟨span, head, inner, ?_, ?_⟩
  · show Node.group span head inner ∈ st.level.node.preorder
    rw [← hnodes, ← hgroup]
    exact List.mem_map_of_mem hv
  · have hright := hroot.2 v hv
    rw [hgroup] at hright
    rw [show head.number = _ from hright, if_pos hcap, hk]

theorem Pattern.parseBody_numbering_reset :
    ∃ p, Pattern.parseBody {} "(?|(a)(b)|(c))(d)\\g{-1}" "" '/' = .ok p ∧
      p.captures = (p.root.numbering false 0).2 ∧ p.captures = 3 := by
  have haccepted : ((Pattern.parseBody {} "(?|(a)(b)|(c))(d)\\g{-1}" "" '/').toOption.map
      Pattern.captures) = some 3 := by cbv
  cases hp : Pattern.parseBody {} "(?|(a)(b)|(c))(d)\\g{-1}" "" '/' with
  | error e => rw [hp] at haccepted; cases haccepted
  | ok p =>
      rw [hp] at haccepted
      exact ⟨p, rfl, (parseBody_numbering hp).2.2.1, Option.some.inj haccepted⟩

end PatternLint
