import PatternLint.Proofs.Positions
import PatternLint.Proofs.Hazard.Search

/-!
# One node to a place

Well placed nodes may still share a place, as a parent with its only child. The
parser makes no such tree: a parent covers a token that its child does not, or it
has two children that each cover something. `Solid` says so of one node, every step
keeps it, and `occurrence_unique` is what it is for: a span that is not empty is that
of one occurrence in the tree, so that a node can be found again by its span.
-/

namespace PatternLint

/-- A node that covers some text, unless it is the empty one, and more of it than any child does. -/
structure Solid (n : Node) : Prop where
  covers : (∀ s, n ≠ .atom s .empty) → n.start < n.stop
  larger : ∀ c ∈ n.children, n.start < c.start ∨ c.stop < n.stop

/-- A tree whose nodes are all solid. -/
def AllSolid (n : Node) : Prop := ∀ m ∈ n.preorder, Solid m

theorem allSolid_iff {n : Node} : AllSolid n ↔ Solid n ∧ ∀ c ∈ n.children, AllSolid c :=
  Node.forall_preorder_iff

/-- A solid tree that covers some text. -/
def Filled (n : Node) : Prop := AllSolid n ∧ n.start < n.stop

theorem filled_of_children {n : Node} (hlt : n.start < n.stop)
    (hlarger : ∀ c ∈ n.children, n.start < c.start ∨ c.stop < n.stop)
    (hchildren : ∀ c ∈ n.children, AllSolid c) : Filled n :=
  ⟨allSolid_iff.mpr ⟨⟨fun _ => hlt, hlarger⟩, hchildren⟩, hlt⟩

theorem filled_atom {s : Span} (h : s.start < s.stop) (a : Atom) : Filled (.atom s a) :=
  filled_of_children h (List.forall_mem_nil _) (List.forall_mem_nil _)

theorem allSolid_empty (offset : Nat) : AllSolid (.atom (.point offset) .empty) :=
  allSolid_iff.mpr ⟨⟨fun h => absurd rfl (h _), List.forall_mem_nil _⟩, List.forall_mem_nil _⟩

section Row

variable {cs : List Char} {a b : Nat} {n : Node} {ns : List Node}

/-- Nodes one after another within some bounds are a row. -/
theorem row_of_pairwise (hle : a ≤ b) (hbounds : ∀ c ∈ ns, a ≤ c.start ∧ c.stop ≤ b)
    (hplaced : ∀ c ∈ ns, AllPlaced cs c) (hordered : ns.Pairwise fun x y => x.stop ≤ y.start) :
    Row cs a ns b := by
  induction ns generalizing a with
  | nil => exact hle
  | cons c ns ih =>
      obtain ⟨hfirst, hrest⟩ := List.pairwise_cons.mp hordered
      obtain ⟨⟨hstart, hstop⟩, hbounds⟩ := List.forall_mem_cons.mp hbounds
      obtain ⟨hc, hplaced⟩ := List.forall_mem_cons.mp hplaced
      exact ⟨hstart, hc, ih hstop (fun d hd => ⟨hfirst d hd, (hbounds d hd).2⟩) hplaced hrest⟩

/-- The children of a well placed node are a row within it. -/
theorem AllPlaced.row_children (h : AllPlaced cs n) : Row cs n.start n.children n.stop := by
  refine row_of_pairwise h.root.le (fun c hc => ?_) (allPlaced_iff.mp h).2 h.root.ordered
  have hwithin := h.root.within c hc
  simp only [Span.contains, Bool.and_eq_true, decide_eq_true_eq] at hwithin
  exact hwithin

/-- A row of trees that cover something has some width. -/
theorem Row.lt (h : Row cs a ns b) (hne : ns ≠ []) (hcovers : ∀ c ∈ ns, c.start < c.stop) :
    a < b := by
  obtain ⟨c, rest, rfl⟩ := List.exists_cons_of_ne_nil hne
  obtain ⟨hstart, hstop⟩ := h.mem_bounds (m := c) (by simp)
  have := hcovers c (by simp)
  omega

/-- Where two or more children all cover something, none of them covers the whole. -/
theorem AllPlaced.filled (h : AllPlaced cs n) (htwo : 2 ≤ n.children.length)
    (hchildren : ∀ c ∈ n.children, Filled c) : Filled n := by
  have hrow := h.row_children
  have hne : n.children ≠ [] := by
    intro hnil
    simp [hnil] at htwo
  refine filled_of_children (hrow.lt hne fun c hc => (hchildren c hc).2) ?_
    fun c hc => (hchildren c hc).1
  intro c hc
  obtain ⟨before, after, hsplit⟩ := List.append_of_mem hc
  rw [hsplit] at hrow hchildren htwo
  obtain ⟨m, hbefore, hle, -, hafter⟩ := row_append.mp hrow
  -- There is another child before it or behind it, which takes some room.
  by_cases hfirst : before = []
  · have hlast : after ≠ [] := by
      rintro rfl
      simp [hfirst] at htwo
    exact .inr (hafter.lt hlast fun d hd => (hchildren d (by simp [hd])).2)
  · have := hbefore.lt hfirst fun d hd => (hchildren d (by simp [hd])).2
    exact .inl (by omega)

/-- A node that ends with a token behind its children covers more than they do. -/
theorem filled_of_closed {t : Token} (hspan : n.span = ⟨a, t.stop⟩) (hlt : t.start < t.stop)
    (hrow : Row cs a n.children t.start) (hchildren : ∀ c ∈ n.children, AllSolid c) :
    Filled n := by
  have hstart : n.start = a := congrArg Span.start hspan
  have hstop : n.stop = t.stop := congrArg Span.stop hspan
  have hle := hrow.le
  refine filled_of_children (by omega) (fun c hc => ?_) hchildren
  have := (hrow.mem_bounds hc).2
  exact .inr (by omega)

end Row

namespace Parse

/-! ### Levels -/

/-- A level whose items cover something, and whose branches end before the next one starts. -/
structure Level.Solid (l : Level) : Prop where
  done : ∀ b ∈ l.done, AllSolid b ∧ b.stop < l.branchStart
  items : ∀ n ∈ l.items, Filled n

namespace Level

variable {cs : List Char} {l : Level} {next next' captures : Nat} {n : Node}

theorem solid_new : (Level.new next captures).Solid :=
  ⟨List.forall_mem_nil _, List.forall_mem_nil _⟩

theorem Solid.push (h : l.Solid) (hn : Filled n) : (l.push n).Solid :=
  ⟨h.done, List.forall_mem_cons.mpr ⟨hn, h.items⟩⟩

theorem Solid.branch (h : l.Solid) (hp : l.Placed cs next) : AllSolid l.branch := by
  have hplaced := hp.branch.2.1
  revert hplaced
  unfold Level.branch
  split
  · exact fun _ => allSolid_empty _
  · next n hi => exact fun _ => (h.items n (by simp [hi])).1
  · next last rest hne hi =>
      intro hplaced
      refine (hplaced.filled ?_ fun c hc => h.items c (by simpa [Node.children] using hc)).1
      have := List.length_pos_iff.mpr hne
      simp only [Node.children, hi, List.length_reverse, List.length_cons]
      omega

/-- Between the first branch of an alternation and the last one stands a bar, so that neither
covers the whole. -/
theorem Solid.node (h : l.Solid) (hp : l.Placed cs next) : AllSolid l.node := by
  have hbranch := h.branch hp
  obtain ⟨hstart, hplaced, -⟩ := hp.branch
  have hle := hplaced.root.le
  unfold Level.node
  split
  · exact hbranch
  · next d more hd =>
      have hbar : l.start < l.branchStart := by
        have hfirst := h.done d (by simp [hd])
        have hbound := hp.done.mem_bounds (m := d) (by simp [hd])
        have := (hp.done.allPlaced (m := d) (by simp [hd])).root.le
        omega
      refine (filled_of_children (n := .alternation ⟨l.start, l.branch.stop⟩ _) ?_ ?_ ?_).1
      · show l.start < l.branch.stop
        omega
      · simp only [Node.children, List.forall_mem_append, List.forall_mem_singleton]
        refine ⟨fun c hc => .inr ?_, .inl ?_⟩
        · have := (h.done c (List.mem_reverse.mp hc)).2
          show c.stop < l.branch.stop
          omega
        · show l.start < l.branch.start
          omega
      · simp only [Node.children, List.forall_mem_append, List.forall_mem_singleton]
        exact ⟨fun c hc => (h.done c (List.mem_reverse.mp hc)).1, hbranch⟩

theorem Solid.nextBranch (h : l.Solid) (hp : l.Placed cs next) (hlt : next < next')
    {highest : Nat} : Level.Solid { l.nextBranch next' with highest } := by
  refine ⟨List.forall_mem_cons.mpr ⟨⟨h.branch hp, ?_⟩, fun b hb => ?_⟩, List.forall_mem_nil _⟩
  · exact Nat.lt_of_le_of_lt hp.branch.2.2 hlt
  · have := (h.done b hb).2
    have := hp.items.le
    exact ⟨(h.done b hb).1, show b.stop < next' by omega⟩

end Level

/-! ### Open parentheses and classes -/

/-- The trees that an open construct holds. -/
def Construct.tests : Construct → List Node
  | .conditional test => Node.conditionChildren test
  | .group _ | .define | .assertion _ => []

/-- An open parenthesis that holds solid trees, in a solid level. -/
structure Frame.Solid (f : Frame) : Prop where
  outer : f.outer.Solid
  tests : ∀ c ∈ f.construct.tests, AllSolid c

/-- An open class whose members cover something, behind the left side of the operation that is
pending and apart from it. -/
structure OpenClass.Solid (c : OpenClass) (next : Nat) : Prop where
  members : ∀ m ∈ c.settled.members, Filled m
  left : ∀ q ∈ c.left, AllSolid q.1 ∧ q.1.stop < next ∧ ∀ m ∈ c.settled.members, q.1.stop < m.start

namespace OpenClass

variable {cs : List Char} {ctx : Token.Context} {c : OpenClass} {t : Token} {a b next : Nat}

theorem solid_new {offset : Nat} {negated caseless : Bool} :
    OpenClass.Solid { offset, negated, caseless } next :=
  ⟨List.forall_mem_nil _, fun _ hq => (nomatch hq)⟩

theorem solid_unionOf {ns : List Node} (h : Row cs a ns b) (hb : Token.Boundary cs b)
    (hmembers : ∀ m ∈ ns, Filled m) : AllSolid (unionOf ns b) := by
  have hplaced := (row_unionOf h hb).2.1
  revert hplaced
  unfold unionOf
  split
  · exact fun _ => allSolid_empty _
  · next m => exact fun _ => (hmembers m (by simp)).1
  · next m rest hne =>
      intro hplaced
      refine (hplaced.filled ?_ hmembers).1
      have := List.length_pos_iff.mpr hne
      simp only [Node.children, List.length_cons]
      omega

/-- What is before all members is before their union. -/
theorem lt_start_unionOf {ns : List Node} {bound : Nat} (h : ∀ m ∈ ns, bound < m.start)
    (hb : bound < b) : bound < (unionOf ns b).start := by
  unfold unionOf
  split
  · exact hb
  · next m => exact h m (by simp)
  · next m rest hne =>
      have hlast : rest.getLastD m ∈ rest := by
        rw [List.getLastD_eq_getLast?, List.getLast?_eq_some_getLast (by simpa using hne),
          Option.getD_some]
        exact List.getLast_mem _
      exact Nat.lt_min.mpr ⟨h m (by simp), h _ (List.mem_cons_of_mem m hlast)⟩

theorem solid_setOperation {l right : Node} (op : ClassOp) (hl : AllSolid l)
    (hright : AllSolid right) (hle : l.start ≤ l.stop) (hapart : l.stop < right.start)
    (hle' : right.start ≤ right.stop) : AllSolid (setOperation (some (l, op)) right) := by
  have hcover : l.span.cover right.span = ⟨l.start, right.stop⟩ := by
    simp only [Span.cover, Span.mk.injEq]
    simp only [Node.start, Node.stop] at *
    omega
  rw [setOperation, hcover]
  refine (filled_of_children (n := .classOp ⟨l.start, right.stop⟩ op _) ?_ ?_ ?_).1
  · show l.start < right.stop
    omega
  · simp only [Node.children, List.forall_mem_cons]
    refine ⟨.inr ?_, .inl ?_, List.forall_mem_nil _⟩
    · show l.stop < right.stop
      omega
    · show l.start < right.start
      omega
  · simp only [Node.children, List.forall_mem_cons]
    exact ⟨hl, hright, List.forall_mem_nil _⟩

/-- What has been read of a class is solid. -/
theorem Solid.expr (h : c.Solid t.start) (hp : c.Placed cs t.start)
    (ht : Token.Placed ctx cs t) :
    AllSolid (setOperation c.settled.left (unionOf c.settled.members.reverse t.start)) := by
  rw [settled_left]
  obtain ⟨m, hleft, hmembers⟩ := row_append.mp hp.row
  have hunion := solid_unionOf hmembers ht.boundary_start
    fun k hk => h.members k (List.mem_reverse.mp hk)
  cases hl : c.left with
  | none => exact hunion
  | some q =>
      obtain ⟨hsolid, hlt, hapart⟩ := h.left q hl
      simp only [hl, Option.map_some, Option.toList_some] at hleft
      exact solid_setOperation q.2 hsolid hunion hleft.2.1.root.le
        (lt_start_unionOf (fun k hk => hapart k (List.mem_reverse.mp hk)) hlt)
        (row_unionOf hmembers ht.boundary_start).2.1.root.le

theorem ClassMove.solid {c' : OpenClass} (hm : ClassMove c t (.more c')) (h : c.Solid t.start)
    (hp : c.Placed cs t.start) (ht : Token.Placed ctx cs t) (hle : t.stop ≤ next) :
    c'.Solid next := by
  have hlt := ht.start_lt_stop
  -- A member at the token is behind all that has been read.
  have hadd : ∀ {c' : OpenClass} (a : Atom), c'.left = c.left →
      c'.settled.members = .atom t.span a :: c.settled.members → c'.Solid next := by
    intro c' a hleft hmembers
    refine ⟨?_, ?_⟩
    · rw [hmembers]
      exact List.forall_mem_cons.mpr ⟨filled_atom hlt a, h.members⟩
    · rw [hmembers, hleft]
      intro q hq
      obtain ⟨hsolid, hbound, hapart⟩ := h.left q hq
      exact ⟨hsolid, by omega, List.forall_mem_cons.mpr ⟨hbound, hapart⟩⟩
  cases hm with
  | @operate op =>
      have hs : (c.settled.operate op t).settled = c.settled.operate op t :=
        settled_of_none (settled_pending c)
      refine ⟨by rw [hs]; exact List.forall_mem_nil _, ?_⟩
      rw [hs]
      intro q hq
      obtain rfl := Option.mem_some.mp hq
      refine ⟨h.expr hp ht, ?_, List.forall_mem_nil _⟩
      exact Nat.lt_of_le_of_lt (hp.expr ht.boundary_start).2.2 (by omega)
  | @hold a _ => exact hadd a (settled_left c) rfl
  | @hyphen m hpending =>
      refine hadd (.literal '-' .verbatim c.caseless) rfl ?_
      rw [settled_of_hyphen rfl, settled_of_member hpending]
  | @range m hy x y form hpending =>
      have hsettled := settled_of_hyphen hpending
      have hm : m ∈ c.settled.members := by simp [hsettled]
      have hold : ∀ k ∈ c.members, k ∈ c.settled.members := fun k hk => by simp [hsettled, hk]
      have hrange : Filled (.atom (m.span.cover t.span) (.range x y)) := by
        refine filled_atom ?_ _
        simp only [Span.cover, Token.span]
        omega
      refine ⟨?_, ?_⟩ <;> rw [settled_of_none rfl]
      · exact List.forall_mem_cons.mpr ⟨hrange, fun k hk => h.members k (hold k hk)⟩
      · intro q hq
        obtain ⟨hsolid, hbound, hapart⟩ := h.left q hq
        refine ⟨hsolid, by omega, List.forall_mem_cons.mpr ⟨?_, fun k hk => hapart k (hold k hk)⟩⟩
        exact Nat.lt_min.mpr ⟨hapart m hm, hbound⟩

/-- The class that a token completes covers more than what is in it. -/
theorem ClassMove.filled {n : Node} (hm : ClassMove c t (.done n)) (h : c.Solid t.start)
    (hp : c.Placed cs t.start) (ht : Token.Placed ctx cs t) : Filled n := by
  cases hm
  have hexpr := hp.expr ht.boundary_start
  rw [OpenClass.close, settled_offset]
  refine filled_of_closed (n := .charClass ⟨c.offset, t.stop⟩ _ _ _) rfl ht.start_lt_stop hexpr ?_
  intro k hk
  obtain rfl := List.mem_singleton.mp hk
  exact h.expr hp ht

end OpenClass

/-! ### States -/

/-- A state in which all that has been read is solid. -/
structure State.Solid (next : Nat) (st : State) : Prop where
  level : st.level.Solid
  frames : ∀ f ∈ st.frames, f.Solid
  members : ∀ c ∈ st.openClass, c.Solid next

namespace State

variable {cs : List Char} {ctx : Token.Context} {st st' : State} {t : Token} {next : Nat}

theorem solid_of_closed (hc : st.openClass = none) (hl : st.level.Solid)
    (hf : ∀ f ∈ st.frames, f.Solid) : st.Solid next := by
  refine ⟨hl, hf, ?_⟩
  rw [hc]
  exact fun _ hc => nomatch hc

theorem pushDigits_solid {offset : Nat} {digits : List Char} (h : st.level.Solid) :
    (st.pushDigits offset digits).level.Solid := by
  induction digits generalizing st offset with
  | nil => exact h
  | cons d digits ih => exact ih (h.push (filled_atom (Nat.lt_succ_self offset) _))

theorem pushDigits_frames (offset : Nat) (digits : List Char) :
    (st.pushDigits offset digits).frames = st.frames := by
  induction digits generalizing st offset with
  | nil => rfl
  | cons d digits ih => exact ih ..

theorem Opens.tests {e inner : Env} {k : TokenKind} {construct : Construct}
    (ho : Opens e k construct inner) : construct.tests = [] := by
  cases ho <;> rfl

/-- A parenthesis that is closed covers more than what is in it. -/
theorem Closes.filled {f : Frame} {frames : List Frame} {n : Node} {captures : Nat}
    (hc : Closes st t f n captures) (hf : FramesPlaced cs (f :: frames) st.level.start)
    (hp : st.level.Placed cs t.start) (h : st.level.Solid) (hframe : f.Solid)
    (ht : Token.Placed ctx cs t) : Filled n := by
  obtain ⟨hspan, hrow⟩ := hc.row_children hf hp
  refine filled_of_closed hspan ht.start_lt_stop hrow ?_
  have htests := hframe.tests
  have hbranch := h.branch hp
  have hnode := h.node hp
  cases hc with
  | group _ => simpa [Node.children] using hnode
  | define _ _ => simpa [Node.children] using hnode
  | single hk _ =>
      rw [hk] at htests
      simp only [Node.children, List.forall_mem_append, List.forall_mem_cons]
      exact ⟨htests, hbranch, List.forall_mem_nil _⟩
  | @double test yes more hk hd =>
      rw [hk] at htests
      have hyes := (h.done yes (by simp [hd])).1
      simp only [Node.children, Option.toList_some, List.forall_mem_append, List.forall_mem_cons]
      exact ⟨htests, hyes, hbranch, List.forall_mem_nil _⟩

theorem Move.solid {limit : Nat} (hm : Move limit st t next st') (hopen : st.openClass = none)
    (hp : st.Placed cs t.start) (h : st.Solid t.start) (ht : Token.Placed ctx cs t)
    (hle : t.stop ≤ next) : st'.Solid next := by
  have hlt := ht.start_lt_stop
  have hl : st.level.Placed cs t.start := by simpa [hopen] using hp.level
  cases hm with
  | atom _ => exact solid_of_closed hopen (h.level.push (filled_atom hlt _)) h.frames
  | @octal n octal digits _ _ =>
      refine solid_of_closed ((pushDigits_openClass _ _).trans hopen) (pushDigits_solid ?_) ?_
      · exact h.level.push (filled_atom (by simp only; omega) _)
      · rw [pushDigits_frames]
        exact h.frames
  | @again count n items hk hi =>
      obtain ⟨hn, hitems⟩ := List.forall_mem_cons.mp (hi ▸ h.level.items)
      have hrow := hl.items
      rw [hi, List.reverse_cons] at hrow
      obtain ⟨-, hplaced, hstop⟩ := row_snoc.mp hrow
      have hrepeat : Filled (.quantifier ⟨n.start, t.stop⟩ count n) := by
        refine filled_of_closed rfl hlt (hplaced.row.widen (Nat.le_refl _) hstop) ?_
        intro c hc
        exact List.mem_singleton.mp hc ▸ hn.1
      exact solid_of_closed hopen ⟨h.level.done, List.forall_mem_cons.mpr ⟨hrepeat, hitems⟩⟩
        h.frames
  | branch _ _ => exact solid_of_closed hopen (h.level.nextBranch hl (by omega)) h.frames
  | enter ho _ =>
      refine solid_of_closed hopen Level.solid_new (List.forall_mem_cons.mpr ⟨?_, h.frames⟩)
      exact ⟨h.level, by simp [Opens.tests ho]⟩
  | leave hk hf hc =>
      have hframes := h.frames
      have hplaced := hp.frames
      rw [hf] at hframes hplaced
      obtain ⟨hframe, hrest⟩ := List.forall_mem_cons.mp hframes
      exact solid_of_closed hopen
        (hframe.outer.push (hc.filled hplaced hl h.level hframe ht)) hrest
  | @test f frames look hk hf hc =>
      have hframes := h.frames
      have hplaced := hp.frames
      rw [hf] at hframes hplaced
      obtain ⟨hframe, hrest⟩ := List.forall_mem_cons.mp hframes
      obtain ⟨-, -, hconstruct, -⟩ := hplaced
      rw [hc] at hconstruct
      have hassertion : Filled
          (.group ⟨f.offset + 2, t.stop⟩ { kind := .look look } st.level.node) := by
        refine filled_of_closed rfl hlt (hl.node.widen hconstruct.2 (Nat.le_refl _)) ?_
        intro c hc
        exact List.mem_singleton.mp hc ▸ h.level.node hl
      refine solid_of_closed hopen Level.solid_new (List.forall_mem_cons.mpr ⟨?_, hrest⟩)
      refine ⟨hframe.outer, fun c hc => ?_⟩
      exact List.mem_singleton.mp hc ▸ hassertion.1
  | startClass hk =>
      refine ⟨h.level, h.frames, fun c hc => ?_⟩
      obtain rfl := Option.mem_some.mp hc
      exact OpenClass.solid_new
  | finish hk hf => exact solid_of_closed hopen h.level h.frames

end State

/-- Every step keeps what has been read solid. -/
theorem step_solid {s : ParserSettings} {cs : List Char} {ctx : Token.Context} {st st' : State}
    {t : Token} {next : Nat} (ht : Token.Placed ctx cs t) (hle : t.stop ≤ next)
    (hp : st.Placed cs t.start) (h : st.Solid t.start) (hs : step s st t next = .ok st') :
    st'.Solid next := by
  rcases step_move hs with ⟨hopen, hm⟩ | ⟨c, c', hopen, hm, rfl⟩ | ⟨c, n, hopen, hm, rfl⟩
  · exact hm.solid hopen hp h ht hle
  · refine ⟨h.level, h.frames, fun d hd => ?_⟩
    obtain rfl := Option.mem_some.mp hd
    exact hm.solid (h.members c hopen) (hp.members c hopen) ht hle
  · refine State.solid_of_closed rfl (h.level.push ?_) h.frames
    exact hm.filled (h.members c hopen) (hp.members c hopen) ht

end Parse

/-! ### Patterns -/

open Parse in
/-- All nodes of the tree that has been read when all tokens are taken are solid. -/
theorem Pattern.tokenized_solid {s : ParserSettings} {flags : Flags} {body : String}
    {ts : List Token} {st : State} (ht : tokenize body flags s.dialect = .ok ts)
    (hr : run s (initial flags ts) ts = .ok st) : AllSolid st.level.node := by
  obtain ⟨⟨hp, hst⟩, -, hopen⟩ := @Pattern.tokenized_invariant s flags body
    (fun next st => st.Placed body.toList next ∧ st.Solid next) ts st
    (fun _ hb => ⟨State.placed_initial flags hb,
      State.solid_of_closed rfl Level.solid_new (List.forall_mem_nil _)⟩)
    (fun ht hle hb hinv hs =>
      ⟨step_placed ht hle hb hinv.1 hs, step_solid ht hle hinv.1 hinv.2 hs⟩) ht hr
  have hl : st.level.Placed body.toList (Text.size body.toList) := by
    simpa [hopen] using hp.level
  exact hst.level.node hl

/-- All nodes of a pattern are solid. -/
theorem Pattern.parseWith_solid {s : ParserSettings} {delimiter : Char} {flags : Flags}
    {body : String} {p : Pattern} (h : Pattern.parseWith s delimiter flags body = .ok p) :
    AllSolid p.root := by
  obtain ⟨ts, st, ht, hr, rfl, -⟩ := Pattern.parseWith_ok h
  exact tokenized_solid ht hr

/-- What is below a child of a node does not cover all of the node. -/
theorem AllPlaced.span_ne {cs : List Char} {n c m : Node} (hp : AllPlaced cs n) (hs : AllSolid n)
    (hc : c ∈ n.children) (hm : m ∈ c.preorder) : m.span ≠ n.span := by
  intro heq
  obtain ⟨hstart, hstop⟩ := ((allPlaced_iff.mp hp).2 c hc).bounds hm
  obtain ⟨hcstart, hcstop⟩ := hp.row_children.mem_bounds hc
  have hlarger := (allSolid_iff.mp hs).1.larger c hc
  have : m.start = n.start := congrArg Span.start heq
  have : m.stop = n.stop := congrArg Span.stop heq
  omega

/-- In a tree of well placed and solid nodes, a span that is not empty is that of one occurrence. -/
theorem occurrence_unique {cs : List Char} {root : Node} (hp : AllPlaced cs root)
    (hs : AllSolid root) {o o' : List Node × Node} (ho : o ∈ root.occurrences)
    (ho' : o' ∈ root.occurrences) (hspan : o.2.span = o'.2.span) (hlt : o.2.start < o.2.stop) :
    o = o' := by
  suffices h : ∀ base, o ∈ root.occurrencesUnder base → o' ∈ root.occurrencesUnder base → o = o' from
    h [] ho ho'
  clear ho ho'
  induction root using Node.children_induction with
  | h n ih =>
      intro base ho ho'
      rcases Node.mem_occurrencesUnder.mp ho with rfl | ⟨c, hc, hm⟩ <;>
        rcases Node.mem_occurrencesUnder.mp ho' with rfl | ⟨c', hc', hm'⟩
      · rfl
      · exact absurd hspan.symm (hp.span_ne hs hc' (Node.mem_preorder_of_occurrence hm'))
      · exact absurd hspan (hp.span_ne hs hc (Node.mem_preorder_of_occurrence hm))
      · by_cases hsame : c = c'
        · subst hsame
          exact ih c hc ((allPlaced_iff.mp hp).2 c hc) ((allSolid_iff.mp hs).2 c hc) _ hm hm'
        · -- What is below different children is apart.
          have hapart : c.stop ≤ c'.start ∨ c'.stop ≤ c.start := by
            have hpair : n.children.Pairwise fun x y => x.stop ≤ y.start ∨ y.stop ≤ x.start :=
              hp.root.ordered.imp Or.inl
            have : Std.Symm fun x y : Node => x.stop ≤ y.start ∨ y.stop ≤ x.start :=
              ⟨fun _ _ => Or.symm⟩
            exact hpair.forall hc hc' hsame
          have hb := ((allPlaced_iff.mp hp).2 c hc).bounds (Node.mem_preorder_of_occurrence hm)
          have hb' := ((allPlaced_iff.mp hp).2 c' hc').bounds (Node.mem_preorder_of_occurrence hm')
          have : o.2.start = o'.2.start := congrArg Span.start hspan
          have : o.2.stop = o'.2.stop := congrArg Span.stop hspan
          omega

end PatternLint
