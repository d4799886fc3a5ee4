import PatternLint.Proofs.Parse.Refusal
import PatternLint.Proofs.Places
import PatternLint.Proofs.Restyle
import PatternLint.Proofs.Token.Tiling

/-!
# Errors about nesting

A body is refused as nested too deeply for one of two reasons: a token opens more
parentheses than may be open, or the tree that was read is too high. The limit for the
tree allows four levels for each parenthesis that may be open, and some more, as if a tree
grew by parentheses alone. But a count behind a count puts one repetition around another,
and a set operation in a class takes all before it as its left side, so that each makes
the tree higher by one and opens nothing.

So a tree is at most four times as high as the parentheses that may be open, but for a
constant and for such tokens. `State.Low` says this of all that has been read,
each level by the parentheses around it, and every step keeps it.
-/

namespace PatternLint

/-! ### Tokens -/

namespace Token

/-- How many parentheses a token opens, less those that it closes. The opener of a conditional opens
its test as well, if that is an assertion. -/
def parens (t : Token) : Int :=
  match t.kind with
  | .groupOpen _ => 1
  | .conditionOpen (.assertion _) => 2
  | .conditionOpen _ => 1
  | .groupClose => -1
  | _ => 0

/-- How many parentheses are open behind some tokens. -/
def openParens (ts : List Token) : Int := (ts.map parens).sum

/-- Whether a token is a count. -/
def isCount (t : Token) : Bool :=
  match t.kind with
  | .quantifier _ => true
  | _ => false

/-- Whether a token puts a level on top of what is before it and opens nothing: it is a count behind
another count, or a set operation. -/
def raises (behindCount : Bool) (t : Token) : Bool :=
  match t.kind with
  | .quantifier _ => behindCount
  | .classIntersection | .classSubtraction => true
  | _ => false

/-- The number of such tokens, where the first of all may stand behind a count. -/
def raising : Bool → List Token → Nat
  | _, [] => 0
  | behindCount, t :: ts => (raises behindCount t).toNat + raising t.isCount ts

end Token

/-! ### Errors -/

/-- Of all tokens only one that opens more parentheses than may be open is refused for nesting. -/
theorem Parse.lt_of_step {s : ParserSettings} {st : State} {t : Token} {l : Located} {next : Nat}
    (h : step s st t next = .error l) (hnesting : l.fault.isNesting = true) :
    (s.nestLimit : Int) < st.depth + t.parens := by
  have hplain : ∀ {offset : Nat}, ¬ PlainAt offset l := by
    rintro offset ⟨hfault⟩
    rw [Fault.isNesting_of_isPlain hfault] at hnesting
    cases hnesting
  cases step_refusal h with
  | plain hl => exact absurd hl hplain
  | nested hk hd =>
      have hpos : 1 ≤ t.parens := by
        unfold Token.parens
        rcases hk with ⟨opener, hk⟩ | ⟨test, hk⟩
        · simp [hk]
        · cases test <;> simp [hk]
      omega
  | test hk hd =>
      have htwo : t.parens = 2 := by simp [Token.parens, hk]
      omega
  | range ho hp hl => exact absurd hl hplain
  | _ => cases hnesting

/-! ### Heights -/

namespace Node

/-- A node is one higher than a bound on its children. -/
theorem height_add_le {n : Node} {a b : Nat} (hab : a ≤ b)
    (h : ∀ c ∈ n.children, c.height + a ≤ b) : n.height + a ≤ b + 1 := by
  have hmax : (n.children.map height).foldl max 0 ≤ b - a := by
    refine foldl_max_le.mpr ⟨Nat.zero_le _, fun k hk => ?_⟩
    obtain ⟨c, hc, rfl⟩ := List.mem_map.mp hk
    have := h c hc
    omega
  rw [height_eq]
  omega

theorem height_le_of_children {n : Node} {b : Nat} (h : ∀ c ∈ n.children, c.height ≤ b) :
    n.height ≤ b + 1 :=
  height_add_le (Nat.zero_le b) h

@[simp] theorem height_atom (s : Span) (a : Atom) : (atom s a).height = 1 := by
  rw [height_eq]
  rfl

/-- How high an item may be, above what its parentheses allow: a repetition has its target below. -/
def itemRoom : Node → Nat
  | quantifier .. => 4
  | _ => 3

/-- A tree of solid nodes is no higher than its text is long. -/
theorem height_le_of_solid {cs : List Char} {n : Node} (hp : AllPlaced cs n) (hs : AllSolid n) :
    n.height ≤ n.stop - n.start + 1 := by
  induction n using children_induction with
  | h n ih =>
      refine height_le_of_children fun c hc => ?_
      have hheight := ih c hc ((allPlaced_iff.mp hp).2 c hc) ((allSolid_iff.mp hs).2 c hc)
      have hlarger := (allSolid_iff.mp hs).1.larger c hc
      have hle := ((allPlaced_iff.mp hp).2 c hc).root.le
      obtain ⟨hstart, hstop⟩ := hp.row_children.mem_bounds hc
      omega

end Node

namespace Parse

/-- The number of parentheses that some frames have open. -/
def parensOf (frames : List Frame) : Nat := frames.foldr (fun f n => f.construct.parens + n) 0

/-- A level below `depth` parentheses, of which nothing is higher than `limit` parentheses and
`extra` raising tokens allow. -/
structure Level.Low (limit depth extra : Nat) (l : Level) : Prop where
  done : ∀ b ∈ l.done, b.height + 4 * depth ≤ 4 * limit + 5 + extra
  items : ∀ n ∈ l.items, n.height + 4 * depth ≤ 4 * limit + n.itemRoom + extra

namespace Level

variable {limit depth extra extra' : Nat} {l : Level} {n : Node}

theorem low_new {start captures : Nat} : (Level.new start captures).Low limit depth extra :=
  ⟨List.forall_mem_nil _, List.forall_mem_nil _⟩

theorem Low.mono (h : l.Low limit depth extra) (hle : extra ≤ extra') :
    l.Low limit depth extra' := by
  refine ⟨fun b hb => ?_, fun n hn => ?_⟩
  · have := h.done b hb
    omega
  · have := h.items n hn
    omega

theorem Low.push (h : l.Low limit depth extra)
    (hn : n.height + 4 * depth ≤ 4 * limit + n.itemRoom + extra) :
    (l.push n).Low limit depth extra :=
  ⟨h.done, List.forall_mem_cons.mpr ⟨hn, h.items⟩⟩

theorem Low.branch (h : l.Low limit depth extra) (hdepth : depth ≤ limit) :
    l.branch.height + 4 * depth ≤ 4 * limit + 5 + extra := by
  have hitem : ∀ n ∈ l.items, n.height + 4 * depth ≤ 4 * limit + 4 + extra := by
    intro n hn
    have hroom : n.itemRoom ≤ 4 := by cases n <;> simp [Node.itemRoom]
    have := h.items n hn
    omega
  unfold Level.branch
  split
  · rw [Node.height_atom]
    omega
  · next n hi =>
      have := hitem n (by simp [hi])
      omega
  · refine Nat.le_trans (Node.height_add_le (b := 4 * limit + 4 + extra) (by omega) ?_) (by omega)
    exact fun c hc => hitem c (List.mem_reverse.mp hc)

theorem Low.node (h : l.Low limit depth extra) (hdepth : depth ≤ limit) :
    l.node.height + 4 * depth ≤ 4 * limit + 6 + extra := by
  have hbranch := h.branch hdepth
  unfold Level.node
  split
  · omega
  · refine Nat.le_trans (Node.height_add_le (b := 4 * limit + 5 + extra) (by omega) ?_) (by omega)
    simp only [Node.children, List.forall_mem_append, List.forall_mem_singleton]
    exact ⟨fun c hc => h.done c (List.mem_reverse.mp hc), hbranch⟩

theorem Low.nextBranch (h : l.Low limit depth extra) (hdepth : depth ≤ limit) {next highest : Nat} :
    Level.Low limit depth extra { l.nextBranch next with highest } :=
  ⟨List.forall_mem_cons.mpr ⟨h.branch hdepth, h.done⟩, List.forall_mem_nil _⟩

end Level

/-- Open parentheses around low levels. -/
def FramesLow (limit extra : Nat) : List Frame → Prop
  | [] => True
  | f :: fs => f.outer.Low limit (parensOf fs) extra ∧
      (∀ c ∈ f.construct.tests, c.height + 4 * parensOf fs ≤ 4 * limit + 2 + extra) ∧
      FramesLow limit extra fs

theorem FramesLow.mono {limit extra extra' : Nat} {frames : List Frame}
    (h : FramesLow limit extra frames) (hle : extra ≤ extra') : FramesLow limit extra' frames := by
  induction frames with
  | nil => exact h
  | cons f fs ih =>
      obtain ⟨houter, htests, hrest⟩ := h
      refine ⟨houter.mono hle, fun c hc => ?_, ih hrest⟩
      have := htests c hc
      omega

/-- An open class that is no higher than its set operations make it. -/
structure OpenClass.Low (extra : Nat) (c : OpenClass) : Prop where
  members : ∀ m ∈ c.settled.members, m.height ≤ 1
  left : ∀ q ∈ c.left, q.1.height ≤ extra + 1 ∧ 1 ≤ extra

namespace OpenClass

variable {extra extra' : Nat} {c : OpenClass} {t : Token}

theorem low_new {offset : Nat} {negated caseless : Bool} :
    OpenClass.Low extra { offset, negated, caseless } :=
  ⟨List.forall_mem_nil _, fun _ hq => (nomatch hq)⟩

theorem Low.mono (h : c.Low extra) (hle : extra ≤ extra') : c.Low extra' := by
  refine ⟨h.members, fun q hq => ?_⟩
  obtain ⟨hheight, hpos⟩ := h.left q hq
  omega

theorem height_unionOf_le {ns : List Node} {offset : Nat} (h : ∀ m ∈ ns, m.height ≤ 1) :
    (unionOf ns offset).height ≤ 2 := by
  unfold unionOf
  split
  · rw [Node.height_atom]
    omega
  · next m =>
      have := h m (by simp)
      omega
  · exact Node.height_le_of_children h

/-- What has been read of a class; where an operation is pending, it is one more. -/
theorem Low.expr (h : c.Low extra) (offset : Nat) :
    (setOperation c.settled.left (unionOf c.settled.members.reverse offset)).height ≤ extra + 2 := by
  have hunion : (unionOf c.settled.members.reverse offset).height ≤ 2 :=
    height_unionOf_le fun m hm => h.members m (List.mem_reverse.mp hm)
  rw [settled_left]
  unfold setOperation
  split
  · omega
  · next l op hl =>
      obtain ⟨hheight, hpos⟩ := h.left (l, op) hl
      refine Node.height_le_of_children ?_
      simp only [Node.children, List.forall_mem_cons]
      exact ⟨hheight, by omega, List.forall_mem_nil _⟩

theorem ClassMove.low {c' : OpenClass} (hm : ClassMove c t (.more c')) (h : c.Low extra)
    (behindCount : Bool) : c'.Low (extra + (t.raises behindCount).toNat) := by
  have hmore : extra ≤ extra + (t.raises behindCount).toNat := Nat.le_add_right ..
  -- A member is an atom.
  have hadd : ∀ {c' : OpenClass} (s : Span) (a : Atom), c'.left = c.left →
      (∀ m ∈ c'.settled.members, m = .atom s a ∨ m ∈ c.settled.members) →
      c'.Low (extra + (t.raises behindCount).toNat) := by
    intro c' s a hleft hmembers
    refine Low.mono ⟨fun m hm => ?_, hleft ▸ h.left⟩ hmore
    rcases hmembers m hm with rfl | hm
    · exact Nat.le_of_eq (Node.height_atom s a)
    · exact h.members m hm
  cases hm with
  | @operate op ho =>
      have hs : (c.settled.operate op t).settled = c.settled.operate op t :=
        settled_of_none (settled_pending c)
      have hraises : t.raises behindCount = true := by
        unfold Token.raises
        generalize t.kind = k at ho
        cases ho <;> rfl
      refine ⟨by rw [hs]; exact List.forall_mem_nil _, fun q hq => ?_⟩
      obtain rfl := Option.mem_some.mp hq
      have hexpr := h.expr t.start
      rw [hraises]
      exact ⟨hexpr, Nat.le_add_left ..⟩
  | @hold a _ =>
      exact hadd t.span a (settled_left c) fun m hm => List.mem_cons.mp hm
  | @hyphen m hpending =>
      refine hadd t.span (.literal '-' .verbatim c.caseless) rfl fun k hk => ?_
      rw [settled_of_hyphen rfl] at hk
      rw [settled_of_member hpending]
      exact List.mem_cons.mp hk
  | @range m hy x y form hpending =>
      refine hadd (m.span.cover t.span) (.range x y) rfl fun k hk => ?_
      rw [settled_of_none rfl] at hk
      rw [settled_of_hyphen hpending]
      rcases List.mem_cons.mp hk with hk | hk
      · exact .inl hk
      · exact .inr (by simp [hk])

/-- A class is higher than its set operations by three at most. -/
theorem ClassMove.height_le {n : Node} (hm : ClassMove c t (.done n)) (h : c.Low extra) :
    n.height ≤ extra + 3 ∧ n.itemRoom = 3 := by
  cases hm
  refine ⟨Node.height_le_of_children (b := extra + 2) ?_, rfl⟩
  simpa only [OpenClass.close, Node.children, List.forall_mem_singleton] using h.expr t.start

end OpenClass

/-! ### States -/

/-- A state in which nothing is higher than `limit` parentheses and `extra` raising tokens allow. -/
structure State.Low (limit extra : Nat) (st : State) : Prop where
  depth : st.depth ≤ limit
  level : st.level.Low limit st.depth extra
  frames : FramesLow limit extra st.frames
  members : ∀ c ∈ st.openClass, c.Low extra

/-- The last item is a repetition only behind a count. -/
def State.Behind (behindCount : Bool) (st : State) : Prop :=
  st.openClass = none → ∀ n ∈ st.level.items.head?, n.itemRoom = 4 → behindCount = true

namespace State

variable {limit extra : Nat} {st st' : State} {t : Token} {next : Nat} {behindCount : Bool}

theorem parens_of_atomOf {e : Env} {a : Atom} (h : AtomOf e t.kind a) : t.parens = 0 := by
  unfold Token.parens
  generalize t.kind = k at h
  cases h <;> rfl

theorem parens_of_opens {e inner : Env} {construct : Construct}
    (h : Opens e t.kind construct inner) : t.parens = construct.parens := by
  unfold Token.parens
  generalize t.kind = k at h
  cases h <;> rfl

/-- A parenthesis that is closed is three higher than what the parentheses around it allow. -/
theorem Closes.height_le {f : Frame} {frames : List Frame} {n : Node} {captures : Nat}
    (hc : Closes st t f n captures) (hf : st.frames = f :: frames) (h : st.Low limit extra) :
    n.height + 4 * parensOf frames ≤ 4 * limit + n.itemRoom + extra ∧ n.itemRoom = 3 ∧
      f.construct.parens = 1 := by
  have hdepth : st.depth = f.construct.parens + parensOf frames := by
    rw [State.depth, hf]
    rfl
  have hle := h.depth
  have hbranch := h.level.branch hle
  have hnode := h.level.node hle
  have hframes := h.frames
  rw [hf] at hframes
  obtain ⟨-, htests, -⟩ := hframes
  -- It has its children below it, each in one parenthesis more or the test of a conditional.
  have hclosed : ∀ {n : Node}, n.itemRoom = 3 → f.construct.parens = 1 →
      (∀ c ∈ n.children, c.height + 4 * parensOf frames ≤ 4 * limit + 2 + extra) →
      n.height + 4 * parensOf frames ≤ 4 * limit + n.itemRoom + extra ∧ n.itemRoom = 3 ∧
        f.construct.parens = 1 := by
    intro n hroom hparens hchildren
    have := Node.height_add_le (b := 4 * limit + 2 + extra) (by omega) hchildren
    exact ⟨by omega, hroom, hparens⟩
  cases hc with
  | group hk =>
      have hparens : f.construct.parens = 1 := by rw [hk]; rfl
      refine hclosed rfl hparens ?_
      simp only [Node.children, List.forall_mem_singleton]
      omega
  | define hk hd =>
      have hparens : f.construct.parens = 1 := by rw [hk]; rfl
      refine hclosed rfl hparens ?_
      simp only [Node.children, List.forall_mem_singleton]
      omega
  | single hk hd =>
      have hparens : f.construct.parens = 1 := by rw [hk]; rfl
      rw [hk] at htests
      refine hclosed rfl hparens ?_
      simp only [Node.children, List.forall_mem_append, List.forall_mem_cons]
      exact ⟨htests, by omega, List.forall_mem_nil _⟩
  | @double test yes more hk hd =>
      have hparens : f.construct.parens = 1 := by rw [hk]; rfl
      have hyes := h.level.done yes (by simp [hd])
      rw [hk] at htests
      refine hclosed rfl hparens ?_
      simp only [Node.children, Option.toList_some, List.forall_mem_append, List.forall_mem_cons]
      exact ⟨htests, by omega, by omega, List.forall_mem_nil _⟩

theorem low_of_closed (hc : st.openClass = none) (hdepth : st.depth ≤ limit)
    (hl : st.level.Low limit st.depth extra) (hf : FramesLow limit extra st.frames) :
    st.Low limit extra := by
  refine ⟨hdepth, hl, hf, ?_⟩
  rw [hc]
  exact fun _ hc => nomatch hc

theorem Low.mono {extra' : Nat} (h : st.Low limit extra) (hle : extra ≤ extra') :
    st.Low limit extra' :=
  ⟨h.depth, h.level.mono hle, h.frames.mono hle, fun c hc => (h.members c hc).mono hle⟩

theorem behind_of_last (h : ∀ n ∈ st.level.items.head?, n.itemRoom = 3) :
    st.Behind behindCount := by
  intro _ n hn h4
  have := h n hn
  omega

theorem behind_of_nil (hnil : st.level.items = []) : st.Behind behindCount := by
  refine behind_of_last fun n hn => ?_
  rw [hnil] at hn
  cases hn

theorem behind_of_open {c : OpenClass} (hc : st.openClass = some c) : st.Behind behindCount := by
  intro hnone
  rw [hc] at hnone
  cases hnone

/-- An atom is as high as an item may be in the deepest parentheses. -/
theorem Low.atom (h : st.Low limit extra) (s : Span) (a : Atom) :
    (Level.push st.level (.atom s a)).Low limit st.depth extra := by
  have := h.depth
  refine h.level.push ?_
  show 1 + 4 * st.depth ≤ 4 * limit + 3 + extra
  omega

theorem pushDigits_low (st : State) (offset : Nat) (digits : List Char)
    (hopen : st.openClass = none) (h : st.Low limit extra)
    (hlast : ∀ n ∈ st.level.items.head?, n.itemRoom = 3) :
    (st.pushDigits offset digits).Low limit extra ∧
      ∀ n ∈ (st.pushDigits offset digits).level.items.head?, n.itemRoom = 3 := by
  induction digits generalizing st offset with
  | nil => exact ⟨h, hlast⟩
  | cons d digits ih =>
      refine ih (st.pushAtom _ _) _ hopen (low_of_closed hopen h.depth (h.atom ..) h.frames) ?_
      rintro _ ⟨⟩
      rfl

theorem Move.low (hm : Move limit st t next st') (hopen : st.openClass = none)
    (h : st.Low limit extra) (hbehind : st.Behind behindCount) (heof : t.kind ≠ .eof) :
    st'.Low limit (extra + (t.raises behindCount).toNat) ∧ st'.Behind t.isCount ∧
      (st'.depth : Int) = st.depth + t.parens := by
  have hmore : extra ≤ extra + (t.raises behindCount).toNat := Nat.le_add_right ..
  have hdepth := h.depth
  cases hm with
  | @atom a warnings ha =>
      refine ⟨?_, behind_of_last (by rintro _ ⟨⟩; rfl), ?_⟩
      · exact State.Low.mono (low_of_closed hopen hdepth (h.atom ..) h.frames) hmore
      · rw [parens_of_atomOf ha, Int.add_zero]
        rfl
  | @octal n octal digits hk =>
      obtain ⟨hlow, hlast⟩ := pushDigits_low (st.pushAtom _ _) (t.start + 1 + octal.length) digits
        hopen (low_of_closed hopen hdepth (h.atom ..) h.frames) (by rintro _ ⟨⟩; rfl)
      refine ⟨hlow.mono hmore, behind_of_last hlast, ?_⟩
      rw [depth, pushDigits_frames, Token.parens, hk]
      exact (Int.add_zero _).symm
  | @again count n items hk hi _ _ =>
      have hraises : t.raises behindCount = behindCount := by rw [Token.raises, hk]
      have hcount : t.isCount = true := by rw [Token.isCount, hk]
      obtain ⟨hn, hitems⟩ := List.forall_mem_cons.mp (hi ▸ h.level.items)
      have hrepeat : (Node.quantifier ⟨n.start, t.stop⟩ count n).height + 4 * st.depth ≤
          4 * limit + 4 + (extra + (t.raises behindCount).toNat) := by
        have hroom : n.itemRoom + 1 ≤ 4 + behindCount.toNat := by
          have := hbehind hopen n (by simp [hi])
          cases n with
          | quantifier s c target => rw [this rfl]; exact Nat.le_refl 5
          | _ => exact Nat.le_add_right 4 _
        refine Nat.le_trans (Node.height_add_le (b := 4 * limit + n.itemRoom + extra) (by omega) ?_)
          (by rw [hraises]; omega)
        simpa only [Node.children, List.forall_mem_singleton] using hn
      refine ⟨low_of_closed hopen hdepth ⟨?_, ?_⟩ (h.frames.mono hmore), ?_, ?_⟩
      · exact (h.level.mono hmore).done
      · exact List.forall_mem_cons.mpr ⟨hrepeat, fun m hm =>
          (h.level.mono hmore).items m (by simp [hi, hm])⟩
      · exact fun _ _ _ _ => hcount
      · rw [Token.parens, hk]
        exact (Int.add_zero _).symm
  | branch hk _ =>
      refine ⟨?_, behind_of_nil rfl, ?_⟩
      · exact State.Low.mono
          (low_of_closed hopen hdepth (h.level.nextBranch hdepth) h.frames) hmore
      · rw [Token.parens, hk]
        exact (Int.add_zero _).symm
  | @enter construct inner warnings ho hn =>
      refine ⟨?_, behind_of_nil rfl, ?_⟩
      · refine State.Low.mono (low_of_closed hopen ?_ Level.low_new ⟨h.level, ?_, h.frames⟩) hmore
        · show construct.parens + st.depth ≤ limit
          omega
        · simp [Opens.tests ho]
      · rw [parens_of_opens ho]
        show ((construct.parens + st.depth : Nat) : Int) = st.depth + construct.parens
        omega
  | @leave f frames n captures hk hf hc =>
      obtain ⟨hheight, hroom, hparens⟩ := hc.height_le hf h
      have hframes := h.frames
      rw [hf] at hframes
      have hdepth' : st.depth = f.construct.parens + parensOf frames := by
        rw [State.depth, hf]
        rfl
      refine ⟨?_, behind_of_last (by rintro _ ⟨⟩; exact hroom), ?_⟩
      · refine State.Low.mono
          (low_of_closed hopen ?_ (Level.Low.push hframes.1 hheight) hframes.2.2) hmore
        show parensOf frames ≤ limit
        omega
      · rw [Token.parens, hk]
        show (parensOf frames : Int) = st.depth + -1
        omega
  | @test f frames look hk hf hc =>
      have hframes := h.frames
      rw [hf] at hframes
      have hdepth' : st.depth = 2 + parensOf frames := by
        rw [State.depth, hf, List.foldr_cons, hc]
        rfl
      have hnode := h.level.node hdepth
      refine ⟨?_, behind_of_nil rfl, ?_⟩
      · refine State.Low.mono
          (low_of_closed hopen ?_ Level.low_new ⟨hframes.1, ?_, hframes.2.2⟩) hmore
        · show 1 + parensOf frames ≤ limit
          omega
        · intro c hc
          obtain rfl := List.mem_singleton.mp hc
          refine Nat.le_trans (Node.height_add_le (b := 4 * limit + 1 + extra) (by omega) ?_)
            (by omega)
          simp only [Node.children, List.forall_mem_singleton]
          omega
      · rw [Token.parens, hk]
        show ((1 + parensOf frames : Nat) : Int) = st.depth + -1
        omega
  | startClass hk =>
      refine ⟨State.Low.mono ⟨hdepth, h.level, h.frames, fun c hc => ?_⟩ hmore, behind_of_open rfl,
        by rw [Token.parens, hk]; exact (Int.add_zero _).symm⟩
      obtain rfl := Option.mem_some.mp hc
      exact OpenClass.low_new
  | finish hk _ => exact absurd hk heof

end State

namespace OpenClass

variable {c : OpenClass} {t : Token}

theorem ClassMove.parens {r : ClassStep} (hm : ClassMove c t r) : t.parens = 0 := by
  have hmember : ∀ {caseless : Bool} {a : Atom}, MemberOf caseless t.kind a → t.parens = 0 := by
    intro caseless a ha
    unfold Token.parens
    generalize t.kind = k at ha
    cases ha <;> rfl
  cases hm with
  | close hk => rw [Token.parens, hk]
  | operate ho =>
      unfold Token.parens
      generalize t.kind = k at ho
      cases ho <;> rfl
  | hold ha => exact hmember ha
  | hyphen _ hk => rw [Token.parens, hk]
  | range _ hb => exact hmember hb

end OpenClass

variable {extra : Nat} {behindCount : Bool}

/-- Every step keeps a state low, and only parentheses open more of them. -/
theorem step_low (hs : step s st t next = .ok st') (heof : t.kind ≠ .eof)
    (h : st.Low s.nestLimit extra) (hbehind : st.Behind behindCount) :
    st'.Low s.nestLimit (extra + (t.raises behindCount).toNat) ∧ st'.Behind t.isCount ∧
      (st'.depth : Int) = st.depth + t.parens := by
  have hmore : extra ≤ extra + (t.raises behindCount).toNat := Nat.le_add_right ..
  rcases step_move hs with ⟨hopen, hm⟩ | ⟨c, c', hopen, hm, rfl⟩ | ⟨c, n, hopen, hm, rfl⟩
  · exact hm.low hopen h hbehind heof
  · refine ⟨⟨h.depth, h.level.mono hmore, h.frames.mono hmore, fun d hd => ?_⟩,
      State.behind_of_open rfl, ?_⟩
    · obtain rfl := Option.mem_some.mp hd
      exact hm.low (h.members c hopen) behindCount
    · rw [hm.parens, Int.add_zero]
      rfl
  · obtain ⟨hheight, hroom⟩ := hm.height_le (h.members c hopen)
    have hdepth := h.depth
    refine ⟨?_, State.behind_of_last (by rintro _ ⟨⟩; exact hroom), ?_⟩
    · refine State.Low.mono
        (State.low_of_closed rfl hdepth (Level.Low.push h.level ?_) h.frames) hmore
      show n.height + 4 * st.depth ≤ 4 * s.nestLimit + n.itemRoom + extra
      omega
    · rw [hm.parens, Int.add_zero]
      rfl

variable {ctx : Token.Context} {cs : List Char} {ts : List Token}

/-- What has been read when all tokens are taken is no higher than these raise it. -/
theorem run_low (hl : Token.Laid ctx cs next ts) (h : st.Low s.nestLimit extra)
    (hbehind : st.Behind behindCount) (hr : run s st ts = .ok st') :
    st'.Low s.nestLimit (extra + Token.raising behindCount ts) ∧ st'.frames = [] := by
  induction hl generalizing st extra behindCount with
  | done =>
      obtain ⟨mid, hs, hrest⟩ := run_cons.mp hr
      obtain ⟨rfl, hf, -⟩ := step_eof hs
      cases Except.ok.inj hrest
      exact ⟨h, hf⟩
  | token ht _ _ ih =>
      obtain ⟨mid, hs, hrest⟩ := run_cons.mp hr
      obtain ⟨m, hlexeme⟩ := ht.lexeme
      obtain ⟨hlow, hbehind', -⟩ := step_low hs (Token.Lexeme.ne_eof hlexeme) h hbehind
      rw [Token.raising, ← Nat.add_assoc]
      exact ih hlow hbehind' hrest

/-- Tokens that are refused for nesting start with some that open more parentheses than may be
open. -/
theorem exists_lt_of_run (hl : Token.Laid ctx cs next ts) (h : st.Low s.nestLimit extra)
    (hbehind : st.Behind behindCount) (hr : run s st ts = .error l)
    (hnesting : l.fault.isNesting = true) :
    ∃ before, before <+: ts ∧ (s.nestLimit : Int) < st.depth + Token.openParens before := by
  induction hl generalizing st extra behindCount with
  | done =>
      rcases run_cons_error.mp hr with hs | ⟨mid, -, hrest⟩
      · exact ⟨[], List.nil_prefix, lt_of_step hs hnesting⟩
      · cases hrest
  | @token t next ts ht _ _ ih =>
      rcases run_cons_error.mp hr with hs | ⟨mid, hs, hrest⟩
      · refine ⟨[t], List.prefix_append [t] ts, ?_⟩
        have := lt_of_step hs hnesting
        simpa [Token.openParens] using this
      · obtain ⟨m, hlexeme⟩ := ht.lexeme
        obtain ⟨hlow, hbehind', hdepth⟩ := step_low hs (Token.Lexeme.ne_eof hlexeme) h hbehind
        obtain ⟨before, hbefore, hlt⟩ := ih hlow hbehind' hrest
        refine ⟨t :: before, List.cons_prefix_cons.mpr ⟨rfl, hbefore⟩, ?_⟩
        simp only [Token.openParens, List.map_cons, List.sum_cons] at hlt ⊢
        omega

theorem low_initial (limit : Nat) (flags : Flags) (ts : List Token) :
    (initial flags ts).Low limit 0 ∧ (initial flags ts).Behind false :=
  ⟨State.low_of_closed rfl (Nat.zero_le _) Level.low_new trivial,
    State.behind_of_nil rfl⟩

end Parse

/-! ### Patterns -/

namespace Node

/-- The first fault of a tree is one of nesting only if the tree is too high. -/
theorem lt_height_of_firstFault {s : ParserSettings} {t : GroupTable} {root : Node} {l : Located}
    (h : root.firstFault? s t = some l) (hnesting : l.fault.isNesting = true) :
    s.treeLimit < root.height := by
  by_contra hle
  have hnone := firstBelow_eq_none_iff.mpr (Nat.not_lt.mp hle)
  simp only [firstFault?, hnone] at h
  obtain ⟨n, -, hn⟩ := List.exists_of_findSome?_eq_some h
  obtain ⟨f, hf, rfl⟩ := Option.map_eq_some_iff.mp hn
  rw [Fault.isNesting_of_isPlain (isPlain_ownFault hf)] at hnesting
  cases hnesting

end Node

namespace Pattern

variable {s : ParserSettings} {body : String} {flags : Flags} {ts : List Token} {st : Parse.State}

/-- A tree is at most four times as high as the parentheses that may be open, but for a constant and
for the tokens that raise it. -/
theorem tokenized_height_le (ht : tokenize body flags s.dialect = .ok ts)
    (hr : Parse.run s (Parse.initial flags ts) ts = .ok st) :
    st.level.node.height ≤ 4 * s.nestLimit + 6 + Token.raising false ts := by
  obtain ⟨next, hl⟩ := tokenize_laid ht
  obtain ⟨hinitial, hbehind⟩ := Parse.low_initial s.nestLimit flags ts
  obtain ⟨hlow, hframes⟩ := Parse.run_low hl hinitial hbehind hr
  have hnode := hlow.level.node hlow.depth
  omega

/-- A tree is no higher than the text is long, but for its root. -/
theorem tokenized_height_le_size (ht : tokenize body flags s.dialect = .ok ts)
    (hr : Parse.run s (Parse.initial flags ts) ts = .ok st) :
    st.level.node.height ≤ body.utf8ByteSize + 1 := by
  have hplaced := tokenized_placed ht hr
  have hheight := Node.height_le_of_solid hplaced (tokenized_solid ht hr)
  have hstop := hplaced.root.stop.le_size
  have hsize := Text.utf8ByteSize_eq body
  omega

/-- A body that is refused for nesting has tokens, which are refused for that or make a tree that is
too high. -/
theorem parseWith_nesting {delimiter : Char} {e : PatternError}
    (h : parseWith s delimiter flags body = .error e) (hnesting : e.fault.isNesting = true) :
    ∃ ts, tokenize body flags s.dialect = .ok ts ∧
      ((∃ l, Parse.run s (Parse.initial flags ts) ts = .error l ∧ l.fault.isNesting = true) ∨
        ∃ st, Parse.run s (Parse.initial flags ts) ts = .ok st ∧
          s.treeLimit < st.level.node.height) := by
  rcases parseWith_error_cases h with ⟨fault, -, rfl⟩ | ⟨ts, ht, ⟨l, hr, rfl⟩ | ⟨st, l, hr, hl, rfl⟩⟩
  · rw [PatternError.inText, Fault.isNesting_of_isPlain (Fault.isPlain_scan _)] at hnesting
    cases hnesting
  · exact ⟨ts, ht, .inl ⟨l, hr, hnesting⟩⟩
  · exact ⟨ts, ht, .inr ⟨st, hr, Node.lt_height_of_firstFault hl hnesting⟩⟩

/-- Errors about nesting are about parentheses, but for trees that other tokens have raised. If a
body is refused as nested too deeply, then its tokens start with some that open more parentheses than
may be open, or more than ten of them put a level on top of what is before them and open nothing.
(A text as long as the highest count there is may be refused as well.) -/
theorem parseBody_nestingTooDeep {modifiers : String} {delimiter : Char} {e : PatternError}
    (h : parseBody s body modifiers delimiter = .error e) (hkind : e.fault.kind = .nestingTooDeep) :
    ∃ flags ts, Flags.ofModifiers modifiers = .ok flags ∧ tokenize body flags s.dialect = .ok ts ∧
      ((∃ before, before <+: ts ∧ (s.nestLimit : Int) < Token.openParens before) ∨
        10 < Token.raising false ts ∨ maxCount ≤ body.utf8ByteSize) := by
  unfold parseBody at h
  split at h
  · cases h
    cases hkind
  · next flags hflags =>
      have hnesting : e.fault.isNesting = true := by
        rw [Fault.isNesting, hkind]
        rfl
      obtain ⟨ts, ht, hcause⟩ := parseWith_nesting h hnesting
      refine ⟨flags, ts, hflags, ht, ?_⟩
      rcases hcause with ⟨l, hr, hl⟩ | ⟨st, hr, hhigh⟩
      · obtain ⟨next, hlaid⟩ := tokenize_laid ht
        obtain ⟨hlow, hbehind⟩ := Parse.low_initial s.nestLimit flags ts
        obtain ⟨before, hbefore, hlt⟩ := Parse.exists_lt_of_run hlaid hlow hbehind hr hl
        rw [show (Parse.initial flags ts).depth = 0 from rfl, Int.natCast_zero, Int.zero_add] at hlt
        exact .inl ⟨before, hbefore, hlt⟩
      · have hheight := tokenized_height_le ht hr
        have hsize := tokenized_height_le_size ht hr
        simp only [ParserSettings.treeLimit, satAdd, satMul] at hhigh
        omega

theorem parseBody_nestingTooDeep_groups :
    ∃ e, parseBody { nestLimit := 1 } "((a))" "" '/' = .error e ∧ e.fault.kind = .nestingTooDeep ∧
      ∃ flags ts, Flags.ofModifiers "" = .ok flags ∧ tokenize "((a))" flags .pcre43 = .ok ts ∧
        ((∃ before, before <+: ts ∧ ((1 : Nat) : Int) < Token.openParens before) ∨
          10 < Token.raising false ts ∨ maxCount ≤ "((a))".utf8ByteSize) := by
  have h : parseBody { nestLimit := 1 } "((a))" "" '/' =
      .error (.inText "((a))" 1 (.nestingLimit 1)) := by cbv
  exact ⟨_, h, rfl, parseBody_nestingTooDeep h rfl⟩

/-- Where no parentheses may be open, counts behind counts are refused for nesting, though none of
the tokens opens a parenthesis. -/
theorem nestingTooDeep_without_parens :
    ∃ e flags ts,
      parseBody { nestLimit := 0 } "a{1}{1}{1}{1}{1}{1}{1}{1}{1}{1}{1}{1}{1}{1}{1}{1}" "" '/' =
        .error e ∧ e.fault.kind = .nestingTooDeep ∧ Flags.ofModifiers "" = .ok flags ∧
      tokenize "a{1}{1}{1}{1}{1}{1}{1}{1}{1}{1}{1}{1}{1}{1}{1}{1}" flags .pcre43 = .ok ts ∧
      ∀ before, before <+: ts → ¬ (0 : Int) < Token.openParens before := by
  have h : parseBody { nestLimit := 0 } "a{1}{1}{1}{1}{1}{1}{1}{1}{1}{1}{1}{1}{1}{1}{1}{1}" "" '/' =
      .error (.inText "a{1}{1}{1}{1}{1}{1}{1}{1}{1}{1}{1}{1}{1}{1}{1}{1}" 0 (.treeTooDeep 16)) := by
    cbv
  have hparens : (tokenize "a{1}{1}{1}{1}{1}{1}{1}{1}{1}{1}{1}{1}{1}{1}{1}{1}"
      (Flags.ofKnownModifiers "") .pcre43).map (fun ts => ts.all fun t => t.parens == 0) =
      .ok true := by cbv
  obtain ⟨ts, ht, hall⟩ := exists_of_map hparens
  refine ⟨_, _, ts, h, rfl, rfl, ht, fun before hbefore => ?_⟩
  have hzero : Token.openParens before = 0 := by
    refine List.sum_eq_zero fun k hk => ?_
    obtain ⟨t, ht, rfl⟩ := List.mem_map.mp hk
    exact beq_iff_eq.mp (List.all_eq_true.mp hall t (hbefore.subset ht))
  omega

end Pattern

end PatternLint
