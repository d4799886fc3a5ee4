import Mathlib
import PatternLint.Proofs.Parse.Move
import PatternLint.Proofs.Tree

/-!
# Where nodes stand

Spans are computed in many places: from a token, from the first and the last item
of a branch, from the operands of a set operation, by counting bytes behind an
octal number. All of them fall out of one picture. `Row` says that nodes stand
one after another between two offsets, and a node is well placed if its children
are a row within it. While a pattern is read, the branches and items of every
open level are rows, the last one up to where the next token starts; closing a
level makes a node of a row, and nothing has to be moved.
-/

namespace PatternLint

open Token (Boundary Placed)

/-- A node whose ends are places of the text, with its children inside it and in order. -/
structure WellPlaced (cs : List Char) (n : Node) : Prop where
  le : n.start ≤ n.stop
  start : Boundary cs n.start
  stop : Boundary cs n.stop
  within : ∀ c ∈ n.children, n.span.contains c.span = true
  ordered : n.children.Pairwise fun a b => a.stop ≤ b.start

/-- A tree whose nodes are all well placed. -/
def AllPlaced (cs : List Char) (n : Node) : Prop := ∀ m ∈ n.preorder, WellPlaced cs m

theorem allPlaced_iff {cs : List Char} {n : Node} :
    AllPlaced cs n ↔ WellPlaced cs n ∧ ∀ c ∈ n.children, AllPlaced cs c :=
  Node.forall_preorder_iff

theorem AllPlaced.root {cs : List Char} {n : Node} (h : AllPlaced cs n) : WellPlaced cs n :=
  h n n.self_mem_preorder

/-! ### Rows -/

/-- Trees one after another, from one offset up to another. -/
def Row (cs : List Char) : Nat → List Node → Nat → Prop
  | a, [], b => a ≤ b
  | a, n :: ns, b => a ≤ n.start ∧ AllPlaced cs n ∧ Row cs n.stop ns b

section Row

variable {cs : List Char} {a b c : Nat} {n m : Node} {ns ms : List Node}

theorem Row.le (h : Row cs a ns b) : a ≤ b := by
  induction ns generalizing a with
  | nil => exact h
  | cons n ns ih => exact Nat.le_trans h.1 (Nat.le_trans h.2.1.root.le (ih h.2.2))

theorem row_append : Row cs a (ns ++ ms) c ↔ ∃ b, Row cs a ns b ∧ Row cs b ms c := by
  induction ns generalizing a with
  | nil =>
      constructor
      · intro h
        exact ⟨a, Nat.le_refl _, h⟩
      · rintro ⟨b, hab, h⟩
        cases ms with
        | nil => exact Nat.le_trans hab h
        | cons m ms => exact ⟨Nat.le_trans hab h.1, h.2⟩
  | cons n ns ih =>
      simp only [List.cons_append, Row, ih]
      constructor
      · rintro ⟨hle, hn, b, hns, hms⟩
        exact ⟨b, ⟨hle, hn, hns⟩, hms⟩
      · rintro ⟨b, ⟨hle, hn, hns⟩, hms⟩
        exact ⟨hle, hn, b, hns, hms⟩

theorem Row.append (h : Row cs a ns b) (h' : Row cs b ms c) : Row cs a (ns ++ ms) c :=
  row_append.mpr ⟨b, h, h'⟩

/-- A row has room on both sides. -/
theorem Row.widen (h : Row cs a ns b) {a' b' : Nat} (ha : a' ≤ a) (hb : b ≤ b') :
    Row cs a' ns b' := by
  have hl : Row cs a' [] a := ha
  have hr : Row cs b [] b' := hb
  simpa using (hl.append h).append hr

theorem row_snoc : Row cs a (ns ++ [n]) b ↔ Row cs a ns n.start ∧ AllPlaced cs n ∧ n.stop ≤ b := by
  rw [row_append]
  constructor
  · rintro ⟨c, hns, hle, hn, hb⟩
    exact ⟨hns.widen (Nat.le_refl _) hle, hn, hb⟩
  · rintro ⟨hns, hn, hb⟩
    exact ⟨n.start, hns, Nat.le_refl _, hn, hb⟩

theorem Row.allPlaced (h : Row cs a ns b) (hm : m ∈ ns) : AllPlaced cs m := by
  induction ns generalizing a with
  | nil => cases hm
  | cons n ns ih =>
      rcases List.mem_cons.mp hm with rfl | hm
      · exact h.2.1
      · exact ih h.2.2 hm

theorem Row.mem_bounds (h : Row cs a ns b) (hm : m ∈ ns) : a ≤ m.start ∧ m.stop ≤ b := by
  obtain ⟨before, after, rfl⟩ := List.append_of_mem hm
  obtain ⟨c, hbefore, hle, -, hafter⟩ := row_append.mp h
  exact ⟨Nat.le_trans hbefore.le hle, hafter.le⟩

theorem Row.pairwise (h : Row cs a ns b) : ns.Pairwise fun x y => x.stop ≤ y.start := by
  induction ns generalizing a with
  | nil => exact .nil
  | cons n ns ih => exact .cons (fun m hm => (h.2.2.mem_bounds hm).1) (ih h.2.2)

/-- A row ends where its last tree ends. -/
theorem row_tight_right (h : Row cs a (ns ++ [n]) b) : Row cs a (ns ++ [n]) n.stop := by
  obtain ⟨hns, hn, -⟩ := row_snoc.mp h
  exact row_snoc.mpr ⟨hns, hn, Nat.le_refl _⟩

/-- A node is well placed if its ends are places of the text and its children fill a row. -/
theorem allPlaced_of_row (hs : Boundary cs n.start) (ht : Boundary cs n.stop)
    (h : Row cs n.start n.children n.stop) : AllPlaced cs n := by
  rw [allPlaced_iff]
  refine ⟨⟨h.le, hs, ht, ?_, h.pairwise⟩, fun c hc => h.allPlaced hc⟩
  intro c hc
  obtain ⟨hstart, hstop⟩ := h.mem_bounds hc
  simp only [Span.contains, Bool.and_eq_true, decide_eq_true_eq]
  exact ⟨hstart, hstop⟩

theorem AllPlaced.row (h : AllPlaced cs n) : Row cs n.start [n] n.stop :=
  ⟨Nat.le_refl _, h, Nat.le_refl _⟩

/-- An atom is well placed where its ends are. -/
theorem allPlaced_atom {span : Span} {at' : Atom} (hs : Boundary cs span.start)
    (ht : Boundary cs span.stop) (hle : span.start ≤ span.stop) :
    AllPlaced cs (.atom span at') :=
  allPlaced_of_row hs ht hle

theorem row_atom (hs : Boundary cs a) (ht : Boundary cs b) (hle : a ≤ b) (hc : b ≤ c)
    (at' : Atom) : Row cs a [.atom ⟨a, b⟩ at'] c :=
  ⟨Nat.le_refl _, allPlaced_atom hs ht hle, hc⟩

end Row

/-! ### Levels -/

namespace Parse

/-- A level whose branches and items are rows, the items up to `next`. -/
structure Level.Placed (cs : List Char) (l : Level) (next : Nat) : Prop where
  start : Boundary cs l.start
  branchStart : Boundary cs l.branchStart
  done : Row cs l.start l.done.reverse l.branchStart
  items : Row cs l.branchStart l.items.reverse next

namespace Level

variable {cs : List Char} {l : Level} {next next' captures : Nat} {n : Node}

theorem placed_new (h : Boundary cs next) : (Level.new next captures).Placed cs next :=
  ⟨h, h, Nat.le_refl _, Nat.le_refl _⟩

theorem Placed.push (h : l.Placed cs next) (hn : Row cs next [n] next') :
    (l.push n).Placed cs next' := by
  refine ⟨h.start, h.branchStart, h.done, ?_⟩
  simpa only [Level.push, List.reverse_cons] using h.items.append hn

/-- The current branch is a tree between its start and the next token. -/
theorem Placed.branch (h : l.Placed cs next) : Row cs l.branchStart [l.branch] next := by
  have hitems := h.items
  unfold Level.branch
  split
  · next hi =>
      rw [hi] at hitems
      exact ⟨Nat.le_refl _, allPlaced_atom h.branchStart h.branchStart (Nat.le_refl _), hitems⟩
  · next n hi =>
      rw [hi] at hitems
      exact hitems
  · next last rest hne hi =>
      -- The sequence covers the row from its first item to its last.
      have hrest : rest.reverse ≠ [] := by simpa using hne
      obtain ⟨first, mid, hfirst⟩ := List.ne_nil_iff_exists_cons.mp hrest
      have hlast : rest.getLastD last = first := by
        rw [List.getLastD_eq_getLast?, ← List.head?_reverse, hfirst]
        rfl
      have hrow : l.items.reverse = (first :: mid) ++ [last] := by
        rw [hi, List.reverse_cons, hfirst]
      rw [hrow] at hitems ⊢
      have hlast' := (row_snoc.mp hitems).2
      refine ⟨hlast ▸ hitems.1, allPlaced_of_row ?_ hlast'.1.root.stop ?_, hlast'.2⟩
      · exact hlast ▸ hitems.2.1.root.start
      · show Row cs (rest.getLastD last).start ((first :: mid) ++ [last]) last.stop
        rw [hlast]
        exact ⟨Nat.le_refl _, (row_tight_right hitems).2⟩

/-- All that has been read at a level is a tree between its start and the next token. -/
theorem Placed.node (h : l.Placed cs next) : Row cs l.start [l.node] next := by
  have hbranch := h.branch
  have hall := h.done.append hbranch
  unfold Level.node
  split
  · next hd =>
      rw [hd] at hall
      simpa using hall
  · next hd =>
      have hb := (row_snoc.mp hall).2
      exact ⟨Nat.le_refl _, allPlaced_of_row h.start hb.1.root.stop (row_tight_right hall), hb.2⟩

theorem Placed.nextBranch (h : l.Placed cs next) (hle : next ≤ next') (hb : Boundary cs next')
    {highest : Nat} : Level.Placed cs { l.nextBranch next' with highest } next' := by
  refine ⟨h.start, hb, ?_, Nat.le_refl _⟩
  simpa only [Level.nextBranch, List.reverse_cons] using
    (h.done.append h.branch).widen (Nat.le_refl _) hle

end Level

/-! ### Open parentheses -/

/-- Where the parts of an open construct stand, between its parenthesis and its level. -/
def Construct.Placed (cs : List Char) (offset inner : Nat) : Construct → Prop
  | .group _ | .define => offset ≤ inner
  | .assertion _ => Boundary cs (offset + 2) ∧ offset + 2 ≤ inner
  | .conditional test => Row cs offset (Node.conditionChildren test) inner

/-- Open parentheses, the innermost around a level that starts at `inner`. -/
def FramesPlaced (cs : List Char) : List Frame → Nat → Prop
  | [], _ => True
  | f :: fs, inner =>
    Boundary cs f.offset ∧ f.outer.Placed cs f.offset ∧
      f.construct.Placed cs f.offset inner ∧ FramesPlaced cs fs f.outer.start

/-! ### Open classes -/

/-- An open class whose members are a row up to `next`, behind the left side of the operation that
is pending. -/
structure OpenClass.Placed (cs : List Char) (c : OpenClass) (next : Nat) : Prop where
  offset : Boundary cs c.offset
  row : Row cs c.offset ((c.left.map Prod.fst).toList ++ c.settled.members.reverse) next

namespace OpenClass

variable {cs : List Char} {c : OpenClass} {a b : Nat} {ns : List Node} {left right : Node}

/-- The union of a row of members is a tree in its place. -/
theorem row_unionOf (h : Row cs a ns b) (hb : Boundary cs b) : Row cs a [unionOf ns b] b := by
  unfold unionOf
  split
  · exact ⟨h, allPlaced_atom hb hb (Nat.le_refl _), Nat.le_refl _⟩
  · exact h
  · next m rest hne =>
      obtain ⟨mid, last, hr⟩ := (List.eq_nil_or_concat rest).resolve_left hne
      rw [List.concat_eq_append] at hr
      subst hr
      have hlast := row_snoc.mp (List.cons_append ▸ h : Row cs a ((m :: mid) ++ [last]) b)
      have hm := h.2.1.root.le
      have hbound := h.2.2.mem_bounds (m := last) (by simp)
      have hle := hlast.2.1.root.le
      have hcover : m.span.cover last.span = ⟨m.start, last.stop⟩ := by
        simp only [Span.cover, Span.mk.injEq]
        simp only [Node.start, Node.stop] at *
        omega
      simp only [List.getLastD_concat, hcover]
      refine ⟨h.1, allPlaced_of_row h.2.1.root.start hlast.2.1.root.stop ?_, hlast.2.2⟩
      exact ⟨Nat.le_refl _, h.2.1, row_tight_right h.2.2⟩

theorem row_setOperation {pending : Option (Node × ClassOp)}
    (h : Row cs a ((pending.map Prod.fst).toList ++ [right]) b) :
    Row cs a [setOperation pending right] b := by
  unfold setOperation
  split
  · exact h
  · next l op =>
      have hl : Row cs a [l, right] b := h
      obtain ⟨hle, hleft, hle', hright, hb⟩ := hl
      have h1 := hleft.root.le
      have h2 := hright.root.le
      have hcover : l.span.cover right.span = ⟨l.start, right.stop⟩ := by
        simp only [Span.cover, Span.mk.injEq]
        simp only [Node.start, Node.stop] at *
        omega
      rw [hcover]
      refine ⟨hle, allPlaced_of_row hleft.root.start hright.root.stop ?_, hb⟩
      exact ⟨Nat.le_refl _, hleft, hle', hright, Nat.le_refl _⟩

/-- What has been read of a class, as one tree. -/
theorem Placed.expr (h : c.Placed cs b) (hb : Boundary cs b) :
    Row cs c.offset [setOperation c.settled.left (unionOf c.settled.members.reverse b)] b := by
  rw [settled_left]
  obtain ⟨m, hleft, hmembers⟩ := row_append.mp h.row
  exact row_setOperation (hleft.append (row_unionOf hmembers hb))

variable {ctx : Token.Context} {t : Token} {next : Nat}

/-- The atom of a token stands where the token stands. -/
theorem row_token (ht : Token.Placed ctx cs t) (hle : t.stop ≤ next) (at' : Atom) :
    Row cs t.start [.atom t.span at'] next :=
  row_atom ht.boundary_start ht.boundary_stop ht.start_le_stop hle at'

theorem ClassMove.placed {c' : OpenClass} (hm : ClassMove c t (.more c')) (h : c.Placed cs t.start)
    (ht : Token.Placed ctx cs t) (hle : t.stop ≤ next) : c'.Placed cs next := by
  cases hm with
  | @operate op =>
      have hs : (c.settled.operate op t).settled = c.settled.operate op t :=
        settled_of_none (settled_pending c)
      refine ⟨(settled_offset c).symm ▸ h.offset, ?_⟩
      rw [hs]
      show Row cs c.settled.offset
        [setOperation c.settled.left (unionOf c.settled.members.reverse t.start)] next
      rw [settled_offset]
      exact (h.expr ht.boundary_start).widen (Nat.le_refl _) (Nat.le_trans ht.start_le_stop hle)
  | @hold at' _ =>
      refine ⟨(settled_offset c).symm ▸ h.offset, ?_⟩
      show Row cs c.settled.offset ((c.settled.left.map Prod.fst).toList ++
        (Node.atom t.span at' :: c.settled.members).reverse) next
      simpa using h.row.append (row_token ht hle at')
  | @hyphen m hp =>
      have hrow := h.row.append (row_token ht hle (.literal '-' .verbatim c.caseless))
      rw [settled_of_member hp] at hrow
      refine ⟨h.offset, ?_⟩
      rw [settled_of_hyphen rfl]
      simpa using hrow
  | @range m hy x y form hp =>
      -- The range takes the place of its first end, and the hyphen goes with it.
      have hrow := h.row
      rw [settled_of_hyphen hp] at hrow
      simp only [List.reverse_cons, ← List.append_assoc] at hrow
      obtain ⟨hm, hhy, hend⟩ := row_snoc.mp hrow
      obtain ⟨hbefore, hfirst, hmid⟩ := row_snoc.mp hm
      have h1 := hfirst.root.le
      have h2 := hhy.root.le
      have h3 := ht.start_le_stop
      have hcover : m.span.cover t.span = ⟨m.start, t.stop⟩ := by
        simp only [Span.cover, Span.mk.injEq, Token.span, Node.start, Node.stop] at *
        omega
      have hrange : Row cs m.start [.atom ⟨m.start, t.stop⟩ (.range x y)] next :=
        row_atom hfirst.root.start ht.boundary_stop (by omega) hle _
      refine ⟨h.offset, ?_⟩
      rw [settled_of_none rfl, hcover]
      simpa using hbefore.append hrange

theorem ClassMove.offset_eq {c' : OpenClass} (hm : ClassMove c t (.more c')) :
    c'.offset = c.offset := by
  cases hm <;> first | rfl | exact settled_offset c

/-- The class that a token completes stands from its bracket to that token. -/
theorem ClassMove.row {n : Node} (hm : ClassMove c t (.done n)) (h : c.Placed cs t.start)
    (ht : Token.Placed ctx cs t) (hle : t.stop ≤ next) : Row cs c.offset [n] next := by
  cases hm
  have hexpr := h.expr ht.boundary_start
  rw [OpenClass.close, settled_offset]
  exact ⟨Nat.le_refl _, allPlaced_of_row h.offset ht.boundary_stop
    (hexpr.widen (Nat.le_refl _) ht.start_le_stop), hle⟩

end OpenClass

/-! ### States -/

/-- The state before a token at `next`: its level is a row up to there, or up to the class that is
open. -/
structure State.Placed (cs : List Char) (next : Nat) (st : State) : Prop where
  level : st.level.Placed cs ((st.openClass.map OpenClass.offset).getD next)
  frames : FramesPlaced cs st.frames st.level.start
  members : ∀ c ∈ st.openClass, c.Placed cs next

namespace State

variable {cs : List Char} {ctx : Token.Context} {st st' : State} {t : Token} {next : Nat}

theorem placed_initial (flags : Flags) (h : Boundary cs next) :
    State.Placed cs next { flags, level := .new next 0 } :=
  ⟨Level.placed_new h, trivial, fun _ hc => nomatch hc⟩

/-- Without an open class only the level and the frames matter. -/
theorem placed_of_closed (hc : st.openClass = none) (hl : st.level.Placed cs next)
    (hf : FramesPlaced cs st.frames st.level.start) : st.Placed cs next := by
  refine ⟨by simpa [hc] using hl, hf, ?_⟩
  rw [hc]
  exact fun _ hc => nomatch hc

theorem Placed.widen (h : st.Placed cs next) (hc : st.openClass = none) {next' : Nat}
    (hle : next ≤ next') : st.Placed cs next' := by
  have hl : st.level.Placed cs next := by simpa [hc] using h.level
  exact placed_of_closed hc
    ⟨hl.start, hl.branchStart, hl.done, hl.items.widen (Nat.le_refl _) hle⟩ h.frames

theorem pushDigits_placed {offset : Nat} {digits : List Char} (h : st.Placed cs offset)
    (hc : st.openClass = none)
    (hd : ∀ o, offset ≤ o → o ≤ offset + digits.length → Boundary cs o) :
    (st.pushDigits offset digits).Placed cs (offset + digits.length) := by
  induction digits generalizing st offset with
  | nil => exact h
  | cons d digits ih =>
      have hlen : (d :: digits).length = digits.length + 1 := rfl
      have hl : st.level.Placed cs offset := by simpa [hc] using h.level
      have hatom : Row cs offset
          [.atom ⟨offset, offset + 1⟩ (.literal d .verbatim st.caseless)] (offset + 1) :=
        row_atom (hd _ (Nat.le_refl _) (by omega)) (hd _ (by omega) (by omega)) (by omega)
          (Nat.le_refl _) _
      have hfirst : (st.pushAtom ⟨offset, offset + 1⟩ (.literal d .verbatim st.caseless)).Placed cs
          (offset + 1) := placed_of_closed hc (hl.push hatom) h.frames
      have hrest := ih hfirst hc fun o h1 h2 => hd o (by omega) (by omega)
      rw [hlen, show offset + (digits.length + 1) = offset + 1 + digits.length by omega]
      exact hrest

theorem pushDigits_openClass (offset : Nat) (digits : List Char) :
    (st.pushDigits offset digits).openClass = st.openClass := by
  induction digits generalizing st offset with
  | nil => rfl
  | cons d digits ih => exact ih ..

/-- Every offset inside a number behind a backslash is a place of the text. -/
theorem boundary_numericEscape {n : Nat} (ht : Token.Placed ctx cs t)
    (hk : t.kind = .numericEscape n) :
    (t.text.drop 1).length + 1 + t.start = t.stop ∧
      ∀ o, t.start ≤ o → o ≤ t.stop → Boundary cs o := by
  obtain ⟨m, hlex⟩ := ht.lexeme
  have hdigits : ∃ digits, t.text = '\\' :: digits ∧ digits.all Unicode.isAsciiDigit = true := by
    rw [hk] at hlex
    unfold Token.Lexeme at hlex
    split at hlex
    · simp at hlex
    · split at hlex
      · obtain ⟨digits, htext, -, hall, -⟩ := hlex
        exact ⟨digits, htext, hall⟩
      · exact hlex.elim
  obtain ⟨digits, htext, hall⟩ := hdigits
  have hone : ∀ c ∈ t.text, c.utf8Size = 1 := by
    rw [htext]
    intro c hc
    rcases List.mem_cons.mp hc with rfl | hc
    · rfl
    · have hdigit := List.all_eq_true.mp hall c hc
      simp only [Unicode.isAsciiDigit, decide_eq_true_eq] at hdigit
      exact Char.utf8Size_eq_one_iff.mpr (UInt32.le_trans hdigit.2 (by decide))
  have hsize : ∀ word : List Char, (∀ c ∈ word, c.utf8Size = 1) → Text.size word = word.length := by
    intro word hw
    induction word with
    | nil => rfl
    | cons c word ih =>
        rw [Text.size_cons, hw c (by simp), ih fun d hd => hw d (by simp [hd]), List.length_cons]
        omega
  have hstop := ht.stop
  rw [hsize t.text hone] at hstop
  refine ⟨by simp [hstop, htext]; omega, ?_⟩
  intro o h1 h2
  have hword := ht.boundary_add (List.take_prefix (o - t.start) t.text)
  rw [hsize _ fun c hc => hone c (List.mem_of_mem_take hc), List.length_take] at hword
  rwa [show t.start + min (o - t.start) t.text.length = o by omega] at hword

/-- Behind the parenthesis and the question mark of a conditional stands another parenthesis. -/
theorem boundary_assertion {test : ConditionToken} (ht : Token.Placed ctx cs t)
    (hk : t.kind = .conditionOpen test) : Boundary cs (t.start + 2) ∧ t.start + 2 ≤ t.stop := by
  obtain ⟨m, hlex⟩ := ht.lexeme
  have hopen : ['(', '?', '('] <+: t.text := by
    rw [hk] at hlex
    unfold Token.Lexeme at hlex
    split at hlex
    · simp at hlex
    · split at hlex
      · exact hlex.1
      · exact hlex.elim
  obtain ⟨more, hmore⟩ := hopen
  have hquestion : ['(', '?'] <+: t.text := ⟨'(' :: more, hmore⟩
  refine ⟨ht.boundary_add hquestion, ?_⟩
  rw [ht.stop, ← hmore]
  have h2 : Text.size ['(', '?', '('] = 3 := by decide
  rw [Text.size_append, h2]
  omega

theorem opens_placed {e inner : Env} {construct : Construct}
    (ho : Opens e t.kind construct inner) (ht : Token.Placed ctx cs t) (hle : t.stop ≤ next) :
    construct.Placed cs t.start next := by
  have hnext : t.start ≤ next := Nat.le_trans ht.start_le_stop hle
  generalize hk : t.kind = k at ho
  cases ho with
  | assertion look =>
      have hb := boundary_assertion ht hk
      exact ⟨hb.1, Nat.le_trans hb.2 hle⟩
  | _ => exact hnext

/-- Whatever is closed, its children fill the row between its two parentheses. -/
theorem Closes.row_children {f : Frame} {frames : List Frame} {n : Node} {captures : Nat}
    (hc : Closes st t f n captures) (hf : FramesPlaced cs (f :: frames) st.level.start)
    (hl : st.level.Placed cs t.start) :
    n.span = ⟨f.offset, t.stop⟩ ∧ Row cs f.offset n.children t.start := by
  obtain ⟨-, -, hconstruct, -⟩ := hf
  cases hc with
  | group hk =>
      rw [hk] at hconstruct
      exact ⟨rfl, hl.node.widen hconstruct (Nat.le_refl _)⟩
  | define hk hd =>
      rw [hk] at hconstruct
      exact ⟨rfl, hl.node.widen hconstruct (Nat.le_refl _)⟩
  | @single test hk hd =>
      rw [hk] at hconstruct
      have hbranch : Row cs st.level.start [st.level.branch] t.start := by
        simpa [Level.node, hd] using hl.node
      exact ⟨rfl, hconstruct.append hbranch⟩
  | @double test yes more hk hd =>
      rw [hk] at hconstruct
      have hdone := hl.done
      rw [hd, List.reverse_cons] at hdone
      obtain ⟨hmore, hyes, hend⟩ := row_snoc.mp hdone
      have hyes' : Row cs st.level.start [yes] st.level.branchStart := ⟨hmore.le, hyes, hend⟩
      exact ⟨rfl, hconstruct.append (hyes'.append hl.branch)⟩

theorem Closes.placed {f : Frame} {frames : List Frame} {n : Node} {captures : Nat}
    (hc : Closes st t f n captures) (hf : FramesPlaced cs (f :: frames) st.level.start)
    (hl : st.level.Placed cs t.start) (ht : Token.Placed ctx cs t) (hle : t.stop ≤ next) :
    Row cs f.offset [n] next := by
  obtain ⟨hspan, hrow⟩ := hc.row_children hf hl
  have hstart : n.start = f.offset := by rw [Node.start, hspan]
  have hstop : n.stop = t.stop := by rw [Node.stop, hspan]
  refine ⟨Nat.le_of_eq hstart.symm, allPlaced_of_row ?_ ?_ ?_, hstop ▸ hle⟩
  · exact hstart ▸ hf.1
  · exact hstop ▸ ht.boundary_stop
  · rw [hstart, hstop]
    exact hrow.widen (Nat.le_refl _) ht.start_le_stop

theorem Move.placed {limit : Nat} (hm : Move limit st t next st') (hopen : st.openClass = none)
    (h : st.Placed cs t.start) (ht : Token.Placed ctx cs t) (hle : t.stop ≤ next)
    (hb : Boundary cs next) : st'.Placed cs next := by
  have hl : st.level.Placed cs t.start := by simpa [hopen] using h.level
  have hnext : t.start ≤ next := Nat.le_trans ht.start_le_stop hle
  cases hm with
  | atom _ => exact placed_of_closed hopen (hl.push (OpenClass.row_token ht hle _)) h.frames
  | @octal n octal digits hk htext =>
      obtain ⟨hstop, hin⟩ := boundary_numericEscape ht hk
      rw [htext, List.length_append] at hstop
      have hfirst : ∀ a : Atom, (st.pushAtom ⟨t.start, t.start + 1 + octal.length⟩ a).Placed cs
          (t.start + 1 + octal.length) := by
        intro a
        refine placed_of_closed hopen (hl.push ?_) h.frames
        exact row_atom ht.boundary_start (hin _ (by omega) (by omega)) (by omega) (Nat.le_refl _) a
      have hall : ∀ a : Atom, (State.pushDigits (st.pushAtom _ a) (t.start + 1 + octal.length)
          digits).Placed cs (t.start + 1 + octal.length + digits.length) := fun a =>
        pushDigits_placed (hfirst a) hopen fun o h1 h2 => hin o (by omega) (by omega)
      exact (hall _).widen ((pushDigits_openClass _ _).trans hopen) (by omega)
  | @again count n items hk hi =>
      have hitems := hl.items
      rw [hi, List.reverse_cons] at hitems
      obtain ⟨hbefore, hn, hend⟩ := row_snoc.mp hitems
      have hrepeat : Row cs n.start [.quantifier ⟨n.start, t.stop⟩ count n] next := by
        refine ⟨Nat.le_refl _, allPlaced_of_row hn.root.start ht.boundary_stop ?_, hle⟩
        exact ⟨Nat.le_refl _, hn, Nat.le_trans hend ht.start_le_stop⟩
      refine placed_of_closed hopen ⟨hl.start, hl.branchStart, hl.done, ?_⟩ h.frames
      simpa only [List.reverse_cons] using hbefore.append hrepeat
  | branch _ _ => exact placed_of_closed hopen (hl.nextBranch hnext hb) h.frames
  | enter ho hn =>
      exact placed_of_closed hopen (Level.placed_new hb)
        ⟨ht.boundary_start, hl, opens_placed ho ht hle, h.frames⟩
  | leave hk hf hc =>
      have hframes := h.frames
      rw [hf] at hframes
      exact placed_of_closed hopen (hframes.2.1.push (hc.placed hframes hl ht hle)) hframes.2.2.2
  | @test f frames look hk hf hc =>
      have hframes := h.frames
      rw [hf] at hframes
      obtain ⟨hoffset, houter, hconstruct, hrest⟩ := hframes
      rw [hc] at hconstruct
      refine placed_of_closed hopen (Level.placed_new hb) ⟨hoffset, houter, ?_, hrest⟩
      have hbody := hl.node.widen hconstruct.2 ht.start_le_stop
      exact ⟨by simp [Node.start, Node.span], allPlaced_of_row hconstruct.1 ht.boundary_stop hbody, hle⟩
  | startClass hk =>
      refine ⟨hl, h.frames, ?_⟩
      intro c hc
      cases hc
      exact ⟨ht.boundary_start, hnext⟩
  | finish hk hf => exact h.widen hopen hnext

end State

/-- Every step keeps all that has been read in place. -/
theorem step_placed {s : ParserSettings} {cs : List Char} {ctx : Token.Context} {st st' : State}
    {t : Token} {next : Nat} (ht : Token.Placed ctx cs t) (hle : t.stop ≤ next)
    (hb : Boundary cs next) (h : st.Placed cs t.start) (hs : step s st t next = .ok st') :
    st'.Placed cs next := by
  rcases step_move hs with ⟨hopen, hm⟩ | ⟨c, c', hopen, hm, rfl⟩ | ⟨c, n, hopen, hm, rfl⟩
  · exact hm.placed hopen h ht hle hb
  · have hc := h.members c hopen
    have hl : st.level.Placed cs c.offset := by simpa [hopen] using h.level
    refine ⟨by simpa [hm.offset_eq] using hl, h.frames, ?_⟩
    intro d hd
    cases hd
    exact hm.placed hc ht hle
  · have hc := h.members c hopen
    have hl : st.level.Placed cs c.offset := by simpa [hopen] using h.level
    exact State.placed_of_closed rfl (hl.push (hm.row hc ht hle)) h.frames

end Parse

/-! ### Patterns -/

open Parse in
/-- All nodes of the tree that the parser comes to are well placed in the text. -/
theorem Pattern.tokenized_placed {s : ParserSettings} {flags : Flags} {body : String}
    {ts : List Token} {st : Parse.State} (ht : tokenize body flags s.dialect = .ok ts)
    (hr : Parse.run s (Parse.initial flags ts) ts = .ok st) :
    AllPlaced body.toList st.level.node := by
  obtain ⟨hst, -, hopen⟩ :=
    Pattern.tokenized_invariant (fun _ hb => State.placed_initial flags hb) step_placed ht hr
  have hl : st.level.Placed body.toList (Text.size body.toList) := by
    simpa [hopen] using hst.level
  exact hl.node.2.1

/-- All nodes of a pattern are well placed in its text. -/
theorem Pattern.parseWith_placed {s : ParserSettings} {delimiter : Char} {flags : Flags}
    {body : String} {p : Pattern} (h : Pattern.parseWith s delimiter flags body = .ok p) :
    AllPlaced body.toList p.root := by
  obtain ⟨ts, st, ht, hr, rfl, -⟩ := parseWith_ok h
  exact tokenized_placed ht hr

/-- In a well placed tree all nodes start and stop within the root. -/
theorem AllPlaced.bounds {cs : List Char} {n m : Node} (h : AllPlaced cs n) (hm : m ∈ n.preorder) :
    n.start ≤ m.start ∧ m.stop ≤ n.stop := by
  induction n using Node.children_induction with
  | h n ih =>
      rcases Node.mem_preorder.mp hm with rfl | ⟨c, hc, hm⟩
      · exact ⟨Nat.le_refl _, Nat.le_refl _⟩
      · have hwithin := h.root.within c hc
        simp only [Span.contains, Bool.and_eq_true, decide_eq_true_eq] at hwithin
        have hmem := ih c hc ((allPlaced_iff.mp h).2 c hc) hm
        exact ⟨Nat.le_trans hwithin.1 hmem.1, Nat.le_trans hmem.2 hwithin.2⟩

/-- The nodes of a well placed tree come in the order in which they start. -/
theorem AllPlaced.starts_sorted {cs : List Char} {n : Node} (h : AllPlaced cs n) :
    (n.preorder.map Node.start).Pairwise (· ≤ ·) := by
  induction n using Node.children_induction with
  | h n ih =>
      have hchildren := (allPlaced_iff.mp h).2
      rw [Node.preorder_eq, List.map_cons, List.pairwise_cons]
      constructor
      · intro o ho
        obtain ⟨m, hm, rfl⟩ := List.mem_map.mp ho
        have hmem : m ∈ n.preorder := by
          rw [Node.preorder_eq]
          exact List.mem_cons_of_mem _ hm
        exact (h.bounds hmem).1
      · rw [List.pairwise_map, List.pairwise_flatMap]
        constructor
        · intro c hc
          exact List.pairwise_map.mp (ih c hc (hchildren c hc))
        · refine h.root.ordered.imp_of_mem fun {a b} ha hb hab x hx y hy => ?_
          have hxa := (hchildren a ha).bounds hx
          have hyb := (hchildren b hb).bounds hy
          have hxx := (hchildren a ha x hx).le
          omega

/-- The size of a text is that of its string. -/
theorem Text.utf8ByteSize_ofList (cs : List Char) :
    (String.ofList cs).utf8ByteSize = Text.size cs := by
  induction cs with
  | nil => rfl
  | cons c cs ih =>
      rw [String.ofList_cons, String.utf8ByteSize_append, String.utf8ByteSize_singleton, ih,
        Text.size_cons]

theorem Text.utf8ByteSize_eq (body : String) : body.utf8ByteSize = Text.size body.toList := by
  rw [← utf8ByteSize_ofList, String.ofList_toList]

/-- The places of a text are the valid positions of its string. -/
theorem isValid_of_boundary {body : String} {offset : Nat} (h : Boundary body.toList offset) :
    (String.Pos.Raw.mk offset).IsValid body := by
  obtain ⟨pre, post, hcs, rfl⟩ := h
  refine String.Pos.Raw.isValid_iff_exists_append.mpr ⟨String.ofList pre, String.ofList post, ?_, ?_⟩
  · rw [← String.ofList_append, ← hcs, String.ofList_toList]
  · rw [← Text.utf8ByteSize_ofList]
    rfl

/-- Every node of a pattern covers a part of the body between two characters, every child lies
within its parent, and children follow one another. So the nodes of a pattern, each before its
children, come in the order in which they start. -/
theorem Pattern.parseBody_positions {s : ParserSettings} {body modifiers : String}
    {delimiter : Char} {p : Pattern}
    (h : Pattern.parseBody s body modifiers delimiter = .ok p) :
    (∀ n ∈ p.root.preorder,
      n.start ≤ n.stop ∧ n.stop ≤ body.utf8ByteSize ∧
      (String.Pos.Raw.mk n.start).IsValid body ∧ (String.Pos.Raw.mk n.stop).IsValid body ∧
      (∀ c ∈ n.children, n.span.contains c.span = true) ∧
      n.children.Pairwise fun a b => a.stop ≤ b.start) ∧
    (p.root.preorder.map Node.start).Pairwise (· ≤ ·) := by
  obtain ⟨flags, -, hp⟩ := parseBody_ok h
  have hall := parseWith_placed hp
  refine ⟨?_, hall.starts_sorted⟩
  intro n hn
  have hplaced := hall n hn
  exact ⟨hplaced.le, Text.utf8ByteSize_eq body ▸ hplaced.stop.le_size, isValid_of_boundary hplaced.start,
    isValid_of_boundary hplaced.stop, hplaced.within, hplaced.ordered⟩

theorem Pattern.parseBody_positions_accent :
    ∃ p, Pattern.parseBody {} "(é|b+)" "" '/' = .ok p ∧
      (p.root.preorder.map Node.start).Pairwise (· ≤ ·) := by
  have haccepted : (Pattern.parseBody {} "(é|b+)" "" '/').isOk = true := by cbv
  obtain ⟨p, hp⟩ := exists_of_isOk haccepted
  exact ⟨p, hp, (parseBody_positions hp).2⟩

end PatternLint
