import PatternLint.Proofs.Places

/-!
# Classes without members

A bracket that closes a class is a member if it comes first, so that no class should be
without members. What counts as first is decided by the scanner, from one bit of its mode:
blanks that are skipped leave a class fresh, but the marks that start and end quoted text do
not, even if they quote nothing. `Mode.Since` says what the mode is after the text that was
skipped since the bracket that opened the class, and this is all that decides.

The parser only follows. It keeps no record of where a class comes from, so the second half
here goes through its steps with the tokens that have been read so far as an index: all
classes of the trees that it holds are as `ClassRead` says, and the class that is open has no
members right behind its bracket and some from there on.
-/

namespace PatternLint

open Token Parse Text

/-! ### The bracket behind the bracket -/

namespace Token

/-- What a mode in a class is after some text was skipped since the class was opened. -/
structure Mode.Since (gap : List Char) (m : Mode) : Prop where
  place : m.place = .inClass (decide ('\\' ∉ gap))
  quoting : m.quoting = true ↔ gap.getLast? = some 'Q'
  mark : m.quoting = true → '\\' ∈ gap

/-- What a closing bracket is after some text was skipped since the class was opened: quoted, or
the end of the class if there was a mark in the text, or else a member. -/
def bracketAfter (gap : List Char) : TokenKind :=
  if gap.getLast? = some 'Q' then .escaped ']' .quoted
  else if '\\' ∈ gap then .classClose
  else .literal ']'

variable {ctx : Context} {m m' : Mode} {offset : Nat} {gap cs pre rest : List Char} {c : Char}
  {o t : Token} {before ts : List Token}

/-- In quoted text only quoted characters are read. -/
theorem Lexeme.quoting_eq_false {text : List Char} {k : TokenKind} (hl : Lexeme ctx m text k)
    (hk : ∀ v, k ≠ .escaped v .quoted) : m.quoting = false := by
  rw [← Bool.not_eq_true]
  intro hq
  rw [Lexeme, if_pos hq] at hl
  obtain ⟨v, hv⟩ := hl
  exact hk v hv

/-- A class is opened outside of classes, by a bracket. -/
theorem Lexeme.classOpen {text : List Char} {negated : Bool}
    (hl : Lexeme ctx m text (.classOpen negated)) :
    m.quoting = false ∧ m.place = .outside ∧ ['['] <+: text := by
  have hq : m.quoting = false := hl.quoting_eq_false fun _ hk => nomatch hk
  unfold Lexeme at hl
  rw [hq] at hl
  cases hp : m.place with
  | outside =>
      rw [hp] at hl
      exact ⟨hq, rfl, hl⟩
  | inClass fresh =>
      rw [hp] at hl
      exact hl.elim

theorem Mode.Since.skip (h : m.Since gap)
    (hp : scan ctx m c (pre ++ rest) = .ok ⟨none, m', rest⟩) : m'.Since (gap ++ c :: pre) := by
  obtain ⟨hplace, hquoting, hmark⟩ := h
  by_cases hq : m.quoting = true
  · rw [scan, if_pos hq] at hp
    obtain ⟨rfl, hpre, rfl⟩ := quotedPiece_none (Except.ok.inj hp)
    obtain rfl : pre = ['E'] := List.append_cancel_right hpre
    exact ⟨by simp [hplace, hmark hq], by simp, by simp⟩
  · simp only [scan, hq, hplace, Bool.false_eq_true, ↓reduceIte] at hp
    rcases classPiece_none hp with ⟨-, hc, rfl, hrest⟩ | ⟨rfl, ⟨hpre, rfl⟩ | ⟨hpre, rfl⟩⟩
    · obtain rfl : pre = [] := List.self_eq_append_left.mp hrest
      refine ⟨?_, ?_, fun hquoted => absurd hquoted hq⟩
      · rcases hc with rfl | rfl <;> simp [hplace]
      · rcases hc with rfl | rfl <;> simp [hq]
    · obtain rfl : pre = ['Q'] := List.append_cancel_right hpre
      exact ⟨by simp, by simp, by simp⟩
    · obtain rfl : pre = ['E'] := List.append_cancel_right hpre
      exact ⟨by simp, by simp [hq], by simp⟩

theorem Mode.Since.bracket {k : TokenKind} (h : m.Since gap)
    (hp : scan ctx m ']' cs = .ok ⟨some k, m', rest⟩) : k = bracketAfter gap := by
  obtain ⟨hplace, hquoting, -⟩ := h
  by_cases hq : m.quoting = true
  · rw [scan, if_pos hq] at hp
    rw [bracketAfter, if_pos (hquoting.mp hq)]
    have hkind : (quotedPiece m ']' cs).kind = some (.escaped ']' .quoted) := by
      unfold quotedPiece
      simp only
      split <;> rfl
    rw [Except.ok.inj hp] at hkind
    exact Option.some.inj hkind
  · rw [bracketAfter, if_neg fun hlast => hq (hquoting.mpr hlast)]
    simp only [scan, hq, hplace, Bool.false_eq_true, ↓reduceIte] at hp
    by_cases hmark : '\\' ∈ gap <;> simp [classPiece, hmark] at hp ⊢ <;> exact hp.1.symm

/-- Nothing but a closing bracket takes the scanner out of a class. -/
theorem classPiece_place {fresh : Bool} {k : TokenKind} (hc : c ≠ ']')
    (h : classPiece ctx m fresh c cs = .ok ⟨some k, m', rest⟩) : m'.place = .inClass false := by
  unfold classPiece at h
  split at h
  · simp at h
  simp only at h
  split at h
  · unfold escapePiece at h
    split at h <;> simp at h
    rw [← h.2.1]
  · repeat' split at h
    all_goals
      simp only [Except.ok.injEq, Piece.mk.injEq] at h
      rw [← h.2.1]

theorem Mode.Since.close (h : m.Since gap)
    (hp : scan ctx m c (pre ++ rest) = .ok ⟨some .classClose, m', rest⟩) : c :: pre = [']'] := by
  have hout : m'.place = .outside := by
    rw [(scan_lexeme hp).2]
    simp [Mode.advance, h.place, Mode.classAfter]
  have hq : m.quoting = false := (scan_lexeme hp).1.quoting_eq_false fun _ hk => nomatch hk
  simp only [scan, hq, h.place, Bool.false_eq_true, ↓reduceIte] at hp
  by_cases hc : c = ']'
  · subst hc
    by_cases hmark : '\\' ∈ gap
    · simp [classPiece, hmark] at hp
      rw [hp.2]
    · simp [classPiece, hmark] at hp
  · rw [classPiece_place hc hp] at hout
    cases hout

/-- The first token in a class, behind the text that was skipped before it. -/
theorem Scanned.first (hts : Scanned ctx m offset cs (t :: ts)) (h : m.Since gap) :
    ∃ skipped rest, cs = skipped ++ rest ∧ t.start = offset + size skipped ∧
      (t.text = [']'] → t.kind = bracketAfter (gap ++ skipped)) ∧
      (t.kind = .classClose → t.text = [']']) := by
  generalize hall : t :: ts = all at hts
  induction hts generalizing gap with
  | done m offset =>
      obtain ⟨rfl, -⟩ := List.cons.inj hall
      exact ⟨[], [], rfl, rfl, (fun htext => nomatch htext), (fun hk => nomatch hk)⟩
  | @skip m m' offset c pre rest all hp _ ih =>
      obtain ⟨skipped, last, rfl, hstart, hfirst⟩ := ih (h.skip hp) hall
      refine ⟨c :: pre ++ skipped, last, by simp, ?_, by simpa using hfirst⟩
      rw [hstart, size_append, Nat.add_assoc]
  | @token m m' offset c pre rest k all hp _ ih =>
      obtain ⟨rfl, -⟩ := List.cons.inj hall
      refine ⟨[], _, rfl, rfl, fun htext => ?_, fun hk => ?_⟩
      · obtain ⟨rfl, rfl⟩ := List.cons.inj htext
        rw [List.append_nil]
        exact h.bracket hp
      · obtain rfl : k = .classClose := hk
        exact h.close hp

/-- Where a token stands in the text, and that the others were read from there. -/
theorem Scanned.token_at (hts : Scanned ctx m offset cs (before ++ o :: t :: ts)) :
    ∃ pre c piece rest m₁ m₂, cs = pre ++ c :: (piece ++ rest) ∧ o.text = c :: piece ∧
      o.start = offset + size pre ∧ o.stop = o.start + size o.text ∧
      scan ctx m₁ c (piece ++ rest) = .ok ⟨some o.kind, m₂, rest⟩ ∧
      Scanned ctx m₂ o.stop rest (t :: ts) := by
  generalize hall : before ++ o :: t :: ts = all at hts
  induction hts generalizing before with
  | done m offset =>
      have hlength := congrArg List.length hall
      simp only [List.length_append, List.length_cons, List.length_nil] at hlength
      omega
  | @skip m m' offset c pre rest all hp _ ih =>
      obtain ⟨pre', d, piece, rest', m₁, m₂, rfl, htext, hstart, hstop, hread, hrest⟩ := ih hall
      refine ⟨c :: pre ++ pre', d, piece, rest', m₁, m₂, by simp, htext, ?_, hstop, hread, hrest⟩
      rw [hstart, size_append, Nat.add_assoc]
  | @token m m' offset c pre rest k all hp hrest ih =>
      cases before with
      | nil =>
          obtain ⟨rfl, rfl⟩ := List.cons.inj hall
          exact ⟨[], c, pre, rest, m, m', rfl, rfl, rfl, rfl, hp, hrest⟩
      | cons b before =>
          obtain ⟨pre', d, piece, rest', m₁, m₂, rfl, htext, hstart, hstop, hread, hrest⟩ :=
            ih (List.cons.inj hall).2
          refine ⟨c :: pre ++ pre', d, piece, rest', m₁, m₂, by simp, htext, ?_, hstop, hread,
            hrest⟩
          rw [hstart, size_append, Nat.add_assoc]

/-- Nothing has been skipped yet right behind the bracket that opens a class. -/
theorem since_open {negated : Bool}
    (hp : scan ctx m c (pre ++ rest) = .ok ⟨some (.classOpen negated), m', rest⟩) :
    m'.Since [] := by
  obtain ⟨hl, rfl⟩ := scan_lexeme hp
  obtain ⟨hq, hp, -⟩ := hl.classOpen
  have hm : m.advance (.classOpen negated) = { m with place := .inClass true } := by
    simp [Mode.advance, hp, hq, Mode.outsideAfter]
  rw [hm]
  exact ⟨by simp, by simp [hq], by simp [hq]⟩

/-- The first token of a class, by the text between it and the bracket that opens the class: a
closing bracket is what that text makes of it, and nothing else closes the class. -/
theorem Scanned.first_in_class {negated : Bool}
    (hts : Scanned ctx m 0 cs (before ++ o :: t :: ts)) (ho : o.kind = .classOpen negated) :
    ∃ gap, slice? o.stop t.start cs = some gap ∧ (t.text = [']'] → t.kind = bracketAfter gap) ∧
      (t.kind = .classClose → t.text = [']']) := by
  obtain ⟨pre, c, piece, rest, m₁, m₂, rfl, htext, hstart, hstop, hread, hrest⟩ := hts.token_at
  rw [ho] at hread
  obtain ⟨gap, last, rfl, hstart', hfirst⟩ := hrest.first (since_open hread)
  refine ⟨gap, slice?_eq_some (pre ++ c :: piece) last (by simp) ?_ hstart', hfirst⟩
  rw [hstop, hstart, htext, size_append, Nat.zero_add]

end Token

/-! ### Where classes are -/

section Classes

variable {Q : Span → Bool → Node → Prop}

/-- A tree whose classes are as `Q` says of their spans, their negation and what they hold. -/
def Node.Classes (Q : Span → Bool → Node → Prop) (n : Node) : Prop :=
  ∀ span negated caseless expr, .charClass span negated caseless expr ∈ n.preorder →
    Q span negated expr

namespace Node

theorem classes_of_children {n : Node}
    (hn : ∀ span negated caseless expr, n ≠ .charClass span negated caseless expr)
    (h : ∀ c ∈ n.children, c.Classes Q) : n.Classes Q := by
  intro span negated caseless expr hmem
  rcases mem_preorder.mp hmem with heq | ⟨c, hc, hmem⟩
  · exact absurd heq.symm (hn span negated caseless expr)
  · exact h c hc span negated caseless expr hmem

theorem classes_atom (span : Span) (a : Atom) : (Node.atom span a).Classes Q :=
  classes_of_children (fun _ _ _ _ h => nomatch h) (fun _ hc => nomatch hc)

theorem classes_charClass {span : Span} {negated caseless : Bool} {expr : Node}
    (h : Q span negated expr) (hexpr : expr.Classes Q) :
    (Node.charClass span negated caseless expr).Classes Q := by
  intro span' negated' caseless' expr' hmem
  rcases mem_preorder.mp hmem with heq | ⟨c, hc, hin⟩
  · cases heq
    exact h
  · obtain rfl := List.mem_singleton.mp hc
    exact hexpr span' negated' caseless' expr' hin

end Node

namespace Parse

/-- A level all of whose trees have classes as `Q` says. -/
structure Level.Classes (Q : Span → Bool → Node → Prop) (l : Level) : Prop where
  done : ∀ b ∈ l.done, b.Classes Q
  items : ∀ n ∈ l.items, n.Classes Q

namespace Level

variable {l : Level} {n : Node}

theorem classes_new (start captures : Nat) : (Level.new start captures).Classes Q :=
  ⟨List.forall_mem_nil _, List.forall_mem_nil _⟩

theorem Classes.push (h : l.Classes Q) (hn : n.Classes Q) : (l.push n).Classes Q :=
  ⟨h.done, List.forall_mem_cons.mpr ⟨hn, h.items⟩⟩

theorem Classes.branch (h : l.Classes Q) : l.branch.Classes Q := by
  unfold Level.branch
  split
  · exact Node.classes_atom _ _
  · next n hi => exact h.items n (by simp [hi])
  · refine Node.classes_of_children (fun _ _ _ _ heq => nomatch heq) fun c hc => ?_
    exact h.items c (List.mem_reverse.mp hc)

theorem Classes.node (h : l.Classes Q) : l.node.Classes Q := by
  unfold Level.node
  split
  · exact h.branch
  · refine Node.classes_of_children (fun _ _ _ _ heq => nomatch heq) ?_
    simp only [Node.children, List.forall_mem_append, List.forall_mem_singleton]
    exact ⟨fun c hc => h.done c (List.mem_reverse.mp hc), h.branch⟩

end Level

/-- A state all of whose trees have classes as `Q` says. -/
structure State.Classes (Q : Span → Bool → Node → Prop) (st : State) : Prop where
  level : st.level.Classes Q
  frames : ∀ f ∈ st.frames, f.outer.Classes Q ∧ ∀ c ∈ f.construct.tests, c.Classes Q

namespace State

variable {limit next : Nat} {st st' : State} {t : Token}

theorem Classes.push {n : Node} (h : st.Classes Q) (hn : n.Classes Q) : (st.push n).Classes Q :=
  ⟨h.level.push hn, h.frames⟩

theorem Classes.pushDigits (h : st.Classes Q) (offset : Nat) (digits : List Char) :
    (st.pushDigits offset digits).Classes Q := by
  induction digits generalizing st offset with
  | nil => exact h
  | cons d digits ih => exact ih (h.push (Node.classes_atom _ _)) (offset + 1)

theorem Closes.classes {f : Frame} {n : Node} {captures : Nat} (hc : Closes st t f n captures)
    (h : st.level.Classes Q) (htests : ∀ c ∈ f.construct.tests, c.Classes Q) : n.Classes Q := by
  refine Node.classes_of_children (by cases hc <;> exact fun _ _ _ _ heq => nomatch heq) ?_
  cases hc with
  | group _ => simpa [Node.children] using h.node
  | define _ _ => simpa [Node.children] using h.node
  | single hk _ =>
      rw [hk] at htests
      simp only [Node.children, List.forall_mem_append, List.forall_mem_cons]
      exact ⟨htests, h.branch, List.forall_mem_nil _⟩
  | @double test yes more hk hd =>
      rw [hk] at htests
      have hyes := h.done yes (by simp [hd])
      simp only [Node.children, Option.toList_some, List.forall_mem_append, List.forall_mem_cons]
      exact ⟨htests, hyes, h.branch, List.forall_mem_nil _⟩

/-- A class is opened by its bracket. -/
theorem Move.openClass (hm : Move limit st t next st') :
    st'.openClass = st.openClass ∨ ∃ negated, t.kind = .classOpen negated ∧
      st'.openClass = some { offset := t.start, negated, caseless := st.caseless } := by
  cases hm with
  | startClass hk => exact .inr ⟨_, hk, rfl⟩
  | octal => exact .inl (pushDigits_openClass _ _)
  | _ => exact .inl rfl

/-- Outside a class no token makes one. -/
theorem Move.classes (hm : Move limit st t next st') (h : st.Classes Q) : st'.Classes Q := by
  cases hm with
  | atom _ => exact ⟨h.level.push (Node.classes_atom _ _), h.frames⟩
  | octal => exact (h.push (Node.classes_atom _ _)).pushDigits _ _
  | @again count n items hk hi =>
      obtain ⟨hn, hitems⟩ := List.forall_mem_cons.mp (hi ▸ h.level.items)
      have hrepeat : (Node.quantifier ⟨n.start, t.stop⟩ count n).Classes Q :=
        Node.classes_of_children (fun _ _ _ _ heq => nomatch heq)
          fun c hc => List.mem_singleton.mp hc ▸ hn
      exact ⟨⟨h.level.done, List.forall_mem_cons.mpr ⟨hrepeat, hitems⟩⟩, h.frames⟩
  | branch =>
      exact ⟨⟨List.forall_mem_cons.mpr ⟨h.level.branch, h.level.done⟩, List.forall_mem_nil _⟩,
        h.frames⟩
  | enter ho =>
      refine ⟨Level.classes_new _ _, List.forall_mem_cons.mpr ⟨⟨h.level, ?_⟩, h.frames⟩⟩
      simp [Opens.tests ho]
  | @leave f frames n captures hk hf hc =>
      obtain ⟨⟨houter, htests⟩, hframes⟩ := List.forall_mem_cons.mp (hf ▸ h.frames)
      exact ⟨houter.push (hc.classes h.level htests), hframes⟩
  | @test f frames look hk hf hc =>
      obtain ⟨⟨houter, -⟩, hframes⟩ := List.forall_mem_cons.mp (hf ▸ h.frames)
      refine ⟨Level.classes_new _ _, List.forall_mem_cons.mpr ⟨⟨houter, fun c hc => ?_⟩, hframes⟩⟩
      obtain rfl := List.mem_singleton.mp hc
      refine Node.classes_of_children (fun _ _ _ _ heq => nomatch heq) fun c hc => ?_
      exact List.mem_singleton.mp hc ▸ h.level.node
  | startClass => exact ⟨h.level, h.frames⟩
  | finish => exact h

end State

end Parse

end Classes

/-! ### What a class holds -/

/-- An atom that is a member of a class. -/
def Atom.isClassMember : Atom → Bool
  | .literal .. | .shorthand .. | .range .. | .posix .. => true
  | _ => false

/-- A single member of a class, or several as a union. -/
def Node.HasMembers : Node → Prop
  | .atom _ a => a.isClassMember = true
  | .classOp _ .union ms => 2 ≤ ms.length ∧ ∀ m ∈ ms, ∃ s a, m = .atom s a ∧ a.isClassMember = true
  | _ => False

/-- A class as it was read: its first token tells whether it has members. -/
def ClassRead (ts : List Token) (span : Span) (negated : Bool) (expr : Node) : Prop :=
  ∃ (before : List Token) (o t : Token) (after : List Token), ts = before ++ o :: t :: after ∧
    o.start = span.start ∧ o.kind = .classOpen negated ∧
    if t.kind = .classClose then t.stop = span.stop ∧ expr = .atom (.point t.start) .empty
    else expr.HasMembers

namespace Parse

/-- Members of a class, each an atom. -/
def AllMembers (ns : List Node) : Prop := ∀ n ∈ ns, ∃ s a, n = .atom s a ∧ a.isClassMember = true

/-- An open class that was read in the last of some tokens: without members if its bracket is the
very last of them, and with members else. -/
structure OpenClass.ReadFrom (before : List Token) (c : OpenClass) : Prop where
  left : c.left = none
  members : AllMembers c.settled.members
  opened : ∃ (earlier : List Token) (o : Token) (inside : List Token),
    before = earlier ++ o :: inside ∧ o.start = c.offset ∧ o.kind = .classOpen c.negated ∧
    (inside = [] ∧ c.settled.members = [] ∨
      ∃ (t : Token) (more : List Token), inside = t :: more ∧ t.kind ≠ .classClose ∧
        c.settled.members ≠ [])

namespace OpenClass

variable {c c' : OpenClass} {t : Token} {before after : List Token} {n : Node}

theorem MemberOf.isClassMember {caseless : Bool} {k : TokenKind} {a : Atom}
    (h : MemberOf caseless k a) : a.isClassMember = true := by
  cases h <;> rfl

theorem MemberOf.ne_close {caseless : Bool} {k : TokenKind} {a : Atom}
    (h : MemberOf caseless k a) : k ≠ .classClose := by
  cases h <;> exact fun heq => nomatch heq

theorem allMembers_cons {span : Span} {a : Atom} {ns : List Node} (ha : a.isClassMember = true)
    (h : AllMembers ns) : AllMembers (.atom span a :: ns) :=
  List.forall_mem_cons.mpr ⟨⟨span, a, rfl, ha⟩, h⟩

/-- A token that does not start an operation adds a member. -/
theorem ClassMove.adds (hm : ClassMove c t (.more c')) (ho : ∀ op, ¬ OperatorOf t.kind op)
    (h : AllMembers c.settled.members) :
    c'.left = c.left ∧ c'.offset = c.offset ∧ c'.negated = c.negated ∧
      t.kind ≠ .classClose ∧ c'.settled.members ≠ [] ∧ AllMembers c'.settled.members := by
  cases hm with
  | operate hop => exact absurd hop (ho _)
  | hold ha =>
      exact ⟨settled_left c, settled_offset c, settled_negated c, ha.ne_close,
        List.cons_ne_nil _ _, allMembers_cons ha.isClassMember h⟩
  | hyphen hp hk =>
      rw [settled_of_member hp] at h
      exact ⟨rfl, rfl, rfl, by simp [hk], List.cons_ne_nil _ _, allMembers_cons rfl h⟩
  | range hp hb hle =>
      rw [settled_of_hyphen hp] at h
      have hrest := (List.forall_mem_cons.mp (List.forall_mem_cons.mp h).2).2
      exact ⟨rfl, rfl, rfl, hb.ne_close, List.cons_ne_nil _ _, allMembers_cons rfl hrest⟩

theorem ReadFrom.more (h : c.ReadFrom before) (hm : ClassMove c t (.more c'))
    (ho : ∀ op, ¬ OperatorOf t.kind op) : c'.ReadFrom (before ++ [t]) := by
  obtain ⟨hleft, hoffset, hnegated, hkind, hne, hmembers⟩ := hm.adds ho h.members
  obtain ⟨earlier, o, inside, rfl, hstart, hopen, hinside⟩ := h.opened
  refine ⟨hleft.trans h.left, hmembers, earlier, o, inside ++ [t], by simp,
    hstart.trans hoffset.symm, by rw [hopen, hnegated], .inr ?_⟩
  rcases hinside with ⟨rfl, -⟩ | ⟨first, more, rfl, hfirst, -⟩
  · exact ⟨t, [], rfl, hkind, hne⟩
  · exact ⟨first, more ++ [t], rfl, hfirst, hne⟩

/-- Members make a node with members. -/
theorem unionOf_hasMembers {ns : List Node} (h : AllMembers ns) (hne : ns ≠ []) (offset : Nat) :
    (unionOf ns offset).HasMembers ∧ ∀ Q, (unionOf ns offset).Classes Q := by
  have hclasses : ∀ n ∈ ns, ∀ Q, n.Classes Q := by
    intro n hn Q
    obtain ⟨span, a, rfl, -⟩ := h n hn
    exact Node.classes_atom span a
  unfold unionOf
  split
  · exact absurd rfl hne
  · next m =>
      obtain ⟨span, a, rfl, ha⟩ := h m (by simp)
      exact ⟨ha, hclasses _ (by simp)⟩
  · next m more hmore =>
      have hpos := List.length_pos_iff.mpr hmore
      refine ⟨⟨by simp only [List.length_cons]; omega, h⟩, fun Q => ?_⟩
      exact Node.classes_of_children (fun _ _ _ _ heq => nomatch heq) fun c hc => hclasses c hc Q

/-- The class that a token closes. -/
theorem ReadFrom.close (h : c.ReadFrom before) (hm : ClassMove c t (.done n)) :
    n.Classes (ClassRead (before ++ t :: after)) := by
  obtain ⟨earlier, o, inside, rfl, hstart, hopen, hinside⟩ := h.opened
  cases hm with
  | close hk =>
      rw [OpenClass.close, settled_left, h.left, settled_offset, settled_negated]
      simp only [setOperation]
      rcases hinside with ⟨rfl, hnil⟩ | ⟨first, more, rfl, hfirst, hne⟩
      · rw [hnil]
        refine Node.classes_charClass ?_ (Node.classes_atom _ _)
        refine ⟨earlier, o, t, after, by simp, hstart, hopen, ?_⟩
        rw [if_pos hk]
        exact ⟨rfl, rfl⟩
      · have hmembers : AllMembers c.settled.members.reverse :=
          fun m hm => h.members m (List.mem_reverse.mp hm)
        obtain ⟨hexpr, hclasses⟩ :=
          unionOf_hasMembers hmembers (by simpa using hne) t.start
        refine Node.classes_charClass ?_ (hclasses _)
        refine ⟨earlier, o, first, more ++ t :: after, by simp, hstart, hopen, ?_⟩
        rw [if_neg hfirst]
        exact hexpr

end OpenClass

/-- A state that was come to by some of the tokens of a text. -/
structure State.ReadFrom (ts before : List Token) (st : State) : Prop where
  classes : st.Classes (ClassRead ts)
  members : ∀ c ∈ st.openClass, c.ReadFrom before

variable {s : ParserSettings} {st st' : State} {ts before rest : List Token} {t : Token}
  {next : Nat}

theorem step_readFrom (ho : ∀ op, ¬ OpenClass.OperatorOf t.kind op)
    (hts : ts = before ++ t :: rest) (h : st.ReadFrom ts before)
    (hs : step s st t next = .ok st') : st'.ReadFrom ts (before ++ [t]) := by
  rcases step_move hs with ⟨hnone, hm⟩ | ⟨c, c', hopen, hm, rfl⟩ | ⟨c, n, hopen, hm, rfl⟩
  · refine ⟨hm.classes h.classes, fun c hc => ?_⟩
    rcases hm.openClass with hsame | ⟨negated, hk, hnew⟩
    · rw [hsame, hnone] at hc
      cases hc
    · rw [hnew] at hc
      cases hc
      exact ⟨rfl, List.forall_mem_nil _, before, t, [], rfl, rfl, hk, .inl ⟨rfl, rfl⟩⟩
  · refine ⟨⟨h.classes.level, h.classes.frames⟩, fun d hd => ?_⟩
    obtain rfl := Option.mem_some.mp hd
    exact (h.members c hopen).more hm ho
  · refine ⟨State.Classes.push ⟨h.classes.level, h.classes.frames⟩ ?_, fun _ hc => nomatch hc⟩
    exact hts ▸ (h.members c hopen).close hm

theorem run_readFrom (ho : ∀ t ∈ ts, ∀ op, ¬ OpenClass.OperatorOf t.kind op)
    (hts : ts = before ++ rest) (h : st.ReadFrom ts before) (hr : run s st rest = .ok st') :
    st'.Classes (ClassRead ts) := by
  induction rest generalizing before st with
  | nil => exact Except.ok.inj hr ▸ h.classes
  | cons t rest ih =>
      obtain ⟨mid, hs, hrest⟩ := run_cons.mp hr
      exact ih (by simp [hts]) (step_readFrom (ho t (by simp [hts])) hts h hs) hrest

end Parse

/-! ### Patterns -/

/-- A dialect without set operations has no tokens for them. -/
theorem Token.Lexeme.not_operator {ctx : Context} {m : Mode} {text : List Char} {k : TokenKind}
    (hl : Lexeme ctx m text k) (hops : ctx.dialect.supports .classSetOperations = false)
    (op : ClassOp) : ¬ OpenClass.OperatorOf k op := by
  intro ho
  have hsupported : ctx.dialect.supports .classSetOperations = true := by
    by_cases hp : m.place = .outside
    · rcases (hl.outside hp).1 with ⟨v, rfl⟩ | h
      · cases ho
      · cases ho <;> exact h.elim
    · rcases (hl.inside hp).1 with ⟨v, rfl⟩ | ⟨fresh, h⟩
      · cases ho
      · cases ho <;> exact h
  rw [hops] at hsupported
  cases hsupported

theorem Token.Scanned.not_operator {ctx : Context} {m : Mode} {offset : Nat} {cs : List Char}
    {ts : List Token} (hts : Scanned ctx m offset cs ts)
    (hops : ctx.dialect.supports .classSetOperations = false) :
    ∀ t ∈ ts, ∀ op, ¬ OpenClass.OperatorOf t.kind op := by
  induction hts with
  | done m offset =>
      intro t ht op ho
      rw [List.mem_singleton.mp ht] at ho
      cases ho
  | skip _ _ ih => exact ih
  | token hp _ ih => exact List.forall_mem_cons.mpr ⟨(scan_lexeme hp).1.not_operator hops, ih⟩

namespace Pattern

variable {s : ParserSettings} {body modifiers : String} {delimiter : Char} {p : Pattern}

/-- Without set operations, the classes of a pattern have members but for those where a bracket
comes first and marks of quoted text are in the text that was skipped before it, none of them still
open. Such a bracket closes the class; without a mark it is a member, and in quoted text too. -/
theorem parseBody_classes (h : parseBody s body modifiers delimiter = .ok p)
    (hops : s.dialect.supports .classSetOperations = false) :
    ∃ ts, tokenize body p.flags s.dialect = .ok ts ∧
      (∀ (before : List Token) (o t : Token) (after : List Token) (negated : Bool),
        ts = before ++ o :: t :: after → o.kind = .classOpen negated →
        ∃ gap, slice? o.stop t.start body.toList = some gap ∧
          (t.text = [']'] → t.kind = bracketAfter gap)) ∧
      ∀ span negated caseless expr, .charClass span negated caseless expr ∈ p.root.preorder →
        ∃ (before : List Token) (o t : Token) (after : List Token) (gap : List Char),
          ts = before ++ o :: t :: after ∧ o.start = span.start ∧
          o.kind = .classOpen negated ∧ slice? o.stop t.start body.toList = some gap ∧
          if t.text = [']'] ∧ bracketAfter gap = .classClose then
            t.stop = span.stop ∧ expr = .atom (.point t.start) .empty
          else expr.HasMembers := by
  obtain ⟨-, rfl, -, hp⟩ := parseBody_fields h
  obtain ⟨ts, st, ht, hr, hst, -⟩ := parseWith_ok hp
  have hts := tokens_eq_ok_iff.mp ht
  refine ⟨ts, ht, ?_, ?_⟩
  · rintro before o t after negated rfl ho
    obtain ⟨gap, hgap, hbracket, -⟩ := hts.first_in_class ho
    exact ⟨gap, hgap, hbracket⟩
  · intro span negated caseless expr hmem
    have hinit : (initial p.flags ts).ReadFrom ts [] :=
      ⟨⟨Level.classes_new _ _, List.forall_mem_nil _⟩, fun _ hc => nomatch hc⟩
    have hclasses := run_readFrom (hts.not_operator hops) rfl hinit hr
    rw [hst] at hmem
    obtain ⟨before, o, t, after, rfl, hstart, hopen, hexpr⟩ :=
      hclasses.level.node span negated caseless expr hmem
    obtain ⟨gap, hgap, hbracket, hclose⟩ := hts.first_in_class hopen
    refine ⟨before, o, t, after, gap, rfl, hstart, hopen, hgap, ?_⟩
    have hiff : t.kind = .classClose ↔ t.text = [']'] ∧ bracketAfter gap = .classClose :=
      ⟨fun hk => ⟨hclose hk, hbracket (hclose hk) ▸ hk⟩, fun hk => (hbracket hk.1).trans hk.2⟩
    simpa only [hiff] using hexpr

/-- In `[]a]` nothing stands between the brackets, and the class has members. -/
theorem parseBody_classes_bracket : ∃ p expr, parseBody {} "[]a]" "" '/' = .ok p ∧
    p.root = .charClass ⟨0, 4⟩ false false expr ∧ expr.HasMembers := by
  obtain ⟨p, hp, hroot⟩ := exists_of_map (f := Pattern.root)
    (show (parseBody {} "[]a]" "" '/').map Pattern.root = .ok (.charClass ⟨0, 4⟩ false false
      (.classOp ⟨1, 3⟩ .union [.atom ⟨1, 2⟩ (.literal ']' .verbatim false),
        .atom ⟨2, 3⟩ (.literal 'a' .verbatim false)])) by cbv)
  obtain ⟨ts, -, -, hclasses⟩ := parseBody_classes hp (by decide)
  obtain ⟨before, o, t, after, gap, -, -, -, -, hexpr⟩ := hclasses ⟨0, 4⟩ false false _
    (by rw [hroot]; exact Node.self_mem_preorder _)
  refine ⟨p, _, hp, hroot, ?_⟩
  split at hexpr
  · cases hexpr.2
  · exact hexpr

/-- In `[\E]` the end of quoted text stands between the brackets, and the class has no members. -/
theorem parseBody_classes_mark : ∃ p, parseBody {} "[\\E]" "" '/' = .ok p ∧
    p.root = .charClass ⟨0, 4⟩ false false (.atom (.point 3) .empty) :=
  exists_of_map (by cbv)

end Pattern

end PatternLint
