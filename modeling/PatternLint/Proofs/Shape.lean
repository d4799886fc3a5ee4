import Mathlib
import PatternLint.Proofs.Hazard.Proper

/-!
# The shape of a pattern

A tree has more room than a pattern needs: a sequence of one item, a repetition of
nothing, a number on a group that does not capture. Printing, transforms and analyses
do not look for such trees, and they need not. `Node.Shaped` says of each kind of node
what the parser never writes into it.

That a tree is formed says this already, in terms of where nodes stand and how they were
read. A node is shaped because its children have their roles: an item is neither empty
nor made of several items, and a branch is not made of branches.
-/

namespace PatternLint

open Parse

namespace Node

/-- Whether a node may be one of the items of a sequence. -/
def isItem : Node → Bool
  | atom _ .empty | sequence .. | alternation .. => false
  | _ => true

/-- Whether a node may be one of several branches. -/
def isBranch : Node → Bool
  | alternation .. => false
  | _ => true

/-- A node with as many parts, and with such values and parts, as the parser writes. -/
def Shaped : Node → Prop
  | atom _ (.range first last) => first ≤ last
  | atom _ (.callout (.number n)) => n ≤ 255
  | atom .. => True
  | sequence _ items => 2 ≤ items.length ∧ ∀ n ∈ items, n.isItem = true
  | alternation _ branches => 2 ≤ branches.length ∧ ∀ n ∈ branches, n.isBranch = true
  | group _ head _ =>
    (head.number.isSome = true ↔ head.kind = .capturing ∨ head.kind = .named) ∧
      (head.name.isSome = true ↔ head.kind = .named)
  | quantifier _ count target =>
    (∀ max ∈ count.max, count.min ≤ max ∧ max ≤ 65535) ∧ count.min ≤ 65535 ∧
      target.isItem = true ∧ target.isRepeatable = true
  | charClass .. => True
  | classOp _ op operands =>
    (op = .union → 2 ≤ operands.length) ∧ (op ≠ .union → operands.length = 2)
  | conditional _ test yes no =>
    (∀ a, test = .assertion a → ∃ span look body, a = group span { kind := .look look } body) ∧
      yes.isBranch = true ∧ ∀ n ∈ no, n.isBranch = true
  | define _ body => body.isBranch = true

end Node

section Formed

variable {ctx : Token.Context} {limit depth : Nat} {role : Role} {n : Node} {e e' : Env}

theorem Formed.isItem (h : Formed ctx limit n depth .item e e') : n.isItem = true := by
  cases n with
  | atom s a =>
      cases a with
      | empty =>
          rcases h with ⟨-, hrole, -⟩ | ⟨ha, -⟩
          · exact absurd rfl hrole
          · exact ha.elim
      | _ => rfl
  | sequence s items => exact absurd rfl h.1
  | alternation s branches => rcases h.2 with ⟨hrole, -⟩ | ⟨hrole, -⟩ <;> cases hrole
  | _ => rfl

theorem Formed.isBranch (h : Formed ctx limit n depth .branch e e') : n.isBranch = true := by
  cases n with
  | alternation s branches => rcases h.2 with ⟨hrole, -⟩ | ⟨hrole, -⟩ <;> cases hrole
  | _ => rfl

/-- A group has a number and a name if its kind says so. -/
theorem OpensGroup.shaped {opener : Opener} {head : GroupHead} (h : OpensGroup e opener head e') :
    (head.number.isSome = true ↔ head.kind = .capturing ∨ head.kind = .named) ∧
      (head.name.isSome = true ↔ head.kind = .named) := by
  cases h <;> simp

theorem Atom.Formed.shaped {a : Atom} (h : a.Formed ctx e) (s : Span) : (Node.atom s a).Shaped := by
  cases a with
  | range first last => exact h.elim
  | callout arg =>
      cases arg with
      | number n => exact h
      | text t => trivial
  | _ => trivial

/-- Every node that the parser forms is shaped. -/
theorem Formed.shaped (h : Formed ctx limit n depth role e e') : n.Shaped := by
  cases n with
  | atom s a =>
      rcases h with ⟨rfl, -⟩ | ⟨ha, -⟩
      · trivial
      · exact ha.shaped s
  | sequence s items =>
      refine ⟨h.2.1, fun c hc => ?_⟩
      obtain ⟨_, _, hc⟩ := h.2.2.mem c hc
      exact hc.isItem
  | alternation s branches =>
      refine ⟨h.1, fun c hc => ?_⟩
      rcases h.2 with ⟨-, hb⟩ | ⟨-, high, last, hb, -⟩
      · obtain ⟨_, _, hc⟩ := hb.mem c hc
        exact hc.isBranch
      · obtain ⟨_, _, hc⟩ := hb.mem c hc
        exact hc.isBranch
  | group s head body =>
      obtain ⟨-, inner, last, ⟨opener, -, ho⟩, -⟩ := h
      exact OpensGroup.shaped ho
  | quantifier s count target =>
      obtain ⟨⟨hmin, hmax⟩, hallows, hrepeatable, htarget⟩ := h
      refine ⟨fun max hm => ⟨?_, hmax max hm⟩, hmin, htarget.isItem, hrepeatable⟩
      have hm : count.max = some max := hm
      simpa [Repeat.allows, hm] using hallows
  | charClass s negated caseless expr => trivial
  | classOp s op operands => exact h.elim
  | conditional s test yes no =>
      obtain ⟨-, inner, mid, last, htest, hyes, hno, -⟩ := h
      refine ⟨?_, hyes.isBranch, ?_⟩
      · rintro a rfl
        obtain ⟨⟨span, look, body, ha, -⟩, -⟩ := htest
        exact ⟨span, look, body, ha⟩
      · rintro c rfl
        exact Formed.isBranch hno
  | define s body =>
      obtain ⟨-, last, hbody, -⟩ := h
      exact hbody.isBranch

/-- What a class holds is shaped. -/
theorem shaped_of_classPart {spacing : Flags} {caseless : Bool}
    (h : n.ClassPart ctx spacing caseless) : n.Shaped := by
  cases n with
  | atom s a =>
      rcases h with rfl | ha
      · trivial
      · cases a with
        | range first last => exact ha
        | callout arg => exact ha.elim
        | _ => trivial
  | classOp s op operands => exact h
  | _ => exact h.elim

end Formed

/-- Every pattern is well formed. Sequences and alternations have at least two parts, of which none
could be spliced into them; a repetition has counts in order and below the limit and repeats what
can be repeated; operations on classes have their operands, ranges are in order; a group has a
number or a name if its kind says so, and the assertion of a conditional has none; callouts are
small. What belongs in a class is in one. -/
theorem Pattern.parseBody_shaped {s : ParserSettings} {body modifiers : String}
    {delimiter : Char} {p : Pattern}
    (h : Pattern.parseBody s body modifiers delimiter = .ok p) :
    (∀ n ∈ p.root.preorder, n.Shaped) ∧
      ∀ above n, (above, n) ∈ p.root.occurrences → n.isMember = true →
        ∃ span negated caseless expr, Node.charClass span negated caseless expr ∈ above := by
  obtain ⟨flags, -, hp⟩ := parseBody_ok h
  obtain ⟨last, hformed⟩ := parseWith_formed hp
  refine ⟨hformed.preorder Formed.shaped shaped_of_classPart, ?_⟩
  intro above n ho hmember
  rcases hformed.outside_or_part ho with ⟨⟨_, _, _, _, hn⟩, -⟩ | ⟨hclass, -⟩
  · rw [hn.isMember] at hmember
    cases hmember
  · exact hclass

theorem Pattern.parseBody_shaped_conditional :
    ∃ p, Pattern.parseBody {} "(?<a>[a-f\\d&&b])(?(?=x|)y{2,3}z|(?C7))" "" '/' = .ok p ∧
      ∀ n ∈ p.root.preorder, n.Shaped := by
  have haccepted : (Pattern.parseBody {} "(?<a>[a-f\\d&&b])(?(?=x|)y{2,3}z|(?C7))" ""
      '/').isOk = true := by cbv
  obtain ⟨p, hp⟩ := exists_of_isOk haccepted
  exact ⟨p, hp, (parseBody_shaped hp).1⟩

end PatternLint
