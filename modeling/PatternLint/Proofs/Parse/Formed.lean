import PatternLint.Proofs.Parse.Move
import PatternLint.Proofs.Tree

/-!
# The trees that the parser forms

Not every tree comes out of the parser. A branch of one item is that item and no
sequence; a group holds the number that was next; a literal under extended syntax
is no blank; what is repeated is something that can be. `Formed` says all of this
about a tree, together with the environment that the tree was read in and the one
behind it, and without a word about tokens or states.

It is the middle of two proofs. Whatever the parser accepts is formed, and
whatever is formed is read back from its tokens.
-/

namespace PatternLint

open Token Unicode Text

/-! ### Atoms -/

namespace Parse.Env

/-- Which blanks are skipped. -/
def spacing (e : Env) : Flags := e.flags &&& Flags.spacing

end Parse.Env

open Parse

/-- A character in a form in which it can be read, inside or outside a class. -/
def LiteralFormed (ctx : Context) (inClass : Bool) (spacing : Flags) (c : Char) :
    LiteralForm → Prop
  | .verbatim =>
    if inClass then
      c ≠ '\\' ∧ (spacing.has Flags.extendedMore = true → c ≠ ' ' ∧ c ≠ '\t')
    else isSyntax c = false ∧ (spacing ≠ 0 → isPatternBlank c = false ∧ c ≠ '#')
  | .quoted => True
  | form => FormWritten ctx inClass c form

theorem Token.FormWritten.literalFormed {ctx : Context} {inClass : Bool} {c : Char}
    {form : LiteralForm} (h : FormWritten ctx inClass c form) (spacing : Flags) :
    LiteralFormed ctx inClass spacing c form := by
  cases form with
  | verbatim | quoted => exact h.elim
  | _ => exact h

/-- A reference that can be read after `count` groups. -/
def RefFormed (count : Nat) : GroupRef → Prop
  | .number n => n ≤ maxNumber
  | .relative i n => i.natAbs ≤ maxDistance ∧ Means count (.relative i) (.relative i n)
  | .name s => isName s.toList = true

/-- An atom outside a class. -/
def Atom.Formed (ctx : Context) (e : Env) : Atom → Prop
  | .empty | .range .. | .posix .. => False
  | .literal c form caseless => caseless = e.caseless ∧ LiteralFormed ctx false e.spacing c form
  | .dot dotAll => dotAll = e.flags.has Flags.dotAll
  | .shorthand kind negated => ShorthandWritten false negated kind
  | .backref ref caseless => caseless = e.caseless ∧ RefFormed e.captures ref ∧
      ∀ i n, ref = .relative i n → i ≤ 0
  | .subroutine .whole => True
  | .subroutine (.group ref) => RefFormed e.captures ref ∧ ref ≠ .number 0
  | .anchor _ multiline => multiline = e.flags.has Flags.multiline
  | .inlineFlags change => ChangeWritten ctx.dialect change
  | .verb name arg => VerbWritten name arg
  | .callout (.number n) => n ≤ 255
  | .callout (.text _) => True
  | .comment text => ')' ∉ text.toList

/-- An atom that is a member of a class. -/
def Atom.MemberFormed (ctx : Context) (spacing : Flags) (caseless : Bool) : Atom → Prop
  | .literal c form caseless' => caseless' = caseless ∧ LiteralFormed ctx true spacing c form
  | .shorthand kind negated => ShorthandWritten true negated kind
  | .posix name _ => (CharSet.posixClasses.any fun p => p.1 == name) = true ∧
      name.toList ≠ [] ∧ name.toList.all isPosixChar = true
  | .range first last => first ≤ last
  | _ => False

/-! ### Classes -/

/-- Members of a class one after another. -/
def MembersFormed (ctx : Context) (spacing : Flags) (caseless : Bool) (ns : List Node) : Prop :=
  ∀ n ∈ ns, ∃ span a, n = .atom span a ∧ a.MemberFormed ctx spacing caseless

/-- A side of a set operation: no member, one, or several as a union. -/
def OperandFormed (ctx : Context) (spacing : Flags) (caseless : Bool) : Node → Prop
  | .atom span a => a = .empty ∨ MembersFormed ctx spacing caseless [.atom span a]
  | .classOp _ .union members => 2 ≤ members.length ∧ MembersFormed ctx spacing caseless members
  | _ => False

/-- What a class holds: a side alone, or an operation whose left side is all that came before. -/
def ClassFormed (ctx : Context) (spacing : Flags) (caseless : Bool) : Node → Prop
  | .classOp _ .union members =>
    OperandFormed ctx spacing caseless (.classOp ⟨0, 0⟩ .union members)
  | .classOp _ _ [left, right] => ctx.dialect.supports .classSetOperations = true ∧
      ClassFormed ctx spacing caseless left ∧ OperandFormed ctx spacing caseless right
  | .atom span a => OperandFormed ctx spacing caseless (.atom span a)
  | _ => False

/-- A node of a class: an operation with its operands, or a member. -/
def Node.ClassPart (ctx : Context) (spacing : Flags) (caseless : Bool) : Node → Prop
  | .classOp _ op operands =>
    (op = .union → 2 ≤ operands.length) ∧ (op ≠ .union → operands.length = 2)
  | .atom _ a => a = .empty ∨ a.MemberFormed ctx spacing caseless
  | _ => False

/-! ### Trees -/

/-- What a node may be where it stands: an item of a branch, a branch, or all that stands between
two parentheses, where branches may be numbered `alike`. -/
inductive Role where
  | item
  | branch
  | body (alike : Bool)
deriving DecidableEq

/-- What is before the body of a group, with the environment inside it. -/
def HeadFormed (ctx : Context) (e : Env) (head : GroupHead) (inner : Env) : Prop :=
  ∃ opener, OpenerWritten ctx.dialect opener ∧ OpensGroup e opener head inner

/-- Whether a node can be repeated, if the counts are in braces. -/
def Node.isRepeatable : Node → Bool
  | .atom _ a => !a.isZeroWidth
  | .define .. => false
  | _ => true

/-- An assertion that can be the test of a conditional. -/
def Node.IsTest (n : Node) : Prop :=
  ∃ span look body, n = .group span { kind := .look look } body ∧ look.isAtomic = true

mutual
/-- A tree that the parser forms `depth` parentheses deep, from one environment to another. -/
def Formed (ctx : Context) (limit : Nat) : Node → Nat → Role → Env → Env → Prop
  | .atom _ a, _, role, e, e' =>
    (a = .empty ∧ role ≠ .item ∧ e' = e) ∨ (a.Formed ctx e ∧ e' = e.after a)
  | .sequence _ items, depth, role, e, e' =>
    role ≠ .item ∧ 2 ≤ items.length ∧ FormedAll ctx limit items depth .item e e'
  | .alternation _ branches, depth, role, e, e' =>
    2 ≤ branches.length ∧
      ((role = .body false ∧ FormedAll ctx limit branches depth .branch e e') ∨
        (role = .body true ∧ ∃ high last,
          FormedAlike ctx limit branches depth e.captures e.captures high e last ∧
            e' = { last with captures := high }))
  | .group _ head body, depth, _, e, e' =>
    depth + 1 ≤ limit ∧ ∃ inner last, HeadFormed ctx e head inner ∧
      Formed ctx limit body (depth + 1) (.body (head.kind == .branchReset)) inner last ∧
      e' = { last with flags := e.flags }
  | .quantifier _ count target, depth, _, e, e' =>
    CountWritten count ∧ count.allows count.min = true ∧ target.isRepeatable = true ∧
      Formed ctx limit target depth .item e e'
  | .charClass _ _ caseless expr, _, _, e, e' =>
    e' = e ∧ caseless = e.caseless ∧ ClassFormed ctx e.spacing caseless expr
  | .classOp .., _, _, _, _ => False
  | .conditional _ test yes no, depth, _, e, e' =>
    depth + 1 ≤ limit ∧ ∃ inner mid last, FormedTest ctx limit test (depth + 1) e inner ∧
      Formed ctx limit yes (depth + 1) .branch inner mid ∧
      FormedOptional ctx limit no (depth + 1) mid last ∧ e' = { last with flags := e.flags }
  | .define _ body, depth, _, e, e' =>
    depth + 1 ≤ limit ∧ ∃ last, Formed ctx limit body (depth + 1) .branch e last ∧
      e' = { last with flags := e.flags }
/-- Trees that are formed one after another. -/
def FormedAll (ctx : Context) (limit : Nat) : List Node → Nat → Role → Env → Env → Prop
  | [], _, _, e, e' => e' = e
  | n :: ns, depth, role, e, e' => ∃ mid, Formed ctx limit n depth role e mid ∧
      FormedAll ctx limit ns depth role mid e'
/-- Branches that are all numbered from `base` on; the highest number that one of them comes to is
kept. -/
def FormedAlike (ctx : Context) (limit : Nat) :
    List Node → Nat → (base high high' : Nat) → Env → Env → Prop
  | [], _, _, high, high', e, e' => high' = high ∧ e' = e
  | n :: ns, depth, base, high, high', e, e' => ∃ mid,
      Formed ctx limit n depth .branch { e with captures := base } mid ∧
      FormedAlike ctx limit ns depth base (max high mid.captures) high' mid e'
/-- The test of a conditional. -/
def FormedTest (ctx : Context) (limit : Nat) : Condition Node → Nat → Env → Env → Prop
  | .assertion a, depth, e, e' => a.IsTest ∧ Formed ctx limit a depth .item e e'
  | .group ref, _, e, e' => e' = e ∧ RefFormed e.captures ref ∧
      ∀ s, ref = .name s → checkName s.toList = .ok ()
  | .recursion, _, e, e' => e' = e
  | .recursionGroup n, _, e, e' => e' = e ∧ n ≤ maxNumber
  | .recursionName s, _, e, e' => e' = e ∧ checkName s.toList = .ok ()
/-- A second branch that may be missing. -/
def FormedOptional (ctx : Context) (limit : Nat) : Option Node → Nat → Env → Env → Prop
  | none, _, e, e' => e' = e
  | some n, depth, e, e' => Formed ctx limit n depth .branch e e'
end

section Lemmas

variable {ctx : Context} {limit depth : Nat} {role : Role} {n : Node} {ns ms : List Node}
  {e e' e'' : Env}

theorem formedAll_append :
    FormedAll ctx limit (ns ++ ms) depth role e e'' ↔
      ∃ e', FormedAll ctx limit ns depth role e e' ∧ FormedAll ctx limit ms depth role e' e'' := by
  induction ns generalizing e with
  | nil => simp [FormedAll]
  | cons n ns ih =>
      simp only [List.cons_append, FormedAll, ih]
      constructor
      · rintro ⟨mid, hn, e', hns, hms⟩
        exact ⟨e', ⟨mid, hn, hns⟩, hms⟩
      · rintro ⟨e', ⟨mid, hn, hns⟩, hms⟩
        exact ⟨mid, hn, e', hns, hms⟩

theorem formedAll_singleton :
    FormedAll ctx limit [n] depth role e e' ↔ Formed ctx limit n depth role e e' := by
  simp [FormedAll]

theorem FormedAll.mem (h : FormedAll ctx limit ns depth role e e') :
    ∀ c ∈ ns, ∃ e₁ e₂, Formed ctx limit c depth role e₁ e₂ := by
  induction ns generalizing e with
  | nil => simp
  | cons n ns ih =>
      obtain ⟨mid, hn, hns⟩ := h
      exact List.forall_mem_cons.mpr ⟨⟨e, mid, hn⟩, ih hns⟩

theorem FormedAlike.mem {base high high' : Nat}
    (h : FormedAlike ctx limit ns depth base high high' e e') :
    ∀ c ∈ ns, ∃ e₁ e₂, Formed ctx limit c depth .branch e₁ e₂ := by
  induction ns generalizing e high with
  | nil => simp
  | cons n ns ih =>
      obtain ⟨mid, hn, hns⟩ := h
      exact List.forall_mem_cons.mpr ⟨⟨_, mid, hn⟩, ih hns⟩

/-- One more branch, numbered like those before it. -/
theorem formedAlike_snoc {base high high' : Nat}
    (hns : FormedAlike ctx limit ns depth base high high' e e')
    (hn : Formed ctx limit n depth .branch { e' with captures := base } e'') :
    FormedAlike ctx limit (ns ++ [n]) depth base high (max high' e''.captures) e e'' := by
  induction ns generalizing e high with
  | nil =>
      obtain ⟨rfl, rfl⟩ := hns
      exact ⟨e'', hn, rfl, rfl⟩
  | cons m ms ih =>
      obtain ⟨mid, hm, hms⟩ := hns
      exact ⟨mid, hm, ih hms⟩

/-- An item may stand wherever a branch may, and a branch wherever a body may. -/
theorem Formed.of_item (h : Formed ctx limit n depth .item e e') (role : Role) :
    Formed ctx limit n depth role e e' := by
  cases n with
  | atom s a =>
      rcases h with ⟨-, hne, -⟩ | h
      · exact absurd rfl hne
      · exact .inr h
  | sequence s items => exact absurd rfl h.1
  | alternation s branches => rcases h.2 with ⟨h, -⟩ | ⟨h, -⟩ <;> cases h
  | _ => exact h

theorem Formed.of_branch (h : Formed ctx limit n depth .branch e e') (alike : Bool) :
    Formed ctx limit n depth (.body alike) e e' := by
  cases n with
  | atom s a =>
      rcases h with ⟨ha, -, he⟩ | h
      · exact .inl ⟨ha, by simp, he⟩
      · exact .inr h
  | sequence s items => exact ⟨by simp, h.2⟩
  | alternation s branches => rcases h.2 with ⟨h, -⟩ | ⟨h, -⟩ <;> cases h
  | _ => exact h

/-- The children of a node are formed too, or are what a class holds. -/
theorem Formed.child (h : Formed ctx limit n depth role e e') :
    ∀ c ∈ n.children, (∃ depth role e₁ e₂, Formed ctx limit c depth role e₁ e₂) ∨
      ∃ s negated spacing caseless, n = .charClass s negated caseless c ∧
        ClassFormed ctx spacing caseless c := by
  intro c hc
  cases n with
  | atom s a => simp [Node.children] at hc
  | sequence s items =>
      obtain ⟨e₁, e₂, hc⟩ := h.2.2.mem c hc
      exact .inl ⟨_, _, e₁, e₂, hc⟩
  | alternation s branches =>
      rcases h.2 with ⟨-, h⟩ | ⟨-, high, last, h, -⟩
      · obtain ⟨e₁, e₂, hc⟩ := h.mem c hc
        exact .inl ⟨_, _, e₁, e₂, hc⟩
      · obtain ⟨e₁, e₂, hc⟩ := h.mem c hc
        exact .inl ⟨_, _, e₁, e₂, hc⟩
  | group s head body =>
      obtain ⟨-, inner, last, -, hbody, -⟩ := h
      obtain rfl : c = body := by simpa [Node.children] using hc
      exact .inl ⟨_, _, inner, last, hbody⟩
  | quantifier s count target =>
      obtain rfl : c = target := by simpa [Node.children] using hc
      exact .inl ⟨_, _, e, e', h.2.2.2⟩
  | charClass s neg caseless expr =>
      obtain rfl : c = expr := by simpa [Node.children] using hc
      exact .inr ⟨s, neg, _, caseless, rfl, h.2.2⟩
  | classOp s op operands => exact h.elim
  | conditional s test yes no =>
      obtain ⟨-, inner, mid, last, htest, hyes, hno, -⟩ := h
      simp only [Node.children, List.mem_append, List.mem_cons, Option.mem_toList] at hc
      rcases hc with hc | rfl | hc
      · cases test with
        | assertion a =>
            obtain rfl : c = a := by simpa [Node.conditionChildren] using hc
            exact .inl ⟨_, _, e, inner, htest.2⟩
        | _ => simp [Node.conditionChildren] at hc
      · exact .inl ⟨_, _, inner, mid, hyes⟩
      · cases no with
        | none => cases hc
        | some m =>
            cases hc
            exact .inl ⟨_, _, mid, last, hno⟩
  | define s body =>
      obtain ⟨-, last, hbody, -⟩ := h
      obtain rfl : c = body := by simpa [Node.children] using hc
      exact .inl ⟨_, _, e, last, hbody⟩

/-- An operation other than a union has two operands. -/
theorem ClassFormed.operation {spacing : Flags} {caseless : Bool} {s : Span} {op : ClassOp}
    {operands : List Node} (h : ClassFormed ctx spacing caseless (.classOp s op operands))
    (hop : op ≠ .union) :
    ∃ l r, operands = [l, r] ∧ ctx.dialect.supports .classSetOperations = true ∧
      ClassFormed ctx spacing caseless l ∧ OperandFormed ctx spacing caseless r := by
  cases op with
  | union => exact absurd rfl hop
  | _ =>
      cases operands with
      | nil => exact h.elim
      | cons l rest =>
          cases rest with
          | nil => exact h.elim
          | cons r rest =>
              cases rest with
              | nil => exact ⟨l, r, rfl, h⟩
              | cons => exact h.elim

/-- All nodes of a class are operations or members. -/
theorem ClassFormed.preorder {spacing : Flags} {caseless : Bool}
    (h : ClassFormed ctx spacing caseless n) : ∀ m ∈ n.preorder, m.ClassPart ctx spacing caseless := by
  have hatom : ∀ {s : Span} {a : Atom}, (a = .empty ∨ a.MemberFormed ctx spacing caseless) →
      ∀ m ∈ (Node.atom s a).preorder, m.ClassPart ctx spacing caseless := by
    intro s a ha m hm
    rcases Node.mem_preorder.mp hm with rfl | ⟨c, hc, -⟩
    · exact ha
    · simp [Node.children] at hc
  have hoperand : ∀ {n : Node}, OperandFormed ctx spacing caseless n →
      ∀ m ∈ n.preorder, m.ClassPart ctx spacing caseless := by
    intro n hn m hm
    cases n with
    | atom s a =>
        refine hatom ?_ m hm
        rcases hn with ha | hn
        · exact .inl ha
        · obtain ⟨s', a', hs, ha⟩ := hn (.atom s a) (by simp)
          cases hs
          exact .inr ha
    | classOp s op members =>
        cases op with
        | union =>
            rcases Node.mem_preorder.mp hm with rfl | ⟨c, hc, hm⟩
            · exact ⟨fun _ => hn.1, fun hop => absurd rfl hop⟩
            · obtain ⟨s', a, rfl, ha⟩ := hn.2 c hc
              exact hatom (.inr ha) m hm
        | _ => exact hn.elim
    | _ => exact hn.elim
  induction n using Node.children_induction with
  | h n ih =>
      cases n with
      | atom s a => exact hoperand h
      | classOp s op operands =>
          by_cases hop : op = .union
          · subst hop
            exact hoperand h
          · obtain ⟨l, r, rfl, -, hl, hr⟩ := h.operation hop
            intro m hm
            rcases Node.mem_preorder.mp hm with rfl | ⟨c, hc, hc'⟩
            · exact ⟨fun hu => absurd hu hop, fun _ => rfl⟩
            · simp only [Node.children, List.mem_cons, List.not_mem_nil, or_false] at hc
              rcases hc with rfl | rfl
              · exact ih c (by simp [Node.children]) hl m hc'
              · exact hoperand hr m hc'
      | _ => exact h.elim

/-- A node of a formed tree is formed itself, or it belongs to a class with all that is below it. -/
theorem Formed.formed_or_part (h : Formed ctx limit n depth role e e') {m : Node}
    (hm : m ∈ n.preorder) :
    (∃ depth role e e', Formed ctx limit m depth role e e') ∨
      ∃ spacing caseless, ∀ k ∈ m.preorder, k.ClassPart ctx spacing caseless := by
  induction n using Node.children_induction generalizing depth role e e' with
  | h n ih =>
      rcases Node.mem_preorder.mp hm with rfl | ⟨c, hc, hm⟩
      · exact .inl ⟨depth, role, e, e', h⟩
      · rcases h.child c hc with ⟨_, _, _, _, hc'⟩ | ⟨_, _, spacing, caseless, -, hc'⟩
        · exact ih c hc hc' hm
        · exact .inr ⟨spacing, caseless, fun k hk =>
            hc'.preorder k (Node.mem_preorder_trans hm hk)⟩

/-- What holds of formed nodes and of the parts of classes holds of all nodes of a formed tree. -/
theorem Formed.preorder {P : Node → Prop} (h : Formed ctx limit n depth role e e')
    (hformed : ∀ {m : Node} {depth : Nat} {role : Role} {e e' : Env},
      Formed ctx limit m depth role e e' → P m)
    (hpart : ∀ {m : Node} {spacing : Flags} {caseless : Bool},
      m.ClassPart ctx spacing caseless → P m) : ∀ m ∈ n.preorder, P m := by
  intro m hm
  rcases h.formed_or_part hm with ⟨_, _, _, _, hm'⟩ | ⟨spacing, caseless, hm'⟩
  · exact hformed hm'
  · exact hpart (hm' m m.self_mem_preorder)

theorem OpensGroup.captures_le {opener : Opener} {head : GroupHead}
    (h : OpensGroup e opener head e') : e.captures ≤ e'.captures := by
  cases h <;> simp

theorem Env.after_captures (e : Env) (a : Atom) : (e.after a).captures = e.captures := by
  unfold Env.after
  split <;> rfl

/-- The number of groups never falls. -/
theorem Formed.captures_le (h : Formed ctx limit n depth role e e') : e.captures ≤ e'.captures := by
  induction n using Node.children_induction generalizing depth role e e' with
  | h n ih =>
      have hall : ∀ {ns : List Node} {depth : Nat} {role : Role} {e e' : Env},
          (∀ c ∈ ns, c ∈ n.children) → FormedAll ctx limit ns depth role e e' →
          e.captures ≤ e'.captures := by
        intro ns
        induction ns with
        | nil =>
            rintro depth role e e' - rfl
            exact Nat.le_refl _
        | cons m ms ihms =>
            rintro depth role e e' hsub ⟨mid, hm, hms⟩
            exact Nat.le_trans (ih m (hsub m (by simp)) hm)
              (ihms (fun c hc => hsub c (by simp [hc])) hms)
      have halike : ∀ {ns : List Node} {depth base high high' : Nat} {e e' : Env},
          FormedAlike ctx limit ns depth base high high' e e' → high ≤ high' := by
        intro ns
        induction ns with
        | nil =>
            rintro depth base high high' e e' ⟨rfl, -⟩
            exact Nat.le_refl _
        | cons m ms ihms =>
            rintro depth base high high' e e' ⟨mid, -, hms⟩
            exact Nat.le_trans (Nat.le_max_left _ _) (ihms hms)
      cases n with
      | atom s a =>
          rcases h with ⟨-, -, rfl⟩ | ⟨-, rfl⟩
          · exact Nat.le_refl _
          · exact Nat.le_of_eq (Env.after_captures e a).symm
      | sequence s items => exact hall (fun c hc => hc) h.2.2
      | alternation s branches =>
          rcases h.2 with ⟨-, hb⟩ | ⟨-, high, last, hb, rfl⟩
          · exact hall (fun c hc => hc) hb
          · exact halike hb
      | group s head body =>
          obtain ⟨-, inner, last, ⟨opener, -, ho⟩, hbody, rfl⟩ := h
          have hle : inner.captures ≤ last.captures := ih body (by simp [Node.children]) hbody
          exact Nat.le_trans (OpensGroup.captures_le ho) hle
      | quantifier s count target => exact ih target (by simp [Node.children]) h.2.2.2
      | charClass s neg caseless expr => exact Nat.le_of_eq (congrArg Env.captures h.1.symm)
      | classOp s op operands => exact h.elim
      | conditional s test yes no =>
          obtain ⟨-, inner, mid, last, htest, hyes, hno, rfl⟩ := h
          have h1 : e.captures ≤ inner.captures := by
            cases test with
            | assertion a => exact ih a (by simp [Node.children, Node.conditionChildren]) htest.2
            | recursion => exact Nat.le_of_eq (congrArg Env.captures htest.symm)
            | _ => exact Nat.le_of_eq (congrArg Env.captures htest.1.symm)
          have h2 := ih yes (by simp [Node.children]) hyes
          have h3 : mid.captures ≤ last.captures := by
            cases no with
            | none => exact Nat.le_of_eq (congrArg Env.captures hno.symm)
            | some n => exact ih n (by simp [Node.children]) hno
          exact Nat.le_trans h1 (Nat.le_trans h2 h3)
      | define s body =>
          obtain ⟨-, last, hbody, rfl⟩ := h
          have hle : e.captures ≤ last.captures := ih body (by simp [Node.children]) hbody
          exact hle

end Lemmas

end PatternLint
