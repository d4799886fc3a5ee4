import PatternLint.Proofs.Parse.Formed

/-!
# The groups behind an environment

While a tree is read, the environment counts the groups that have been opened and
keeps their names. Nothing in an environment says that these groups are there.
`Adds` does: between the environment before a tree and the one behind it, the
numbers that were counted and the names that were kept are just those of the groups
in the tree.

Branches that are numbered alike all start from the same count, and this is the
one case in which the count of the last branch is not that of the tree.

What a tree does to its environment is the sum of what its nodes do, in the order in
which they are read. `Followed` lists what is to be shown of a single node, and the way
through the tree is gone once, for everything that can be followed so.
-/

namespace PatternLint

open Token Unicode Text Parse

/-- A relation between two environments and the nodes between them that can be followed from node
to node. Branches that are numbered alike start from one count. -/
structure Followed (ctx : Context) (P : List Node → Env → Env → Prop) : Prop where
  nil (e : Env) : P [] e e
  append {ns ms : List Node} {e e' e'' : Env} (h : P ns e e') (h' : P ms e' e'') :
    P (ns ++ ms) e e''
  alike {ns ms : List Node} {e e' e'' : Env} {high : Nat} (h : P ns e { e' with captures := high })
    (h' : P ms { e' with captures := e.captures } e'') :
    P (ns ++ ms) e { e'' with captures := max high e''.captures }
  reflag {ns : List Node} {e e' : Env} (h : P ns e e') : P ns e { e' with flags := e.flags }
  atom (span : Span) (a : Atom) (e : Env) : P [.atom span a] e (e.after a)
  group {head : GroupHead} {e inner : Env} (span : Span) (body : Node)
    (h : HeadFormed ctx e head inner) : P [.group span head body] e inner
  other {n : Node} (e : Env) (hatom : ∀ span a, n ≠ .atom span a)
    (hgroup : ∀ span head body, n ≠ .group span head body) : P [n] e e

section Followed

variable {ctx : Context} {P : List Node → Env → Env → Prop} {limit depth : Nat} {role : Role}
  {n : Node} {ns : List Node} {e e' : Env}

/-- A tree that can be followed, in whatever role it is formed. -/
def Followable (ctx : Context) (limit : Nat) (P : List Node → Env → Env → Prop) (n : Node) : Prop :=
  ∀ {depth : Nat} {role : Role} {e e' : Env}, Formed ctx limit n depth role e e' →
    P n.preorder e e'

theorem Followed.formedAll (hP : Followed ctx P) (hns : ∀ c ∈ ns, Followable ctx limit P c)
    (h : FormedAll ctx limit ns depth role e e') : P (ns.flatMap Node.preorder) e e' := by
  induction ns generalizing e with
  | nil =>
      obtain rfl := h
      exact hP.nil _
  | cons n ns ih =>
      obtain ⟨mid, hn, hrest⟩ := h
      exact hP.append (hns n (by simp) hn) (ih (fun c hc => hns c (by simp [hc])) hrest)

theorem Followed.formedAlike {base high high' : Nat} {before : List Node} {start : Env}
    (hP : Followed ctx P) (hns : ∀ c ∈ ns, Followable ctx limit P c)
    (hbase : start.captures = base) (hbefore : P before start { e with captures := high })
    (h : FormedAlike ctx limit ns depth base high high' e e') :
    P (before ++ ns.flatMap Node.preorder) start { e' with captures := high' } := by
  induction ns generalizing e high before with
  | nil =>
      obtain ⟨rfl, rfl⟩ := h
      simpa using hbefore
  | cons n ns ih =>
      obtain ⟨mid, hn, hrest⟩ := h
      subst hbase
      have hmid := hP.alike hbefore (hns n (by simp) hn)
      simpa using ih (fun c hc => hns c (by simp [hc])) hmid hrest

/-- Nothing in a class changes the environment. -/
theorem Followed.classParts {spacing : Flags} {caseless : Bool} (hP : Followed ctx P)
    (hns : ∀ m ∈ ns, m.ClassPart ctx spacing caseless) : P ns e e := by
  induction ns with
  | nil => exact hP.nil e
  | cons n ns ih =>
      obtain ⟨hn, hns⟩ := List.forall_mem_cons.mp hns
      suffices hself : P [n] e e from hP.append hself (ih hns)
      cases n with
      | atom s a =>
          have hafter : e.after a = e := by
            rcases hn with rfl | hn
            · rfl
            · cases a with
              | inlineFlags change => exact hn.elim
              | _ => rfl
          have hself := hP.atom s a e
          rwa [hafter] at hself
      | classOp s op operands => exact hP.other e (by simp) (by simp)
      | _ => exact hn.elim

/-- A relation that can be followed holds between the environments before and behind every tree
that is formed. -/
theorem Followed.formed (hP : Followed ctx P) (h : Formed ctx limit n depth role e e') :
    P n.preorder e e' := by
  suffices hall : ∀ n, Followable ctx limit P n from hall n h
  clear h
  intro n
  induction n using Node.children_induction with
  | h n ih =>
      intro depth role e e' h
      have hbelow : (∀ span a, n ≠ .atom span a) → (∀ span head body, n ≠ .group span head body) →
          ∀ {e e' : Env}, P (n.children.flatMap Node.preorder) e e' → P n.preorder e e' := by
        intro hatom hgroup e e' hchildren
        rw [Node.preorder_eq]
        exact hP.append (hP.other e hatom hgroup) hchildren
      cases n with
      | atom s a =>
          rw [Node.preorder_eq]
          rcases h with ⟨rfl, -, rfl⟩ | ⟨-, rfl⟩
          · exact hP.atom s .empty _
          · exact hP.atom s a e
      | sequence s items => exact hbelow (by simp) (by simp) (hP.formedAll ih h.2.2)
      | alternation s branches =>
          rcases h.2 with ⟨-, hall⟩ | ⟨-, high, last, hall, rfl⟩
          · exact hbelow (by simp) (by simp) (hP.formedAll ih hall)
          · exact hbelow (by simp) (by simp) (hP.formedAlike ih rfl (hP.nil e) hall)
      | group s head body =>
          obtain ⟨-, inner, last, hhead, hbody, rfl⟩ := h
          have hbody : P body.preorder inner last := ih body (by simp [Node.children]) hbody
          rw [Node.preorder_eq]
          simpa [Node.children] using hP.reflag (hP.append (hP.group s body hhead) hbody)
      | quantifier s count target =>
          have htarget : P target.preorder e e' := ih target (by simp [Node.children]) h.2.2.2
          exact hbelow (by simp) (by simp) (by simpa [Node.children] using htarget)
      | charClass s neg caseless expr =>
          obtain ⟨rfl, -, hexpr⟩ := h
          have hparts : P expr.preorder e' e' := hP.classParts hexpr.preorder
          exact hbelow (by simp) (by simp) (by simpa [Node.children] using hparts)
      | classOp s op operands => exact h.elim
      | conditional s test yes no =>
          obtain ⟨-, inner, mid, last, htest, hyes, hno, rfl⟩ := h
          have hyes : P yes.preorder inner mid := ih yes (by simp [Node.children]) hyes
          have htest : P ((Node.conditionChildren test).flatMap Node.preorder) e inner := by
            cases test with
            | assertion a =>
                simpa [Node.conditionChildren] using
                  ih a (by simp [Node.children, Node.conditionChildren]) htest.2
            | recursion =>
                obtain rfl := htest
                exact hP.nil _
            | _ =>
                obtain ⟨rfl, -⟩ := htest
                exact hP.nil _
          have hno : P (no.toList.flatMap Node.preorder) mid last := by
            cases no with
            | none =>
                obtain rfl := hno
                exact hP.nil _
            | some m => simpa using ih m (by simp [Node.children]) hno
          refine hbelow (by simp) (by simp) ?_
          simpa [Node.children] using hP.reflag (hP.append htest (hP.append hyes hno))
      | define s body =>
          obtain ⟨-, last, hbody, rfl⟩ := h
          have hbody : P body.preorder e last := ih body (by simp [Node.children]) hbody
          exact hbelow (by simp) (by simp) (by simpa [Node.children] using hP.reflag hbody)

end Followed

/-! ### Names and numbers -/

/-- Nodes whose named groups are all there is between an old list of names and a new one. -/
structure AddsNames (ns : List Node) (old new : List (String × Nat)) : Prop where
  kept : ∀ g ∈ old, g ∈ new
  found : ∀ g ∈ new, g ∈ old ∨ ∃ span head body, Node.group span head body ∈ ns ∧
    head.kind = .named ∧ head.name = some g.1 ∧ checkName g.1.toList = .ok ()
  recorded : ∀ span head body, Node.group span head body ∈ ns → head.kind = .named →
    ∀ name ∈ head.name, ∃ g ∈ new, g.1 = name

theorem AddsNames.append {ns ms : List Node} {old mid new : List (String × Nat)}
    (h : AddsNames ns old mid) (h' : AddsNames ms mid new) : AddsNames (ns ++ ms) old new := by
  refine ⟨fun g hg => h'.kept g (h.kept g hg), ?_, ?_⟩
  · intro g hg
    rcases h'.found g hg with hg | ⟨span, head, body, hm, hnamed⟩
    · rcases h.found g hg with hg | ⟨span, head, body, hm, hnamed⟩
      · exact .inl hg
      · exact .inr ⟨span, head, body, List.mem_append_left _ hm, hnamed⟩
    · exact .inr ⟨span, head, body, List.mem_append_right _ hm, hnamed⟩
  · intro span head body hm hk name hname
    rcases List.mem_append.mp hm with hm | hm
    · obtain ⟨g, hg, rfl⟩ := h.recorded span head body hm hk name hname
      exact ⟨g, h'.kept g hg, rfl⟩
    · exact h'.recorded span head body hm hk name hname

/-- Nodes whose groups are all there is between two environments. -/
structure Adds (ns : List Node) (e e' : Env) : Prop where
  le : e.captures ≤ e'.captures
  found : ∀ k, e.captures < k → k ≤ e'.captures →
    ∃ span head body, Node.group span head body ∈ ns ∧ head.number = some k
  counted : ∀ span head body, Node.group span head body ∈ ns → ∀ k ∈ head.number,
    e.captures < k ∧ k ≤ e'.captures
  names : AddsNames ns e.names e'.names

section Adds

variable {ns ms : List Node} {n : Node} {e e' e'' : Env}

/-- Nodes without a group leave count and names as they are. -/
theorem adds_of_eq (hns : ∀ span head body, Node.group span head body ∉ ns)
    (hcaptures : e'.captures = e.captures) (hnames : e'.names = e.names) : Adds ns e e' := by
  refine ⟨Nat.le_of_eq hcaptures.symm, fun k hlt hle => by omega,
    fun _ _ _ hm => absurd hm (hns _ _ _), ?_⟩
  rw [hnames]
  exact ⟨fun g hg => hg, fun g hg => .inl hg, fun _ _ _ hm => absurd hm (hns _ _ _)⟩

theorem Adds.append (h : Adds ns e e') (h' : Adds ms e' e'') : Adds (ns ++ ms) e e'' := by
  refine ⟨Nat.le_trans h.le h'.le, ?_, ?_, h.names.append h'.names⟩
  · intro k hlt hle
    rcases Nat.lt_or_ge e'.captures k with hk | hk
    · obtain ⟨span, head, body, hm, hnumber⟩ := h'.found k hk hle
      exact ⟨span, head, body, List.mem_append_right _ hm, hnumber⟩
    · obtain ⟨span, head, body, hm, hnumber⟩ := h.found k hlt hk
      exact ⟨span, head, body, List.mem_append_left _ hm, hnumber⟩
  · intro span head body hm k hk
    have hle := h.le
    have hle' := h'.le
    rcases List.mem_append.mp hm with hm | hm
    · have := h.counted span head body hm k hk
      omega
    · have := h'.counted span head body hm k hk
      omega

/-- One more branch that is numbered like those before it. -/
theorem Adds.alike {high : Nat} (h : Adds ns e { e' with captures := high })
    (h' : Adds ms { e' with captures := e.captures } e'') :
    Adds (ns ++ ms) e { e'' with captures := max high e''.captures } := by
  refine ⟨Nat.le_trans h.le (Nat.le_max_left _ _), ?_, ?_, h.names.append h'.names⟩
  · intro k hlt hle
    have hle : k ≤ max high e''.captures := hle
    rcases Nat.lt_or_ge high k with hk | hk
    · obtain ⟨span, head, body, hm, hnumber⟩ := h'.found k hlt (by omega)
      exact ⟨span, head, body, List.mem_append_right _ hm, hnumber⟩
    · obtain ⟨span, head, body, hm, hnumber⟩ := h.found k hlt hk
      exact ⟨span, head, body, List.mem_append_left _ hm, hnumber⟩
  · intro span head body hm k hk
    rcases List.mem_append.mp hm with hm | hm
    · obtain ⟨hlt, hle⟩ := h.counted span head body hm k hk
      exact ⟨hlt, Nat.le_trans hle (Nat.le_max_left _ _)⟩
    · obtain ⟨hlt, hle⟩ := h'.counted span head body hm k hk
      exact ⟨hlt, Nat.le_trans hle (Nat.le_max_right _ _)⟩

/-- Which flags are in force does not matter to groups. -/
theorem Adds.reflag (h : Adds ns e e') (flags : Flags) : Adds ns e { e' with flags } :=
  ⟨h.le, h.found, h.counted, h.names⟩

theorem Env.after_names (e : Env) (a : Atom) : (e.after a).names = e.names := by
  unfold Env.after
  split <;> rfl

/-- What is needed for a name to be added: no other name has the number, the first group of the name
is another one, and there is none unless duplicates are allowed. -/
structure Parse.Env.Admits (e : Env) (name : String) (number : Nat) : Prop where
  numbered : ∀ g ∈ e.names, g.2 = number → g.1 = name
  fresh : e.names.find? (fun g => g.1 == name) ≠ some (name, number)
  apart : e.flags.has Flags.duplicateNames = false → ∀ g ∈ e.names, g.1 ≠ name

/-- A name that is registered is the first of that name already, or it is admitted and added. -/
theorem register_eq_some_iff {name : String} {number : Nat} {names : List (String × Nat)} :
    e.register name number = some names ↔
      (e.names.find? (fun g => g.1 == name) = some (name, number) ∧ names = e.names) ∨
      (e.Admits name number ∧ names = e.names ++ [(name, number)]) := by
  have hadd : (if e.names.any fun g => g.2 == number && g.1 != name then none
        else some (e.names ++ [(name, number)])) = some names ↔
      (∀ g ∈ e.names, g.2 = number → g.1 = name) ∧ names = e.names ++ [(name, number)] := by
    split
    · next hany =>
        obtain ⟨g, hg, hnumber, hname⟩ : ∃ g ∈ e.names, g.2 = number ∧ g.1 ≠ name := by
          simpa using hany
        simp only [reduceCtorEq, false_iff, not_and]
        exact fun hall => absurd (hall g hg hnumber) hname
    · next hany =>
        have hall : ∀ g ∈ e.names, g.2 = number → g.1 = name := by
          intro g hg hnumber
          refine Classical.byContradiction fun hname => hany ?_
          exact List.any_eq_true.mpr ⟨g, hg, by simp [hnumber, hname]⟩
        simp only [Option.some.injEq]
        exact ⟨fun h => ⟨hall, h.symm⟩, fun h => h.2.symm⟩
  unfold Env.register
  simp only
  split
  · next old existing hfind =>
      obtain rfl : old = name := by simpa using List.find?_some hfind
      have hmem := List.mem_of_find?_eq_some hfind
      by_cases hnumber : existing = number
      · subst hnumber
        simp only [↓reduceIte, Option.some.injEq]
        exact ⟨fun h => .inl ⟨hfind, h.symm⟩,
          fun h => h.elim (fun h => h.2.symm) fun h => absurd hfind h.1.fresh⟩
      · have hfresh : e.names.find? (fun g => g.1 == old) ≠ some (old, number) := by
          simp [hfind, hnumber]
        by_cases hdup : e.flags.has Flags.duplicateNames = true
        · simp only [hnumber, hdup, ↓reduceIte]
          rw [hadd]
          exact ⟨fun h => .inr ⟨⟨h.1, hfresh, by simp [hdup]⟩, h.2⟩,
            fun h => h.elim (fun h => absurd h.1 hfresh) fun h => ⟨h.1.numbered, h.2⟩⟩
        · simp only [hnumber, hdup, ↓reduceIte, reduceCtorEq, false_iff, not_or]
          refine ⟨fun h => hfresh h.1, fun h => ?_⟩
          exact h.1.apart (Bool.eq_false_iff.mpr hdup) _ hmem rfl
  · next hfind =>
      have hnone : ∀ g ∈ e.names, g.1 ≠ name := by simpa using List.find?_eq_none.mp hfind
      rw [hadd]
      exact ⟨fun h => .inr ⟨⟨h.1, by simp [hfind], fun _ => hnone⟩, h.2⟩,
        fun h => h.elim (fun h => absurd h.1 (by simp [hfind])) fun h => ⟨h.1.numbered, h.2⟩⟩

/-- A named group adds its name. -/
theorem addsNames_register {span : Span} {head : GroupHead} {body : Node} {name : String}
    {number : Nat} {names : List (String × Nat)} (h : e.register name number = some names)
    (hk : head.kind = .named) (hn : head.name = some name) (hw : checkName name.toList = .ok ()) :
    AddsNames [.group span head body] e.names names := by
  have hrecorded : (name, number) ∈ names → ∀ span' head' body',
      Node.group span' head' body' ∈ [Node.group span head body] → head'.kind = .named →
      ∀ name ∈ head'.name, ∃ g ∈ names, g.1 = name := by
    intro hmem span' head' body' hm _ name' hname
    cases List.mem_singleton.mp hm
    rw [hn] at hname
    cases hname
    exact ⟨_, hmem, rfl⟩
  rcases register_eq_some_iff.mp h with ⟨hfind, rfl⟩ | ⟨-, rfl⟩
  · exact ⟨fun g hg => hg, fun g hg => .inl hg, hrecorded (List.mem_of_find?_eq_some hfind)⟩
  · refine ⟨fun g hg => by simp [hg], fun g hg => ?_, hrecorded (by simp)⟩
    rcases List.mem_append.mp hg with hg | hg
    · exact .inl hg
    · obtain rfl := List.mem_singleton.mp hg
      exact .inr ⟨span, head, body, by simp, hk, hn, hw⟩

/-- A group adds what its head opens. -/
theorem adds_head {ctx : Context} {span : Span} {head : GroupHead} {body : Node} {inner : Env}
    (hhead : HeadFormed ctx e head inner) : Adds [.group span head body] e inner := by
  obtain ⟨opener, hwritten, hopens⟩ := hhead
  have hunnamed : ∀ {head : GroupHead}, head.kind ≠ .named →
      AddsNames [.group span head body] e.names e.names := by
    intro head hk
    refine ⟨fun g hg => hg, fun g hg => .inl hg, fun span' head' body' hm hk' => ?_⟩
    cases List.mem_singleton.mp hm
    exact absurd hk' hk
  have hplain : ∀ {kind : GroupKind} {flags : Flags}, kind ≠ .named →
      Adds [.group span { kind } body] e { e with flags } := by
    intro kind flags hk
    refine ⟨Nat.le_refl _, fun k hlt hle => absurd hle (Nat.not_le.mpr hlt), ?_, hunnamed hk⟩
    intro span' head' body' hm k hk
    cases List.mem_singleton.mp hm
    cases hk
  have hnumbered : ∀ {head : GroupHead} {names : List (String × Nat)},
      head.number = some (e.captures + 1) → AddsNames [.group span head body] e.names names →
      Adds [.group span head body] e { e with captures := e.captures + 1, names } := by
    intro head names hnumber hnames
    refine ⟨Nat.le_succ _, ?_, ?_, hnames⟩
    · intro k hlt hle
      obtain rfl : k = e.captures + 1 := Nat.le_antisymm hle hlt
      exact ⟨span, head, body, by simp, hnumber⟩
    · intro span' head' body' hm k hk
      cases List.mem_singleton.mp hm
      rw [hnumber] at hk
      cases hk
      exact ⟨Nat.lt_succ_self _, Nat.le_refl _⟩
  cases hopens with
  | capturing hf => exact hnumbered rfl (hunnamed (by simp))
  | named hr => exact hnumbered rfl (addsNames_register hr rfl rfl hwritten)
  | _ => exact hplain (by simp)

/-- What a tree adds can be followed from node to node. -/
theorem adds_followed {ctx : Context} : Followed ctx Adds where
  nil e := adds_of_eq (by simp) rfl rfl
  append h h' := h.append h'
  alike h h' := h.alike h'
  reflag h := h.reflag _
  atom span a e := adds_of_eq (by simp) (Env.after_captures e a) (Env.after_names e a)
  group span body h := adds_head h
  other e hatom hgroup := by
    refine adds_of_eq (fun span head body hm => ?_) rfl rfl
    exact hgroup span head body (List.mem_singleton.mp hm).symm

/-- Whatever is formed adds its groups. -/
theorem Formed.adds {ctx : Context} {limit depth : Nat} {role : Role}
    (h : Formed ctx limit n depth role e e') : Adds n.preorder e e' :=
  adds_followed.formed h

end Adds

end PatternLint
