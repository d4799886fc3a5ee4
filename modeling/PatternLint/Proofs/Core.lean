import Mathlib
import PatternLint.Proofs.Roundtrip

/-!
# The core of the syntax

Patterns without classes, conditionals, calls and inline settings, whose literals
are written as themselves or after a backslash, are printed and read again as they
were: their style has nothing to lose. The same goes for what becomes of them when
their repetitions are made possessive.
-/

namespace PatternLint

open Unicode Text Token Parse

/-- Whether an atom is one of the core. A brace as itself is not: counts may come to follow it. -/
def Atom.isCore : Atom → Bool
  | .literal c .verbatim _ => c != '\x7b'
  | .shorthand (.property _) _ => false
  | .empty | .literal _ .punctuation _ | .dot _ | .shorthand .. | .anchor .. |
    .backref (.number _) _ => true
  | _ => false

/-- Whether a group is one of the core. -/
def GroupKind.isCore : GroupKind → Bool
  | .capturing | .nonCapturing | .named | .atomic | .branchReset | .look .ahead |
    .look .negativeAhead => true
  | .look _ | .modifiers _ => false

/-- Whether a node is one of the core, besides its children. Repetitions are not repeated. -/
def Node.isCore : Node → Bool
  | .atom _ a => a.isCore
  | .sequence .. | .alternation .. => true
  | .group _ head _ => head.kind.isCore
  | .quantifier _ _ (.quantifier ..) => false
  | .quantifier .. => true
  | .charClass .. | .classOp .. | .conditional .. | .define .. => false

/-- A tree of the core. -/
def Node.IsCore (n : Node) : Prop := ∀ m ∈ n.preorder, m.isCore = true

section Core

variable {n : Node}

theorem Node.IsCore.self (h : n.IsCore) : n.isCore = true := h n (self_mem_preorder n)

theorem Node.IsCore.child {c : Node} (h : n.IsCore) (hc : c ∈ n.children) : c.IsCore :=
  forall_preorder_child h hc

/-- What holds of the five kinds of nodes in the core, if it does of their children, holds of all
trees of the core. -/
theorem Node.IsCore.induction {P : Node → Prop} (h : n.IsCore)
    (hatom : ∀ s a, a.isCore = true → P (.atom s a))
    (hsequence : ∀ s items, (∀ c ∈ items, P c) → P (.sequence s items))
    (halternation : ∀ s branches, (∀ c ∈ branches, P c) → P (.alternation s branches))
    (hgroup : ∀ s head body, head.kind.isCore = true → P body → P (.group s head body))
    (hquantifier : ∀ s count target, (∀ s' count' target', target ≠ .quantifier s' count' target') →
      P target → P (.quantifier s count target)) : P n := by
  induction n using Node.children_induction with
  | h n ih =>
      have hchild : ∀ c ∈ n.children, P c := fun c hc => ih c hc (h.child hc)
      have hself := h.self
      cases n with
      | atom s a => exact hatom s a hself
      | sequence s items => exact hsequence s items hchild
      | alternation s branches => exact halternation s branches hchild
      | group s head body => exact hgroup s head body hself (hchild body (by simp [Node.children]))
      | quantifier s count target =>
          refine hquantifier s count target ?_ (hchild target (by simp [Node.children]))
          rintro s' count' target' rfl
          cases hself
      | _ => cases hself

theorem Node.IsCore.isBraced (h : n.IsCore) : ∀ m ∈ n.preorder, m.isBraced = true := by
  intro m hm
  have hcore := h m hm
  unfold Node.isBraced
  split
  · cases hcore
  · rfl

theorem Node.IsCore.named (h : n.IsCore) : n.Named := by
  intro span a ha
  have hcore : a.isCore = true := h _ ha
  unfold Atom.Named
  split
  · cases hcore
  · cases hcore
  · trivial

/-- Trees of the core come back in the style they were in. -/
theorem Node.IsCore.respelled (h : n.IsCore) : n.respelled false = n.erase := by
  have hmap : ∀ ns : List Node, (∀ c ∈ ns, c.respelled false = c.erase) →
      Restyle.respelling.nodes false ns = Restyle.nodes {} false ns := by
    intro ns hns
    rw [Restyle.nodes_eq_map, Restyle.nodes_eq_map]
    exact List.map_congr_left hns
  refine h.induction (P := fun n => n.respelled false = n.erase) ?_ ?_ ?_ ?_ ?_
  · intro s a ha
    have hatom : a.respelled false = a := by
      cases a with
      | literal c form caseless =>
          cases form with
          | verbatim => rfl
          | punctuation => rfl
          | _ => cases ha
      | _ => rfl
    exact congrArg (Node.atom ⟨0, 0⟩) hatom
  · exact fun s items hitems => congrArg (Node.sequence ⟨0, 0⟩) (hmap items hitems)
  · exact fun s branches hbranches => congrArg (Node.alternation ⟨0, 0⟩) (hmap branches hbranches)
  · intro s head body hhead hbody
    have hrespelled : head.respelled = head := by
      unfold GroupHead.respelled
      split
      · next change hk =>
          rw [hk] at hhead
          cases hhead
      · rfl
    rw [Node.respelled, Node.erase, Restyle.node, Restyle.node]
    exact congr (congrArg (Node.group ⟨0, 0⟩) hrespelled) hbody
  · exact fun s count target _ htarget => congrArg (Node.quantifier ⟨0, 0⟩ count) htarget

end Core

/-! ### Tokens -/

/-- Whether a token is one of the core. -/
def TokenKind.isCore : TokenKind → Bool
  | .literal c => c != '\x7b'
  | .shorthand (.property _) _ | .groupOpen (.modifiers _) => false
  | .escaped _ .punctuation | .dot | .anchor _ | .shorthand .. | .quantifier _ | .alternation |
    .groupOpen _ | .groupClose | .backref (.number _) => true
  | _ => false

section Tokens

variable {k : TokenKind} {ks : List TokenKind} {n : Node}

theorem Atom.kinds_core {a : Atom} (h : a.isCore = true) : ∀ k ∈ a.kinds false, k.isCore = true := by
  cases a with
  | empty => simp [Atom.kinds]
  | literal c form caseless =>
      cases form with
      | verbatim => simpa [Atom.kinds, literalKind, TokenKind.isCore, Atom.isCore] using h
      | punctuation => simp [Atom.kinds, literalKind, TokenKind.isCore]
      | _ => cases h
  | shorthand kind negated =>
      cases kind with
      | property name => cases h
      | _ => simp [Atom.kinds, TokenKind.isCore]
  | backref ref caseless =>
      cases ref with
      | number n => simp [Atom.kinds, GroupRef.written, TokenKind.isCore]
      | _ => cases h
  | dot dotAll => simp [Atom.kinds, TokenKind.isCore]
  | anchor kind multiline => simp [Atom.kinds, TokenKind.isCore]
  | _ => cases h

theorem GroupHead.opener_core {head : GroupHead} (h : head.kind.isCore = true) :
    (TokenKind.groupOpen head.opener).isCore = true := by
  unfold GroupHead.opener
  cases hk : head.kind with
  | modifiers change =>
      rw [hk] at h
      cases h
  | _ => rfl

theorem kindsEach_core {ns : List Node} (h : ∀ c ∈ ns, ∀ k ∈ c.kinds false, k.isCore = true) :
    ∀ ks ∈ Node.kindsEach false ns, ∀ k ∈ ks, k.isCore = true := by
  rw [Node.kindsEach_eq_map]
  exact List.forall_mem_map.mpr h

theorem bars_core {ns : List Node} (h : ∀ c ∈ ns, ∀ k ∈ c.kinds false, k.isCore = true) :
    ∀ k ∈ bars ns, k.isCore = true := by
  induction ns with
  | nil => simp [bars, Node.kindsEach]
  | cons n ns ih =>
      cases ns with
      | nil =>
          rw [bars_singleton]
          exact h n (by simp)
      | cons m ns =>
          rw [bars_cons]
          intro k hk
          rcases List.mem_append.mp hk with hk | hk
          · exact h n (by simp) k hk
          · rcases List.mem_cons.mp hk with rfl | hk
            · rfl
            · exact ih (fun c hc => h c (List.mem_cons_of_mem _ hc)) k hk

/-- The tokens of a tree of the core are those of the core. -/
theorem Node.IsCore.kinds (h : n.IsCore) : ∀ k ∈ n.kinds false, k.isCore = true := by
  have hparens : ∀ {k : TokenKind} {ks : List TokenKind}, k.isCore = true →
      (∀ k ∈ ks, k.isCore = true) → ∀ k' ∈ k :: (ks ++ [.groupClose]), k'.isCore = true := by
    intro k ks hk hks k' hk'
    simp only [List.mem_cons, List.mem_append, List.not_mem_nil, or_false] at hk'
    rcases hk' with rfl | hk' | rfl
    · exact hk
    · exact hks k' hk'
    · rfl
  refine h.induction (P := fun n => ∀ k ∈ n.kinds false, k.isCore = true) ?_ ?_ ?_ ?_ ?_
  · exact fun s a ha => Atom.kinds_core ha
  · intro s items hitems k hk
    rw [Node.kinds] at hk
    obtain ⟨ks, hks, hk⟩ := List.mem_flatten.mp hk
    exact kindsEach_core hitems ks hks k hk
  · exact fun s branches hbranches => bars_core hbranches
  · exact fun s head body hhead hbody => hparens (GroupHead.opener_core hhead) hbody
  · intro s count target _ htarget k hk
    rw [Node.kinds] at hk
    rcases List.mem_append.mp hk with hk | hk
    · split at hk
      · exact hparens rfl htarget k hk
      · exact htarget k hk
    · rw [List.mem_singleton.mp hk]
      rfl

/-- Counts in braces start with a digit. -/
theorem startsCodePoint_braces (n : Nat) (rest : List Char) :
    startsCodePoint ('\x7b' :: ((toString n).toList ++ rest)) = false := by
  have hdigits : (Nat.toDigits 10 n).all isAsciiDigit = true := all_toDigits (by decide) (by decide)
  rw [Nat.toString_eq_ofList_toDigits, String.toList_ofList]
  cases hd : Nat.toDigits 10 n with
  | nil => exact absurd hd (Nat.toDigits_ne_nil)
  | cons c cs =>
      rw [hd, List.all_cons, Bool.and_eq_true] at hdigits
      have hc : c ≠ 'U' := by
        rintro rfl
        exact absurd hdigits.1 (by decide)
      simp [startsCodePoint, List.isPrefixOf, Ne.symm hc]

theorem startsCodePoint_quantifier (count : Repeat) (rest : List Char) :
    startsCodePoint ((Render.quantifier count).toList ++ rest) = false := by
  have hplain : ∀ {c : Char} {cs : List Char}, c ≠ '\x7b' → startsCodePoint (c :: cs) = false := by
    intro c cs hc
    simp [startsCodePoint, List.isPrefixOf, Ne.symm hc]
  simp only [Render.quantifier, Render.counts, String.toList_append, List.append_assoc]
  split
  · split
    · exact hplain (by decide)
    · split
      · exact hplain (by decide)
      · simp only [String.toList_append, List.append_assoc]
        exact startsCodePoint_braces _ _
  · split
    · exact hplain (by decide)
    · split
      · simp only [String.toList_append, List.append_assoc]
        exact startsCodePoint_braces _ _
      · simp only [String.toList_append, List.append_assoc]
        exact startsCodePoint_braces _ _

/-- No token of the core starts like a code point in braces. -/
theorem startsCodePoint_core (h : k.isCore = true) (rest : List Char) :
    startsCodePoint (k.spelling.toList ++ rest) = false := by
  have hplain : ∀ {c : Char}, k.spelling.toList.head? = some c → c ≠ '\x7b' →
      startsCodePoint (k.spelling.toList ++ rest) = false := by
    intro c hhead hc
    cases hcs : k.spelling.toList with
    | nil =>
        rw [hcs] at hhead
        cases hhead
    | cons d ds =>
        rw [hcs] at hhead
        cases hhead
        simp [startsCodePoint, List.isPrefixOf, Ne.symm hc]
  cases k with
  | literal c =>
      refine hplain (c := c) (by simp [TokenKind.spelling]) ?_
      simpa [TokenKind.isCore] using h
  | escaped v form =>
      cases form with
      | punctuation => exact hplain (escaped_head (by simp) (by simp)) (by decide)
      | _ => cases h
  | shorthand kind negated => exact hplain (shorthand_head kind negated) (by decide)
  | anchor kind => cases kind <;> exact hplain rfl (by decide)
  | dot => exact hplain rfl (by decide)
  | quantifier count => exact startsCodePoint_quantifier count rest
  | alternation => exact hplain rfl (by decide)
  | groupOpen opener =>
      cases opener with
      | look l => cases l <;> exact hplain rfl (by decide)
      | named name => exact hplain (c := '(') (by simp [TokenKind.spelling]) (by decide)
      | modifiers change => cases h
      | _ => exact hplain rfl (by decide)
  | groupClose => exact hplain rfl (by decide)
  | backref ref =>
      cases ref with
      | number n => exact hplain (c := '\\') (by simp [TokenKind.spelling]) (by decide)
      | _ => cases h
  | _ => cases h

/-- A mode outside classes in which no blanks are skipped, now or when a group closes. -/
structure Quiet (m : Mode) : Prop where
  place : m.place = .outside
  quoting : m.quoting = false
  spacing : m.spacing = 0
  saved : ∀ f ∈ m.saved, f = 0

theorem Quiet.advance {m : Mode} (hm : Quiet m) (hk : k.isCore = true) : Quiet (m.advance k) := by
  have hadvance : m.advance k = m.outsideAfter k := by
    simp [Mode.advance, hm.place, hm.quoting]
  rw [hadvance]
  cases k with
  | groupOpen opener =>
      cases opener with
      | modifiers change => cases hk
      | _ =>
          refine ⟨hm.place, hm.quoting, hm.spacing, ?_⟩
          exact List.forall_mem_cons.mpr ⟨hm.spacing, hm.saved⟩
  | groupClose =>
      simp only [Mode.outsideAfter, Mode.after, Mode.restore]
      split
      · exact hm
      · next spacing saved hs =>
          have hall := hm.saved
          rw [hs] at hall
          obtain ⟨hspacing, hsaved⟩ := List.forall_mem_cons.mp hall
          exact ⟨hm.place, hm.quoting, hspacing, hsaved⟩
  | classOpen negated => cases hk
  | inlineFlags change => cases hk
  | conditionOpen test => cases hk
  | _ => exact hm

/-- Tokens of the core are clear where no blanks are skipped. -/
theorem clear_core {ctx : Context} {m : Mode} (hm : Quiet m) (hks : ∀ k ∈ ks, k.isCore = true) :
    clear ctx m ks = true := by
  induction ks generalizing m with
  | nil => rfl
  | cons k ks ih =>
      obtain ⟨hk, hks⟩ := List.forall_mem_cons.mp hks
      refine Bool.and_eq_true_iff.mpr ⟨?_, ih (hm.advance hk) hks⟩
      have hnext : startsCodePoint (spell ks) = false := by
        cases ks with
        | nil => rfl
        | cons k' ks' => exact startsCodePoint_core (hks k' (by simp)) _
      cases k with
      | literal c =>
          have hc : c ≠ '\x7b' := by simpa [TokenKind.isCore] using hk
          simp [isClear, hm.place, hm.spacing, hc]
      | escaped v form =>
          cases form with
          | punctuation => rfl
          | _ => cases hk
      | shorthand kind negated =>
          cases kind with
          | notNewline => simp [isClear, hnext]
          | _ => rfl
      | classClose => cases hk
      | _ => rfl

end Tokens

/-! ### Possessive repetitions -/

section Possessive

variable {ctx : Context} {limit depth : Nat} {role : Role} {e e' : Env} {n : Node}

/-- The change of style that makes repetitions possessive. -/
def Restyle.possessive : Restyle where
  count := Transform.possess

theorem Restyle.faithful_possessive : Restyle.possessive.Faithful where
  atom _ _ := .inl rfl
  number _ := rfl
  look _ := ⟨rfl, rfl⟩
  count c := by
    simp only [possessive, Transform.possess]
    split <;> exact ⟨rfl, rfl⟩

/-- In the core, making repetitions possessive is a matter of style. -/
theorem Node.IsCore.erase_possessive (h : n.IsCore) :
    n.possessive.erase = Restyle.possessive.node false n := by
  have hmap : ∀ ns : List Node, (∀ c ∈ ns, c.possessive.erase = Restyle.possessive.node false c) →
      Restyle.nodes {} false (Transform.possessive.nodes ns) =
        Restyle.possessive.nodes false ns := by
    intro ns hns
    rw [Transform.nodes_eq_map, Restyle.nodes_eq_map, Restyle.nodes_eq_map, List.map_map]
    exact List.map_congr_left hns
  refine h.induction (P := fun n => n.possessive.erase = Restyle.possessive.node false n)
    ?_ ?_ ?_ ?_ ?_
  · exact fun s a _ => rfl
  · exact fun s items hitems => congrArg (Node.sequence ⟨0, 0⟩) (hmap items hitems)
  · exact fun s branches hbranches => congrArg (Node.alternation ⟨0, 0⟩) (hmap branches hbranches)
  · exact fun s head body _ hbody => congrArg (Node.group ⟨0, 0⟩ head) hbody
  · exact fun s count target _ htarget =>
      congrArg (Node.quantifier ⟨0, 0⟩ (Transform.possess count)) htarget

theorem Node.IsCore.possessive (h : n.IsCore) : n.possessive.IsCore := by
  have hmap : ∀ ns : List Node, (∀ c ∈ ns, c.possessive.IsCore) →
      ∀ c ∈ Transform.possessive.nodes ns, c.IsCore := by
    intro ns hns
    rw [Transform.nodes_eq_map]
    exact List.forall_mem_map.mpr hns
  have hnode : ∀ {n : Node}, n.isCore = true → (∀ c ∈ n.children, c.IsCore) → n.IsCore := by
    intro n hn hchildren m hm
    rcases mem_preorder.mp hm with rfl | ⟨c, hc, hm⟩
    · exact hn
    · exact hchildren c hc m hm
  refine h.induction (P := fun n => n.possessive.IsCore) ?_ ?_ ?_ ?_ ?_
  · exact fun s a ha => hnode ha (by simp [Node.possessive, Transform.node, Transform.possessive,
      children])
  · exact fun s items hitems => hnode rfl (hmap items hitems)
  · exact fun s branches hbranches => hnode rfl (hmap branches hbranches)
  · exact fun s head body hhead hbody => hnode hhead (List.forall_mem_singleton.mpr hbody)
  · intro s count target htarget hcore
    refine hnode ?_ (List.forall_mem_singleton.mpr hcore)
    cases target with
    | quantifier s' count' target' => exact absurd rfl (htarget s' count' target')
    | _ => rfl

/-- A tree that is formed with possessive repetitions wherever it is formed without. -/
def Possessable (ctx : Context) (limit : Nat) (n : Node) : Prop :=
  ∀ {depth : Nat} {role : Role} {e e' : Env}, Formed ctx limit n depth role e e' →
    Formed ctx limit n.possessive depth role e e'

theorem FormedAll.possessive {ns : List Node} (hns : ∀ c ∈ ns, Possessable ctx limit c)
    (h : FormedAll ctx limit ns depth role e e') :
    FormedAll ctx limit (Transform.possessive.nodes ns) depth role e e' := by
  induction ns generalizing e with
  | nil => exact h
  | cons n ns ih =>
      obtain ⟨mid, hn, hrest⟩ := h
      exact ⟨mid, hns n (by simp) hn, ih (fun c hc => hns c (List.mem_cons_of_mem _ hc)) hrest⟩

theorem FormedAlike.possessive {ns : List Node} {base high high' : Nat}
    (hns : ∀ c ∈ ns, Possessable ctx limit c)
    (h : FormedAlike ctx limit ns depth base high high' e e') :
    FormedAlike ctx limit (Transform.possessive.nodes ns) depth base high high' e e' := by
  induction ns generalizing e high with
  | nil => exact h
  | cons n ns ih =>
      obtain ⟨mid, hn, hrest⟩ := h
      exact ⟨mid, hns n (by simp) hn, ih (fun c hc => hns c (List.mem_cons_of_mem _ hc)) hrest⟩

/-- Which count a repetition has is not changed by its greed. -/
theorem possess_written {count : Repeat} (h : CountWritten count)
    (ha : count.allows count.min = true) :
    CountWritten (Transform.possess count) ∧
      (Transform.possess count).allows (Transform.possess count).min = true := by
  unfold Transform.possess
  split
  · exact ⟨h, ha⟩
  · exact ⟨h, ha⟩
  · exact ⟨h, ha⟩

/-- A tree of the core with possessive repetitions is formed as it was before. -/
theorem Node.IsCore.possessable (h : n.IsCore) : Possessable ctx limit n := by
  refine h.induction (P := Possessable ctx limit) ?_ ?_ ?_ ?_ ?_
  · exact fun s a _ _ _ _ _ hformed => hformed
  · intro s items hitems depth role e e' hformed
    obtain ⟨hrole, hlen, hall⟩ := hformed
    refine ⟨hrole, ?_, hall.possessive hitems⟩
    rwa [Transform.nodes_eq_map, List.length_map]
  · intro s branches hbranches depth role e e' hformed
    obtain ⟨hlen, hall⟩ := hformed
    refine ⟨by rwa [Transform.nodes_eq_map, List.length_map], ?_⟩
    rcases hall with ⟨hrole, hall⟩ | ⟨hrole, high, last, hall, he⟩
    · exact .inl ⟨hrole, hall.possessive hbranches⟩
    · exact .inr ⟨hrole, high, last, hall.possessive hbranches, he⟩
  · intro s head body _ hbody depth role e e' hformed
    obtain ⟨hd, inner, last, hhead, hformed, he⟩ := hformed
    exact ⟨hd, inner, last, hhead, hbody hformed, he⟩
  · intro s count target _ htarget depth role e e' hformed
    obtain ⟨hcount, hallows, hrep, hformed⟩ := hformed
    obtain ⟨hcount', hallows'⟩ := possess_written hcount hallows
    refine ⟨hcount', hallows', ?_, htarget hformed⟩
    cases target <;> exact hrep

end Possessive

/-! ### Patterns -/

namespace Pattern

variable {s : ParserSettings} {delimiter : Char} {ctx : Context} {root : Node} {e : Env}

/-- A formed tree of the core is read from its text as it is. -/
theorem parseWith_core (h : Formed ctx s.nestLimit root 0 (.body false) ⟨0, 0, []⟩ e)
    (hd : ctx.dialect = s.dialect) (hcore : root.IsCore)
    (hfault : root.firstFault? s ⟨e.captures, e.names⟩ = none) :
    ∃ p, parseWith s delimiter 0 (root.written false) = .ok p ∧ p.root.erase = root.erase ∧
      p.captures = e.captures ∧ p.names = e.names := by
  have hstrung : Strung ctx.dialect (Mode.initial 0) (root.kinds false) (e.mode []) :=
    stringable hcore.named root (Node.self_mem_preorder root) h
  have htrail : Trail (contextOf (root.written false) 0 s.dialect) (Mode.initial 0)
      (root.kinds false) [] := by
    rw [hd] at hstrung
    refine Strung.trail hstrung rfl (h.leading hcore.isBraced).fits (clear_core ?_ hcore.kinds)
    exact ⟨rfl, rfl, rfl, by simp [Mode.initial]⟩
  obtain ⟨p, hp, -, -, hroot, hcaptures, hnames⟩ :=
    parseWith_of_trail h hcore.isBraced hfault htrail
  exact ⟨p, hp, hroot.trans hcore.respelled, hcaptures, hnames⟩

/-- A pattern of the core that is printed and read again has the tree that it had, without the
spans, and the same groups. So has the pattern that is printed with possessive repetitions. -/
theorem parseBody_core {body : String} {p : Pattern} (h : parseBody {} body "" delimiter = .ok p)
    (hcore : p.root.IsCore) (root : Node) (hroot : root = p.root ∨ root = p.root.possessive) :
    ∃ text p', root.text? = some text ∧ parseBody {} text "" delimiter = .ok p' ∧
      p'.root.erase = root.erase ∧ p'.captures = p.captures ∧ p'.names = p.names := by
  obtain ⟨flags, hflags, h⟩ := parseBody_ok h
  obtain rfl : flags = 0 := (Except.ok.inj hflags).symm
  obtain ⟨last, hformed⟩ := parseWith_formed h
  have hfault : p.root.firstFault? {} p.groupTable = none := by
    obtain ⟨-, -, -, -, -, hfault⟩ := parseWith_ok h
    exact Option.map_eq_none_iff.mp hfault
  -- The possessive tree is formed as the other one is, and it has no fault that the other has not.
  obtain ⟨hformed', hcore', hfault'⟩ : Formed (contextOf body 0 .pcre43) 250 root 0 (.body false)
      ⟨0, 0, []⟩ ⟨last, p.captures, p.names⟩ ∧ root.IsCore ∧
        root.firstFault? {} p.groupTable = none := by
    rcases hroot with rfl | rfl
    · exact ⟨hformed, hcore, hfault⟩
    · refine ⟨hcore.possessable hformed, hcore.possessive, ?_⟩
      rw [← Restyle.faithful_erase.firstFault? false]
      change p.root.possessive.erase.firstFault? {} p.groupTable = none
      rw [hcore.erase_possessive]
      exact (Restyle.faithful_possessive.firstFault? false {} _ p.root).mpr hfault
  have hheight : root.height ≤ Render.defaultLimit :=
    Nat.le_trans (Node.firstFault?_eq_none_iff.mp hfault').1 (by decide)
  obtain ⟨p', hp', hroot', hcaptures, hnames⟩ := @parseWith_core {} delimiter _ root
    ⟨last, p.captures, p.names⟩ hformed' rfl hcore' hfault'
  exact ⟨root.written false, p', Node.text?_eq hformed'.isPlain hheight, hp', hroot', hcaptures,
    hnames⟩

theorem parseBody_core_reset : ∃ p : Pattern,
    parseBody {} "(?|(a)|(?<n>b)+)\\1?" "" '/' = .ok p ∧ p.root.IsCore ∧
      ∀ root, root = p.root ∨ root = p.root.possessive →
        ∃ text p', root.text? = some text ∧ parseBody {} text "" '/' = .ok p' ∧
          p'.root.erase = root.erase ∧ p'.captures = p.captures ∧ p'.names = p.names := by
  have hcore : ((parseBody {} "(?|(a)|(?<n>b)+)\\1?" "" '/').map fun p =>
      p.root.preorder.all Node.isCore).toOption = some true := by cbv
  cases h : parseBody {} "(?|(a)|(?<n>b)+)\\1?" "" '/' with
  | error e =>
      rw [h] at hcore
      cases hcore
  | ok p =>
      rw [h] at hcore
      have hcore : p.root.IsCore := List.all_eq_true.mp (Option.some.inj hcore)
      exact ⟨p, rfl, hcore, parseBody_core h hcore⟩

end Pattern

end PatternLint
