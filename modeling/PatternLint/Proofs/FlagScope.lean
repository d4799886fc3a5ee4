import Mathlib
import PatternLint.Proofs.Parse.Sound

/-!
# Where flags are in force

The parser keeps the flags in force in one word, which it changes at an inline setting
and puts back at the end of whatever it was opened in. What it writes into the tree
comes from that word: whether a literal matches without regard to case, whether a dot
matches newlines, whether a parenthesis captures.

The flags at each place can be read off the finished tree. `Node.flagging` walks over it
from the flags of the modifiers on, and a node is right if it holds what the flags say
where the walk comes to it.
-/

namespace PatternLint

open Parse

/-- A walk from a word of flags on: the nodes that it comes to, each with the flags there, and the
flags after it. -/
abbrev Sweep := Flags → List (Flags × Node) × Flags

/-- One walk after another. -/
def Sweep.inTurn : List Sweep → Sweep
  | [], f => ([], f)
  | w :: ws, f =>
    let first := w f
    let rest := inTurn ws first.2
    (first.1 ++ rest.1, rest.2)

/-- An atom that holds what the flags say. -/
def Atom.RightUnder (f : Flags) : Atom → Prop
  | .literal _ _ caseless | .backref _ caseless => caseless = f.has Flags.caseless
  | .dot dotAll => dotAll = f.has Flags.dotAll
  | .anchor _ multiline => multiline = f.has Flags.multiline
  | _ => True

namespace Node

/-- The flags behind the start of a node, where its children are: a setting applies there. -/
def opened (f : Flags) : Node → Flags
  | atom _ (.inlineFlags change) => change.apply f
  | group _ { kind := .modifiers change, .. } _ => change.apply f
  | _ => f

/-- Whether the flags after a node are those before it. An assertion that is the test of a
conditional is a group. -/
def isFlagScope : Node → Bool
  | group .. | conditional .. | define .. => true
  | _ => false

/-- The walk over a node, from the walks over its children. -/
def flaggingStep (n : Node) (below : List Sweep) : Sweep := fun f =>
  let inside := Sweep.inTurn below (n.opened f)
  ((f, n) :: inside.1, if n.isFlagScope then f else inside.2)

/-- The walk over a tree that keeps track of the flags in force. -/
def flagging : Node → Sweep := foldTree flaggingStep

/-- A node that holds what the flags say. -/
def RightUnder (f : Flags) : Node → Prop
  | atom _ a => a.RightUnder f
  | charClass _ _ caseless _ => caseless = f.has Flags.caseless
  | group _ head _ => head.kind = .capturing → f.has Flags.noAutoCapture = false
  | _ => True

theorem flagging_eq (n : Node) : n.flagging = n.flaggingStep (n.children.map flagging) :=
  foldTree_eq flaggingStep n

end Node

/-! ### The walk comes to every node -/

theorem Sweep.nodes_inTurn {ns : List Node}
    (h : ∀ c ∈ ns, ∀ f, (c.flagging f).1.map Prod.snd = c.preorder) (f : Flags) :
    (Sweep.inTurn (ns.map Node.flagging) f).1.map Prod.snd = ns.flatMap Node.preorder := by
  induction ns generalizing f with
  | nil => rfl
  | cons n ns ih =>
      simp only [List.map_cons, Sweep.inTurn, List.map_append, List.flatMap_cons]
      rw [h n (by simp), ih fun c hc => h c (by simp [hc])]

theorem Node.nodes_flagging (n : Node) (f : Flags) :
    (n.flagging f).1.map Prod.snd = n.preorder := by
  induction n using children_induction generalizing f with
  | h n ih =>
      rw [flagging_eq, preorder_eq]
      show n :: (Sweep.inTurn (n.children.map flagging) (n.opened f)).1.map Prod.snd = _
      rw [Sweep.nodes_inTurn fun c hc f => ih c hc f]

/-! ### Walks that find nothing wrong -/

/-- A walk that goes from one word of flags to another and finds nothing that is not as the flags
say. -/
structure Sweep.Goes (w : Sweep) (f f' : Flags) : Prop where
  reached : (w f).2 = f'
  right : ∀ v ∈ (w f).1, v.2.RightUnder v.1

namespace Sweep

variable {w : Sweep} {ws vs : List Sweep} {f f' f'' : Flags} {n : Node}

theorem goes_nil (f : Flags) : (inTurn []).Goes f f := ⟨rfl, fun _ hv => nomatch hv⟩

theorem Goes.cons (hw : w.Goes f f') (hws : (inTurn ws).Goes f' f'') :
    (inTurn (w :: ws)).Goes f f'' := by
  have hreached := hw.reached
  subst hreached
  refine ⟨hws.reached, ?_⟩
  intro v hv
  rcases List.mem_append.mp hv with hv | hv
  · exact hw.right v hv
  · exact hws.right v hv

theorem Goes.single (hw : w.Goes f f') : (inTurn [w]).Goes f f' := hw.cons (goes_nil f')

theorem Goes.append (hws : (inTurn ws).Goes f f') (hvs : (inTurn vs).Goes f' f'') :
    (inTurn (ws ++ vs)).Goes f f'' := by
  induction ws generalizing f with
  | nil =>
      have hreached : f = f' := hws.reached
      exact hreached ▸ hvs
  | cons w ws ih =>
      have hw : w.Goes f (w f).2 := ⟨rfl, fun v hv => hws.right v (List.mem_append_left _ hv)⟩
      have hrest : (inTurn ws).Goes (w f).2 f' :=
        ⟨hws.reached, fun v hv => hws.right v (List.mem_append_right _ hv)⟩
      exact hw.cons (ih hrest)

/-- Walks that all leave the flags as they are. -/
theorem goes_inTurn_self (h : ∀ w ∈ ws, w.Goes f f) : (inTurn ws).Goes f f := by
  induction ws with
  | nil => exact goes_nil f
  | cons w ws ih => exact (h w (by simp)).cons (ih fun v hv => h v (by simp [hv]))

end Sweep

namespace Node

variable {n : Node} {f f' : Flags}

/-- The walk over a node goes over its children in turn. -/
theorem goes_flagging (hn : n.RightUnder f)
    (h : (Sweep.inTurn (n.children.map flagging)).Goes (n.opened f) f') :
    n.flagging.Goes f (if n.isFlagScope then f else f') := by
  have hreached := h.reached
  subst hreached
  rw [flagging_eq]
  refine ⟨rfl, ?_⟩
  intro v hv
  rcases List.mem_cons.mp hv with rfl | hv
  · exact hn
  · exact h.right v hv

/-- Nothing in a class changes the flags. -/
theorem goes_of_classPart {ctx : Token.Context} {spacing : Flags}
    (h : ∀ m ∈ n.preorder, m.ClassPart ctx spacing (f.has Flags.caseless)) :
    n.flagging.Goes f f := by
  induction n using children_induction with
  | h n ih =>
      have hself := h n n.self_mem_preorder
      have hbelow : (Sweep.inTurn (n.children.map flagging)).Goes f f := by
        refine Sweep.goes_inTurn_self ?_
        intro w hw
        obtain ⟨c, hc, rfl⟩ := List.mem_map.mp hw
        exact ih c hc (forall_preorder_child h hc)
      cases n with
      | atom s a =>
          cases a with
          | literal c form caseless => exact goes_flagging (hself.resolve_left (by simp)).1 hbelow
          | empty | shorthand | range | posix => exact goes_flagging trivial hbelow
          | _ => exact (hself.resolve_left (by simp)).elim
      | classOp s op operands => exact goes_flagging trivial hbelow
      | _ => exact hself.elim

end Node

/-! ### Trees that the parser forms -/

theorem Atom.Formed.rightUnder {ctx : Token.Context} {e : Env} {a : Atom} (h : a.Formed ctx e) :
    a.RightUnder e.flags := by
  cases a with
  | literal c form caseless => exact h.1
  | dot dotAll => exact h
  | backref ref caseless => exact h.1
  | anchor kind multiline => exact h
  | _ => trivial

theorem Env.after_flags (e : Env) (s : Span) (a : Atom) :
    (e.after a).flags = (Node.atom s a).opened e.flags := by
  cases a <;> rfl

/-- Only a group with a setting of its own is opened under other flags. -/
theorem HeadFormed.opened {ctx : Token.Context} {e inner : Env} {head : GroupHead}
    (h : HeadFormed ctx e head inner) (s : Span) (body : Node) :
    (Node.group s head body).RightUnder e.flags ∧
      inner.flags = (Node.group s head body).opened e.flags := by
  obtain ⟨opener, -, hopens⟩ := h
  cases hopens with
  | capturing hf => exact ⟨fun _ => hf, rfl⟩
  | _ => exact ⟨fun hk => (nomatch hk), rfl⟩

section Formed

variable {ctx : Token.Context} {limit depth : Nat} {role : Role} {n : Node} {ns : List Node}
  {e e' : Env}

/-- A tree over which the walk goes as the parser does, in whatever role it is formed. -/
def Flagged (ctx : Token.Context) (limit : Nat) (n : Node) : Prop :=
  ∀ {depth : Nat} {role : Role} {e e' : Env}, Formed ctx limit n depth role e e' →
    n.flagging.Goes e.flags e'.flags

theorem FormedAll.goes (hns : ∀ c ∈ ns, Flagged ctx limit c)
    (h : FormedAll ctx limit ns depth role e e') :
    (Sweep.inTurn (ns.map Node.flagging)).Goes e.flags e'.flags := by
  induction ns generalizing e with
  | nil =>
      obtain rfl := h
      exact Sweep.goes_nil _
  | cons n ns ih =>
      obtain ⟨mid, hn, hrest⟩ := h
      exact (hns n (by simp) hn).cons (ih (fun c hc => hns c (by simp [hc])) hrest)

theorem FormedAlike.goes {base high high' : Nat} (hns : ∀ c ∈ ns, Flagged ctx limit c)
    (h : FormedAlike ctx limit ns depth base high high' e e') :
    (Sweep.inTurn (ns.map Node.flagging)).Goes e.flags e'.flags := by
  induction ns generalizing e high with
  | nil =>
      obtain ⟨-, rfl⟩ := h
      exact Sweep.goes_nil _
  | cons n ns ih =>
      obtain ⟨mid, hn, hrest⟩ := h
      exact (hns n (by simp) hn).cons (ih (fun c hc => hns c (by simp [hc])) hrest)

/-- Whatever is formed is right under the flags that it was formed with. -/
theorem flagged (n : Node) : Flagged ctx limit n := by
  induction n using Node.children_induction with
  | h n ih =>
      intro depth role e e' h
      cases n with
      | atom s a =>
          rcases h with ⟨rfl, -, rfl⟩ | ⟨ha, rfl⟩
          · exact Node.goes_flagging trivial (Sweep.goes_nil _)
          · rw [Env.after_flags e s a]
            exact Node.goes_flagging ha.rightUnder (Sweep.goes_nil _)
      | sequence s items => exact Node.goes_flagging trivial (h.2.2.goes ih)
      | alternation s branches =>
          rcases h.2 with ⟨-, hall⟩ | ⟨-, high, last, hall, rfl⟩
          · exact Node.goes_flagging trivial (hall.goes ih)
          · have hgoes : (Sweep.inTurn (branches.map Node.flagging)).Goes e.flags last.flags :=
              hall.goes ih
            exact Node.goes_flagging trivial hgoes
      | group s head body =>
          obtain ⟨-, inner, last, hhead, hbody, rfl⟩ := h
          obtain ⟨hright, hinner⟩ := hhead.opened s body
          have hgoes : body.flagging.Goes inner.flags last.flags :=
            ih body (by simp [Node.children]) hbody
          rw [hinner] at hgoes
          exact Node.goes_flagging hright hgoes.single
      | quantifier s count target =>
          have hgoes : target.flagging.Goes e.flags e'.flags :=
            ih target (by simp [Node.children]) h.2.2.2
          exact Node.goes_flagging trivial hgoes.single
      | charClass s negated caseless expr =>
          obtain ⟨rfl, rfl, hexpr⟩ := h
          exact Node.goes_flagging rfl (Node.goes_of_classPart hexpr.preorder).single
      | classOp s op operands => exact h.elim
      | conditional s test yes no =>
          obtain ⟨-, inner, mid, last, htest, hyes, hno, rfl⟩ := h
          have hyes : yes.flagging.Goes inner.flags mid.flags :=
            ih yes (by simp [Node.children]) hyes
          have htest : (Sweep.inTurn ((Node.conditionChildren test).map Node.flagging)).Goes
              e.flags inner.flags := by
            cases test with
            | assertion a =>
                have ha := ih a (by simp [Node.children, Node.conditionChildren]) htest.2
                exact ha.single
            | recursion =>
                obtain rfl := htest
                exact Sweep.goes_nil _
            | _ =>
                obtain ⟨rfl, -⟩ := htest
                exact Sweep.goes_nil _
          have hno : (Sweep.inTurn (no.toList.map Node.flagging)).Goes mid.flags last.flags := by
            cases no with
            | none =>
                obtain rfl := hno
                exact Sweep.goes_nil _
            | some m => exact (ih m (by simp [Node.children]) hno).single
          have hall := htest.append (hyes.cons hno)
          rw [← List.map_cons, ← List.map_append] at hall
          exact Node.goes_flagging trivial hall
      | define s body =>
          obtain ⟨-, last, hbody, rfl⟩ := h
          have hgoes : body.flagging.Goes e.flags last.flags :=
            ih body (by simp [Node.children]) hbody
          exact Node.goes_flagging trivial hgoes.single

end Formed

/-! ### Patterns -/

/-- Every node of a pattern that was read holds what the flags in force at its place say. These are
the ones of a walk over the tree that starts with the modifiers and comes to every node. -/
theorem Pattern.parseBody_flagging {s : ParserSettings} {body modifiers : String}
    {delimiter : Char} {p : Pattern} (h : Pattern.parseBody s body modifiers delimiter = .ok p) :
    Flags.ofModifiers modifiers = .ok p.flags ∧
    (p.root.flagging p.flags).1.map Prod.snd = p.root.preorder ∧
    ∀ v ∈ (p.root.flagging p.flags).1, v.2.RightUnder v.1 := by
  obtain ⟨-, -, hmodifiers, hp⟩ := parseBody_fields h
  obtain ⟨last, hformed⟩ := parseWith_formed hp
  exact ⟨hmodifiers, p.root.nodes_flagging p.flags, (flagged p.root hformed).right⟩

/-- The setting `(?i)` reaches into the second branch of its group and no further. -/
theorem Pattern.parseBody_flagging_branch :
    ∃ p, Pattern.parseBody {} "(?:a(?i)b|[c])d" "s" '/' = .ok p ∧ p.flags = Flags.dotAll ∧
      (p.root.flagging Flags.dotAll).1.map (fun v => v.1.has Flags.caseless) =
        [false, false, false, false, false, false, true, true, true, false] ∧
      ∀ v ∈ (p.root.flagging Flags.dotAll).1, v.2.RightUnder v.1 := by
  obtain ⟨p, hp, hcaseless⟩ := exists_of_map
    (f := fun p => (p.root.flagging Flags.dotAll).1.map fun v => v.1.has Flags.caseless)
    (x := parseBody {} "(?:a(?i)b|[c])d" "s" '/')
    (b := [false, false, false, false, false, false, true, true, true, false]) (by cbv)
  obtain ⟨hmodifiers, -, hright⟩ := parseBody_flagging hp
  have hflags : Flags.dotAll = p.flags := Except.ok.inj hmodifiers
  rw [← hflags] at hright
  exact ⟨p, hp, hflags.symm, hcaseless, hright⟩

end PatternLint
