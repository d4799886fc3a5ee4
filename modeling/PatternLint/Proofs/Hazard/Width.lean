import PatternLint.Proofs.Hazard.Language
import PatternLint.Proofs.Hazard.Proper

/-!
# Profiles and widths agree

Profiles and widths are computed apart from each other, and both tell whether a
match can be empty and whether it can have a character. `Fits` says that they tell
the same. It does not hold of all trees: outside a class, a range would have a
width but no profile, and a group inside one of the same number would be taken for
a call that leads back. In proper trees without references and calls it does.
-/

namespace PatternLint

theorem maxCount_pos : 0 < maxCount := by decide

theorem satAdd_eq_zero {a b : Nat} : satAdd a b = 0 ↔ a = 0 ∧ b = 0 := by
  have := maxCount_pos
  rw [satAdd]
  omega

theorem satMul_eq_zero {a b : Nat} : satMul a b = 0 ↔ a = 0 ∨ b = 0 := by
  have hpos := maxCount_pos
  rw [satMul, ← Nat.mul_eq_zero]
  generalize a * b = c
  omega

theorem Width.bound?_eq_zero {n : Nat} : bound? n = some 0 ↔ n = 0 := by
  rw [bound?]
  split
  · exact Option.some_inj
  next h =>
    have := maxCount_pos
    constructor
    · intro hnone
      cases hnone
    · intro hzero
      omega

namespace Profile

/-- A profile that tells the same as a width: whether a match can be empty and whether it can have a
character. -/
structure Fits (p : Profile) (w : Width) : Prop where
  nullable : p.nullable = true ↔ w.min = 0
  consumes : p.consumes = true ↔ w.max ≠ some 0

variable {p q : Profile} {v w : Width}

theorem fits_blank : blank.Fits .zero := ⟨by simp [blank, Width.zero], by simp [blank, Width.zero]⟩

theorem fits_single (s : CharSet) (hmin : w.min ≠ 0) (hmax : w.max ≠ some 0) : (single s).Fits w :=
  ⟨by simp [single, hmin], by simp [single, hmax]⟩

theorem Fits.andThen (hp : p.Fits v) (hq : q.Fits w) : (p.andThen q).Fits (v.andThen w) := by
  constructor
  · rw [Width.andThen, satAdd_eq_zero, ← hp.nullable, ← hq.nullable]
    simp [Profile.andThen]
  · have hmax : (v.andThen w).max = some 0 ↔ v.max = some 0 ∧ w.max = some 0 := by
      rw [Width.andThen]
      cases v.max <;> cases w.max <;> simp [Width.bound?_eq_zero]
    rw [ne_eq, hmax, not_and_or, ← ne_eq, ← ne_eq, ← hp.consumes, ← hq.consumes]
    simp [Profile.andThen]

theorem Fits.or (hp : p.Fits v) (hq : q.Fits w) : (p.or q).Fits (v.or w) := by
  constructor
  · have hmin : (v.or w).min = 0 ↔ v.min = 0 ∨ w.min = 0 := by
      simp only [Width.or]
      omega
    rw [hmin, ← hp.nullable, ← hq.nullable]
    simp [Profile.or]
  · have hmax : (v.or w).max = some 0 ↔ v.max = some 0 ∧ w.max = some 0 := by
      rw [Width.or]
      cases v.max <;> cases w.max <;> simp
    rw [ne_eq, hmax, not_and_or, ← ne_eq, ← ne_eq, ← hp.consumes, ← hq.consumes]
    simp [Profile.or]

section Lists

variable {f : Node → Profile} {g : Node → Width} {ns : List Node}

theorem Fits.foldl_andThen (hp : p.Fits w) (h : ∀ n ∈ ns, (f n).Fits (g n)) :
    ((ns.map f).foldl Profile.andThen p).Fits ((ns.map g).foldl Width.andThen w) := by
  rw [List.foldl_map, List.foldl_map]
  exact List.foldl_rel hp fun n hn _ _ hacc => hacc.andThen (h n hn)

theorem Fits.foldl_or (hp : p.Fits w) (h : ∀ n ∈ ns, (f n).Fits (g n)) :
    ((ns.map f).foldl Profile.or p).Fits ((ns.map g).foldl Width.or w) := by
  rw [List.foldl_map, List.foldl_map]
  exact List.foldl_rel hp fun n hn _ _ hacc => hacc.or (h n hn)

theorem fits_anyOf (h : ∀ n ∈ ns, (f n).Fits (g n)) :
    (anyOf (ns.map f)).Fits (Width.anyOf (ns.map g)) := by
  cases ns with
  | nil => exact fits_blank
  | cons n ns => exact (h n (by simp)).foldl_or fun m hm => h m (by simp [hm])

end Lists

end Profile

namespace Hazard

open Profile

variable {p : Profile} {w : Width}

theorem fits_quantifier (hp : p.Fits w) {count : Repeat} (hmax : count.max ≠ some 0) :
    (ofQuantifier count p).Fits (w.times count.min count.max) := by
  constructor
  · rw [Width.times, satMul_eq_zero, ← hp.nullable]
    simp [ofQuantifier, or_comm]
  · have hrepeat : Width.repeatMax w.max count.max = some 0 ↔ w.max = some 0 := by
      rcases hw : w.max with _ | _ | m
      · rcases hc : count.max with _ | _ | turns
        · simp [Width.repeatMax]
        · exact absurd hc hmax
        · simp [Width.repeatMax]
      · simp [Width.repeatMax]
      · rcases hc : count.max with _ | _ | turns
        · simp [Width.repeatMax]
        · exact absurd hc hmax
        · simp [Width.repeatMax, Width.bound?_eq_zero]
    rw [Width.times, ne_eq, hrepeat]
    exact hp.consumes

/-- A repetition without turns needs none, if it may stop when it has taken its least number. -/
theorem fits_never {count : Repeat} (hmax : count.max = some 0)
    (hturns : count.allows count.min = true) : blank.Fits (w.times count.min count.max) := by
  have hmin : count.min = 0 := by simpa [Repeat.allows, hmax] using hturns
  have hrepeat : Width.repeatMax w.max (some 0) = some 0 := by
    rcases w.max with _ | _ | m <;> simp [Width.repeatMax, Width.bound?_eq_zero]
  constructor
  · simp [blank, Width.times, hmin, satMul]
  · simp [blank, Width.times, hmax, hrepeat]

theorem fits_atom {call : CallTarget → Width} (ctx : Context) {a : Atom} (hcall : a.isCall = false)
    (hmember : a.isMember = false) : (atomProfile ctx a).Fits (Width.ofAtom call a) := by
  have hone : ∀ s, (single s).Fits (.exact 1) :=
    fun s => fits_single s Nat.one_ne_zero (by simp [Width.exact])
  cases a with
  | literal c form caseless => exact hone _
  | dot dotAll => exact hone _
  | shorthand kind negated =>
      cases kind with
      | newline => exact fits_single _ Nat.one_ne_zero (by simp [Width.ofAtom])
      | grapheme => exact fits_single _ Nat.one_ne_zero (by simp [Width.ofAtom, Width.unbounded])
      | _ => exact hone _
  | backref ref caseless => cases hcall
  | subroutine target => cases hcall
  | range first last => cases hmember
  | posix name negated => cases hmember
  | _ => exact fits_blank

end Hazard

namespace Node

theorem widthsIn_eq_map (call : Active → CallTarget → Width) (ns : List Node) (a : Active) :
    widthsIn call ns a = ns.map fun n => n.widthIn call a := by
  induction ns with
  | nil => rfl
  | cons n ns ih => rw [widthsIn, ih, List.map_cons]

/-- A proper tree without references and calls, outside of all classes. -/
structure Regular (n : Node) : Prop where
  callFree : n.CallFree
  proper : ∀ m ∈ n.preorder, m.Proper
  outside : n.isMember = false

theorem Regular.child {c n : Node} (h : n.Regular) (hclass : n.isClass = false)
    (hc : c ∈ n.children) : c.Regular where
  callFree := h.callFree.child hc
  proper := forall_preorder_child h.proper hc
  outside := (h.proper n n.self_mem_preorder).outside hclass c hc

/-- All that is repeated in a regular tree is regular. -/
theorem Regular.target {n target : Node} {s : Span} {count : Repeat} (h : n.Regular)
    (hmem : .quantifier s count target ∈ n.preorder) : target.Regular where
  callFree := (h.callFree.below hmem).child (by simp [children])
  proper m hm := h.proper m (mem_preorder_trans hmem
    (mem_preorder.mpr (.inr ⟨target, by simp [children], hm⟩)))
  outside := (h.proper _ hmem).outside rfl target (by simp [children])

/-- Inside a group of a proper tree, no other group is one that is being gone through. -/
theorem Proper.inactive {s : Span} {head : GroupHead} {body : Node} {a : Active} {k : Nat}
    (h : (group s head body).Proper) (hnumber : head.number = some k)
    (hactive : ∀ m ∈ (group s head body).preorder, ∀ j ∈ m.number?, j ∉ a.numbers) :
    ∀ m ∈ body.preorder, ∀ j ∈ m.number?, j ∉ (a.enter k).numbers := by
  intro m hm j hj hj'
  rcases List.mem_cons.mp hj' with rfl | hj'
  · exact h.numbers s head body rfl j hnumber m hm hj
  · exact forall_preorder_child hactive (List.mem_singleton.mpr rfl) m hm j hj hj'

end Node

namespace Hazard

open Profile

/-- In a regular tree profile and width agree, as long as no group of the tree is one that is being
gone through. -/
theorem profile_fits (ctx : Context) (call : Active → CallTarget → Width) {n : Node}
    (h : n.Regular) (a : Active) (hactive : ∀ m ∈ n.preorder, ∀ k ∈ m.number?, k ∉ a.numbers) :
    (profile ctx n).Fits (n.widthIn call a) := by
  induction n using Node.children_induction generalizing a with
  | h n ih =>
      have hself := h.proper n n.self_mem_preorder
      have hbelow : n.isClass = false → ∀ c ∈ n.children, ∀ a : Active,
          (∀ m ∈ c.preorder, ∀ k ∈ m.number?, k ∉ a.numbers) →
          (profile ctx c).Fits (c.widthIn call a) := fun hclass c hc a ha =>
        ih c hc (h.child hclass hc) a ha
      have hsame : n.isClass = false → ∀ c ∈ n.children,
          (profile ctx c).Fits (c.widthIn call a) := fun hclass c hc =>
        hbelow hclass c hc a (Node.forall_preorder_child hactive hc)
      cases n with
      | atom s x => exact fits_atom ctx (h.callFree _ (Node.self_mem_preorder _)) h.outside
      | sequence s items =>
          rw [profile, Node.widthIn, profiles_eq_map, Node.widthsIn_eq_map]
          exact fits_blank.foldl_andThen (hsame rfl)
      | alternation s branches =>
          rw [profile, Node.widthIn, profiles_eq_map, Node.widthsIn_eq_map]
          exact fits_anyOf (hsame rfl)
      | group s head body =>
          have hbody : (profile ctx body).Fits
              (Width.ofGroup head.number a (body.widthIn call)) := by
            have hmem : body ∈ (Node.group s head body).children := by simp [Node.children]
            cases hnumber : head.number with
            | none => exact hsame rfl body hmem
            | some k =>
                have hk : k ∉ a.numbers := hactive _ (Node.self_mem_preorder _) k hnumber
                rw [Width.ofGroup, if_neg (by simpa using hk)]
                exact hbelow rfl body hmem _ (hself.inactive hnumber hactive)
          rw [profile, Node.widthIn, ofGroup]
          split
          · split <;> exact ⟨fits_blank.nullable, fits_blank.consumes⟩
          · split <;> exact ⟨hbody.nullable, hbody.consumes⟩
      | quantifier s count target =>
          have htarget := hsame rfl target (by simp [Node.children])
          rw [profile, Node.widthIn]
          split
          next hmax => exact fits_never hmax (hself.turns s count target rfl)
          next hmax => exact fits_quantifier htarget hmax
      | charClass s negated caseless expr =>
          exact fits_single _ Nat.one_ne_zero (by simp [Node.widthIn, Width.exact])
      | classOp s op operands => cases h.outside
      | conditional s test yes no =>
          rw [profile, Node.widthIn]
          refine (hsame rfl yes (by simp [Node.children])).or ?_
          cases no with
          | none => exact fits_blank
          | some m => exact hsame rfl m (by simp [Node.children])
      | define s body => exact fits_blank

end Hazard

end PatternLint
