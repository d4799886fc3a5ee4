import PatternLint.Proofs.Hazard.Proper
import PatternLint.Proofs.Hazard.Width
import PatternLint.Proofs.References

/-!
# The width of a group's number

A reference is as wide as the group with its number, taken from outside that group:
what leads back into the group may then have any width. The body of the group on its
own is gone through with nothing on account, so it can only be narrower. The reason is
that widths grow with what is being gone through, and they do so operation by
operation and call by call; `Covers` is the order in which they grow.

Branches that are numbered alike give one number to several groups. The width of the
number is that of the first of them, and it says nothing about the others.
-/

namespace PatternLint

/-! ### Wider and narrower -/

namespace Width

/-- A width that leaves room for all that another one does. -/
structure Covers (v w : Width) : Prop where
  lower : v.min ≤ w.min
  upper : ∀ m ∈ v.max, ∃ k ∈ w.max, k ≤ m

variable {v v' w w' : Width}

theorem Covers.refl (w : Width) : w.Covers w :=
  ⟨Nat.le_refl _, fun m hm => ⟨m, hm, Nat.le_refl m⟩⟩

/-- Any width at all leaves room for every other. -/
theorem covers_unbounded (w : Width) : (unbounded 0).Covers w :=
  ⟨Nat.zero_le _, fun m hm => by cases hm⟩

theorem bound?_mono {a b m : Nat} (hle : a ≤ b) (hm : m ∈ bound? b) : ∃ k ∈ bound? a, k ≤ m := by
  rw [bound?] at hm
  split at hm
  · next hb =>
      cases hm
      refine ⟨a, ?_, hle⟩
      rw [bound?, if_pos (Nat.le_trans hle hb)]
      rfl
  · cases hm

theorem Covers.andThen (h : v.Covers w) (h' : v'.Covers w') :
    (v.andThen v').Covers (w.andThen w') := by
  have hlower := h.lower
  have hlower' := h'.lower
  refine ⟨?_, ?_⟩
  · show satAdd v.min v'.min ≤ satAdd w.min w'.min
    rw [satAdd, satAdd]
    omega
  · intro m hm
    cases hv : v.max with
    | none => simp [Width.andThen, hv] at hm
    | some a =>
        cases hv' : v'.max with
        | none => simp [Width.andThen, hv, hv'] at hm
        | some b =>
            obtain ⟨c, hc, hca⟩ := h.upper a hv
            obtain ⟨d, hd, hdb⟩ := h'.upper b hv'
            simp only [Width.andThen, hv, hv'] at hm
            simp only [Width.andThen, Option.mem_def.mp hc, Option.mem_def.mp hd]
            exact bound?_mono (Nat.add_le_add hca hdb) hm

theorem Covers.or (h : v.Covers w) (h' : v'.Covers w') : (v.or v').Covers (w.or w') := by
  have hlower := h.lower
  have hlower' := h'.lower
  refine ⟨?_, ?_⟩
  · show Min.min v.min v'.min ≤ Min.min w.min w'.min
    omega
  · intro m hm
    cases hv : v.max with
    | none => simp [Width.or, hv] at hm
    | some a =>
        cases hv' : v'.max with
        | none => simp [Width.or, hv, hv'] at hm
        | some b =>
            obtain ⟨c, hc, hca⟩ := h.upper a hv
            obtain ⟨d, hd, hdb⟩ := h'.upper b hv'
            simp only [Width.or, hv, hv', Option.mem_def, Option.some.injEq] at hm
            simp only [Width.or, Option.mem_def.mp hc, Option.mem_def.mp hd]
            exact ⟨Max.max c d, rfl, by omega⟩

theorem Covers.times (h : v.Covers w) (least : Nat) (most : Option Nat) :
    (v.times least most).Covers (w.times least most) := by
  refine ⟨?_, ?_⟩
  · have hmul := Nat.mul_le_mul_right least h.lower
    show satMul v.min least ≤ satMul w.min least
    rw [satMul, satMul]
    omega
  · intro m hm
    show ∃ k ∈ repeatMax w.max most, k ≤ m
    have hm : m ∈ repeatMax v.max most := hm
    cases hv : v.max with
    | none =>
        -- No turns at all are the only thing to bound what a turn does not.
        rw [hv] at hm
        cases most with
        | none => cases hm
        | some turns =>
            cases turns with
            | succ turns => cases hm
            | zero =>
                refine ⟨0, ?_, Nat.zero_le m⟩
                rcases w.max with _ | _ | c <;> rfl
    | some a =>
        obtain ⟨c, hc, hca⟩ := h.upper a hv
        rw [Option.mem_def.mp hc]
        rw [hv] at hm
        cases c with
        | zero => exact ⟨0, rfl, Nat.zero_le m⟩
        | succ c =>
            obtain ⟨b, rfl⟩ : ∃ b, a = b + 1 := ⟨a - 1, by omega⟩
            cases most with
            | none => cases hm
            | some turns => exact bound?_mono (Nat.mul_le_mul_right turns hca) hm

section Lists

variable {α : Type} {f g : α → Width} {xs : List α}

theorem Covers.foldl_andThen (h : v.Covers w) (hxs : ∀ x ∈ xs, (f x).Covers (g x)) :
    ((xs.map f).foldl Width.andThen v).Covers ((xs.map g).foldl Width.andThen w) := by
  rw [List.foldl_map, List.foldl_map]
  exact List.foldl_rel h fun x hx _ _ hacc => hacc.andThen (hxs x hx)

theorem Covers.foldl_or (h : v.Covers w) (hxs : ∀ x ∈ xs, (f x).Covers (g x)) :
    ((xs.map f).foldl Width.or v).Covers ((xs.map g).foldl Width.or w) := by
  rw [List.foldl_map, List.foldl_map]
  exact List.foldl_rel h fun x hx _ _ hacc => hacc.or (hxs x hx)

theorem covers_anyOf (hxs : ∀ x ∈ xs, (f x).Covers (g x)) :
    (anyOf (xs.map f)).Covers (anyOf (xs.map g)) := by
  cases xs with
  | nil => exact .refl zero
  | cons x xs => exact (hxs x (by simp)).foldl_or fun y hy => hxs y (by simp [hy])

end Lists

theorem covers_ofAtom {call call' : CallTarget → Width} (h : ∀ t, (call' t).Covers (call t))
    (x : Atom) : (ofAtom call' x).Covers (ofAtom call x) := by
  cases x with
  | backref ref caseless => exact h (.group ref)
  | subroutine target => exact h target
  | shorthand kind negated => cases kind <;> exact .refl _
  | _ => exact .refl _

end Width

/-! ### More to go through -/

/-- An account on which there is nothing that another one does not have. -/
structure Active.Within (a a' : Active) : Prop where
  numbers : a.numbers ⊆ a'.numbers
  whole : a.whole = true → a'.whole = true

namespace Active

variable {a a' : Active}

theorem within_empty (a : Active) : ({} : Active).Within a :=
  ⟨List.nil_subset _, fun h => by cases h⟩

theorem Within.enter (h : a.Within a') (k : Nat) : (a.enter k).Within (a'.enter k) :=
  ⟨List.cons_subset_cons k h.numbers, h.whole⟩

theorem Within.enterWhole (h : a.Within a') :
    ({ a with whole := true } : Active).Within { a' with whole := true } :=
  ⟨h.numbers, fun _ => rfl⟩

end Active

variable {call : Active → CallTarget → Width} {a a' : Active}

/-- A group is wider the more is being gone through, if its body is. -/
theorem Width.covers_ofGroup {number : Option Nat} {body body' : Active → Width}
    (hbody : ∀ {a a' : Active}, a.Within a' → (body' a').Covers (body a)) (h : a.Within a') :
    (ofGroup number a' body').Covers (ofGroup number a body) := by
  cases number with
  | none => exact hbody h
  | some k =>
      rw [ofGroup, ofGroup]
      by_cases hk' : a'.numbers.contains k = true
      · rw [if_pos hk']
        exact covers_unbounded _
      · have hk : ¬ a.numbers.contains k = true := by
          intro hk
          exact hk' (List.contains_iff_mem.mpr (h.numbers (List.contains_iff_mem.mp hk)))
        rw [if_neg hk', if_neg hk]
        exact hbody (h.enter k)

/-- A node is wider the more is being gone through, if calls are. -/
theorem Node.covers_widthIn {call call' : Active → CallTarget → Width}
    (hcall : ∀ {a a' : Active}, a.Within a' → ∀ t, (call' a' t).Covers (call a t)) {n : Node}
    {a a' : Active} (h : a.Within a') : (n.widthIn call' a').Covers (n.widthIn call a) := by
  induction n using children_induction generalizing a a' with
  | h n ih =>
      cases n with
      | atom s x => exact Width.covers_ofAtom (hcall h) x
      | sequence s items =>
          rw [widthIn, widthIn, widthsIn_eq_map, widthsIn_eq_map]
          exact (Width.Covers.refl .zero).foldl_andThen fun c hc => ih c hc h
      | alternation s branches =>
          rw [widthIn, widthIn, widthsIn_eq_map, widthsIn_eq_map]
          exact Width.covers_anyOf fun c hc => ih c hc h
      | group s head body =>
          rw [widthIn, widthIn]
          split
          · exact .refl .zero
          · exact Width.covers_ofGroup (fun h => ih body (by simp [children]) h) h
      | quantifier s count target =>
          rw [widthIn, widthIn]
          exact (ih target (by simp [children]) h).times count.min count.max
      | charClass s negated caseless expr => exact .refl (.exact 1)
      | classOp s op operands => exact .refl (.exact 1)
      | conditional s test yes no =>
          rw [widthIn, widthIn]
          refine (ih yes (by simp [children]) h).or ?_
          cases no with
          | none => exact .refl .zero
          | some m => exact ih m (by simp [children]) h
      | define s body => exact .refl .zero

theorem Node.number?_of_numbered? {m : Node} {g : NumberedGroup} (h : m.numbered? = some g) :
    m.number? = some g.number := by
  cases m with
  | group s head body =>
      obtain ⟨k, hk, rfl⟩ := Option.map_eq_some_iff.mp h
      exact hk
  | _ => cases h

namespace Scope

theorem covers_numberWidth {s : Scope} {call call' : Active → CallTarget → Width}
    (hcall : ∀ {a a' : Active}, a.Within a' → ∀ t, (call' a' t).Covers (call a t))
    (h : a.Within a') (k : Nat) :
    (s.numberWidth call' a' k).Covers (s.numberWidth call a k) := by
  rw [numberWidth, numberWidth]
  cases s.group? k with
  | none => exact .refl _
  | some g => exact Width.covers_ofGroup (Node.covers_widthIn hcall) h

/-- References and calls are wider the more is being gone through, for every bound on their
depth. -/
theorem covers_callWithin (s : Scope) (fuel : Nat) {a a' : Active} (h : a.Within a')
    (t : CallTarget) : (s.callWithin fuel a' t).Covers (s.callWithin fuel a t) := by
  induction fuel generalizing a a' t with
  | zero => exact .refl _
  | succ fuel ih =>
      have hnumber : ∀ k, (s.numberWidth (s.callWithin fuel) a' k).Covers
          (s.numberWidth (s.callWithin fuel) a k) :=
        covers_numberWidth (fun h t => ih h t) h
      cases t with
      | whole =>
          rw [callWithin, callWithin]
          by_cases hwhole' : a'.whole = true
          · rw [if_pos hwhole']
            exact Width.covers_unbounded _
          · have hwhole : ¬ a.whole = true := fun hwhole => hwhole' (h.whole hwhole)
            rw [if_neg hwhole', if_neg hwhole]
            exact Node.covers_widthIn (fun h t => ih h t) h.enterWhole
      | group ref =>
          cases ref with
          | number k => exact hnumber k
          | relative i k => exact hnumber k
          | name name =>
              rw [callWithin, callWithin]
              cases s.numbersOf name with
              | nil => exact .refl _
              | cons k ks => exact Width.covers_anyOf fun k _ => hnumber k

/-- The group with a number is the first one that has it. -/
theorem group?_of_first {root inner : Node} {names : List (String × Nat)} {k : Nat} {span : Span}
    {head : GroupHead} {before after : List Node}
    (hpre : root.preorder = before ++ .group span head inner :: after)
    (hnumber : head.number = some k) (hbefore : ∀ m ∈ before, m.number? ≠ some k) :
    (Scope.new root names).group? k = some ⟨k, span, inner⟩ := by
  have hself : (Node.group span head inner).numbered? = some ⟨k, span, inner⟩ := by
    rw [Node.numbered?, hnumber]
    rfl
  have hnone : ((before.filterMap Node.numbered?).find? fun g => g.number == k) = none := by
    rw [List.find?_eq_none]
    intro g hg heq
    obtain ⟨m, hm, hmg⟩ := List.mem_filterMap.mp hg
    exact hbefore m hm (beq_iff_eq.mp heq ▸ Node.number?_of_numbered? hmg)
  show (root.preorder.filterMap Node.numbered?).find? (fun g => g.number == k) = _
  rw [hpre, List.filterMap_append, List.find?_append, hnone, List.filterMap_cons_some hself,
    Option.none_or]
  exact List.find?_cons_of_pos (beq_self_eq_true k)

end Scope

/-! ### Patterns -/

namespace Pattern

variable {s : ParserSettings} {body modifiers : String} {delimiter : Char} {p : Pattern}

/-- Each number up to the count of groups is that of a group; here is the first of them. -/
theorem exists_first_group (h : parseBody s body modifiers delimiter = .ok p) {k : Nat}
    (hpos : 1 ≤ k) (hle : k ≤ p.captures) :
    ∃ before span head inner after,
      p.root.preorder = before ++ .group span head inner :: after ∧ head.number = some k ∧
      ∀ m ∈ before, m.number? ≠ some k := by
  obtain ⟨span, head, inner, hmem, hnumber⟩ := (readFrom_of_ok h).1.adds.found k hpos hle
  have hsome : (p.root.preorder.find? fun m => m.number? == some k).isSome = true :=
    List.find?_isSome.mpr ⟨_, hmem, beq_iff_eq.mpr hnumber⟩
  obtain ⟨n, hn⟩ := Option.isSome_iff_exists.mp hsome
  obtain ⟨hk, before, after, hpre, hbefore⟩ := List.find?_eq_some_iff_append.mp hn
  have hk : n.number? = some k := beq_iff_eq.mp hk
  cases n with
  | group span head inner =>
      refine ⟨before, span, head, inner, after, hpre, hk, ?_⟩
      intro m hm heq
      simpa [heq] using hbefore m hm
  | _ => cases hk

/-- The width of a number that a pattern has leaves room for all that the width of the body of a
group does, if the group is the first one with that number. -/
theorem groupWidth_covers_first (h : parseBody s body modifiers delimiter = .ok p) {k : Nat}
    (hpos : 1 ≤ k) (hle : k ≤ p.captures) :
    ∃ before span head inner after,
      p.root.preorder = before ++ .group span head inner :: after ∧ head.number = some k ∧
      (∀ m ∈ before, m.number? ≠ some k) ∧
      (p.scope.groupWidth k).Covers (p.scope.width inner) := by
  obtain ⟨before, span, head, inner, after, hpre, hnumber, hbefore⟩ :=
    exists_first_group h hpos hle
  refine ⟨before, span, head, inner, after, hpre, hnumber, hbefore, ?_⟩
  have hgroup : p.scope.group? k = some ⟨k, span, inner⟩ :=
    Scope.group?_of_first hpre hnumber hbefore
  have hwidth : p.scope.groupWidth k = inner.widthIn p.scope.call (Active.enter {} k) := by
    rw [Scope.groupWidth, Scope.numberWidth, hgroup]
    rfl
  rw [hwidth]
  exact Node.covers_widthIn (fun hw t => p.scope.covers_callWithin _ hw t) (Active.within_empty _)

/-- The first group calls itself, so that its own number may have any width in it. -/
theorem groupWidth_covers_first_call :
    ∃ p, parseBody {} "(?|(a(?1)?b)|(c))" "" '/' = .ok p ∧
      ∃ before span head inner after,
        p.root.preorder = before ++ .group span head inner :: after ∧ head.number = some 1 ∧
        (p.scope.groupWidth 1).Covers (p.scope.width inner) := by
  obtain ⟨p, hp, hcaptures⟩ := exists_of_map (f := captures)
    (x := parseBody {} "(?|(a(?1)?b)|(c))" "" '/') (b := 1) (by cbv)
  obtain ⟨before, span, head, inner, after, hpre, hnumber, -, hcovers⟩ :=
    groupWidth_covers_first hp (k := 1) (by decide) (by rw [hcaptures])
  exact ⟨p, hp, before, span, head, inner, after, hpre, hnumber, hcovers⟩

/-- The second group of a number may be wider than the number: `(a)` is as wide as one character,
and `(bcd)` is not. -/
theorem not_groupWidth_covers_second :
    ∃ p, parseBody {} "(?|(a)|(bcd))" "" '/' = .ok p ∧ p.captures = 1 ∧
      ∃ span head inner, Node.group span head inner ∈ p.root.preorder ∧ head.number = some 1 ∧
        ¬ (p.scope.groupWidth 1).Covers (p.scope.width inner) := by
  obtain ⟨p, hp, hfields⟩ := exists_of_map (f := fun p => (p.root, p.captures, p.names))
    (x := parseBody {} "(?|(a)|(bcd))" "" '/')
    (b := (.group ⟨0, 13⟩ { kind := .branchReset }
      (.alternation ⟨3, 12⟩ [
        .group ⟨3, 6⟩ { kind := .capturing, number := some 1 } (.letter 4 'a'),
        .group ⟨7, 12⟩ { kind := .capturing, number := some 1 }
          (.sequence ⟨8, 11⟩ [.letter 8 'b', .letter 9 'c', .letter 10 'd'])]), 1, [])) (by cbv)
  obtain ⟨_, _, _, root, captures, names, _⟩ := p
  obtain ⟨rfl, rfl, rfl⟩ : root = _ ∧ captures = 1 ∧ names = [] := by simpa using hfields
  refine ⟨_, hp, rfl, _, _, _, List.mem_of_getElem? (i := 4) rfl, rfl, ?_⟩
  intro hcovers
  obtain ⟨m, hm, hle⟩ := hcovers.upper 1 rfl
  obtain rfl : 3 = m := Option.some.inj hm
  omega

end Pattern

end PatternLint
