import PatternLint.Proofs.GroupWidths
import PatternLint.Width.Shared

/-!
# Widths from a shared account

A measurement goes wherever references lead, and what it has entered it must leave
again. That it comes to an end is not a matter of the size of a tree: what counts is
the room that an account leaves, which is how much of the scope has not been entered.
It shrinks with everything that is entered, so it bounds the depth of the calls, and
between two calls the measurement only goes down a tree.

`Settles` says all of this at once. With enough fuel the measurement gives a width, it
is the width that `Scope.call` gives for the same account, and the account is as it
was. A sequence of queries can therefore be taken one by one.
-/

namespace PatternLint

section Settles

variable {α β : Type} {a : Active} {x : α} {y : β}

/-- With enough fuel, a computation gives `x` and leaves the account as it was. -/
def Settles (m : Nat → StateT Active Option α) (a : Active) (x : α) : Prop :=
  ∃ enough, ∀ fuel, enough ≤ fuel → m fuel a = some (x, a)

namespace Settles

theorem pure (x : α) (a : Active) : Settles (fun _ => return x) a x := ⟨0, fun _ _ => rfl⟩

theorem bind {m : Nat → StateT Active Option α} {f : Nat → α → StateT Active Option β}
    (hm : Settles m a x) (hf : Settles (fun fuel => f fuel x) a y) :
    Settles (fun fuel => m fuel >>= f fuel) a y := by
  obtain ⟨j, hj⟩ := hm
  obtain ⟨k, hk⟩ := hf
  refine ⟨max j k, fun fuel hfuel => ?_⟩
  show (m fuel a >>= fun r => f fuel r.1 r.2) = some (y, a)
  rw [hj fuel (by omega)]
  exact hk fuel (by omega)

/-- A round of the recursion is one more unit of fuel. -/
theorem succ {m : Nat → StateT Active Option α} (h : Settles (fun fuel => m (fuel + 1)) a x) :
    Settles m a x := by
  obtain ⟨enough, h⟩ := h
  refine ⟨enough + 1, fun fuel hfuel => ?_⟩
  obtain ⟨fuel, rfl⟩ : ∃ k, fuel = k + 1 := ⟨fuel - 1, by omega⟩
  exact h fuel (by omega)

theorem mapM {m : Nat → β → StateT Active Option α} {f : β → α} {ys : List β}
    (h : ∀ y ∈ ys, Settles (fun fuel => m fuel y) a (f y)) :
    Settles (fun fuel => ys.mapM (m fuel)) a (ys.map f) := by
  induction ys with
  | nil => exact .pure [] a
  | cons y ys ih =>
      simp only [List.mapM_cons, List.map_cons]
      exact (h y (by simp)).bind ((ih fun z hz => h z (by simp [hz])).bind (.pure _ a))

end Settles

end Settles

section Measurements

variable {α : Type} {a : Active} {m : Nat → α → Measurement} {f : α → Width} {xs : List α}

/-- Inside a group the account has the group on it, and behind the group it does not. -/
theorem Settles.through {number : Nat} {m : Nat → Measurement} {f : Active → Width}
    (h : number ∉ a.numbers → Settles m (a.enter number) (f (a.enter number))) :
    Settles (fun fuel => Measurement.through number (m fuel)) a
      (Width.ofGroup (some number) a f) := by
  by_cases hactive : number ∈ a.numbers
  · refine ⟨0, fun fuel _ => ?_⟩
    have hcontains : a.numbers.contains number = true := List.contains_iff_mem.mpr hactive
    show (if a.numbers.contains number then _ else _ : Measurement) a = _
    rw [if_pos hcontains, Width.ofGroup, if_pos hcontains]
    rfl
  · obtain ⟨enough, hm⟩ := h hactive
    refine ⟨enough, fun fuel hfuel => ?_⟩
    have hcontains : ¬ a.numbers.contains number = true :=
      fun hc => hactive (List.contains_iff_mem.mp hc)
    have hleave : (a.enter number).leave number = a := by
      have hkept : ∀ n ∈ a.numbers, (n != number) = true := by
        intro n hn
        rw [bne_iff_ne]
        rintro rfl
        exact hactive hn
      rw [Active.leave, Active.enter, List.filter_cons_of_neg (by simp),
        List.filter_eq_self.mpr hkept]
    show (if a.numbers.contains number then _ else _ : Measurement) a = _
    rw [if_neg hcontains, Width.ofGroup, if_neg hcontains]
    show (m fuel (a.enter number) >>= fun r => some (r.1, r.2.leave number)) = _
    rw [hm fuel hfuel]
    show some (_, (a.enter number).leave number) = _
    rw [hleave]

theorem Settles.throughWhole {m : Nat → Measurement} {f : Active → Width}
    (h : a.whole = false → Settles m { a with whole := true } (f { a with whole := true })) :
    Settles (fun fuel => Measurement.throughWhole (m fuel)) a
      (if a.whole then .unbounded 0 else f { a with whole := true }) := by
  obtain ⟨numbers, whole⟩ := a
  cases whole with
  | true => exact ⟨0, fun _ _ => rfl⟩
  | false =>
      obtain ⟨enough, hm⟩ := h rfl
      refine ⟨enough, fun fuel hfuel => ?_⟩
      show (m fuel ⟨numbers, true⟩ >>= fun r => some (r.1, { r.2 with whole := false })) = _
      rw [hm fuel hfuel]
      rfl

theorem Settles.fold (op : Width → Width → Width) (w : Width)
    (h : ∀ x ∈ xs, Settles (fun fuel => m fuel x) a (f x)) :
    Settles (fun fuel => Measurement.fold op w (xs.map (m fuel))) a ((xs.map f).foldl op w) := by
  induction xs generalizing w with
  | nil => exact .pure w a
  | cons x xs ih =>
      have hhead : Settles (fun fuel => return op w (← m fuel x)) a (op w (f x)) :=
        (h x (by simp)).bind (.pure _ a)
      have htail := ih (op w (f x)) fun y hy => h y (by simp [hy])
      simp only [Measurement.fold, List.map_cons, List.foldlM_cons, List.foldl_cons]
      exact hhead.bind (f := fun fuel w => Measurement.fold op w (xs.map (m fuel))) htail

theorem Settles.any_cons (w : Width) {x : α}
    (h : ∀ y ∈ x :: xs, Settles (fun fuel => m fuel y) a (f y)) :
    Settles (fun fuel => Measurement.any w ((x :: xs).map (m fuel))) a
      (Width.anyOf ((x :: xs).map f)) :=
  (h x (by simp)).bind (.fold Width.or (f x) fun y hy => h y (by simp [hy]))

end Measurements

namespace Active

variable {a a' a'' : Active}

theorem Within.refl (a : Active) : a.Within a := ⟨List.Subset.refl _, id⟩

theorem Within.trans (h : a.Within a') (h' : a'.Within a'') : a.Within a'' :=
  ⟨fun _ hn => h'.numbers (h.numbers hn), fun hw => h'.whole (h.whole hw)⟩

theorem within_enter (a : Active) (number : Nat) : a.Within (a.enter number) :=
  ⟨List.subset_cons_self number a.numbers, id⟩

end Active

namespace Scope

variable {s : Scope} {a : Active}

/-! ### The room on an account -/

/-- How much of a scope has not been entered: groups, by number, and the whole pattern. -/
def room (s : Scope) (a : Active) : Nat :=
  ((s.groups.map (·.number)).toFinset \ a.numbers.toFinset).card + if a.whole then 0 else 1

theorem room_le (s : Scope) (a : Active) : s.room a ≤ s.groups.length + 1 := by
  have hnumbers : ((s.groups.map (·.number)).toFinset \ a.numbers.toFinset).card ≤
      s.groups.length :=
    calc _ ≤ (s.groups.map (·.number)).toFinset.card :=
            Finset.card_le_card Finset.sdiff_subset
      _ ≤ (s.groups.map (·.number)).length := List.toFinset_card_le _
      _ = s.groups.length := List.length_map _
  rw [room]
  split <;> omega

theorem room_within {a' : Active} (h : a.Within a') : s.room a' ≤ s.room a := by
  have hnumbers : ((s.groups.map (·.number)).toFinset \ a'.numbers.toFinset).card ≤
      ((s.groups.map (·.number)).toFinset \ a.numbers.toFinset).card := by
    refine Finset.card_le_card (Finset.sdiff_subset_sdiff (Finset.Subset.refl _) ?_)
    intro n hn
    exact List.mem_toFinset.mpr (h.numbers (List.mem_toFinset.mp hn))
  have hwhole := h.whole
  rw [room, room]
  split
  · omega
  next hw' =>
    have hw : ¬ a.whole = true := fun hw => hw' (hwhole hw)
    rw [if_neg hw]
    omega

theorem mem_numbers_of_group? {number : Nat} {g : NumberedGroup}
    (h : s.group? number = some g) : number ∈ s.groups.map (·.number) := by
  have heq : g.number = number := beq_iff_eq.mp (List.find?_some h :)
  exact List.mem_map.mpr ⟨g, List.mem_of_find?_eq_some h, heq⟩

theorem room_enter {number : Nat} {g : NumberedGroup} (h : s.group? number = some g)
    (hnew : number ∉ a.numbers) : s.room (a.enter number) < s.room a := by
  have hmem : number ∈ (s.groups.map (·.number)).toFinset \ a.numbers.toFinset :=
    Finset.mem_sdiff.mpr ⟨List.mem_toFinset.mpr (mem_numbers_of_group? h),
      fun hn => hnew (List.mem_toFinset.mp hn)⟩
  have hcard := Finset.card_erase_lt_of_mem hmem
  rw [← Finset.sdiff_insert, ← List.toFinset_cons] at hcard
  exact Nat.add_lt_add_right hcard _

theorem room_whole (hwhole : a.whole = false) :
    s.room { a with whole := true } < s.room a := by
  simp [room, hwhole]

theorem numberWidth_eq_unbounded {call : Active → CallTarget → Width} {number : Nat}
    (h : number ∈ s.groups.map (·.number) → number ∈ a.numbers) :
    s.numberWidth call a number = .unbounded 0 := by
  rw [numberWidth]
  cases hgroup : s.group? number with
  | none => rfl
  | some g => exact if_pos (List.contains_iff_mem.mpr (h (mem_numbers_of_group? hgroup)))

theorem anyOf_unbounded (ns : List Nat) (hne : ns ≠ []) :
    Width.anyOf (ns.map fun _ => .unbounded 0) = .unbounded 0 := by
  obtain ⟨n, ns, rfl⟩ := List.exists_cons_of_ne_nil hne
  show (ns.map fun _ => Width.unbounded 0).foldl Width.or (.unbounded 0) = .unbounded 0
  rw [List.foldl_map]
  exact List.foldl_fixed' (fun _ => rfl) ns

/-- When all has been entered, a reference or call can only lead back. -/
theorem callWithin_eq_unbounded (hroom : s.room a = 0) (fuel : Nat) (t : CallTarget) :
    s.callWithin fuel a t = .unbounded 0 := by
  have hnumbers : ∀ n ∈ s.groups.map (·.number), n ∈ a.numbers := by
    intro n hn
    have hempty : (s.groups.map (·.number)).toFinset \ a.numbers.toFinset = ∅ :=
      Finset.card_eq_zero.mp (Nat.eq_zero_of_add_eq_zero_right hroom)
    exact List.mem_toFinset.mp
      (Finset.sdiff_eq_empty_iff_subset.mp hempty (List.mem_toFinset.mpr hn))
  have hwhole : a.whole = true := by
    by_contra hwhole
    rw [room, if_neg hwhole] at hroom
    omega
  have hnumber : ∀ call n, s.numberWidth call a n = .unbounded 0 :=
    fun call n => numberWidth_eq_unbounded (hnumbers n)
  cases fuel with
  | zero => rfl
  | succ fuel =>
      cases t with
      | whole => exact if_pos hwhole
      | group ref =>
          cases ref with
          | number k => exact hnumber _ k
          | relative i k => exact hnumber _ k
          | name name =>
              rw [callWithin]
              cases hnames : s.numbersOf name with
              | nil => rfl
              | cons k ks =>
                  show Width.anyOf ((k :: ks).map (s.numberWidth (s.callWithin fuel) a)) = _
                  rw [funext (hnumber _)]
                  exact anyOf_unbounded (k :: ks) (by simp)

/-! ### Measurements -/

section Calls

variable {call : Active → CallTarget → Width}

/-- A node is measured as `widthIn` says, if calls are for as much as the node enters. -/
theorem settles_measure
    (hcall : ∀ a' : Active, a.Within a' → ∀ t,
      Settles (fun fuel => s.measureCall (s.measure fuel) t) a' (call a' t))
    (n : Node) : Settles (fun fuel => s.measure fuel n) a (n.widthIn call a) := by
  induction n using Node.children_induction generalizing a with
  | h n ih =>
      refine Settles.succ ?_
      show Settles (fun fuel => s.measureNode (s.measure fuel) n) a (n.widthIn call a)
      cases n with
      | atom span x =>
          cases x with
          | backref ref caseless => exact hcall a (.refl a) (.group ref)
          | subroutine target => exact hcall a (.refl a) target
          | shorthand kind negated => cases kind <;> exact .pure _ a
          | _ => exact .pure _ a
      | sequence span items =>
          rw [Node.widthIn, Node.widthsIn_eq_map]
          exact .fold Width.andThen .zero fun c hc => ih c hc hcall
      | alternation span branches =>
          rw [Node.widthIn, Node.widthsIn_eq_map]
          cases branches with
          | nil => exact .pure _ a
          | cons c cs => exact Settles.any_cons Width.zero fun c hc => ih c hc hcall
      | group span head body =>
          have hbody := @ih body (by simp [Node.children])
          rw [Node.widthIn]
          simp only [measureNode]
          split
          · exact .pure _ a
          · cases head.number with
            | none => exact hbody hcall
            | some k =>
                exact .through fun _ => hbody fun a' h' => hcall a' ((a.within_enter k).trans h')
      | quantifier span count target =>
          exact (ih target (by simp [Node.children]) hcall).bind (.pure _ a)
      | charClass span negated caseless expr => exact .pure _ a
      | classOp span op operands => exact .pure _ a
      | conditional span test yes no =>
          rw [Node.widthIn]
          refine (ih yes (by simp [Node.children]) hcall).bind ?_
          cases no with
          | none => exact .pure _ a
          | some no => exact (ih no (by simp [Node.children]) hcall).bind (.pure _ a)
      | define span body => exact .pure _ a

theorem settles_measureNumber {number : Nat}
    (hcall : number ∉ a.numbers → ∀ a' : Active, s.room a' < s.room a → ∀ t,
      Settles (fun fuel => s.measureCall (s.measure fuel) t) a' (call a' t)) :
    Settles (fun fuel => s.measureNumber (s.measure fuel) number) a
      (s.numberWidth call a number) := by
  rw [numberWidth]
  simp only [measureNumber]
  cases hgroup : s.group? number with
  | none => exact .pure _ a
  | some g =>
      refine .through fun hnew => settles_measure (fun a' h' t => hcall hnew a' ?_ t) g.body
      exact Nat.lt_of_le_of_lt (room_within h') (room_enter hgroup hnew)

end Calls

/-- A round of calls, where all that a call leads to leaves less room. -/
theorem settles_measureCall_succ {depth : Nat}
    (ih : ∀ a' : Active, s.room a' < s.room a → ∀ t,
      Settles (fun fuel => s.measureCall (s.measure fuel) t) a' (s.callWithin depth a' t))
    (t : CallTarget) :
    Settles (fun fuel => s.measureCall (s.measure fuel) t) a (s.callWithin (depth + 1) a t) := by
  have hnumber : ∀ k, Settles (fun fuel => s.measureNumber (s.measure fuel) k) a
      (s.numberWidth (s.callWithin depth) a k) :=
    fun k => settles_measureNumber fun _ => ih
  cases t with
  | whole =>
      rw [callWithin]
      refine .throughWhole (f := fun a => s.root.widthIn (s.callWithin depth) a) fun hwhole => ?_
      refine settles_measure (fun a' h' t => ih a' ?_ t) s.root
      exact Nat.lt_of_le_of_lt (room_within h') (room_whole hwhole)
  | group ref =>
      cases ref with
      | number k => exact hnumber k
      | relative i k => exact hnumber k
      | name name =>
          rw [callWithin]
          simp only [measureCall]
          cases s.numbersOf name with
          | nil => exact .pure _ a
          | cons k ks => exact .any_cons _ fun k _ => hnumber k

/-- Calls are measured as `callWithin` says, if their depth covers the room that is left. -/
theorem settles_measureCall (depth : Nat) (hroom : s.room a ≤ depth) (t : CallTarget) :
    Settles (fun fuel => s.measureCall (s.measure fuel) t) a (s.callWithin depth a t) := by
  induction depth generalizing a t with
  | zero =>
      have hzero : s.room a = 0 := Nat.le_zero.mp hroom
      rw [callWithin_eq_unbounded hzero 0, ← callWithin_eq_unbounded hzero 1]
      exact settles_measureCall_succ (fun a' h' => by omega) t
  | succ depth ih => exact settles_measureCall_succ (fun a' h' => ih (by omega)) t

/-! ### Queries -/

/-- The answer to a query where an account is kept already. -/
def answerIn (s : Scope) (a : Active) : WidthQuery → Width
  | .node n => n.widthIn s.call a
  | .group number => s.numberWidth s.call a number

theorem settles_ask (s : Scope) (a : Active) (q : WidthQuery) :
    Settles (fun fuel => s.ask fuel q) a (s.answerIn a q) := by
  have hcall : ∀ (a' : Active) (t : CallTarget),
      Settles (fun fuel => s.measureCall (s.measure fuel) t) a' (s.call a' t) :=
    fun a' t => settles_measureCall _ (s.room_le a') t
  cases q with
  | node n => exact settles_measure (fun a' _ => hcall a') n
  | group number => exact settles_measureNumber fun _ a' _ => hcall a'

theorem answerIn_empty (s : Scope) (q : WidthQuery) : s.answerIn {} q = s.answer q := by
  cases q <;> rfl

/-- Each query comes to an end, from whatever account, and leaves the account as it was. So
queries that share an account, in whatever order, are answered as each of them is from an account
of its own. -/
theorem asks_apart (s : Scope) :
    (∀ (a : Active) (q : WidthQuery), ∃ w enough, ∀ fuel, enough ≤ fuel →
      s.ask fuel q a = some (w, a)) ∧
    (∀ q : WidthQuery, ∃ enough, ∀ fuel, enough ≤ fuel →
      s.ask fuel q {} = some (s.answer q, {})) ∧
    ∀ qs : List WidthQuery, ∃ enough, ∀ fuel, enough ≤ fuel →
      qs.mapM (s.ask fuel) {} = some (qs.map s.answer, {}) := by
  have hanswer : ∀ q, Settles (fun fuel => s.ask fuel q) {} (s.answer q) :=
    fun q => s.answerIn_empty q ▸ s.settles_ask {} q
  exact ⟨fun a q => ⟨s.answerIn a q, s.settles_ask a q⟩, hanswer,
    fun qs => Settles.mapM fun q _ => hanswer q⟩

/-- In `(a\2)(b\1)` each group refers to the other. -/
example :
    let one : Node := .group ⟨0, 5⟩ { kind := .capturing, number := some 1 }
      (.sequence ⟨1, 4⟩ [.letter 1 'a', .atom ⟨2, 4⟩ (.backref (.number 2) false)])
    let two : Node := .group ⟨5, 10⟩ { kind := .capturing, number := some 2 }
      (.sequence ⟨6, 9⟩ [.letter 6 'b', .atom ⟨7, 9⟩ (.backref (.number 1) false)])
    let root : Node := .sequence ⟨0, 10⟩ [one, two]
    [.group 1, .node root, .group 2].mapM ((Scope.new root []).ask 7) {} =
      some ([⟨2, none⟩, ⟨4, none⟩, ⟨2, none⟩], {}) := by decide

end Scope

end PatternLint
