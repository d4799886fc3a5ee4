import Mathlib
import PatternLint.Proofs.Hazard.Width

/-!
# Widths are exact

The numbers of characters that the matches of a node can have form a set, which is
put together from those of its parts: a sequence adds them up and a choice unites
them. A width bounds this set from both sides, whatever its counts come to.

Where no count is too large, a width is no more than that: its bounds are reached,
and only a set without an upper bound is left without one. The counts that have to
fit are the sums and products that are formed on the way, which `countsIn` lists.
Two kinds of trees are left out, as no text has them: a choice between no branches,
and a group inside another with the same number.
-/

namespace PatternLint

open scoped Pointwise

/-! ### Lengths -/

/-- How many characters a match of an atom has. References and calls may match anything. -/
def Atom.lengths : Atom → Set Nat
  | .empty | .anchor .. | .inlineFlags _ | .verb .. | .callout _ | .comment _ => {0}
  | .literal .. | .dot _ | .range .. | .posix .. => {1}
  | .shorthand .newline _ => {1, 2}
  | .shorthand .grapheme _ => {k | 1 ≤ k}
  | .shorthand _ _ => {1}
  | .backref .. | .subroutine _ => Set.univ

/-- The lengths of turns one after another, as many as the count says. -/
def Repeat.lengths (count : Repeat) (S : Set Nat) : Set Nat :=
  {k | ∃ turns, count.min ≤ turns ∧ count.allows turns = true ∧ k ∈ (List.replicate turns S).sum}

namespace Node

mutual
/-- How many characters a match of a node has. -/
def lengths : Node → Set Nat
  | .atom _ a => a.lengths
  | .sequence _ items => (lengthSets items).sum
  | .alternation _ branches => {k | ∃ S ∈ lengthSets branches, k ∈ S}
  | .group _ head body => if head.kind.isLookaround then {0} else lengths body
  | .quantifier _ count target => count.lengths (lengths target)
  | .charClass .. | .classOp .. => {1}
  | .conditional _ _ yes no => lengths yes ∪ optionalLengths no
  | .define .. => {0}
/-- The lengths of several nodes. -/
def lengthSets : List Node → List (Set Nat)
  | [] => []
  | n :: ns => lengths n :: lengthSets ns
/-- The lengths of a node that may be missing. -/
def optionalLengths : Option Node → Set Nat
  | none => {0}
  | some n => lengths n
end

theorem lengthSets_eq_map (ns : List Node) : lengthSets ns = ns.map lengths := by
  induction ns with
  | nil => rfl
  | cons n ns ih => rw [lengthSets, ih, List.map_cons]

end Node

/-! ### Counts -/

namespace Width

/-- The sums that the width of one match followed by another is formed of. -/
def sums (v w : Width) : List Nat :=
  match v.max, w.max with
  | some a, some b => [v.min + w.min, a + b]
  | _, _ => [v.min + w.min]

/-- The sums of widths that are added one by one. -/
def runningSums : Width → List Width → List Nat
  | _, [] => []
  | v, w :: ws => v.sums w ++ (v.andThen w).runningSums ws

/-- The products that the width of a repetition is formed of. -/
def products (w : Width) (count : Repeat) : List Nat :=
  match w.max, count.max with
  | some m, some turns => [w.min * count.min, m * turns]
  | _, _ => [w.min * count.min]

/-- The counts of a group, which is not gone through inside itself. -/
def countsOfGroup (number : Option Nat) (a : Active) (body : Active → List Nat) : List Nat :=
  match number with
  | none => body a
  | some n => if a.numbers.contains n then [] else body (a.enter n)

end Width

mutual
/-- The sums and products that the width of a node is formed of, before they are cut off. -/
def Node.countsIn (call : Active → CallTarget → Width) : Node → Active → List Nat
  | .sequence _ items, a =>
    Node.allCountsIn call items a ++ Width.zero.runningSums (Node.widthsIn call items a)
  | .alternation _ branches, a => Node.allCountsIn call branches a
  | .group _ head body, a =>
    if head.kind.isLookaround then []
    else Width.countsOfGroup head.number a (Node.countsIn call body)
  | .quantifier _ count target, a =>
    Node.countsIn call target a ++ (Node.widthIn call target a).products count
  | .conditional _ _ yes no, a => Node.countsIn call yes a ++ Node.optionalCountsIn call no a
  | .atom .., _ | .charClass .., _ | .classOp .., _ | .define .., _ => []
/-- The sums and products for several nodes. -/
def Node.allCountsIn (call : Active → CallTarget → Width) : List Node → Active → List Nat
  | [], _ => []
  | n :: ns, a => Node.countsIn call n a ++ Node.allCountsIn call ns a
/-- The sums and products for a node that may be missing. -/
def Node.optionalCountsIn (call : Active → CallTarget → Width) : Option Node → Active → List Nat
  | none, _ => []
  | some n, a => Node.countsIn call n a
end

/-- The sums and products that the width of a node is formed of. -/
def Scope.counts (s : Scope) (n : Node) : List Nat := n.countsIn s.call {}

theorem Node.allCountsIn_eq_flatMap (call : Active → CallTarget → Width) (ns : List Node)
    (a : Active) : allCountsIn call ns a = ns.flatMap fun n => n.countsIn call a := by
  induction ns with
  | nil => rfl
  | cons n ns ih => rw [allCountsIn, ih, List.flatMap_cons]

/-! ### Sets of lengths -/

section Sets

variable {S T : Set Nat} {m : Nat}

theorem not_bddAbove_add (hS : ¬ BddAbove S) (hT : T.Nonempty) : ¬ BddAbove (S + T) := by
  rintro ⟨m, hm⟩
  obtain ⟨b, hb⟩ := hT
  exact hS ⟨m, fun a ha => (Nat.le_add_right a b).trans (hm (Set.add_mem_add ha hb))⟩

/-- What sums keep holds of turns that are all alike. -/
theorem replicate_sum_rule {P : Nat → Set Nat → Prop} (hzero : P 0 0)
    (hadd : ∀ {a b A B}, P a A → P b B → P (a + b) (A + B)) (turns : Nat) (hm : P m S) :
    P (turns * m) (List.replicate turns S).sum := by
  induction turns with
  | zero => simpa using hzero
  | succ turns ih =>
      rw [List.replicate_succ, List.sum_cons, Nat.succ_mul, Nat.add_comm]
      exact hadd hm ih

theorem mul_mem_replicate_sum (turns : Nat) (hm : m ∈ S) :
    turns * m ∈ (List.replicate turns S).sum :=
  replicate_sum_rule (P := fun k A => k ∈ A) rfl Set.add_mem_add turns hm

/-- The least number of turns, all of the same length. -/
theorem mul_mem_lengths {count : Repeat} (hallows : count.allows count.min = true) (hm : m ∈ S) :
    count.min * m ∈ count.lengths S :=
  ⟨count.min, Nat.le_refl _, hallows, mul_mem_replicate_sum count.min hm⟩

theorem mul_mem_lowerBounds_replicate (turns : Nat) (hm : m ∈ lowerBounds S) :
    turns * m ∈ lowerBounds (List.replicate turns S).sum :=
  replicate_sum_rule (P := fun k A => k ∈ lowerBounds A) (fun k _ => Nat.zero_le k)
    add_mem_lowerBounds_add turns hm

theorem mul_mem_upperBounds_replicate (turns : Nat) (hm : m ∈ upperBounds S) :
    turns * m ∈ upperBounds (List.replicate turns S).sum :=
  replicate_sum_rule (P := fun k A => k ∈ upperBounds A) (fun _ hk => Nat.le_of_eq hk)
    add_mem_upperBounds_add turns hm

theorem not_bddAbove_replicate (turns : Nat) (hS : ¬ BddAbove S) (hm : m ∈ S) :
    ¬ BddAbove (List.replicate (turns + 1) S).sum := by
  rw [List.replicate_succ, List.sum_cons]
  exact not_bddAbove_add hS ⟨_, mul_mem_replicate_sum turns hm⟩

end Sets

namespace Width

variable {v w : Width} {S T : Set Nat}

theorem mem_bound?_iff {n m : Nat} : m ∈ bound? n ↔ n = m ∧ n ≤ maxCount := by
  rw [bound?]
  split
  next h => simp [h]
  next h => simp [h]

/-! ### Bounds -/

/-- A width that no length is out of. -/
structure Bounds (w : Width) (S : Set Nat) : Prop where
  lower : w.min ∈ lowerBounds S
  upper : ∀ m ∈ w.max, m ∈ upperBounds S

/-- A width whose bounds are lengths themselves, and that has no upper bound only if there is
none. -/
structure Attained (w : Width) (S : Set Nat) : Prop where
  least : w.min ∈ S
  greatest : ∀ m ∈ w.max, m ∈ S
  endless : w.max = none → ¬ BddAbove S

theorem bounds_exact (k : Nat) : (exact k).Bounds {k} :=
  ⟨by simp [exact], by simp [exact]⟩

theorem attained_exact (k : Nat) : (exact k).Attained {k} :=
  ⟨by simp [exact], by simp [exact], by simp [exact]⟩

theorem bounds_unbounded_zero (S : Set Nat) : (unbounded 0).Bounds S :=
  ⟨fun _ _ => Nat.zero_le _, by simp [unbounded]⟩

theorem Attained.isGreatest_iff (h : w.Attained S) (hb : w.Bounds S) {m : Nat} :
    w.max = some m ↔ IsGreatest S m := by
  constructor
  · intro hm
    exact ⟨h.greatest m hm, hb.upper m hm⟩
  · intro hm
    cases hmax : w.max with
    | none => exact absurd hm.bddAbove (h.endless hmax)
    | some k =>
        have hk : IsGreatest S k := ⟨h.greatest k hmax, hb.upper k hmax⟩
        rw [hk.unique hm]

theorem Attained.endless_iff (h : w.Attained S) (hb : w.Bounds S) :
    w.max = none ↔ ¬ BddAbove S := by
  constructor
  · exact h.endless
  · intro hbounded
    cases hmax : w.max with
    | none => rfl
    | some m => exact absurd ⟨m, hb.upper m hmax⟩ hbounded

theorem exists_of_mem_andThen_max {m : Nat} (h : m ∈ (v.andThen w).max) :
    ∃ a ∈ v.max, ∃ b ∈ w.max, a + b = m := by
  cases hv : v.max with
  | none => simp [andThen, hv] at h
  | some a =>
      cases hw : w.max with
      | none => simp [andThen, hv, hw] at h
      | some b =>
          simp only [andThen, hv, hw] at h
          exact ⟨a, rfl, b, rfl, (mem_bound?_iff.mp h).1⟩

theorem Bounds.andThen (hv : v.Bounds S) (hw : w.Bounds T) : (v.andThen w).Bounds (S + T) := by
  refine ⟨?_, ?_⟩
  · intro k hk
    have hsum : v.min + w.min ≤ k := add_mem_lowerBounds_add hv.lower hw.lower hk
    exact (Nat.min_le_left _ _).trans hsum
  · intro m hm
    obtain ⟨a, ha, b, hb, rfl⟩ := exists_of_mem_andThen_max hm
    exact add_mem_upperBounds_add (hv.upper a ha) (hw.upper b hb)

theorem Attained.andThen (hv : v.Attained S) (hw : w.Attained T)
    (hsums : ∀ k ∈ v.sums w, k ≤ maxCount) : (v.andThen w).Attained (S + T) := by
  refine ⟨?_, ?_, ?_⟩
  · have hmin : v.min + w.min ≤ maxCount := hsums _ (by rw [sums]; split <;> simp)
    rw [Width.andThen, satAdd, Nat.min_eq_left hmin]
    exact Set.add_mem_add hv.least hw.least
  · intro m hm
    obtain ⟨a, ha, b, hb, rfl⟩ := exists_of_mem_andThen_max hm
    exact Set.add_mem_add (hv.greatest a ha) (hw.greatest b hb)
  · intro hnone
    cases hvmax : v.max with
    | none => exact not_bddAbove_add (hv.endless hvmax) ⟨_, hw.least⟩
    | some a =>
        cases hwmax : w.max with
        | none =>
            rw [add_comm]
            exact not_bddAbove_add (hw.endless hwmax) ⟨_, hv.least⟩
        | some b =>
            have hmax : a + b ≤ maxCount := hsums _ (by simp [sums, hvmax, hwmax])
            simp [Width.andThen, hvmax, hwmax, bound?, hmax] at hnone

theorem exists_of_mem_or_max {m : Nat} (h : m ∈ (v.or w).max) :
    ∃ a ∈ v.max, ∃ b ∈ w.max, Max.max a b = m := by
  cases hv : v.max with
  | none => simp [Width.or, hv] at h
  | some a =>
      cases hw : w.max with
      | none => simp [Width.or, hv, hw] at h
      | some b => exact ⟨a, rfl, b, rfl, by simpa [Width.or, hv, hw] using h⟩

theorem Bounds.or (hv : v.Bounds S) (hw : w.Bounds T) : (v.or w).Bounds (S ∪ T) := by
  refine ⟨?_, ?_⟩
  · rintro k (hk | hk)
    · exact (Nat.min_le_left _ _).trans (hv.lower hk)
    · exact (Nat.min_le_right _ _).trans (hw.lower hk)
  · intro m hm
    obtain ⟨a, ha, b, hb, rfl⟩ := exists_of_mem_or_max hm
    rintro k (hk | hk)
    · exact (hv.upper a ha hk).trans (Nat.le_max_left a b)
    · exact (hw.upper b hb hk).trans (Nat.le_max_right a b)

theorem Attained.or (hv : v.Attained S) (hw : w.Attained T) : (v.or w).Attained (S ∪ T) := by
  refine ⟨?_, ?_, ?_⟩
  · rcases min_choice v.min w.min with h | h
    · exact .inl (by simpa [Width.or, h] using hv.least)
    · exact .inr (by simpa [Width.or, h] using hw.least)
  · intro m hm
    obtain ⟨a, ha, b, hb, rfl⟩ := exists_of_mem_or_max hm
    rcases max_choice a b with h | h
    · exact .inl (h.symm ▸ hv.greatest a ha)
    · exact .inr (h.symm ▸ hw.greatest b hb)
  · intro hnone hbounded
    obtain ⟨hS, hT⟩ := bddAbove_union.mp hbounded
    cases hvmax : v.max with
    | none => exact hv.endless hvmax hS
    | some a =>
        cases hwmax : w.max with
        | none => exact hw.endless hwmax hT
        | some b => simp [Width.or, hvmax, hwmax] at hnone

theorem exists_of_mem_times_max {m : Nat} {count : Repeat}
    (h : m ∈ (w.times count.min count.max).max) :
    (w.max = some 0 ∨ count.max = some 0) ∧ m = 0 ∨
      ∃ a ∈ w.max, ∃ turns ∈ count.max, turns * a = m := by
  simp only [times] at h
  rcases hw : w.max with _ | _ | a
  · rcases hc : count.max with _ | _ | turns
    · simp [repeatMax, hw, hc] at h
    · exact .inl ⟨.inr rfl, by simpa [repeatMax, hw, hc, eq_comm] using h⟩
    · simp [repeatMax, hw, hc] at h
  · exact .inl ⟨.inl rfl, by simpa [repeatMax, hw, eq_comm] using h⟩
  · rcases hc : count.max with _ | turns
    · simp [repeatMax, hw, hc] at h
    · rw [hw, hc, repeatMax, mem_bound?_iff] at h
      · exact .inr ⟨a + 1, rfl, turns, rfl, (Nat.mul_comm _ _).trans h.1⟩
      · simp

theorem Bounds.times (hw : w.Bounds S) (count : Repeat) :
    (w.times count.min count.max).Bounds (count.lengths S) := by
  refine ⟨?_, ?_⟩
  · rintro k ⟨turns, hturns, -, hk⟩
    calc satMul w.min count.min
        ≤ w.min * count.min := Nat.min_le_left _ _
      _ = count.min * w.min := Nat.mul_comm _ _
      _ ≤ turns * w.min := Nat.mul_le_mul_right _ hturns
      _ ≤ k := mul_mem_lowerBounds_replicate turns hw.lower hk
  · rintro m hm k ⟨turns, -, hallows, hk⟩
    rcases exists_of_mem_times_max hm with ⟨hw' | hc, rfl⟩ | ⟨a, ha, most, hc, rfl⟩
    · exact mul_mem_upperBounds_replicate turns (hw.upper 0 hw') hk
    · obtain rfl : turns = 0 := by simpa [Repeat.allows, hc] using hallows
      exact Nat.le_of_eq hk
    · have hturns : turns ≤ most := by
        rw [Repeat.allows, Option.mem_def.mp hc] at hallows
        exact of_decide_eq_true hallows
      exact (mul_mem_upperBounds_replicate turns (hw.upper a ha) hk).trans
        (Nat.mul_le_mul_right a hturns)

/-- A repetition has no upper bound if a turn has none, as long as there may be a turn, or if there
may be any number of turns that are not all empty. -/
theorem Attained.endless_times (hw : w.Attained S) {count : Repeat}
    (hallows : count.allows count.min = true)
    (hproducts : ∀ k ∈ w.products count, k ≤ maxCount)
    (hnone : (w.times count.min count.max).max = none) : ¬ BddAbove (count.lengths S) := by
  have hturns : ∀ turns, count.min ≤ turns → count.allows turns = true →
      (List.replicate turns S).sum ⊆ count.lengths S := fun turns hle hturns k hk =>
    ⟨turns, hle, hturns, hk⟩
  simp only [times] at hnone
  rcases hwmax : w.max with _ | _ | a
  · have hendless := fun turns => not_bddAbove_replicate turns (hw.endless hwmax) hw.least
    rcases hc : count.max with _ | _ | most
    · refine fun hbounded => hendless count.min (hbounded.mono (hturns _ (Nat.le_succ _) ?_))
      simp [Repeat.allows, hc]
    · simp [repeatMax, hwmax, hc] at hnone
    · rw [Repeat.allows, hc] at hallows
      refine fun hbounded => hendless most (hbounded.mono
        (hturns _ (of_decide_eq_true hallows) ?_))
      simp [Repeat.allows, hc]
  · simp [repeatMax, hwmax] at hnone
  · rcases hc : count.max with _ | most
    · rintro ⟨m, hm⟩
      -- More turns than the bound has characters, each with a character or more.
      have hmem := mul_mem_replicate_sum (count.min + m + 1) (hw.greatest (a + 1) hwmax)
      have hle : (count.min + m + 1) * (a + 1) ≤ m :=
        hm (hturns _ (by omega) (by simp [Repeat.allows, hc]) hmem)
      have hturns : count.min + m + 1 ≤ m :=
        (Nat.le_mul_of_pos_right _ (Nat.succ_pos a)).trans hle
      omega
    · have hmax : (a + 1) * most ≤ maxCount := hproducts _ (by simp [products, hwmax, hc])
      simp [repeatMax, hwmax, hc, bound?, hmax] at hnone

theorem Attained.times (hw : w.Attained S) {count : Repeat}
    (hallows : count.allows count.min = true)
    (hproducts : ∀ k ∈ w.products count, k ≤ maxCount) :
    (w.times count.min count.max).Attained (count.lengths S) := by
  have hleast : ∀ {k}, k ∈ S → count.min * k ∈ count.lengths S := mul_mem_lengths hallows
  refine ⟨?_, ?_, ?_⟩
  · have hmin : w.min * count.min ≤ maxCount := hproducts _ (by rw [products]; split <;> simp)
    rw [Width.times, satMul, Nat.min_eq_left hmin, Nat.mul_comm]
    exact hleast hw.least
  · intro m hm
    rcases exists_of_mem_times_max hm with ⟨hw' | hc, rfl⟩ | ⟨a, ha, most, hc, rfl⟩
    · exact hleast (hw.greatest 0 hw')
    · have hzero : count.min = 0 := by simpa [Repeat.allows, hc] using hallows
      simpa [hzero] using hleast hw.least
    · rw [Option.mem_def] at hc
      have hmost : count.min ≤ most := by simpa [Repeat.allows, hc] using hallows
      exact ⟨most, hmost, by simp [Repeat.allows, hc], mul_mem_replicate_sum _ (hw.greatest a ha)⟩
  · exact hw.endless_times hallows hproducts

/-! ### Lists of parts -/

section Lists

variable {f : Node → Width} {ns : List Node}

theorem Bounds.foldl_andThen (hw : w.Bounds S) (h : ∀ n ∈ ns, (f n).Bounds n.lengths) :
    ((ns.map f).foldl Width.andThen w).Bounds (S + (ns.map Node.lengths).sum) := by
  induction ns generalizing w S with
  | nil => simpa using hw
  | cons n ns ih =>
      rw [List.map_cons, List.map_cons, List.sum_cons, ← add_assoc]
      exact ih (hw.andThen (h n (by simp))) fun m hm => h m (by simp [hm])

theorem Attained.foldl_andThen (hw : w.Attained S) (h : ∀ n ∈ ns, (f n).Attained n.lengths)
    (hsums : ∀ k ∈ w.runningSums (ns.map f), k ≤ maxCount) :
    ((ns.map f).foldl Width.andThen w).Attained (S + (ns.map Node.lengths).sum) := by
  induction ns generalizing w S with
  | nil => simpa using hw
  | cons n ns ih =>
      rw [List.map_cons, runningSums] at hsums
      obtain ⟨hfirst, hrest⟩ := List.forall_mem_append.mp hsums
      rw [List.map_cons, List.map_cons, List.sum_cons, ← add_assoc]
      exact ih (hw.andThen (h n (by simp)) hfirst) (fun m hm => h m (by simp [hm])) hrest

theorem lengths_cons (n : Node) (ns : List Node) :
    {k | ∃ S ∈ (n :: ns).map Node.lengths, k ∈ S} =
      n.lengths ∪ {k | ∃ S ∈ ns.map Node.lengths, k ∈ S} := by
  ext k
  simp

section Choice

variable {R : Width → Set Nat → Prop} (hor : ∀ {v w A B}, R v A → R w B → R (v.or w) (A ∪ B))
  (h : ∀ n ∈ ns, R (f n) n.lengths)
include hor h

theorem foldl_or_rule (hw : R w S) :
    R ((ns.map f).foldl Width.or w) (S ∪ {k | ∃ T ∈ ns.map Node.lengths, k ∈ T}) := by
  induction ns generalizing w S with
  | nil => simpa using hw
  | cons n ns ih =>
      rw [lengths_cons, ← Set.union_assoc]
      exact ih (fun m hm => h m (by simp [hm])) (hor hw (h n (by simp)))

/-- What a choice between two keeps, a choice between several keeps. -/
theorem anyOf_rule (hns : ns ≠ []) :
    R (anyOf (ns.map f)) {k | ∃ S ∈ ns.map Node.lengths, k ∈ S} := by
  cases ns with
  | nil => exact absurd rfl hns
  | cons n ns =>
      rw [lengths_cons]
      exact foldl_or_rule hor (fun m hm => h m (by simp [hm])) (h n (by simp))

end Choice

end Lists

theorem newline_lengths : Bounds ⟨1, some 2⟩ {1, 2} ∧ Attained ⟨1, some 2⟩ {1, 2} := by
  refine ⟨⟨?_, ?_⟩, by simp, by simp, by simp⟩
  · rintro k (rfl | rfl) <;> simp
  · intro m hm
    obtain rfl : 2 = m := Option.some.inj hm
    rintro k (rfl | rfl) <;> simp

theorem grapheme_lengths : (unbounded 1).Bounds {k | 1 ≤ k} ∧ (unbounded 1).Attained {k | 1 ≤ k} := by
  refine ⟨⟨fun k hk => hk, by simp [unbounded]⟩, Nat.le_refl 1, by simp [unbounded], fun _ => ?_⟩
  rintro ⟨m, hm⟩
  have hsucc : m + 1 ≤ m := hm (Nat.le_add_left 1 m)
  omega

theorem ofAtom_lengths (call : CallTarget → Width) {x : Atom} (h : x.isCall = false) :
    (ofAtom call x).Bounds x.lengths ∧ (ofAtom call x).Attained x.lengths := by
  have hexact : ∀ k, (exact k).Bounds {k} ∧ (exact k).Attained {k} :=
    fun k => ⟨bounds_exact k, attained_exact k⟩
  cases x with
  | literal c form caseless => exact hexact 1
  | dot dotAll => exact hexact 1
  | shorthand kind negated =>
      cases kind with
      | newline => exact newline_lengths
      | grapheme => exact grapheme_lengths
      | _ => exact hexact 1
  | range first last => exact hexact 1
  | posix name negated => exact hexact 1
  | backref ref caseless => cases h
  | subroutine target => cases h
  | _ => exact hexact 0

end Width

/-! ### Trees -/

namespace Node

open Width

/-- No length of a match is out of the width of a node, whatever is being gone through. -/
theorem widthIn_bounds (call : Active → CallTarget → Width) {n : Node} (h : n.CallFree)
    (a : Active) : (n.widthIn call a).Bounds n.lengths := by
  induction n using children_induction generalizing a with
  | h n ih =>
      have hbelow : ∀ c ∈ n.children, ∀ a, (c.widthIn call a).Bounds c.lengths :=
        fun c hc a => ih c hc (h.child hc) a
      cases n with
      | atom s x => exact (ofAtom_lengths _ (h _ (self_mem_preorder _))).1
      | sequence s items =>
          rw [widthIn, lengths, widthsIn_eq_map, lengthSets_eq_map, ← zero_add (List.sum _)]
          exact (bounds_exact 0).foldl_andThen fun c hc => hbelow c hc a
      | alternation s branches =>
          rw [widthIn, lengths, widthsIn_eq_map, lengthSets_eq_map]
          by_cases hnone : branches = []
          · subst hnone
            exact ⟨by simp [lowerBounds], by simp [upperBounds]⟩
          · exact anyOf_rule Bounds.or (fun c hc => hbelow c hc a) hnone
      | group s head body =>
          have hbody : ∀ a, (body.widthIn call a).Bounds body.lengths :=
            hbelow body (by simp [children])
          rw [widthIn, lengths]
          split
          · exact bounds_exact 0
          · cases head.number with
            | none => exact hbody a
            | some k =>
                rw [ofGroup]
                split
                · exact bounds_unbounded_zero _
                · exact hbody _
      | quantifier s count target =>
          rw [widthIn, lengths]
          exact (hbelow target (by simp [children]) a).times count
      | charClass s negated caseless expr => exact bounds_exact 1
      | classOp s op operands => exact bounds_exact 1
      | conditional s test yes no =>
          rw [widthIn, lengths]
          refine (hbelow yes (by simp [children]) a).or ?_
          cases no with
          | none => exact bounds_exact 0
          | some m => exact hbelow m (by simp [children]) a
      | define s body => exact bounds_exact 0

/-- Whether a node, if it is a choice, has something to choose. -/
def hasChoice : Node → Bool
  | .alternation _ branches => !branches.isEmpty
  | _ => true

/-- The bounds of a node are reached, as long as no count is too large and no group of the tree is
one that is being gone through. -/
theorem widthIn_attained (call : Active → CallTarget → Width) {n : Node} (hfree : n.CallFree)
    (hproper : ∀ m ∈ n.preorder, m.Proper) (hchoice : ∀ m ∈ n.preorder, m.hasChoice = true)
    (a : Active) (hactive : ∀ m ∈ n.preorder, ∀ k ∈ m.number?, k ∉ a.numbers)
    (hcounts : ∀ k ∈ n.countsIn call a, k ≤ maxCount) :
    (n.widthIn call a).Attained n.lengths := by
  induction n using children_induction generalizing a with
  | h n ih =>
      have hbelow : ∀ c ∈ n.children, ∀ a : Active,
          (∀ m ∈ c.preorder, ∀ k ∈ m.number?, k ∉ a.numbers) →
          (∀ k ∈ c.countsIn call a, k ≤ maxCount) → (c.widthIn call a).Attained c.lengths :=
        fun c hc a => ih c hc (hfree.child hc) (forall_preorder_child hproper hc)
          (forall_preorder_child hchoice hc) a
      have hsame : ∀ c ∈ n.children, (∀ k ∈ c.countsIn call a, k ≤ maxCount) →
          (c.widthIn call a).Attained c.lengths :=
        fun c hc => hbelow c hc a (forall_preorder_child hactive hc)
      have hself := hproper n n.self_mem_preorder
      cases n with
      | atom s x => exact (ofAtom_lengths _ (hfree _ (self_mem_preorder _))).2
      | sequence s items =>
          rw [countsIn, allCountsIn_eq_flatMap, widthsIn_eq_map] at hcounts
          obtain ⟨hitems, hsums⟩ := List.forall_mem_append.mp hcounts
          rw [widthIn, lengths, widthsIn_eq_map, lengthSets_eq_map, ← zero_add (List.sum _)]
          refine (attained_exact 0).foldl_andThen (fun c hc => hsame c hc fun k hk => ?_) hsums
          exact hitems k (List.mem_flatMap.mpr ⟨c, hc, hk⟩)
      | alternation s branches =>
          rw [countsIn, allCountsIn_eq_flatMap] at hcounts
          have hne : branches ≠ [] := by simpa [hasChoice] using hchoice _ (self_mem_preorder _)
          rw [widthIn, lengths, widthsIn_eq_map, lengthSets_eq_map]
          refine anyOf_rule Attained.or (fun c hc => hsame c hc fun k hk => ?_) hne
          exact hcounts k (List.mem_flatMap.mpr ⟨c, hc, hk⟩)
      | group s head body =>
          have hmem : body ∈ (Node.group s head body).children := by simp [children]
          rw [countsIn] at hcounts
          rw [widthIn, lengths]
          split
          · exact attained_exact 0
          next hlook =>
            rw [if_neg hlook] at hcounts
            cases hnumber : head.number with
            | none =>
                rw [hnumber] at hcounts
                exact hsame body hmem hcounts
            | some k =>
                have hk : ¬ a.numbers.contains k = true := by
                  simpa using hactive _ (self_mem_preorder _) k hnumber
                rw [hnumber, countsOfGroup, if_neg hk] at hcounts
                rw [ofGroup, if_neg hk]
                exact hbelow body hmem _ (hself.inactive hnumber hactive) hcounts
      | quantifier s count target =>
          rw [countsIn] at hcounts
          obtain ⟨htarget, hproducts⟩ := List.forall_mem_append.mp hcounts
          rw [widthIn, lengths]
          exact (hsame target (by simp [children]) htarget).times
            (hself.turns s count target rfl) hproducts
      | charClass s negated caseless expr => exact attained_exact 1
      | classOp s op operands => exact attained_exact 1
      | conditional s test yes no =>
          rw [countsIn] at hcounts
          obtain ⟨hyes, hno⟩ := List.forall_mem_append.mp hcounts
          rw [widthIn, lengths]
          refine (hsame yes (by simp [children]) hyes).or ?_
          cases no with
          | none => exact attained_exact 0
          | some m => exact hsame m (by simp [children]) hno
      | define s body => exact attained_exact 0

end Node

/-! ### Patterns that are read -/

open Parse in
theorem Formed.hasChoice {ctx : Token.Context} {limit depth : Nat} {role : Role} {n m : Node}
    {e e' : Env} (h : Formed ctx limit n depth role e e') (hm : m ∈ n.preorder) :
    m.hasChoice = true := by
  cases m with
  | alternation s branches =>
      rcases h.formed_or_part hm with ⟨_, _, _, _, hlength, -⟩ | ⟨_, _, hparts⟩
      · cases branches with
        | nil => cases hlength
        | cons => rfl
      · exact (hparts _ (Node.self_mem_preorder _)).elim
  | _ => rfl

namespace Pattern

variable {s : ParserSettings} {body modifiers : String} {delimiter : Char} {p : Pattern}

theorem parseBody_hasChoice (h : parseBody s body modifiers delimiter = .ok p) :
    ∀ n ∈ p.root.preorder, n.hasChoice = true := by
  obtain ⟨flags, -, hp⟩ := parseBody_ok h
  obtain ⟨last, hformed⟩ := parseWith_formed hp
  exact fun n hn => hformed.hasChoice hn

theorem width_exact (h : parseBody s body modifiers delimiter = .ok p) {n : Node}
    (hn : n ∈ p.root.preorder) (hfree : n.CallFree) :
    (∀ k ∈ n.lengths, (p.scope.width n).min ≤ k) ∧
    (∀ m, (p.scope.width n).max = some m → ∀ k ∈ n.lengths, k ≤ m) ∧
    ((∀ k ∈ p.scope.counts n, k ≤ maxCount) →
      IsLeast n.lengths (p.scope.width n).min ∧
      (∀ m, (p.scope.width n).max = some m ↔ IsGreatest n.lengths m) ∧
      ((p.scope.width n).max = none ↔ ¬ BddAbove n.lengths)) := by
  have hbounds : (p.scope.width n).Bounds n.lengths := n.widthIn_bounds _ hfree {}
  refine ⟨fun k hk => hbounds.lower hk, fun m hm k hk => hbounds.upper m hm hk, fun hcounts => ?_⟩
  have hbelow : ∀ m ∈ n.preorder, m ∈ p.root.preorder := fun m hm => Node.mem_preorder_trans hn hm
  have hattained : (p.scope.width n).Attained n.lengths :=
    n.widthIn_attained _ hfree (fun m hm => (parseBody_proper h).2 m (hbelow m hm))
      (fun m hm => parseBody_hasChoice h m (hbelow m hm)) {} (by simp) hcounts
  exact ⟨⟨hattained.least, hbounds.lower⟩, fun m => hattained.isGreatest_iff hbounds,
    hattained.endless_iff hbounds⟩

/-- A group of one to five characters: two to four letters or a line break, which may have two, and
perhaps another letter. What refers to it is not a part of it. -/
theorem width_exact_group :
    ∃ p, parseBody {} "((?:a{2,4}|\\R)b?)\\1" "" '/' = .ok p ∧
      ∃ n ∈ p.root.preorder, n.span = ⟨0, 17⟩ ∧ n.CallFree ∧
        (∀ k ∈ p.scope.counts n, k ≤ maxCount) ∧
        IsLeast n.lengths 1 ∧ IsGreatest n.lengths 5 := by
  obtain ⟨⟨_, _, _, root, _, _, _⟩, hp, rfl⟩ := exists_of_root
    (x := parseBody {} "((?:a{2,4}|\\R)b?)\\1" "" '/')
    (n := .sequence ⟨0, 19⟩ [.group ⟨0, 17⟩ { kind := .capturing, number := some 1 }
        (.sequence ⟨1, 16⟩ [.group ⟨1, 14⟩ { kind := .nonCapturing }
            (.alternation ⟨4, 13⟩ [.quantifier ⟨4, 10⟩ ⟨2, some 4, .greedy⟩ (.letter 4 'a'),
              .atom ⟨11, 13⟩ (.shorthand .newline false)]),
          .quantifier ⟨14, 16⟩ ⟨0, some 1, .greedy⟩ (.letter 14 'b')]),
      .atom ⟨17, 19⟩ (.backref (.number 1) false)]) (by cbv)
  refine ⟨_, hp, _, List.mem_of_getElem? (i := 1) rfl, rfl, by decide, ?_⟩
  obtain ⟨-, -, hexact⟩ := width_exact hp (List.mem_of_getElem? (i := 1) rfl) (by decide)
  have hcounts : ∀ k ∈ [2, 4, 0, 1, 1, 4, 1, 5], k ≤ maxCount := by decide
  obtain ⟨hleast, hgreatest, -⟩ := hexact hcounts
  exact ⟨hcounts, hleast, (hgreatest 5).mp rfl⟩

end Pattern

end PatternLint
