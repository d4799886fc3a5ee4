import Mathlib.Order.MinMax
import PatternLint.Width

/-!
# The laws of widths

What follows one another adds up and what stands beside one another is joined, and a repetition
is short for many of both. None of this is clear once counts have a limit: a least count
that is too large stops at the limit, a greatest count that is too large is lost, and the
order in which counts are added could show in where that happens. It does not. Both are lost or
stopped for good, so that all that matters is the sum of all counts.

The parts of a width do not depend on each other. So the laws are shown for the least counts and
for the greatest counts on their own, and put together at the end.
-/

namespace PatternLint

/-! ### Least counts -/

theorem satAdd_comm (a b : Nat) : satAdd a b = satAdd b a := by
  rw [satAdd, satAdd, Nat.add_comm]

theorem satAdd_assoc (a b c : Nat) : satAdd (satAdd a b) c = satAdd a (satAdd b c) := by
  simp only [satAdd]
  omega

theorem satAdd_zero {a : Nat} (h : a ≤ maxCount) : satAdd a 0 = a := Nat.min_eq_left h

theorem satAdd_min (a b c : Nat) : satAdd a (min b c) = min (satAdd a b) (satAdd a c) := by
  simp only [satAdd]
  omega

theorem satMul_succ (a k : Nat) : satMul a (k + 1) = satAdd (satMul a k) a := by
  simp only [satMul, satAdd, Nat.mul_succ]
  omega

theorem satMul_mono (a : Nat) {m n : Nat} (h : m ≤ n) : satMul a m ≤ satMul a n := by
  have hle := Nat.mul_le_mul_left a h
  simp only [satMul]
  omega

namespace Width

/-! ### Greatest counts -/

/-- The greatest count of one match followed by another. -/
def sumMax : Option Nat → Option Nat → Option Nat
  | some a, some b => bound? (a + b)
  | _, _ => none

/-- The greatest count of a match of either. -/
def joinMax : Option Nat → Option Nat → Option Nat
  | some a, some b => some (Max.max a b)
  | _, _ => none

variable {p q r : Option Nat}

@[simp] theorem sumMax_none (p : Option Nat) : sumMax p none = none := by cases p <;> rfl

@[simp] theorem none_sumMax (p : Option Nat) : sumMax none p = none := rfl

@[simp] theorem joinMax_none (p : Option Nat) : joinMax p none = none := by cases p <;> rfl

@[simp] theorem none_joinMax (p : Option Nat) : joinMax none p = none := rfl

theorem bound?_of_le {n : Nat} (h : n ≤ maxCount) : bound? n = some n := if_pos h

theorem bound?_of_lt {n : Nat} (h : maxCount < n) : bound? n = none := if_neg (Nat.not_le.mpr h)

/-- A count that is lost stays lost, whatever is added to it. -/
theorem sumMax_bound? (n c : Nat) : sumMax (bound? n) (some c) = bound? (n + c) := by
  rcases Nat.lt_or_ge maxCount n with h | h
  · rw [bound?_of_lt h, bound?_of_lt (Nat.lt_add_right c h)]
    rfl
  · rw [bound?_of_le h]
    rfl

/-- Of two counts the larger one is lost first. -/
theorem joinMax_bound? (m n : Nat) : joinMax (bound? m) (bound? n) = bound? (Max.max m n) := by
  rcases Nat.lt_or_ge maxCount (Max.max m n) with h | h
  · rw [bound?_of_lt h]
    rcases lt_max_iff.mp h with h | h
    · rw [bound?_of_lt h, none_joinMax]
    · rw [bound?_of_lt h, joinMax_none]
  · obtain ⟨hm, hn⟩ := Nat.max_le.mp h
    rw [bound?_of_le h, bound?_of_le hm, bound?_of_le hn]
    rfl

theorem sumMax_comm (p q : Option Nat) : sumMax p q = sumMax q p := by
  cases p <;> cases q <;> simp [sumMax, Nat.add_comm]

theorem sumMax_assoc (p q r : Option Nat) : sumMax (sumMax p q) r = sumMax p (sumMax q r) := by
  cases p with
  | none => rfl
  | some a =>
      cases q with
      | none => rfl
      | some b =>
          cases r with
          | none => simp
          | some c =>
              calc sumMax (bound? (a + b)) (some c)
                  = bound? (a + b + c) := sumMax_bound? _ _
                _ = bound? (b + c + a) := by rw [Nat.add_assoc, Nat.add_comm]
                _ = sumMax (bound? (b + c)) (some a) := (sumMax_bound? _ _).symm
                _ = sumMax (some a) (bound? (b + c)) := sumMax_comm _ _

theorem sumMax_zero (h : ∀ a ∈ p, a ≤ maxCount) : sumMax p (some 0) = p := by
  cases p with
  | none => rfl
  | some a => exact bound?_of_le (h a rfl)

theorem joinMax_comm (p q : Option Nat) : joinMax p q = joinMax q p := by
  cases p <;> cases q <;> simp [joinMax, Nat.max_comm]

theorem joinMax_assoc (p q r : Option Nat) :
    joinMax (joinMax p q) r = joinMax p (joinMax q r) := by
  cases p <;> cases q <;> cases r <;> simp [joinMax, Nat.max_assoc]

theorem joinMax_self (p : Option Nat) : joinMax p p = p := by
  cases p <;> simp [joinMax]

theorem sumMax_joinMax (p q r : Option Nat) :
    sumMax p (joinMax q r) = joinMax (sumMax p q) (sumMax p r) := by
  cases p with
  | none => rfl
  | some a =>
      cases q with
      | none => rfl
      | some b =>
          cases r with
          | none => simp
          | some c =>
              calc bound? (a + Max.max b c)
                  = bound? (Max.max (a + b) (a + c)) := by rw [Nat.add_max_add_left]
                _ = joinMax (bound? (a + b)) (bound? (a + c)) := (joinMax_bound? _ _).symm

/-- A product is a sum of one match more. -/
theorem repeatMax_succ (p : Option Nat) (k : Nat) :
    repeatMax p (some (k + 1)) = sumMax (repeatMax p (some k)) p := by
  have hproduct : ∀ a k : Nat, repeatMax (some a) (some k) = bound? (a * k) := by
    intro a k
    cases a with
    | zero => rw [Nat.zero_mul]; rfl
    | succ a => rfl
  cases p with
  | none => simp [repeatMax]
  | some a => rw [hproduct, hproduct, sumMax_bound?, Nat.mul_succ]

/-- More turns have the greater count. -/
theorem joinMax_repeatMax (p : Option Nat) (k : Nat) :
    joinMax (repeatMax p (some k)) (repeatMax p (some (k + 1))) = repeatMax p (some (k + 1)) := by
  cases p with
  | none => simp [repeatMax]
  | some a =>
      cases a with
      | zero => rfl
      | succ a =>
          calc joinMax (bound? ((a + 1) * k)) (bound? ((a + 1) * (k + 1)))
              = bound? (Max.max ((a + 1) * k) ((a + 1) * (k + 1))) := joinMax_bound? _ _
            _ = bound? ((a + 1) * (k + 1)) := by
                rw [Nat.max_eq_right (Nat.mul_le_mul_left _ (Nat.le_succ k))]

/-! ### Widths -/

/-- A width whose bounds are counts. -/
structure Counted (w : Width) : Prop where
  min : w.min ≤ maxCount
  max : ∀ n ∈ w.max, n ≤ maxCount

/-- The width of `k` matches that follow one another. -/
def power (w : Width) : Nat → Width
  | 0 => zero
  | k + 1 => (w.power k).andThen w

theorem andThen_eq (v w : Width) :
    v.andThen w = ⟨satAdd v.min w.min, sumMax v.max w.max⟩ := rfl

theorem or_eq (v w : Width) : v.or w = ⟨Min.min v.min w.min, joinMax v.max w.max⟩ := rfl

theorem andThen_comm (v w : Width) : v.andThen w = w.andThen v := by
  rw [andThen_eq, andThen_eq, satAdd_comm, sumMax_comm]

theorem andThen_assoc (u v w : Width) : (u.andThen v).andThen w = u.andThen (v.andThen w) := by
  simp only [andThen_eq, satAdd_assoc, sumMax_assoc]

theorem andThen_zero {w : Width} (h : w.Counted) : w.andThen zero = w := by
  rw [andThen_eq, zero, satAdd_zero h.min, sumMax_zero h.max]

theorem or_comm (v w : Width) : v.or w = w.or v := by
  rw [or_eq, or_eq, Nat.min_comm, joinMax_comm]

theorem or_assoc (u v w : Width) : (u.or v).or w = u.or (v.or w) := by
  simp only [or_eq, Nat.min_assoc, joinMax_assoc]

theorem or_self (w : Width) : w.or w = w := by
  rw [or_eq, Nat.min_self, joinMax_self]

theorem andThen_or (u v w : Width) : u.andThen (v.or w) = (u.andThen v).or (u.andThen w) := by
  simp only [andThen_eq, or_eq, satAdd_min, sumMax_joinMax]

/-- Multiplying once comes to the same as adding one at a time. -/
theorem times_exactly (w : Width) (k : Nat) : w.times k (some k) = w.power k := by
  induction k with
  | zero =>
      have hmax : repeatMax w.max (some 0) = some 0 := by
        rcases w with ⟨_, _ | _ | _⟩ <;> rfl
      rw [times, hmax, satMul, Nat.mul_zero]
      rfl
  | succ k ih =>
      rw [power, ← ih, andThen_eq, times, times, satMul_succ, repeatMax_succ]

/-- One turn more is one choice more. -/
theorem times_succ (w : Width) {m n : Nat} (h : m ≤ n) :
    w.times m (some (n + 1)) = (w.times m (some n)).or (w.power (n + 1)) := by
  have hmin : Min.min (satMul w.min m) (satMul w.min (n + 1)) = satMul w.min m :=
    Nat.min_eq_left (satMul_mono w.min (Nat.le_succ_of_le h))
  rw [← times_exactly, or_eq, times, times, times, hmin, joinMax_repeatMax]

/-- Choices that are not the first can be joined last. -/
theorem anyOf_append_singleton {ws : List Width} (h : ws ≠ []) (w : Width) :
    anyOf (ws ++ [w]) = (anyOf ws).or w := by
  cases ws with
  | nil => exact absurd rfl h
  | cons v ws => simp [anyOf, List.foldl_append]

theorem times_eq_anyOf (w : Width) {m n : Nat} (h : m ≤ n) :
    w.times m (some n) = anyOf ((List.range' m (n + 1 - m)).map w.power) := by
  induction n, h using Nat.le_induction with
  | base =>
      rw [times_exactly, Nat.add_sub_cancel_left]
      rfl
  | succ n h ih =>
      have hcount : n + 1 + 1 - m = n + 1 - m + 1 := Nat.succ_sub (Nat.le_succ_of_le h)
      have hlast : m + (n + 1 - m) = n + 1 := Nat.add_sub_cancel' (Nat.le_succ_of_le h)
      have hne : (List.range' m (n + 1 - m)).map w.power ≠ [] := by
        simp only [ne_eq, List.map_eq_nil_iff, List.range'_eq_nil_iff]
        omega
      rw [times_succ w h, ih, hcount, List.range'_1_concat, List.map_append, hlast,
        List.map_singleton, anyOf_append_singleton hne]

/-- Widths add up and join as repetition needs it. A repetition is as wide as any number of matches
that it allows, one after another. Matches that follow one another can be taken together in any
order, and the empty match among them does not count, unless a bound is no count; choices can be
taken together in any order and as often as one likes; and what is before a choice can be taken
into all its branches. -/
theorem repetition_laws :
    (∀ (w : Width) (m n : Nat), m ≤ n →
      w.times m (some n) = anyOf ((List.range' m (n + 1 - m)).map w.power)) ∧
    (∀ u v w : Width, (u.andThen v).andThen w = u.andThen (v.andThen w)) ∧
    (∀ v w : Width, v.andThen w = w.andThen v) ∧
    (∀ w : Width, w.Counted → zero.andThen w = w ∧ w.andThen zero = w) ∧
    (∀ u v w : Width, (u.or v).or w = u.or (v.or w)) ∧
    (∀ v w : Width, v.or w = w.or v) ∧
    (∀ w : Width, w.or w = w) ∧
    ∀ u v w : Width, u.andThen (v.or w) = (u.andThen v).or (u.andThen w) ∧
      (u.or v).andThen w = (u.andThen w).or (v.andThen w) := by
  refine ⟨fun w m n h => times_eq_anyOf w h, andThen_assoc, andThen_comm, fun w h => ?_, or_assoc,
    or_comm, or_self, fun u v w => ⟨andThen_or u v w, ?_⟩⟩
  · exact ⟨(andThen_comm zero w).trans (andThen_zero h), andThen_zero h⟩
  · rw [andThen_comm, andThen_or, andThen_comm w u, andThen_comm w v]

/-- Twice half of all counts are too many by one: the least count stops at the limit and the
greatest is lost. -/
theorem repetition_laws_half : ∃ w : Width,
    w = ⟨0x8000000000000000, some 0x8000000000000000⟩ ∧ w.times 2 (some 3) = ⟨maxCount, none⟩ ∧
      w.times 2 (some 3) = (w.power 2).or (w.power 3) ∧ w.Counted ∧ zero.andThen w = w := by
  have hle : 0x8000000000000000 ≤ maxCount := by decide
  have hcounted : Counted ⟨0x8000000000000000, some 0x8000000000000000⟩ := by
    refine ⟨hle, fun n hn => ?_⟩
    cases hn
    exact hle
  exact ⟨_, rfl, by decide, repetition_laws.1 _ 2 3 (by decide), hcounted,
    (repetition_laws.2.2.2.1 _ hcounted).1⟩

end Width

end PatternLint
