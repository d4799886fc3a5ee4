import PatternLint.CharSet.Named

/-!
# Members of character sets

What the operations on sets do to their members. A set is kept as ranges that are
sorted and glued together, but neither step adds or loses a character: ranges are
only glued if no character lies between them. So a union has the members of both
sets, and two sets that share a member intersect.

A range goes from one code point to another, over the surrogates if they lie between
its ends, though no character has their numbers. So what a set `covers` are numbers;
its characters are those with a number that it covers.
-/

namespace PatternLint

theorem char_le_iff {a b : Char} : a ≤ b ↔ a.toNat ≤ b.toNat := Iff.rfl

namespace CharRange

variable {r s : CharRange} {c : Char} {n : Nat}

/-- The numbers from the lower end of a range to the upper one. -/
def covers (r : CharRange) (n : Nat) : Prop := r.lo.toNat ≤ n ∧ n ≤ r.hi.toNat

theorem contains_iff : r.contains c = true ↔ r.covers c.toNat := by
  simp only [contains, Bool.and_eq_true, decide_eq_true_eq]
  rfl

/-- Ranges that touch leave no gap, so that their join has no other numbers than they have. -/
theorem covers_join (h : r.touches s = true) :
    (r.join s).covers n ↔ r.covers n ∨ s.covers n := by
  simp only [touches, decide_eq_true_eq] at h
  simp only [covers, join, char_le_iff]
  split <;> split <;> omega

theorem covers_of_meet? {u : CharRange} (h : r.meet? s = some u) :
    u.covers n ↔ r.covers n ∧ s.covers n := by
  simp only [meet?, Option.ite_none_right_eq_some, Option.some.injEq] at h
  obtain ⟨-, rfl⟩ := h
  simp only [covers, char_le_iff]
  split <;> split <;> omega

/-- Ranges with a number in common meet. -/
theorem exists_meet? (hr : r.covers n) (hs : s.covers n) : ∃ u, r.meet? s = some u := by
  simp only [covers] at hr hs
  simp only [meet?, char_le_iff]
  refine ⟨_, if_pos ?_⟩
  split <;> split <;> omega

end CharRange

namespace CharSet

variable {s t : CharSet} {c : Char} {n : Nat}

/-- The numbers in any of the ranges of a set. -/
def covers (s : CharSet) (n : Nat) : Prop := ∃ r ∈ s.ranges, r.covers n

theorem contains_iff : s.contains c = true ↔ s.covers c.toNat := by
  simp only [contains, List.any_eq_true, CharRange.contains_iff, covers]

theorem covers_glue (r : CharRange) (rs : List CharRange) :
    (∃ u ∈ glue r rs, u.covers n) ↔ ∃ u ∈ r :: rs, u.covers n := by
  induction rs generalizing r with
  | nil => rfl
  | cons s rest ih =>
      rw [glue]
      split
      · next h =>
          rw [ih]
          simp only [List.mem_cons, exists_eq_or_imp, CharRange.covers_join h, or_assoc]
      · simp only [List.mem_cons, exists_eq_or_imp] at ih ⊢
        rw [ih]

/-- The set of some ranges covers what the ranges do, in whatever order they are. -/
theorem covers_ofRanges (rs : List CharRange) :
    (ofRanges rs).covers n ↔ ∃ r ∈ rs, r.covers n := by
  have hsorted : (∃ r ∈ rs.mergeSort CharRange.le, r.covers n) ↔ ∃ r ∈ rs, r.covers n := by
    simp only [List.mem_mergeSort]
  rw [← hsorted, ofRanges]
  split
  · next h => rw [h]; rfl
  · next r rest h => rw [h, ← covers_glue]; rfl

theorem contains_ofRanges (rs : List CharRange) :
    (ofRanges rs).contains c = rs.any (·.contains c) := by
  rw [Bool.eq_iff_iff, contains_iff, covers_ofRanges, List.any_eq_true]
  simp only [CharRange.contains_iff]

theorem covers_union : (s.union t).covers n ↔ s.covers n ∨ t.covers n := by
  rw [union]
  split
  · next h =>
      rcases Bool.or_eq_true_iff.mp h with hempty | hsame
      · simp [covers, List.isEmpty_iff.mp hempty]
      · rw [eq_of_beq hsame, or_self]
  · rw [covers_ofRanges]
    simp only [List.mem_append, or_and_right, exists_or, covers]

theorem contains_union : (s.union t).contains c = (s.contains c || t.contains c) := by
  rw [Bool.eq_iff_iff, Bool.or_eq_true, contains_iff, contains_iff, contains_iff, covers_union]

theorem contains_any (c : Char) : any.contains c = true := by
  have hlast : c.toNat ≤ lastChar.toNat := by
    have hvalid := c.valid
    have : lastChar.toNat = 0x10ffff := rfl
    rcases hvalid with h | h <;> simp only [Char.toNat, UInt32.toNat] at * <;> omega
  rw [contains_iff]
  exact ⟨_, List.mem_singleton_self _, Nat.zero_le _, hlast⟩

theorem intersects_of_contains (hs : s.contains c = true) (ht : t.contains c = true) :
    s.intersects t = true := by
  obtain ⟨r, hr, hrc⟩ := contains_iff.mp hs
  obtain ⟨u, hu, huc⟩ := contains_iff.mp ht
  obtain ⟨v, hv⟩ := CharRange.exists_meet? hrc huc
  refine List.any_eq_true.mpr ⟨r, hr, List.any_eq_true.mpr ⟨u, hu, ?_⟩⟩
  rw [hv]
  rfl

/-- Both characters of a line break of two are among those that end a line. -/
theorem contains_verticalSpace :
    verticalSpace.contains '\r' = true ∧ verticalSpace.contains '\n' = true := by
  simp only [verticalSpace, ofCodePoints, contains_ofRanges]
  decide

end CharSet

end PatternLint
