import PatternLint.Proofs.CharSet.Variants
import PatternLint.Proofs.SetExpr

/-!
# What is relied on of sets of characters

Sets of characters, the operations on them and the expressions that denote them are those
of the library `regex-syntax`. It is no part of the linter; the definitions of
`PatternLint.CharSet`, `PatternLint.SetExpr` and `PatternLint.Unicode` stand for it.

Here is what the results on classes and on hazards rely on. Ranges are sorted. The
operations act as on predicates, the complement as long as the set keeps off the surrogates.
Simple case folding closes a set under the variants of its members. These proofs go through
`laws`, so that they would hold for any other sets that meet the same laws.
-/

namespace PatternLint.CharSet

open CharRange Unicode

/-- Ranges are sorted. -/
structure SortedLaws : Prop where
  canonical_empty : empty.Canonical
  canonical_range : ∀ a b : Char, (range a b).Canonical
  /-- No operation comes to a range whose ends are not in order. -/
  ordered_union : ∀ {s t : CharSet}, (∀ r ∈ s.ranges, r.Ordered) → (∀ r ∈ t.ranges, r.Ordered) →
    ∀ r ∈ (s.union t).ranges, r.Ordered
  ordered_intersect : ∀ s t : CharSet, ∀ r ∈ (s.intersect t).ranges, r.Ordered
  ordered_subtract : ∀ {s : CharSet}, (∀ r ∈ s.ranges, r.Ordered) →
    ∀ t : CharSet, ∀ r ∈ (s.subtract t).ranges, r.Ordered
  ordered_negate : ∀ s : CharSet, ∀ r ∈ s.negate.ranges, r.Ordered
  /-- Sets that have a name are sorted, whatever the name is. -/
  shorthand_spaced : ∀ (kind : ShorthandKind) (negated : Bool), (shorthand kind negated).Spaced 0
  posix_spaced : ∀ (name : String) (negated : Bool), (posix name negated).Spaced 0
  /-- There is one canonical form of a set. -/
  canonical_ext : ∀ {s t : CharSet}, s.Canonical → t.Canonical →
    (∀ n, s.covers n ↔ t.covers n) → s = t

/-- The algebra of sets of intervals. -/
structure AlgebraLaws : Prop where
  contains_any : ∀ c : Char, any.contains c = true
  contains_range : ∀ {a b c : Char}, a ≤ b →
    (range a b).contains c = (decide (a ≤ c) && decide (c ≤ b))
  contains_union : ∀ (s t : CharSet) (c : Char),
    (s.union t).contains c = (s.contains c || t.contains c)
  contains_intersect : ∀ (s t : CharSet) (c : Char),
    (s.intersect t).contains c = (s.contains c && t.contains c)
  contains_subtract : ∀ (s t : CharSet) (c : Char),
    (s.subtract t).contains c = (s.contains c && !t.contains c)
  /-- A complement is right for sets that keep off the surrogates. -/
  contains_negate : ∀ {s : CharSet}, s.Regular → ∀ c : Char, s.negate.contains c = !s.contains c
  /-- Sets with a character in common are found to intersect. -/
  intersects_of_contains : ∀ {s t : CharSet} {c : Char}, s.contains c = true →
    t.contains c = true → s.intersects t = true
  /-- No operation comes to the surrogates by itself. -/
  regular_empty : empty.Regular
  regular_range : ∀ {a b : Char}, a ≤ b → CharRange.Clear ⟨a, b⟩ → (range a b).Regular
  regular_union : ∀ {s t : CharSet}, s.Regular → t.Regular → (s.union t).Regular
  regular_intersect : ∀ {s t : CharSet}, s.Regular → t.Regular → (s.intersect t).Regular
  regular_subtract : ∀ {s t : CharSet}, s.Regular → t.Regular → (s.subtract t).Regular
  regular_negate : ∀ {s : CharSet}, s.Regular → s.negate.Regular
  /-- Sorted ranges that do not touch are a set that an operation could have come to. -/
  regular_of_spaced : ∀ {s : CharSet}, s.Spaced 0 → (∀ r ∈ s.ranges, r.Clear) →
    (s.ranges.Pairwise fun r t => r.touches t = false) → s.Regular
  /-- Ranges go over the surrogates; what they cover there has no bearing on the characters, but it
  tells two sets apart. -/
  contains_iff : ∀ {s : CharSet} {c : Char}, s.contains c = true ↔ s.covers c.toNat
  covers_union : ∀ (s t : CharSet) (n : Nat), (s.union t).covers n ↔ s.covers n ∨ t.covers n
  covers_intersect : ∀ (s t : CharSet) (n : Nat),
    (s.intersect t).covers n ↔ s.covers n ∧ t.covers n
  covers_subtract : ∀ (s t : CharSet) (n : Nat), (s.subtract t).covers n ↔
    s.covers n ∧ ¬ (t.covers n ∨ (0xd800 ≤ n ∧ n ≤ 0xdfff) ∧ (t.covers 0xd7ff ∨ t.covers 0xe000))

/-- Simple case folding. -/
structure FoldLaws : Prop where
  /-- To be a variant is an equivalence, and the characters beside the surrogates have no case. -/
  variants_self : ∀ c : Char, c ∈ variants c
  variants_symm : ∀ {c d : Char}, d ∈ variants c → c ∈ variants d
  variants_trans : ∀ {c d e : Char}, d ∈ variants c → e ∈ variants d → e ∈ variants c
  variants_off_surrogates : ∀ {c d : Char}, d ∈ variants c → d ≠ c →
    d.toNat ≠ 0xd7ff ∧ d.toNat ≠ 0xe000
  /-- A set with all variants has the characters with a variant in the set, and is glued anew. -/
  contains_foldCase : ∀ {s : CharSet} {c : Char},
    s.foldCase.contains c = true ↔ ∃ d ∈ variants c, s.contains d = true
  covers_foldCase : ∀ {s : CharSet} {n : Nat}, s.foldCase.covers n ↔
    s.covers n ∨ ∃ e : Char, e.toNat = n ∧ ∃ d ∈ variants e, s.contains d = true
  canonical_foldCase : ∀ {s : CharSet}, (∀ r ∈ s.ranges, r.Ordered) → s.foldCase.Canonical

/-- What is relied on of a library of sets. -/
structure Laws : Prop extends SortedLaws, AlgebraLaws, FoldLaws

theorem regular_range {a b : Char} (hle : a ≤ b) (hclear : CharRange.Clear ⟨a, b⟩) :
    (range a b).Regular where
  toCanonical := canonical_range a b
  clear := by
    have hbetween : between a b = ⟨a, b⟩ := if_pos hle
    simpa [range, hbetween] using hclear

theorem contains_range {a b c : Char} (hle : a ≤ b) :
    (range a b).contains c = (decide (a ≤ c) && decide (c ≤ b)) := by
  have hbetween : between a b = ⟨a, b⟩ := if_pos hle
  simp [range, contains, CharRange.contains, hbetween]

theorem regular_empty : empty.Regular where
  toCanonical := canonical_empty
  clear := by simp [empty]

/-- The sets here meet the laws. -/
theorem laws : Laws where
  canonical_empty := canonical_empty
  canonical_range := canonical_range
  ordered_union := ordered_union
  ordered_intersect := ordered_intersect
  ordered_subtract := ordered_subtract
  ordered_negate := ordered_negate
  shorthand_spaced := shorthand_spaced
  posix_spaced := posix_spaced
  canonical_ext := Canonical.ext
  contains_any := contains_any
  contains_range := contains_range
  contains_union _ _ _ := contains_union
  contains_intersect _ _ _ := contains_intersect
  contains_subtract _ _ _ := contains_subtract
  contains_negate h _ := h.contains_negate
  intersects_of_contains := intersects_of_contains
  regular_empty := regular_empty
  regular_range := regular_range
  regular_union := Regular.union
  regular_intersect := Regular.intersect
  regular_subtract := Regular.subtract
  regular_negate := Regular.negate
  regular_of_spaced := Spaced.regular
  contains_iff := contains_iff
  covers_union _ _ _ := covers_union
  covers_intersect _ _ _ := covers_intersect
  covers_subtract _ _ _ := covers_subtract_iff
  variants_self := self_mem_variants
  variants_symm := variants_symm
  variants_trans := variants_trans
  variants_off_surrogates := toNat_variant_ne
  contains_foldCase := contains_foldCase
  covers_foldCase := covers_foldCase
  canonical_foldCase := canonical_foldCase

/-! ### Single characters -/

theorem contains_single {c d : Char} : (single c false).contains d = (d == c) := by
  have hrange : (single c false).contains d = (decide (c ≤ d) && decide (d ≤ c)) :=
    laws.contains_range (Char.le_refl c)
  rw [hrange, Bool.eq_iff_iff, Bool.and_eq_true, decide_eq_true_eq, decide_eq_true_eq, beq_iff_eq]
  exact ⟨fun h => Char.le_antisymm h.2 h.1, fun h => h ▸ ⟨Char.le_refl d, Char.le_refl d⟩⟩

end PatternLint.CharSet
