import Mathlib
import PatternLint.Proofs.CharSet

/-!
# Case variants

Simple case folding makes the characters of an orbit equal. No character is in two orbits,
so to be a variant of another is an equivalence, and adding the case variants of a set adds
all characters that have a variant in the set. This is decided over the whole table, with a
mask of bits for the characters that came before.
-/

namespace PatternLint

namespace Unicode

variable {c d e : Char}

/-- Whether numbers are different from each other and from those in a mask, where the bit of each
number is set. -/
def distinctFrom (mask : Nat) : List Nat → Bool
  | [] => true
  | n :: ns => !mask.testBit n && distinctFrom (mask ||| 1 <<< n) ns

theorem distinctFrom_spec {mask : Nat} {ns : List Nat} (h : distinctFrom mask ns = true) :
    ns.Nodup ∧ ∀ n ∈ ns, mask.testBit n = false := by
  induction ns generalizing mask with
  | nil => simp
  | cons n ns ih =>
      simp only [distinctFrom, Bool.and_eq_true, Bool.not_eq_true'] at h
      obtain ⟨hn, hns⟩ := h
      obtain ⟨hnodup, hmask⟩ := ih hns
      have hbits : ∀ m ∈ ns, mask.testBit m = false ∧ m ≠ n := by
        intro m hm
        have := hmask m hm
        simp only [Nat.testBit_or, Bool.or_eq_false_iff, Nat.testBit_shiftLeft] at this
        refine ⟨this.1, ?_⟩
        rintro rfl
        simp at this
      refine ⟨List.nodup_cons.mpr ⟨fun hmem => (hbits n hmem).2 rfl, hnodup⟩, ?_⟩
      exact List.forall_mem_cons.mpr ⟨hn, fun m hm => (hbits m hm).1⟩

theorem nodup_caseOrbits : caseOrbits.flatten.Nodup := by
  have hdistinct : distinctFrom 0 (caseOrbits.flatten.map Char.toNat) = true := by decide +kernel
  exact (distinctFrom_spec hdistinct).1.of_map

/-- No character is in two orbits. -/
theorem caseOrbits_unique {o o' : List Char} (ho : o ∈ caseOrbits) (ho' : o' ∈ caseOrbits)
    (hc : c ∈ o) (hc' : c ∈ o') : o = o' := by
  have hdisjoint := (List.nodup_flatten.mp nodup_caseOrbits).2
  by_contra hne
  have : Std.Symm (List.Disjoint (α := Char)) := ⟨fun _ _ h a ha hb => h hb ha⟩
  exact hdisjoint.forall ho ho' hne hc hc'

/-- The characters at the surrogates have no case. -/
theorem caseOrbits_off_surrogates :
    ∀ o ∈ caseOrbits, ∀ d ∈ o, d.toNat ≠ 0xd7ff ∧ d.toNat ≠ 0xe000 := by decide +kernel

/-- A character with its simple case variants. -/
def variants (c : Char) : List Char :=
  c :: (caseOrbits.filter fun orbit => orbit.contains c).flatten

theorem mem_variants : d ∈ variants c ↔ d = c ∨ ∃ o ∈ caseOrbits, c ∈ o ∧ d ∈ o := by
  simp only [variants, List.mem_cons, List.mem_flatten, List.mem_filter, List.contains_iff_mem,
    and_assoc]

theorem self_mem_variants (c : Char) : c ∈ variants c := List.mem_cons_self

theorem variants_symm (h : d ∈ variants c) : c ∈ variants d := by
  rcases mem_variants.mp h with rfl | ⟨o, ho, hc, hd⟩
  · exact self_mem_variants _
  · exact mem_variants.mpr (.inr ⟨o, ho, hd, hc⟩)

theorem variants_trans (h : d ∈ variants c) (h' : e ∈ variants d) : e ∈ variants c := by
  rcases mem_variants.mp h with rfl | ⟨o, ho, hc, hd⟩
  · exact h'
  · rcases mem_variants.mp h' with rfl | ⟨o', ho', hd', he⟩
    · exact h
    · rw [caseOrbits_unique ho' ho hd' hd] at he
      exact mem_variants.mpr (.inr ⟨o, ho, hc, he⟩)

theorem toNat_variant_ne (h : d ∈ variants c) (hne : d ≠ c) :
    d.toNat ≠ 0xd7ff ∧ d.toNat ≠ 0xe000 := by
  rcases mem_variants.mp h with rfl | ⟨o, ho, -, hd⟩
  · exact absurd rfl hne
  · exact caseOrbits_off_surrogates o ho d hd

end Unicode

open Unicode

/-! ### Sets with all variants -/

namespace CharSet

variable {s : CharSet} {c : Char} {n : Nat}

theorem covers_foldCase : s.foldCase.covers n ↔
    s.covers n ∨ ∃ e : Char, e.toNat = n ∧ ∃ d ∈ variants e, s.contains d = true := by
  have hvariant : (∃ r ∈ (((caseOrbits.filter fun orbit => orbit.any s.contains).flatten).map
      fun d => (⟨d, d⟩ : CharRange)), r.covers n) ↔
      ∃ e : Char, e.toNat = n ∧ ∃ o ∈ caseOrbits, e ∈ o ∧ ∃ d ∈ o, s.contains d = true := by
    simp only [List.mem_map, List.mem_flatten, List.mem_filter, List.any_eq_true]
    constructor
    · rintro ⟨_, ⟨e, ⟨o, ⟨ho, hs⟩, he⟩, rfl⟩, hle, hge⟩
      exact ⟨e, Nat.le_antisymm hle hge, o, ho, he, hs⟩
    · rintro ⟨e, rfl, o, ho, he, hs⟩
      exact ⟨_, ⟨e, ⟨o, ⟨ho, hs⟩, he⟩, rfl⟩, Nat.le_refl _, Nat.le_refl _⟩
  rw [foldCase, covers_ofRanges]
  simp only [List.mem_append, or_and_right, exists_or, hvariant]
  constructor
  · rintro (h | ⟨e, he, o, ho, heo, d, hdo, hd⟩)
    · exact .inl h
    · exact .inr ⟨e, he, d, mem_variants.mpr (.inr ⟨o, ho, heo, hdo⟩), hd⟩
  · rintro (h | ⟨e, rfl, d, hd, hsd⟩)
    · exact .inl h
    · rcases mem_variants.mp hd with rfl | ⟨o, ho, heo, hdo⟩
      · exact .inl (contains_iff.mp hsd)
      · exact .inr ⟨e, rfl, o, ho, heo, d, hdo, hsd⟩

theorem contains_foldCase :
    s.foldCase.contains c = true ↔ ∃ d ∈ variants c, s.contains d = true := by
  rw [contains_iff, covers_foldCase]
  constructor
  · rintro (h | ⟨e, he, h⟩)
    · exact ⟨c, self_mem_variants c, contains_iff.mpr h⟩
    · rwa [← Char.toNat_inj.mp he]
  · exact fun h => .inr ⟨c, rfl, h⟩

end CharSet

end PatternLint
