import PatternLint.Proofs.CharSet
import PatternLint.Proofs.Text.Characters

/-!
# Sets in canonical form

A set is in canonical form if its ranges are in ascending order and any two neighbours have
a number between them. Sets are put into this form when ranges are glued together, and the
union, the common part and the difference of such sets have it again.

Two sets in canonical form that cover the same numbers are one and the same. It has to be
the numbers: two sets with the same characters may still differ in whether they go over the
surrogates in one range or stop on both sides of them.
-/

namespace PatternLint

/-! ### Neighbours of a character -/

theorem toNat_valid (c : Char) :
    c.toNat < 0xd800 ∨ 0xdfff < c.toNat ∧ c.toNat < 0x110000 := c.valid

theorem toNat_lastChar : lastChar.toNat = 0x10ffff := rfl

theorem toNat_charAfter {c : Char} (h : c.toNat < 0x10ffff) :
    (charAfter c).toNat = if c.toNat = 0xd7ff then 0xe000 else c.toNat + 1 := by
  have hvalid := toNat_valid c
  unfold charAfter
  split
  · rfl
  · refine Text.toNat_ofNat_of_valid ?_
    show c.toNat + 1 < 0xd800 ∨ 0xdfff < c.toNat + 1 ∧ c.toNat + 1 < 0x110000
    omega

theorem toNat_charBefore {c : Char} (h : 0 < c.toNat) :
    (charBefore c).toNat = if c.toNat = 0xe000 then 0xd7ff else c.toNat - 1 := by
  have hvalid := toNat_valid c
  unfold charBefore
  split
  · rfl
  · refine Text.toNat_ofNat_of_valid ?_
    show c.toNat - 1 < 0xd800 ∨ 0xdfff < c.toNat - 1 ∧ c.toNat - 1 < 0x110000
    omega

/-! ### Ranges -/

namespace CharRange

variable {r s u v : CharRange} {n : Nat}

/-- The ends of a range are in order. -/
def Ordered (r : CharRange) : Prop := r.lo.toNat ≤ r.hi.toNat

/-- One range comes before another, with a number between them. -/
def Apart (r s : CharRange) : Prop := r.hi.toNat + 1 < s.lo.toNat

/-- One range is part of another. -/
def Inside (r s : CharRange) : Prop := s.lo.toNat ≤ r.lo.toNat ∧ r.hi.toNat ≤ s.hi.toNat

theorem Apart.inside (h : r.Apart s) (hu : u.Inside r) (hv : v.Inside s) : u.Apart v := by
  unfold Apart at *
  have := hu.2
  have := hv.1
  omega

theorem Inside.trans (h : r.Inside s) (h' : s.Inside u) : r.Inside u :=
  ⟨Nat.le_trans h'.1 h.1, Nat.le_trans h.2 h'.2⟩

theorem le_iff : r.le s = true ↔
    r.lo.toNat < s.lo.toNat ∨ r.lo.toNat = s.lo.toNat ∧ r.hi.toNat ≤ s.hi.toNat := by
  simp only [CharRange.le, Bool.or_eq_true, Bool.and_eq_true, decide_eq_true_eq, beq_iff_eq,
    Char.toNat_inj, char_le_iff]
  rfl

theorem ordered_between (a b : Char) : (between a b).Ordered := by
  unfold Ordered between
  split
  · next h => exact h
  · next h => exact Nat.le_of_not_le h

theorem between_eq {a b : Char} (h : a.toNat ≤ b.toNat) : between a b = ⟨a, b⟩ := if_pos h

theorem ordered_single (c : Char) : Ordered ⟨c, c⟩ := Nat.le_refl _

theorem Ordered.join (h : r.Ordered) : (r.join s).Ordered := by
  unfold Ordered at *
  simp only [CharRange.join, char_le_iff]
  split <;> split <;> omega

theorem lo_join (h : r.lo.toNat ≤ s.lo.toNat) : (r.join s).lo = r.lo := if_pos h

theorem meet?_spec (h : r.meet? s = some u) : u.Ordered ∧ u.Inside r ∧ u.Inside s := by
  simp only [meet?, Option.ite_none_right_eq_some, Option.some.injEq] at h
  obtain ⟨hle, rfl⟩ := h
  refine ⟨hle, ?_⟩
  simp only [Inside, char_le_iff]
  split <;> split <;> omega

/-- Ranges meet if the later start does not come behind the earlier stop. -/
theorem meet?_eq_none_iff :
    r.meet? s = none ↔ min r.hi.toNat s.hi.toNat < max r.lo.toNat s.lo.toNat := by
  simp only [meet?, char_le_iff, ite_eq_right_iff, reduceCtorEq, imp_false]
  split <;> split <;> omega

/-- The numbers that are gone when a range is taken out of a larger one: those of the range, and
the surrogates too if a neighbour of theirs is gone. -/
def blocks (u : CharRange) (n : Nat) : Prop :=
  u.covers n ∨ (0xd800 ≤ n ∧ n ≤ 0xdfff) ∧ (u.covers 0xd7ff ∨ u.covers 0xe000)

theorem blocks_toNat (c : Char) : u.blocks c.toNat ↔ u.covers c.toNat := by
  have := toNat_valid c
  unfold blocks
  constructor
  · rintro (h | ⟨h, -⟩)
    · exact h
    · omega
  · exact Or.inl

/-- Ranges that meet: what is left on both sides. -/
theorem minus_of_meets (h : max r.lo.toNat u.lo.toNat ≤ min r.hi.toNat u.hi.toNat) :
    r.minus u = (if r.lo.toNat < u.lo.toNat then [⟨r.lo, charBefore u.lo⟩] else []) ++
      (if u.hi.toNat < r.hi.toNat then [⟨charAfter u.hi, r.hi⟩] else []) := by
  unfold minus
  split
  · next hnone =>
      have := meet?_eq_none_iff.mp hnone
      omega
  · rfl

/-- Ranges that do not meet leave each other as they are. -/
theorem minus_of_misses (h : min r.hi.toNat u.hi.toNat < max r.lo.toNat u.lo.toNat) :
    r.minus u = [r] := by
  unfold minus
  rw [meet?_eq_none_iff.mpr h]

/-- What is left of a range without another are pieces of it, with a gap between them. -/
theorem minus_spec (h : r.Ordered) :
    (∀ v ∈ r.minus u, v.Ordered ∧ v.Inside r) ∧ (r.minus u).Pairwise Apart := by
  have hlo := toNat_valid u.lo
  have hhi := toNat_valid u.hi
  have hr := toNat_valid r.lo
  have hr' := toNat_valid r.hi
  unfold Ordered at h
  by_cases hmeet : max r.lo.toNat u.lo.toNat ≤ min r.hi.toNat u.hi.toNat
  · rw [minus_of_meets hmeet]
    have hbefore := toNat_charBefore (c := u.lo)
    have hafter := toNat_charAfter (c := u.hi)
    split <;> split <;> simp [Ordered, Inside, Apart] <;> grind
  · rw [minus_of_misses (by omega)]
    simp [h, Inside, Ordered]

theorem covers_minus : (∃ v ∈ r.minus u, v.covers n) ↔ r.covers n ∧ ¬ u.blocks n := by
  have hlo := toNat_valid u.lo
  have hhi := toNat_valid u.hi
  have hr := toNat_valid r.lo
  have hr' := toNat_valid r.hi
  by_cases hmeet : max r.lo.toNat u.lo.toNat ≤ min r.hi.toNat u.hi.toNat
  · rw [minus_of_meets hmeet]
    have hbefore := toNat_charBefore (c := u.lo)
    have hafter := toNat_charAfter (c := u.hi)
    split <;> split <;> simp [covers, blocks] <;> grind
  · rw [minus_of_misses (by omega)]
    simp [covers, blocks]
    omega

end CharRange

namespace CharSet

open CharRange

variable {s t : CharSet} {rs : List CharRange} {n : Nat} {c : Char}

/-- The ranges of a set are in ascending order, with a gap between any two of them. -/
structure Canonical (s : CharSet) : Prop where
  ordered : ∀ r ∈ s.ranges, r.Ordered
  apart : s.ranges.Pairwise Apart

/-- Two ranges of a set in canonical form are the same if they are not apart. -/
theorem Canonical.eq_or_apart (h : s.Canonical) :
    ∀ r ∈ s.ranges, ∀ u ∈ s.ranges, r = u ∨ r.Apart u ∨ u.Apart r := by
  have hright : s.ranges.Pairwise fun r u => r = u ∨ r.Apart u ∨ u.Apart r :=
    h.apart.imp fun h => .inr (.inl h)
  have hleft : s.ranges.Pairwise fun u r => r = u ∨ r.Apart u ∨ u.Apart r :=
    h.apart.imp fun h => .inr (.inr h)
  exact fun r hr u hu =>
    hright.forall_of_forall_of_flip (fun _ _ => .inl rfl) hleft hr hu

/-! ### Gluing -/

/-- Glueing ranges in the order of their lower ends leaves gaps between all of them. -/
theorem glue_spec {r : CharRange}
    (hsorted : (r :: rs).Pairwise fun u v => u.lo.toNat ≤ v.lo.toNat)
    (hordered : ∀ u ∈ r :: rs, u.Ordered) :
    (∀ u ∈ glue r rs, u.Ordered ∧ r.lo.toNat ≤ u.lo.toNat) ∧ (glue r rs).Pairwise Apart := by
  induction rs generalizing r with
  | nil => simp [glue, hordered r (by simp)]
  | cons s rest ih =>
      obtain ⟨hfirst, hrest⟩ := List.pairwise_cons.mp hsorted
      have hlo : r.lo.toNat ≤ s.lo.toNat := hfirst s (by simp)
      have hr : r.Ordered := hordered r (by simp)
      have hs : s.Ordered := hordered s (by simp)
      rw [glue]
      split
      · -- The join starts where `r` does, so that it comes before all that is left.
        have hjoin := lo_join hlo
        rw [← hjoin]
        refine ih (List.pairwise_cons.mpr ⟨?_, (List.pairwise_cons.mp hrest).2⟩) ?_
        · intro u hu
          rw [hjoin]
          exact hfirst u (List.mem_cons_of_mem _ hu)
        · refine List.forall_mem_cons.mpr ⟨hr.join, fun u hu => hordered u ?_⟩
          exact List.mem_cons_of_mem _ (List.mem_cons_of_mem _ hu)
      · next htouch =>
          obtain ⟨hbelow, hglued⟩ := ih hrest (List.forall_mem_cons.mp hordered).2
          have hgap : r.hi.toNat + 1 < s.lo.toNat := by
            simp only [touches, decide_eq_true_eq] at htouch
            unfold Ordered at hr hs
            omega
          refine ⟨List.forall_mem_cons.mpr ⟨⟨hr, Nat.le_refl _⟩, fun u hu => ?_⟩,
            List.pairwise_cons.mpr ⟨fun u hu => ?_, hglued⟩⟩
          · exact ⟨(hbelow u hu).1, Nat.le_trans hlo (hbelow u hu).2⟩
          · exact Nat.lt_of_lt_of_le hgap (hbelow u hu).2

/-- Ranges are sorted by their lower ends. -/
theorem pairwise_mergeSort_lo (rs : List CharRange) :
    (rs.mergeSort CharRange.le).Pairwise fun u v => u.lo.toNat ≤ v.lo.toNat := by
  have htrans : ∀ r s u : CharRange, r.le s = true → s.le u = true → r.le u = true := by
    intro r s u
    simp only [CharRange.le_iff]
    omega
  have htotal : ∀ r s : CharRange, (r.le s || s.le r) = true := by
    intro r s
    simp only [Bool.or_eq_true, CharRange.le_iff]
    omega
  refine (List.pairwise_mergeSort htrans htotal rs).imp fun {r s} h => ?_
  have := CharRange.le_iff.mp h
  omega

theorem canonical_ofRanges (h : ∀ r ∈ rs, r.Ordered) : (ofRanges rs).Canonical := by
  have hsorted := pairwise_mergeSort_lo rs
  have hordered : ∀ r ∈ rs.mergeSort CharRange.le, r.Ordered := fun r hr =>
    h r (List.mem_mergeSort.mp hr)
  unfold ofRanges
  split
  · exact ⟨by simp, List.Pairwise.nil⟩
  · next r rest hrs =>
      rw [hrs] at hsorted hordered
      obtain ⟨hglued, hapart⟩ := glue_spec hsorted hordered
      exact ⟨fun u hu => (hglued u hu).1, hapart⟩

/-! ### Operations -/

theorem canonical_empty : empty.Canonical := ⟨by simp [empty], List.Pairwise.nil⟩

theorem canonical_range (a b : Char) : (range a b).Canonical where
  ordered := by simp [range, ordered_between]
  apart := List.pairwise_singleton _ _

theorem canonical_any : any.Canonical where
  ordered := by
    simp only [any, List.mem_singleton, forall_eq]
    exact Nat.zero_le _
  apart := List.pairwise_singleton _ _

theorem ordered_union (hs : ∀ r ∈ s.ranges, r.Ordered) (ht : ∀ r ∈ t.ranges, r.Ordered) :
    ∀ r ∈ (s.union t).ranges, r.Ordered := by
  unfold CharSet.union
  split
  · exact hs
  · refine (canonical_ofRanges fun r hr => ?_).ordered
    exact (List.mem_append.mp hr).elim (hs r) (ht r)

theorem Canonical.union (hs : s.Canonical) (ht : ∀ r ∈ t.ranges, r.Ordered) :
    (s.union t).Canonical := by
  unfold CharSet.union
  split
  · exact hs
  · refine canonical_ofRanges fun r hr => ?_
    exact (List.mem_append.mp hr).elim (hs.ordered r) (ht r)

/-- If each range covers of its numbers in the end those that meet a condition, all do. -/
theorem covers_flatMap {f : CharRange → List CharRange} {q : Prop}
    (hf : ∀ r, (∃ v ∈ f r, v.covers n) ↔ r.covers n ∧ q) :
    (∃ v ∈ rs.flatMap f, v.covers n) ↔ (∃ r ∈ rs, r.covers n) ∧ q := by
  constructor
  · rintro ⟨v, hv, hn⟩
    obtain ⟨r, hr, hv⟩ := List.mem_flatMap.mp hv
    obtain ⟨hrn, hq⟩ := (hf r).mp ⟨v, hv, hn⟩
    exact ⟨⟨r, hr, hrn⟩, hq⟩
  · rintro ⟨⟨r, hr, hrn⟩, hq⟩
    obtain ⟨v, hv, hn⟩ := (hf r).mpr ⟨hrn, hq⟩
    exact ⟨v, List.mem_flatMap.mpr ⟨r, hr, hv⟩, hn⟩

/-- Pieces of ranges that are apart are apart. -/
theorem apart_flatMap {f : CharRange → List CharRange} (hrs : rs.Pairwise Apart)
    (hf : ∀ r ∈ rs, (∀ v ∈ f r, v.Inside r) ∧ (f r).Pairwise Apart) :
    (rs.flatMap f).Pairwise Apart := by
  refine List.pairwise_flatMap.mpr ⟨fun r hr => (hf r hr).2, ?_⟩
  refine hrs.imp_of_mem fun {r s} hr hs hapart u hu v hv => ?_
  exact hapart.inside ((hf r hr).1 u hu) ((hf s hs).1 v hv)

theorem ordered_intersect (s t : CharSet) : ∀ r ∈ (s.intersect t).ranges, r.Ordered := by
  intro u hu
  obtain ⟨r, -, hu⟩ := List.mem_flatMap.mp hu
  obtain ⟨v, -, hv⟩ := List.mem_filterMap.mp hu
  exact (meet?_spec hv).1

theorem Canonical.intersect (hs : s.Canonical) (ht : t.Canonical) :
    (s.intersect t).Canonical where
  ordered := ordered_intersect s t
  apart := by
    refine apart_flatMap hs.apart fun r _ => ⟨fun u hu => ?_, ?_⟩
    · obtain ⟨v, -, hv⟩ := List.mem_filterMap.mp hu
      exact (meet?_spec hv).2.1
    · refine ht.apart.filterMap _ fun v v' hapart u hu u' hu' => ?_
      exact hapart.inside (meet?_spec hu).2.2 (meet?_spec hu').2.2

theorem covers_intersect : (s.intersect t).covers n ↔ s.covers n ∧ t.covers n := by
  refine covers_flatMap fun r => ?_
  constructor
  · rintro ⟨u, hu, hn⟩
    obtain ⟨v, hv, hmeet⟩ := List.mem_filterMap.mp hu
    obtain ⟨hrn, hvn⟩ := (covers_of_meet? hmeet).mp hn
    exact ⟨hrn, v, hv, hvn⟩
  · rintro ⟨hrn, v, hv, hvn⟩
    obtain ⟨u, hu⟩ := exists_meet? hrn hvn
    exact ⟨u, List.mem_filterMap.mpr ⟨v, hv, hu⟩, (covers_of_meet? hu).mpr ⟨hrn, hvn⟩⟩

/-- Takes several ranges out of pieces, one after the other. -/
theorem foldl_minus_spec {pieces : List CharRange} {r : CharRange}
    (hpieces : ∀ v ∈ pieces, v.Ordered ∧ v.Inside r) (hapart : pieces.Pairwise Apart)
    (us : List CharRange) :
    (∀ v ∈ us.foldl (fun pieces u => pieces.flatMap (·.minus u)) pieces,
      v.Ordered ∧ v.Inside r) ∧
    (us.foldl (fun pieces u => pieces.flatMap (·.minus u)) pieces).Pairwise Apart := by
  induction us generalizing pieces with
  | nil => exact ⟨hpieces, hapart⟩
  | cons u us ih =>
      refine ih (fun v hv => ?_) (apart_flatMap hapart fun w hw => ?_)
      · obtain ⟨w, hw, hv⟩ := List.mem_flatMap.mp hv
        obtain ⟨hordered, hinside⟩ := hpieces w hw
        obtain ⟨hv, hvw⟩ := (minus_spec hordered).1 v hv
        exact ⟨hv, hvw.trans hinside⟩
      · obtain ⟨hminus, hapart⟩ := minus_spec (u := u) (hpieces w hw).1
        exact ⟨fun v hv => (hminus v hv).2, hapart⟩

theorem covers_foldl_minus {pieces us : List CharRange} :
    (∃ v ∈ us.foldl (fun pieces u => pieces.flatMap (·.minus u)) pieces, v.covers n) ↔
      (∃ v ∈ pieces, v.covers n) ∧ ∀ u ∈ us, ¬ u.blocks n := by
  induction us generalizing pieces with
  | nil => simp
  | cons u us ih =>
      rw [List.foldl_cons, ih, covers_flatMap fun r => covers_minus, List.forall_mem_cons,
        and_assoc]

/-- What is left of a range without a set. -/
theorem subtract_range_spec {r : CharRange} (hr : r.Ordered) (t : CharSet) :
    (∀ v ∈ t.ranges.foldl (fun pieces u => pieces.flatMap (·.minus u)) [r],
      v.Ordered ∧ v.Inside r) ∧
    (t.ranges.foldl (fun pieces u => pieces.flatMap (·.minus u)) [r]).Pairwise Apart :=
  foldl_minus_spec (by simp [hr, Inside]) (List.pairwise_singleton _ _) t.ranges

theorem ordered_subtract (hs : ∀ r ∈ s.ranges, r.Ordered) (t : CharSet) :
    ∀ r ∈ (s.subtract t).ranges, r.Ordered := by
  intro v hv
  obtain ⟨r, hr, hv⟩ := List.mem_flatMap.mp hv
  exact ((subtract_range_spec (hs r hr) t).1 v hv).1

theorem Canonical.subtract (hs : s.Canonical) (t : CharSet) : (s.subtract t).Canonical where
  ordered := ordered_subtract hs.ordered t
  apart := by
    refine apart_flatMap hs.apart fun r hr => ?_
    obtain ⟨hpieces, hapart⟩ := subtract_range_spec (hs.ordered r hr) t
    exact ⟨fun v hv => (hpieces v hv).2, hapart⟩

theorem covers_subtract :
    (s.subtract t).covers n ↔ s.covers n ∧ ∀ u ∈ t.ranges, ¬ u.blocks n := by
  refine covers_flatMap fun r => ?_
  rw [covers_foldl_minus]
  simp

/-- A subtraction takes away what the other set covers, and the numbers of the surrogates as well if
that set has a character on one side of them. -/
theorem covers_subtract_iff : (s.subtract t).covers n ↔
    s.covers n ∧ ¬ (t.covers n ∨
      (0xd800 ≤ n ∧ n ≤ 0xdfff) ∧ (t.covers 0xd7ff ∨ t.covers 0xe000)) := by
  have hblocks : (∃ u ∈ t.ranges, u.blocks n) ↔
      t.covers n ∨ (0xd800 ≤ n ∧ n ≤ 0xdfff) ∧ (t.covers 0xd7ff ∨ t.covers 0xe000) := by
    simp only [blocks, covers, and_or_left, exists_or, ← exists_and_left]
    grind
  rw [covers_subtract, ← hblocks]
  simp only [not_exists, not_and]

theorem contains_intersect :
    (s.intersect t).contains c = (s.contains c && t.contains c) := by
  rw [Bool.eq_iff_iff, Bool.and_eq_true, contains_iff, contains_iff, contains_iff,
    covers_intersect]

theorem contains_subtract :
    (s.subtract t).contains c = (s.contains c && !t.contains c) := by
  rw [Bool.eq_iff_iff, Bool.and_eq_true, Bool.not_eq_true', Bool.eq_false_iff, contains_iff,
    contains_iff, ne_eq, contains_iff, covers_subtract]
  simp only [blocks_toNat, covers, not_exists, not_and]

/-! ### Sets that cover the same -/

/-- The lowest of several ranges comes first. -/
theorem lo_le_of_covers {r : CharRange} (hordered : ∀ u ∈ r :: rs, u.Ordered)
    (hapart : (r :: rs).Pairwise Apart) (h : ∃ u ∈ r :: rs, u.covers n) : r.lo.toNat ≤ n := by
  obtain ⟨u, hu, hn⟩ := h
  rcases List.mem_cons.mp hu with rfl | hu
  · exact hn.1
  · have hr : r.Ordered := hordered r (by simp)
    have hru : r.Apart u := (List.pairwise_cons.mp hapart).1 u hu
    have hlo := hn.1
    unfold Ordered Apart at *
    omega

/-- Past the first of several ranges the next number is not covered. -/
theorem hi_le_of_covers {r u : CharRange} {us : List CharRange}
    (hapart : (r :: rs).Pairwise Apart) (hr : r.Ordered) (hlo : u.lo = r.lo)
    (h : ∀ n, (∃ v ∈ u :: us, v.covers n) → ∃ v ∈ r :: rs, v.covers n) :
    u.hi.toNat ≤ r.hi.toNat := by
  refine Nat.le_of_not_lt fun hlt => ?_
  have hcovers : u.covers (r.hi.toNat + 1) := by
    refine ⟨?_, hlt⟩
    rw [hlo]
    exact Nat.le_succ_of_le hr
  obtain ⟨v, hv, hn⟩ := h _ ⟨u, by simp, hcovers⟩
  rcases List.mem_cons.mp hv with rfl | hv
  · have := hn.2
    omega
  · have hrv : r.Apart v := (List.pairwise_cons.mp hapart).1 v hv
    have := hn.1
    unfold Apart at hrv
    omega

/-- Without the range that they both start with, sets still cover the same. -/
theorem covers_tail {r : CharRange} {us : List CharRange} (hfirst : ∀ u ∈ us, r.Apart u)
    (h : ∀ n, (∃ u ∈ r :: us, u.covers n) → ∃ v ∈ r :: rs, v.covers n) :
    (∃ u ∈ us, u.covers n) → ∃ v ∈ rs, v.covers n := by
  rintro ⟨u, hu, hn⟩
  obtain ⟨v, hv, hvn⟩ := h n ⟨u, List.mem_cons_of_mem _ hu, hn⟩
  rcases List.mem_cons.mp hv with rfl | hv
  · have hgap := hfirst u hu
    have hlo := hn.1
    have hhi := hvn.2
    unfold Apart at hgap
    omega
  · exact ⟨v, hv, hvn⟩

theorem ranges_ext {us : List CharRange} (hrs : ∀ r ∈ rs, r.Ordered) (hrs' : rs.Pairwise Apart)
    (hus : ∀ u ∈ us, u.Ordered) (hus' : us.Pairwise Apart)
    (h : ∀ n, (∃ r ∈ rs, r.covers n) ↔ ∃ u ∈ us, u.covers n) : rs = us := by
  have hself : ∀ r : CharRange, r.Ordered → r.covers r.lo.toNat := fun r hr => ⟨Nat.le_refl _, hr⟩
  induction rs generalizing us with
  | nil =>
      cases us with
      | nil => rfl
      | cons u us => simpa using (h u.lo.toNat).mpr ⟨u, by simp, hself u (hus u (by simp))⟩
  | cons r rs ih =>
      cases us with
      | nil => simpa using (h r.lo.toNat).mp ⟨r, by simp, hself r (hrs r (by simp))⟩
      | cons u us =>
          have hr : r.Ordered := hrs r (by simp)
          have hu : u.Ordered := hus u (by simp)
          have hlo : r.lo = u.lo := by
            have hle := lo_le_of_covers hus hus' ((h _).mp ⟨r, by simp, hself r hr⟩)
            have hge := lo_le_of_covers hrs hrs' ((h _).mpr ⟨u, by simp, hself u hu⟩)
            exact Char.toNat_inj.mp (Nat.le_antisymm hge hle)
          have hhi : r.hi = u.hi := by
            have hle := hi_le_of_covers hus' hu hlo fun n => (h n).mp
            have hge := hi_le_of_covers hrs' hr hlo.symm fun n => (h n).mpr
            exact Char.toNat_inj.mp (Nat.le_antisymm hle hge)
          obtain rfl : r = u := by
            cases r
            cases u
            simp_all
          obtain ⟨hfirst, hrs'⟩ := List.pairwise_cons.mp hrs'
          obtain ⟨hfirst', hus'⟩ := List.pairwise_cons.mp hus'
          rw [ih (List.forall_mem_cons.mp hrs).2 hrs' (List.forall_mem_cons.mp hus).2 hus' fun n =>
            ⟨covers_tail hfirst fun n => (h n).mp, covers_tail hfirst' fun n => (h n).mpr⟩]

/-- Sets in canonical form that cover the same numbers are the same. -/
theorem Canonical.ext (hs : s.Canonical) (ht : t.Canonical)
    (h : ∀ n, s.covers n ↔ t.covers n) : s = t := by
  have hranges : s.ranges = t.ranges := ranges_ext hs.ordered hs.apart ht.ordered ht.apart h
  cases s
  cases t
  simpa using hranges

end CharSet

end PatternLint
