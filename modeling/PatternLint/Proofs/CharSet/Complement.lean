import PatternLint.Proofs.CharSet.Canonical

/-!
# Complements

The complement of a set has the gaps between its ranges. A gap goes from the character
after one range to the character before the next, and these two step over the surrogates,
while a range that goes from one side of the surrogates to the other has them in it. As
long as no range has an end at the surrogates, that makes no difference: the complement is
in canonical form again and has just the other characters.

At the surrogates it does. Ranges that end and start there leave no character between
them, and what stands in the complement for that gap is a range of both their ends. So the
complement of a set in canonical form may have ranges that touch, and the complement of
that one ranges that overlap. How close ranges can come is what `Spaced` counts.
-/

namespace PatternLint

namespace CharRange

variable {r s : CharRange} {hi lo : Char} {k : Nat}

/-- Neither end of a range is at the surrogates. -/
def Clear (r : CharRange) : Prop := r.hi.toNat ≠ 0xd7ff ∧ r.lo.toNat ≠ 0xe000

instance (r : CharRange) : Decidable r.Clear :=
  inferInstanceAs (Decidable (r.hi.toNat ≠ 0xd7ff ∧ r.lo.toNat ≠ 0xe000))

/-- A gap between ranges keeps one step less from both of them than they do from each other, but
at the surrogates it has their ends. -/
theorem gap_spaced (hk : k ≤ 1) (h : hi.toNat + (k + 1) ≤ lo.toNat) :
    (hi.toNat + k ≤ (between (charAfter hi) (charBefore lo)).lo.toNat ∨
      hi.toNat = 0xd7ff ∧ (between (charAfter hi) (charBefore lo)).lo.toNat = 0xd7ff) ∧
    ((between (charAfter hi) (charBefore lo)).hi.toNat + k ≤ lo.toNat ∨
      lo.toNat = 0xe000 ∧ (between (charAfter hi) (charBefore lo)).hi.toNat = 0xe000) := by
  have hlo := toNat_valid lo
  have hhi := toNat_valid hi
  have hafter := toNat_charAfter (c := hi) (by omega)
  have hbefore := toNat_charBefore (c := lo) (by omega)
  unfold between
  simp only [char_le_iff]
  split <;> dsimp only <;> split at hafter <;> split at hbefore <;> omega

/-- Away from the surrogates a gap has just the numbers between two ranges. -/
theorem gap_clear (h : hi.toNat + 1 < lo.toNat) (hhi : hi.toNat ≠ 0xd7ff)
    (hlo : lo.toNat ≠ 0xe000) :
    (between (charAfter hi) (charBefore lo)).lo.toNat = hi.toNat + 1 ∧
      (between (charAfter hi) (charBefore lo)).hi.toNat + 1 = lo.toNat := by
  have hvalid := toNat_valid lo
  have hafter := toNat_charAfter (c := hi) (by omega)
  have hbefore := toNat_charBefore (c := lo) (by omega)
  rw [if_neg hhi] at hafter
  rw [if_neg hlo] at hbefore
  rw [between_eq (by omega)]
  dsimp only
  omega

end CharRange

namespace CharSet

open CharRange

variable {s t : CharSet} {rs : List CharRange} {hi : Char} {k n : Nat} {c : Char}

/-- The ranges of a set are in order and keep a distance from each other. -/
structure Spaced (k : Nat) (s : CharSet) : Prop where
  ordered : ∀ r ∈ s.ranges, r.Ordered
  spaced : s.ranges.Pairwise fun r t => r.hi.toNat + k ≤ t.lo.toNat

theorem Canonical.spaced (h : s.Canonical) : s.Spaced 2 := ⟨h.ordered, h.apart⟩

theorem Spaced.mono {j : Nat} (h : s.Spaced k) (hjk : j ≤ k) : s.Spaced j :=
  ⟨h.ordered, h.spaced.imp fun h => Nat.le_trans (Nat.add_le_add_left hjk _) h⟩

theorem ordered_gapsAfter (hi : Char) (rs : List CharRange) :
    ∀ g ∈ gapsAfter hi rs, g.Ordered := by
  induction rs generalizing hi with
  | nil =>
      have hvalid := toNat_valid (charAfter hi)
      unfold gapsAfter
      split
      · simp only [List.mem_singleton, forall_eq, Ordered, toNat_lastChar]
        omega
      · simp
  | cons r rs ih => exact List.forall_mem_cons.mpr ⟨ordered_between _ _, ih r.hi⟩

/-- The ranges of a complement are in order, whatever the set is. -/
theorem ordered_negate (s : CharSet) : ∀ r ∈ s.negate.ranges, r.Ordered := by
  unfold negate
  split
  · exact canonical_any.ordered
  · intro g hg
    rcases List.mem_append.mp hg with hg | hg
    · split at hg
      · obtain rfl := List.mem_singleton.mp hg
        exact Nat.zero_le _
      · cases hg
    · exact ordered_gapsAfter _ _ g hg

theorem gapsAfter_spaced (hk : k ≤ 1) (hordered : ∀ r ∈ rs, r.Ordered)
    (hrs : rs.Pairwise fun r t => r.hi.toNat + (k + 1) ≤ t.lo.toNat)
    (hhi : ∀ r ∈ rs, hi.toNat + (k + 1) ≤ r.lo.toNat) :
    (∀ g ∈ gapsAfter hi rs, hi.toNat + k ≤ g.lo.toNat ∨
      hi.toNat = 0xd7ff ∧ g.lo.toNat = 0xd7ff) ∧
    (gapsAfter hi rs).Pairwise fun g g' => g.hi.toNat + k ≤ g'.lo.toNat := by
  induction rs generalizing hi with
  | nil =>
      unfold gapsAfter
      split
      · next hlt =>
          have hafter := toNat_charAfter hlt
          simp only [List.mem_singleton, forall_eq, List.pairwise_singleton, and_true]
          split at hafter <;> omega
      · simp
  | cons r rs ih =>
      obtain ⟨hr, hordered⟩ := List.forall_mem_cons.mp hordered
      obtain ⟨hfirst, hrs⟩ := List.pairwise_cons.mp hrs
      obtain ⟨hbelow, hgaps⟩ := ih hordered hrs hfirst
      obtain ⟨hlo, hup⟩ := gap_spaced hk (hhi r (by simp))
      have hgap := hhi r (by simp)
      unfold Ordered at hr
      refine ⟨List.forall_mem_cons.mpr ⟨hlo, fun g hg => ?_⟩,
        List.pairwise_cons.mpr ⟨fun g hg => ?_, hgaps⟩⟩
      · have := hbelow g hg
        omega
      · -- Both gaps cannot be at the surrogates, since the range is between them.
        have := hbelow g hg
        omega

/-- What holds between the gaps behind a range, and from the gap before it to them, holds between
all of them. -/
theorem pairwise_gaps {R : CharRange → CharRange → Prop} {lo : Char} {gs : List CharRange}
    (hgaps : gs.Pairwise R)
    (hfirst : 0 < lo.toNat → ∀ g ∈ gs, R ⟨Char.ofNat 0, charBefore lo⟩ g) :
    ((if Char.ofNat 0 < lo then [⟨Char.ofNat 0, charBefore lo⟩] else [] : List CharRange) ++
      gs).Pairwise R := by
  split
  · next hpos => exact List.pairwise_cons.mpr ⟨hfirst hpos, hgaps⟩
  · exact hgaps

/-- The ranges of a complement may come closer by one step than those of the set. -/
theorem Spaced.negate (hk : k ≤ 1) (h : s.Spaced (k + 1)) : s.negate.Spaced k := by
  refine ⟨ordered_negate s, ?_⟩
  obtain ⟨rs⟩ := s
  cases rs with
  | nil => exact List.pairwise_singleton _ _
  | cons r rs =>
      obtain ⟨hr, hordered⟩ := List.forall_mem_cons.mp h.ordered
      obtain ⟨hfirst, hrs⟩ := List.pairwise_cons.mp h.spaced
      obtain ⟨hbelow, hgaps⟩ := gapsAfter_spaced hk hordered hrs hfirst
      unfold Ordered at hr
      refine pairwise_gaps hgaps fun hpos g hg => ?_
      have hbefore := toNat_charBefore hpos
      have := hbelow g hg
      simp only
      split at hbefore <;> omega

/-! ### Sets with no end at the surrogates -/

/-- A set in canonical form of which no range has an end at the surrogates. -/
structure Regular (s : CharSet) : Prop extends s.Canonical where
  clear : ∀ r ∈ s.ranges, r.Clear

/-- A range with a number from one side of the surrogates to the other, and no end there, has all
of these numbers. -/
theorem Regular.covers_alike (h : s.Regular) {m : Nat} (hm : 0xd7ff ≤ m ∧ m ≤ 0xe000)
    (hn : 0xd7ff ≤ n ∧ n ≤ 0xe000) (hcovers : s.covers m) : s.covers n := by
  obtain ⟨r, hr, hlo, hhi⟩ := hcovers
  obtain ⟨hclear, hclear'⟩ := h.clear r hr
  have := toNat_valid r.lo
  have := toNat_valid r.hi
  refine ⟨r, hr, ?_, ?_⟩ <;> omega

/-- Two ranges of a set that cover neighbouring numbers are one. -/
theorem Canonical.eq_of_covers {r u : CharRange} {m : Nat} (h : s.Canonical) (hr : r ∈ s.ranges)
    (hu : u ∈ s.ranges) (hrm : r.covers m) (hun : u.covers n) (hnear : m ≤ n + 1 ∧ n ≤ m + 1) :
    r = u := by
  obtain ⟨hrlo, hrhi⟩ := hrm
  obtain ⟨hulo, huhi⟩ := hun
  rcases h.eq_or_apart r hr u hu with heq | hapart | hapart
  · exact heq
  · unfold Apart at hapart
    omega
  · unfold Apart at hapart
    omega

/-- If a set has all of these numbers or none, a range that ends at the surrogates would need
another one that goes on there. -/
theorem Canonical.regular (h : s.Canonical) (halike : ∀ m n, 0xd7ff ≤ m ∧ m ≤ 0xe000 →
    0xd7ff ≤ n ∧ n ≤ 0xe000 → s.covers m → s.covers n) : s.Regular := by
  refine { h with clear := fun r hr => ⟨fun hhi => ?_, fun hlo => ?_⟩ }
  · have hordered : r.lo.toNat ≤ r.hi.toNat := h.ordered r hr
    have hend : r.covers 0xd7ff := ⟨by omega, by omega⟩
    obtain ⟨u, hu, hcovers⟩ := halike 0xd7ff 0xd800 (by omega) (by omega) ⟨r, hr, hend⟩
    obtain rfl := h.eq_of_covers hr hu hend hcovers (by omega)
    obtain ⟨-, hover⟩ := hcovers
    omega
  · have hordered : r.lo.toNat ≤ r.hi.toNat := h.ordered r hr
    have hend : r.covers 0xe000 := ⟨by omega, by omega⟩
    obtain ⟨u, hu, hcovers⟩ := halike 0xe000 0xdfff (by omega) (by omega) ⟨r, hr, hend⟩
    obtain rfl := h.eq_of_covers hr hu hend hcovers (by omega)
    obtain ⟨hover, -⟩ := hcovers
    omega

theorem Regular.union (hs : s.Regular) (ht : t.Regular) : (s.union t).Regular := by
  refine (hs.toCanonical.union ht.ordered).regular fun m n hm hn => ?_
  rw [covers_union, covers_union]
  exact Or.imp (hs.covers_alike hm hn) (ht.covers_alike hm hn)

theorem Regular.intersect (hs : s.Regular) (ht : t.Regular) : (s.intersect t).Regular := by
  refine (hs.toCanonical.intersect ht.toCanonical).regular fun m n hm hn => ?_
  rw [covers_intersect, covers_intersect]
  exact And.imp (hs.covers_alike hm hn) (ht.covers_alike hm hn)

/-- Where no range has an end at the surrogates, just what is covered is taken out. -/
theorem Regular.blocks_iff (h : s.Regular) :
    (∃ u ∈ s.ranges, u.blocks n) ↔ s.covers n := by
  constructor
  · rintro ⟨u, hu, hn | ⟨hn, hd | he⟩⟩
    · exact ⟨u, hu, hn⟩
    · exact h.covers_alike (by omega) (by omega) ⟨u, hu, hd⟩
    · exact h.covers_alike (by omega) (by omega) ⟨u, hu, he⟩
  · rintro ⟨u, hu, hn⟩
    exact ⟨u, hu, .inl hn⟩

theorem Regular.covers_subtract (ht : t.Regular) :
    (s.subtract t).covers n ↔ s.covers n ∧ ¬ t.covers n := by
  rw [CharSet.covers_subtract, ← ht.blocks_iff]
  simp only [not_exists, not_and]

theorem Regular.subtract (hs : s.Regular) (ht : t.Regular) : (s.subtract t).Regular := by
  refine (hs.toCanonical.subtract t).regular fun m n hm hn => ?_
  rw [ht.covers_subtract, ht.covers_subtract]
  exact And.imp (hs.covers_alike hm hn) (mt (ht.covers_alike hn hm))

/-- What is covered behind a range lies behind it. -/
theorem lt_of_covers_behind {r : CharRange} (hbehind : ∀ u ∈ rs, Apart r u)
    (hcovers : ∃ u ∈ rs, u.covers n) : r.hi.toNat < n := by
  obtain ⟨u, hu, hlo, -⟩ := hcovers
  exact Nat.lt_of_lt_of_le (Nat.lt_of_succ_lt (hbehind u hu)) hlo

theorem covers_gapsAfter (hhi : hi.toNat ≠ 0xd7ff) (hclear : ∀ r ∈ rs, r.Clear)
    (hordered : ∀ r ∈ rs, r.Ordered) (hrs : rs.Pairwise Apart)
    (hfirst : ∀ r ∈ rs, hi.toNat + 1 < r.lo.toNat) :
    (∃ g ∈ gapsAfter hi rs, g.covers n) ↔
      (hi.toNat < n ∧ n ≤ 0x10ffff) ∧ ¬ ∃ r ∈ rs, r.covers n := by
  induction rs generalizing hi with
  | nil =>
      have hnone : ¬ ∃ r ∈ ([] : List CharRange), r.covers n := by simp
      rw [and_iff_left hnone]
      unfold gapsAfter
      split
      · next hlt =>
          have hafter := toNat_charAfter hlt
          rw [if_neg hhi] at hafter
          simp only [List.mem_singleton, exists_eq_left, CharRange.covers, toNat_lastChar, hafter]
          omega
      · next hlt =>
          have hlt : ¬ hi.toNat < 0x10ffff := hlt
          exact iff_of_false hnone (by omega)
  | cons r rs ih =>
      obtain ⟨hr, hordered⟩ := List.forall_mem_cons.mp hordered
      obtain ⟨hrclear, hclear⟩ := List.forall_mem_cons.mp hclear
      obtain ⟨hrfirst, hrs⟩ := List.pairwise_cons.mp hrs
      have hnext : hi.toNat + 1 < r.lo.toNat := hfirst r (by simp)
      have hgap := gap_clear hnext hhi hrclear.2
      have hvalid := toNat_valid r.hi
      simp only [gapsAfter, List.mem_cons, exists_eq_or_imp]
      rw [ih hrclear.1 hclear hordered hrs hrfirst]
      unfold Ordered at hr
      by_cases hq : ∃ u ∈ rs, u.covers n
      · have := lt_of_covers_behind hrfirst hq
        simp only [hq, or_true, not_true_eq_false, and_false, or_false, iff_false]
        unfold CharRange.covers
        omega
      · simp only [hq, or_false, not_false_eq_true, and_true]
        unfold CharRange.covers
        omega

theorem apart_gapsAfter (hhi : hi.toNat ≠ 0xd7ff) (hclear : ∀ r ∈ rs, r.Clear)
    (hordered : ∀ r ∈ rs, r.Ordered) (hrs : rs.Pairwise Apart)
    (hfirst : ∀ r ∈ rs, hi.toNat + 1 < r.lo.toNat) :
    (∀ g ∈ gapsAfter hi rs, hi.toNat < g.lo.toNat) ∧ (gapsAfter hi rs).Pairwise Apart := by
  induction rs generalizing hi with
  | nil =>
      unfold gapsAfter
      split
      · next hlt =>
          have hafter := toNat_charAfter (c := hi) hlt
          rw [if_neg hhi] at hafter
          simp [hafter]
      · simp
  | cons r rs ih =>
      obtain ⟨hr, hordered⟩ := List.forall_mem_cons.mp hordered
      obtain ⟨hrclear, hclear⟩ := List.forall_mem_cons.mp hclear
      obtain ⟨hrfirst, hrs⟩ := List.pairwise_cons.mp hrs
      obtain ⟨hbelow, hgaps⟩ := ih hrclear.1 hclear hordered hrs hrfirst
      have hgap := gap_clear (hfirst r (by simp)) hhi hrclear.2
      have hnext := hfirst r (by simp)
      unfold Ordered at hr
      refine ⟨List.forall_mem_cons.mpr ⟨by omega, fun g hg => ?_⟩,
        List.pairwise_cons.mpr ⟨fun g hg => ?_, hgaps⟩⟩
      · have := hbelow g hg
        omega
      · have := hbelow g hg
        unfold Apart
        omega

/-- The gap before the first range has the numbers below it. -/
theorem covers_gapBefore {lo : Char} (hlo : lo.toNat ≠ 0xe000) :
    (∃ g ∈ (if Char.ofNat 0 < lo then [⟨Char.ofNat 0, charBefore lo⟩] else [] : List CharRange),
      g.covers n) ↔ n < lo.toNat := by
  have hzero : (Char.ofNat 0).toNat = 0 := rfl
  split
  · next hpos =>
      have hpos : 0 < lo.toNat := hpos
      have hbefore := toNat_charBefore hpos
      rw [if_neg hlo] at hbefore
      simp only [List.mem_singleton, exists_eq_left, CharRange.covers]
      omega
  · next hpos =>
      have hpos : ¬ 0 < lo.toNat := hpos
      have hnone : ¬ ∃ g ∈ ([] : List CharRange), g.covers n := by simp
      exact iff_of_false hnone (by omega)

/-- The complement of a set with no end at the surrogates has all other numbers. -/
theorem Regular.covers_negate (h : s.Regular) :
    s.negate.covers n ↔ n ≤ 0x10ffff ∧ ¬ s.covers n := by
  obtain ⟨rs⟩ := s
  cases rs with
  | nil => simp [negate, any, covers, CharRange.covers, toNat_lastChar]
  | cons r rs =>
      obtain ⟨hr, hordered⟩ := List.forall_mem_cons.mp h.ordered
      obtain ⟨hrclear, hclear⟩ := List.forall_mem_cons.mp h.clear
      obtain ⟨hfirst, hrs⟩ := List.pairwise_cons.mp h.apart
      have hvalid := toNat_valid r.hi
      have hsplit : (negate ⟨r :: rs⟩).covers n ↔
          n < r.lo.toNat ∨ (r.hi.toNat < n ∧ n ≤ 0x10ffff) ∧ ¬ ∃ u ∈ rs, u.covers n := by
        rw [← covers_gapBefore hrclear.2, ← covers_gapsAfter hrclear.1 hclear hordered hrs hfirst]
        simp only [negate, covers, List.mem_append, or_and_right, exists_or]
      have hcons : covers ⟨r :: rs⟩ n ↔ r.covers n ∨ ∃ u ∈ rs, u.covers n := by
        simp only [covers, List.mem_cons, exists_eq_or_imp]
      rw [hsplit, hcons]
      unfold Ordered at hr
      by_cases hq : ∃ u ∈ rs, u.covers n
      · have := lt_of_covers_behind hfirst hq
        simp only [hq, or_true, not_true_eq_false, and_false, or_false, iff_false]
        omega
      · simp only [hq, or_false, not_false_eq_true, and_true]
        unfold CharRange.covers
        omega

theorem Regular.negate (h : s.Regular) : s.negate.Regular := by
  have hcanonical : s.negate.Canonical := by
    refine ⟨ordered_negate s, ?_⟩
    obtain ⟨rs⟩ := s
    cases rs with
    | nil => exact List.pairwise_singleton _ _
    | cons r rs =>
        obtain ⟨hr, hordered⟩ := List.forall_mem_cons.mp h.ordered
        obtain ⟨hrclear, hclear⟩ := List.forall_mem_cons.mp h.clear
        obtain ⟨hfirst, hrs⟩ := List.pairwise_cons.mp h.apart
        obtain ⟨hbelow, hgaps⟩ := apart_gapsAfter hrclear.1 hclear hordered hrs hfirst
        unfold Ordered at hr
        refine pairwise_gaps hgaps fun hpos g hg => ?_
        have hbefore := toNat_charBefore hpos
        have := hbelow g hg
        rw [if_neg hrclear.2] at hbefore
        simp only [Apart]
        omega
  refine hcanonical.regular fun m n hm hn => ?_
  rw [h.covers_negate, h.covers_negate]
  exact fun hcovers => ⟨by omega, mt (h.covers_alike hn hm) hcovers.2⟩

@[simp] theorem Regular.contains_negate (h : s.Regular) :
    s.negate.contains c = !s.contains c := by
  have hvalid := toNat_valid c
  rw [Bool.eq_iff_iff, Bool.not_eq_true', Bool.eq_false_iff, ne_eq, contains_iff, contains_iff,
    h.covers_negate]
  exact and_iff_right (by omega)

/-! ### Sets as they come -/

/-- A set whose ranges are sorted, with no end at the surrogates and no neighbours that touch, is
in canonical form. -/
theorem Spaced.regular (h : s.Spaced 0) (hclear : ∀ r ∈ s.ranges, r.Clear)
    (htouch : s.ranges.Pairwise fun r t => r.touches t = false) : s.Regular := by
  refine { h with clear := hclear, apart := (h.spaced.and htouch).imp_of_mem ?_ }
  intro r t hr ht hrt
  have hr := h.ordered r hr
  have ht := h.ordered t ht
  obtain ⟨hspaced, htouch⟩ := hrt
  simp only [CharRange.touches, decide_eq_false_iff_not] at htouch
  unfold Ordered at hr ht
  unfold Apart
  omega

end CharSet

end PatternLint
