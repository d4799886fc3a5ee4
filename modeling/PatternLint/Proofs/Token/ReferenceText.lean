import PatternLint.Proofs.Token.Counts

/-!
# The text of a reference

Between braces, angle brackets or quotes, the whole text is a reference: a number, a
distance with its sign, or a name. `Refers` is the grammar of such texts, with what each
of them refers to.

Reading takes the sign of a distance off and hands the rest to a reader of numbers, which
lets a plus sign stand before the digits. So a distance may have a second sign, and
`reference?_eq_some_iff` says that nothing else is read that the grammar does not have.
-/

namespace PatternLint.Token

open Unicode Text

/-! ### The grammar -/

/-- Decimal digits, with the number that they stand for; it has 32 bits. -/
inductive Numeral : List Char → Nat → Prop where
  | intro {digits : List Char} (hdigits : Digits digits) (hle : ofDigits 10 digits ≤ maxNumber) :
      Numeral digits (ofDigits 10 digits)

/-- The text of a reference and what it refers to. A distance ahead may not be allowed; one that is
too large is the largest there is. -/
inductive Refers (plus : Bool) : List Char → Reference → Prop where
  | back {digits : List Char} {n : Nat} (hn : Numeral digits n) :
      Refers plus ('-' :: digits) (.relative (-(min n maxDistance : Nat)))
  | ahead {digits : List Char} {n : Nat} (hplus : plus = true) (hn : Numeral digits n) :
      Refers plus ('+' :: digits) (.relative (min n maxDistance : Nat))
  | number {digits : List Char} {n : Nat} (hn : Numeral digits n) : Refers plus digits (.number n)
  | name {c : Char} {cs : List Char} (hc : c = '_' ∨ isAlphabetic c = true)
      (hcs : ∀ d ∈ cs, d = '_' ∨ isAlphanumeric d = true) :
      Refers plus (c :: cs) (.name (String.ofList (c :: cs)))

section Forms

variable {plus : Bool} {cs digits text : List Char} {c : Char} {n : Nat} {ref : Reference}

/-- A numeral starts with a digit, and so with no other mark. -/
theorem Numeral.head (h : Numeral (c :: cs) n) : isAsciiDigit c = true := by
  cases h with
  | intro hdigits =>
      have hall := hdigits.2
      rw [List.all_cons, Bool.and_eq_true] at hall
      exact hall.1

theorem isName_eq_true_iff : isName text = true ↔
    ∃ c cs, text = c :: cs ∧ (c = '_' ∨ isAlphabetic c = true) ∧
      ∀ d ∈ cs, d = '_' ∨ isAlphanumeric d = true := by
  cases text with
  | nil => simp [isName]
  | cons c cs => simp [isName, isNameStart, isNameChar]

/-- What a sign starts can only be a distance. -/
theorem Refers.back_inv (h : Refers plus ('-' :: digits) ref) :
    ∃ n, Numeral digits n ∧ ref = .relative (-(min n maxDistance : Nat)) := by
  cases h with
  | back hn => exact ⟨_, hn, rfl⟩
  | number hn => exact absurd hn.head (by decide)
  | name hc => exact absurd hc (by decide)

theorem Refers.ahead_inv (h : Refers plus ('+' :: digits) ref) :
    plus = true ∧ ∃ n, Numeral digits n ∧ ref = .relative (min n maxDistance : Nat) := by
  cases h with
  | ahead hplus hn => exact ⟨hplus, _, hn, rfl⟩
  | number hn => exact absurd hn.head (by decide)
  | name hc => exact absurd hc (by decide)

end Forms

/-! ### Reading -/

section Reading

variable {plus : Bool} {cs digits text : List Char} {n : Nat} {ref : Reference}

/-- A number is read from its digits, and a plus sign may stand before them. -/
theorem unsigned?_eq_some_iff :
    unsigned? cs = some n ↔ Numeral cs n ∨ ∃ digits, cs = '+' :: digits ∧ Numeral digits n := by
  have hread : ∀ digits : List Char,
      (if !digits.isEmpty && digits.all isAsciiDigit &&
          decide (ofDigits 10 digits ≤ maxNumber) then some (ofDigits 10 digits) else none) =
        some n ↔ Numeral digits n := by
    intro digits
    simp only [Option.ite_none_right_eq_some, Bool.and_eq_true, Bool.not_eq_true',
      List.isEmpty_eq_false_iff, decide_eq_true_eq, Option.some.injEq]
    constructor
    · rintro ⟨⟨hdigits, hle⟩, rfl⟩
      exact .intro hdigits hle
    · rintro ⟨hdigits, hle⟩
      exact ⟨⟨hdigits, hle⟩, rfl⟩
  unfold unsigned?
  split
  · next digits =>
      refine (hread digits).trans ⟨fun hn => .inr ⟨digits, rfl, hn⟩, ?_⟩
      rintro (hn | ⟨digits', heq, hn⟩)
      · exact absurd hn.head (by decide)
      · exact (List.cons.inj heq).2 ▸ hn
  · next hplus =>
      refine (hread cs).trans ⟨.inl, ?_⟩
      rintro (hn | ⟨digits, heq, -⟩)
      · exact hn
      · exact absurd heq (hplus digits)

/-- A text of the grammar is read as what it refers to. -/
theorem Refers.read (h : Refers plus text ref) : reference? text plus = some ref := by
  cases h with
  | back hn => rw [reference?, unsigned?_eq_some_iff.mpr (.inl hn), Option.map_some]
  | ahead hplus hn =>
      rw [reference?, if_pos hplus, unsigned?_eq_some_iff.mpr (.inl hn), Option.map_some]
  | number hn =>
      have hread := unsigned?_eq_some_iff.mpr (.inl hn)
      unfold reference?
      split
      · exact absurd hn.head (by decide)
      · exact absurd hn.head (by decide)
      · rw [if_pos hn.head, hread, Option.map_some]
      · cases hn with
        | intro hdigits => exact absurd rfl hdigits.1
  | @name c cs hc hcs =>
      have hname : isName (c :: cs) = true := isName_eq_true_iff.mpr ⟨c, cs, rfl, hc, hcs⟩
      have hdigit : isAsciiDigit c = false := by
        rcases hc with rfl | hc
        · rfl
        · cases hd : isAsciiDigit c with
          | false => rfl
          | true =>
              have hnone : ∀ c : Char, c.toNat < 128 → isAsciiDigit c = true →
                  isAlphabetic c = false :=
                ascii_all (by decide)
              rw [hnone c (toNat_lt_of_isAsciiDigit hd) hd] at hc
              cases hc
      unfold reference?
      split
      · next heq => exact absurd ((List.cons.inj heq).1 ▸ hc) (by decide)
      · next heq => exact absurd ((List.cons.inj heq).1 ▸ hc) (by decide)
      · next heq =>
          obtain ⟨rfl, rfl⟩ := List.cons.inj heq
          simp only [hdigit, Bool.false_eq_true, ↓reduceIte, hname]
      · next heq => cases heq

/-- The texts that are read as references are those of the grammar and distances with a second
sign, a plus sign before the digits, which changes nothing about the distance. -/
theorem reference?_eq_some_iff : reference? text plus = some ref ↔
    Refers plus text ref ∨ ∃ sign digits, (sign = '-' ∨ sign = '+') ∧
      text = sign :: '+' :: digits ∧ Refers plus (sign :: digits) ref := by
  constructor
  · intro h
    unfold reference? at h
    split at h
    · next digits =>
        obtain ⟨n, hread, rfl⟩ := Option.map_eq_some_iff.mp h
        rcases unsigned?_eq_some_iff.mp hread with hn | ⟨digits, rfl, hn⟩
        · exact .inl (.back hn)
        · exact .inr ⟨'-', digits, .inl rfl, rfl, .back hn⟩
    · next digits =>
        rw [Option.ite_none_right_eq_some] at h
        obtain ⟨hplus, h⟩ := h
        obtain ⟨n, hread, rfl⟩ := Option.map_eq_some_iff.mp h
        rcases unsigned?_eq_some_iff.mp hread with hn | ⟨digits, rfl, hn⟩
        · exact .inl (.ahead hplus hn)
        · exact .inr ⟨'+', digits, .inr rfl, rfl, .ahead hplus hn⟩
    · next c cs hminus hplus =>
        split at h
        · obtain ⟨n, hread, rfl⟩ := Option.map_eq_some_iff.mp h
          rcases unsigned?_eq_some_iff.mp hread with hn | ⟨digits, heq, -⟩
          · exact .inl (.number hn)
          · exact absurd (List.cons.inj heq).1 hplus
        · rw [Option.ite_none_right_eq_some, Option.some.injEq] at h
          obtain ⟨hname, rfl⟩ := h
          obtain ⟨_, _, heq, hc, hcs⟩ := isName_eq_true_iff.mp hname
          obtain ⟨rfl, rfl⟩ := List.cons.inj heq
          exact .inl (.name hc hcs)
    · cases h
  · rintro (h | ⟨sign, digits, rfl | rfl, rfl, h⟩)
    · exact h.read
    · obtain ⟨n, hn, rfl⟩ := h.back_inv
      rw [reference?, unsigned?_eq_some_iff.mpr (.inr ⟨digits, rfl, hn⟩), Option.map_some]
    · obtain ⟨hplus, n, hn, rfl⟩ := h.ahead_inv
      rw [reference?, if_pos hplus, unsigned?_eq_some_iff.mpr (.inr ⟨digits, rfl, hn⟩),
        Option.map_some]

/-- A second sign is read where no plus sign is allowed at all. -/
theorem reference?_second_sign :
    reference? "-+1".toList false = some (.relative (-1)) ∧
      ∀ ref, ¬ Refers false "-+1".toList ref := by
  refine ⟨rfl, fun ref h => ?_⟩
  obtain ⟨n, hn, -⟩ := h.back_inv
  exact absurd hn.head (by decide)

end Reading

end PatternLint.Token
