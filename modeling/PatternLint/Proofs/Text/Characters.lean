import PatternLint.Text.Digits

/-!
# Characters and digits

What is claimed of every ASCII character can be tried on each of them, and
`ascii_all` does so. Numbers that are written in a base that patterns use are
read back from their digits.
-/

namespace PatternLint.Text

open Unicode

theorem toNat_ofNat_of_valid {v : Nat} (h : v.isValidChar) : (Char.ofNat v).toNat = v := by
  rw [Char.ofNat, dif_pos h]
  exact UInt32.toNat_ofNatLT ..

theorem ascii_all {P : Char → Prop} (h : ∀ n : Fin 128, P (Char.ofNat n)) :
    ∀ c : Char, c.toNat < 128 → P c := by
  intro c hc
  simpa using h ⟨c.toNat, hc⟩

theorem toNat_lt_of_isAsciiDigit {c : Char} (h : isAsciiDigit c = true) : c.toNat < 128 := by
  simp only [isAsciiDigit, decide_eq_true_eq, Char.le_def, UInt32.le_iff_toNat_le] at h
  have h9 : ('9' : Char).val.toNat = 57 := rfl
  have hc : c.toNat = c.val.toNat := rfl
  omega

theorem toNat_lt_of_isAsciiLetter {c : Char} (h : isAsciiLetter c = true) : c.toNat < 128 := by
  simp only [isAsciiLetter, decide_eq_true_eq, Char.le_def, UInt32.le_iff_toNat_le] at h
  have hz : ('z' : Char).val.toNat = 122 := rfl
  have hZ : ('Z' : Char).val.toNat = 90 := rfl
  have hc : c.toNat = c.val.toNat := rfl
  omega

/-! ### Digits -/

theorem ofDigits_append_singleton (base : Nat) (ds : List Char) (d : Char) :
    ofDigits base (ds ++ [d]) = base * ofDigits base ds + digitValue d := by
  simp [ofDigits]

theorem digitValue_digitChar {d : Nat} (h : d < 16) : digitValue d.digitChar = d := by
  have hall : ∀ d : Fin 16, digitValue (d : Nat).digitChar = d := by decide
  exact hall ⟨d, h⟩

theorem digitValue_of_isOctalDigit {d : Char} (h : isOctalDigit d = true) :
    isAsciiDigit d = true ∧ digitValue d + 48 = d.toNat ∧ d.toNat ≤ 55 := by
  have hbounds : 48 ≤ d.toNat ∧ d.toNat ≤ 55 := by
    simp only [isOctalDigit, decide_eq_true_eq, Char.le_def, UInt32.le_iff_toNat_le] at h
    exact h
  have hdigit : isAsciiDigit d = true := by
    simp only [isAsciiDigit, decide_eq_true_eq, Char.le_def, UInt32.le_iff_toNat_le]
    exact ⟨hbounds.1, Nat.le_trans hbounds.2 (by decide)⟩
  refine ⟨hdigit, ?_, hbounds.2⟩
  have hzero : ('0' : Char).toNat = 48 := rfl
  rw [digitValue, if_pos hdigit]
  omega

/-- What is claimed of octal digits can be tried on each of them. -/
theorem octal_all {P : Char → Prop} (h : ∀ n : Fin 8, P (Char.ofNat (48 + n))) :
    ∀ d : Char, isOctalDigit d = true → P d := by
  intro d hd
  obtain ⟨-, hlow, hhigh⟩ := digitValue_of_isOctalDigit hd
  have hd' := h ⟨d.toNat - 48, by omega⟩
  rwa [show 48 + (d.toNat - 48) = d.toNat by omega, Char.ofNat_toNat] at hd'

/-- The digits of a number stand for it. -/
theorem ofDigits_toDigits {base : Nat} (h1 : 1 < base) (h16 : base ≤ 16) (n : Nat) :
    ofDigits base (Nat.toDigits base n) = n := by
  induction n using Nat.strongRecOn with
  | _ n ih =>
  rw [Nat.toDigits_eq_if h1]
  split
  · next hn => simp [ofDigits, digitValue_digitChar (show n < 16 by omega)]
  · next hn =>
      have hlt : n / base < n := Nat.div_lt_self (by omega) h1
      have hmod : n % base < base := Nat.mod_lt n (by omega)
      rw [ofDigits_append_singleton, ih _ hlt, digitValue_digitChar (by omega)]
      exact Nat.div_add_mod n base

theorem mem_toDigits {base n : Nat} (h1 : 1 < base) {c : Char} (hc : c ∈ Nat.toDigits base n) :
    ∃ d < base, c = d.digitChar := by
  induction n using Nat.strongRecOn with
  | _ n ih =>
  rw [Nat.toDigits_eq_if h1] at hc
  split at hc
  · next hn => exact ⟨n, hn, by simpa using hc⟩
  · next hn =>
      have hlt : n / base < n := Nat.div_lt_self (by omega) h1
      rcases List.mem_append.mp hc with hc | hc
      · exact ih _ hlt hc
      · exact ⟨n % base, Nat.mod_lt n (by omega), by simpa using hc⟩

theorem all_toDigits {base n : Nat} {p : Char → Bool} (h1 : 1 < base)
    (h : ∀ d : Fin base, p (d : Nat).digitChar = true) : (Nat.toDigits base n).all p = true := by
  rw [List.all_eq_true]
  intro c hc
  obtain ⟨d, hd, rfl⟩ := mem_toDigits h1 hc
  exact h ⟨d, hd⟩

end PatternLint.Text
