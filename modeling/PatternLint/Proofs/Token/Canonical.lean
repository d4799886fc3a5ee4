import PatternLint.Proofs.Spelling
import PatternLint.Proofs.Text.Characters
import PatternLint.Proofs.Token.Lexeme

/-!
# Tokens in their spelling are read back

Every token that was read somewhere can be written in its spelling and read from
there, whatever text follows, with a few exceptions that `Follows` names. A
reader is shown here to take what the writer gives it and to stop where that ends.
-/

namespace PatternLint.Token

open Unicode Text

/-! ### Digits and names -/

section Readers

variable {p : Char → Bool} {word rest : List Char} {stop : Char}

theorem takeWhile_stop (hw : word.all p = true) (hs : p stop = false) :
    (word ++ stop :: rest).takeWhile p = word := by
  rw [List.takeWhile_append_of_pos fun c hc => List.all_eq_true.mp hw c hc]
  simp [hs]

theorem dropWhile_stop (hw : word.all p = true) (hs : p stop = false) :
    (word ++ stop :: rest).dropWhile p = stop :: rest := by
  rw [List.dropWhile_append_of_pos fun c hc => List.all_eq_true.mp hw c hc]
  simp [hs]

theorem digits_all (n : Nat) : (Nat.toDigits 10 n).all isAsciiDigit = true :=
  all_toDigits (by decide) (by decide)

theorem digits_ne_nil (base n : Nat) : Nat.toDigits base n ≠ [] := Nat.toDigits_ne_nil

theorem number_spelled {n : Nat} (hn : n ≤ maxNumber) (hs : isAsciiDigit stop = false) :
    number (Nat.toDigits 10 n ++ stop :: rest) = .ok (some n, stop :: rest) := by
  simp only [number, takeWhile_stop (digits_all n) hs, dropWhile_stop (digits_all n) hs,
    List.isEmpty_iff, digits_ne_nil, ↓reduceIte, ofDigits_toDigits (by decide : 1 < 10) (by decide), hn]

theorem repeatCount_spelled {n : Nat} (hn : n ≤ Repeat.maxWritten) (hs : isAsciiDigit stop = false) :
    repeatCount (Nat.toDigits 10 n ++ stop :: rest) = .ok (some n, stop :: rest) := by
  simp only [repeatCount, takeWhile_stop (digits_all n) hs, dropWhile_stop (digits_all n) hs,
    List.isEmpty_iff, digits_ne_nil, ↓reduceIte, ofDigits_toDigits (by decide : 1 < 10) (by decide), hn]

/-- The first digit of a number is no sign and no blank. -/
theorem digits_cons (n : Nat) : ∃ d ds, Nat.toDigits 10 n = d :: ds ∧ isAsciiDigit d = true := by
  cases h : Nat.toDigits 10 n with
  | nil => exact absurd h (digits_ne_nil 10 n)
  | cons d ds =>
      have hall := digits_all n
      rw [h, List.all_cons, Bool.and_eq_true] at hall
      exact ⟨d, ds, rfl, hall.1⟩

theorem digit_ne {c d : Char} (hd : isAsciiDigit d = true) (hc : isAsciiDigit c = false) : d ≠ c := by
  rintro rfl
  simp [hd] at hc

theorem unsigned?_spelled {n : Nat} (hn : n ≤ maxNumber) :
    unsigned? (Nat.toDigits 10 n) = some n := by
  obtain ⟨d, ds, h, hd⟩ := digits_cons n
  have hall := digits_all n
  have hvalue : ofDigits 10 (Nat.toDigits 10 n) = n := ofDigits_toDigits (by decide) (by decide) n
  rw [h] at hall hvalue ⊢
  have hplus : d ≠ '+' := digit_ne hd (by decide)
  unfold unsigned?
  split
  · next heq => exact absurd (List.cons.inj heq).1 hplus
  · simp [hall, hvalue, hn]

theorem braced_spelled {escape : BracedEscape} (hw : word.all (· != '\x7d') = true) :
    braced escape ('\x7b' :: (word ++ '\x7d' :: rest)) = .ok (word, rest) := by
  simp only [braced, dropWhile_stop hw (show ('\x7d' != '\x7d') = false by decide),
    takeWhile_stop hw (show ('\x7d' != '\x7d') = false by decide)]

theorem isNameChar_of_isName (h : isName word = true) : word.all isNameChar = true := by
  cases word with
  | nil => cases h
  | cons c cs =>
      simp only [isName, Bool.and_eq_true] at h
      simp only [List.all_cons, Bool.and_eq_true]
      refine ⟨?_, h.2⟩
      simp only [isNameStart, isNameChar, Bool.or_eq_true] at h ⊢
      refine h.1.imp_right fun ha => ?_
      simp only [isAlphabetic, isAlphanumeric] at ha ⊢
      split at ha <;> simp_all

/-- A name has no character that no name has. -/
theorem name_all_ne (h : isName word = true) (hs : isNameChar stop = false) :
    word.all (· != stop) = true := by
  rw [List.all_eq_true]
  intro c hc
  have hname := List.all_eq_true.mp (isNameChar_of_isName h) c hc
  simp only [bne_iff_ne, ne_eq]
  rintro rfl
  simp [hs] at hname

theorem nameUntil_spelled {name : String} (h : checkName name.toList = .ok ())
    (hs : isNameChar stop = false) :
    nameUntil stop (name.toList ++ stop :: rest) = .ok (name, rest) := by
  have hname := checkName_isName h
  have hword : name.toList.all (fun c => c != stop && c != ')') = true := by
    have h1 := List.all_eq_true.mp (name_all_ne hname hs)
    have h2 := List.all_eq_true.mp (name_all_ne hname (show isNameChar ')' = false by decide))
    rw [List.all_eq_true]
    intro c hc
    simp only [Bool.and_eq_true]
    exact ⟨h1 c hc, h2 c hc⟩
  have hstop : (stop != stop && stop != ')') = false := by simp
  simp only [nameUntil, dropWhile_stop hword hstop, takeWhile_stop hword hstop, ↓reduceIte, h]
  simp [bind, Except.bind, pure, Except.pure]

end Readers

/-! ### Escapes -/

section Escapes

variable {ctx : Context} {inClass : Bool} {v : Char} {rest : List Char}

/-- What follows a backslash in the spelling of a token is read as that token. -/
def EscapeSpelled (ctx : Context) (inClass : Bool) (k : TokenKind) (rest : List Char) : Prop :=
  ∃ c cs, k.spelling.toList = '\\' :: c :: cs ∧ c ≠ 'Q' ∧ c ≠ 'E' ∧
    escapeToken ctx inClass c (cs ++ rest) = .ok (k, rest)

theorem character_spelled {form : LiteralForm} (h : ctx.utf = true ∨ v.toNat ≤ 0xff) :
    character ctx v.toNat form = .ok (.escaped v form) := by
  have hutf : (!ctx.utf && decide (0xff < v.toNat)) = false := by
    rcases h with h | h
    · simp [h]
    · simp only [Bool.and_eq_false_iff, decide_eq_false_iff_not]
      exact .inr (by omega)
  have hvalid : v.toNat.isValidChar := v.valid
  rw [character, hutf, if_neg (by simp), if_pos hvalid, Char.ofNat_toNat]

theorem toNat_le_maxNumber (v : Char) : v.toNat ≤ maxNumber := by
  have := UInt32.toNat_lt v.val
  simp only [maxNumber, Char.toNat]
  omega

theorem bracedNumber_spelled {base : Nat} {form : LiteralForm} {digits : List Char}
    {malformed tooLarge : ScanFault} (hv : ctx.utf = true ∨ v.toNat ≤ 0xff) (hne : digits ≠ [])
    (hall : digits.all (if base = 8 then isOctalDigit else isHexDigit) = true)
    (hvalue : ofDigits base digits = v.toNat) :
    bracedNumber ctx base form digits malformed tooLarge = .ok (.escaped v form) := by
  have hmax := toNat_le_maxNumber v
  simp only [bracedNumber, hall, hvalue, List.isEmpty_eq_false_iff.mpr hne, Bool.or_self,
    Bool.not_true, Bool.false_eq_true, ↓reduceIte, Nat.not_lt.mpr hmax]
  exact character_spelled hv

theorem octal_spelled (hv : ctx.utf = true ∨ v.toNat ≤ 0xff) :
    EscapeSpelled ctx inClass (.escaped v .octal) rest := by
  have hbrace : (Nat.toDigits 8 v.toNat).all (· != '\x7d') = true :=
    all_toDigits (by decide) (by decide)
  have hnumber : bracedNumber ctx 8 .octal (Nat.toDigits 8 v.toNat) .notOctal .octalTooLarge =
      .ok (.escaped v .octal) :=
    bracedNumber_spelled hv (digits_ne_nil 8 _) (all_toDigits (by decide) (by decide))
      (ofDigits_toDigits (by decide) (by decide) _)
  have hread : ∀ cs, escapeToken ctx inClass 'o' cs = octalEscape ctx cs := by
    intro cs
    cases inClass <;> rfl
  refine ⟨'o', '\x7b' :: (Nat.toDigits 8 v.toNat ++ ['\x7d']), ?_, by decide, by decide, ?_⟩
  · simp [TokenKind.spelling, Render.literal, Render.digits]
  · simp only [List.cons_append, List.append_assoc, List.nil_append, hread, octalEscape,
      braced_spelled hbrace, hnumber, bind, Except.bind, pure, Except.pure]

theorem hex_spelled (hv : ctx.utf = true ∨ v.toNat ≤ 0xff) :
    EscapeSpelled ctx inClass (.escaped v .hex) rest := by
  have hbrace : (Nat.toDigits 16 v.toNat).all (· != '\x7d') = true :=
    all_toDigits (by decide) (by decide)
  have hnumber : bracedNumber ctx 16 .hex (Nat.toDigits 16 v.toNat) .notHex .hexTooLarge =
      .ok (.escaped v .hex) :=
    bracedNumber_spelled hv (digits_ne_nil 16 _) (all_toDigits (by decide) (by decide))
      (ofDigits_toDigits (by decide) (by decide) _)
  have hread : ∀ cs, escapeToken ctx inClass 'x' cs = hexEscape ctx cs := by
    intro cs
    cases inClass <;> rfl
  refine ⟨'x', '\x7b' :: (Nat.toDigits 16 v.toNat ++ ['\x7d']), ?_, by decide, by decide, ?_⟩
  · simp [TokenKind.spelling, Render.literal, Render.hexText, Render.digits]
  · simp only [List.cons_append, List.append_assoc, List.nil_append, hread, hexEscape,
      List.head?_cons, ↓reduceIte, braced_spelled hbrace, hnumber, bind, Except.bind, pure,
      Except.pure]

theorem ofDigits_toUpper (n : Nat) :
    ofDigits 16 ((Nat.toDigits 16 n).map Char.toUpper) = n := by
  have hsame : ∀ ds : List Char, (∀ c ∈ ds, ∃ d < 16, c = Nat.digitChar d) → ∀ n,
      (ds.map Char.toUpper).foldl (fun n c => 16 * n + digitValue c) n =
        ds.foldl (fun n c => 16 * n + digitValue c) n := by
    intro ds
    induction ds with
    | nil => simp
    | cons c ds ih =>
        intro hds n
        obtain ⟨d, hd, rfl⟩ := hds c (by simp)
        have hvalue : ∀ d : Fin 16, digitValue (d : Nat).digitChar.toUpper =
            digitValue (d : Nat).digitChar := by decide
        simp only [List.map_cons, List.foldl_cons]
        rw [show digitValue (Nat.digitChar d).toUpper = digitValue (Nat.digitChar d) from
          hvalue ⟨d, hd⟩]
        exact ih (fun c hc => hds c (by simp [hc])) _
  have hall := hsame (Nat.toDigits 16 n) (fun c hc => mem_toDigits (by decide) hc) 0
  exact hall.trans (ofDigits_toDigits (by decide) (by decide) n)

theorem codePoint_spelled (hd : ctx.dialect.supports .codePointEscape = true)
    (hv : ctx.utf = true) : EscapeSpelled ctx inClass (.escaped v .codePoint) rest := by
  have hdigits : ∀ p : Char → Bool, (∀ d : Fin 16, p (d : Nat).digitChar.toUpper = true) →
      ((Nat.toDigits 16 v.toNat).map Char.toUpper).all p = true := by
    intro p hp
    rw [List.all_map]
    exact all_toDigits (by decide) hp
  have hbrace : ('U' :: '+' :: (Nat.toDigits 16 v.toNat).map Char.toUpper).all (· != '\x7d') =
      true := by
    simp only [List.all_cons, hdigits (· != '\x7d') (by decide)]
    decide
  have hnumber : bracedNumber ctx 16 .codePoint ((Nat.toDigits 16 v.toNat).map Char.toUpper)
      .notHexCodePoint .codePointTooLarge = .ok (.escaped v .codePoint) :=
    bracedNumber_spelled (.inl hv) (by simp) (hdigits _ (by decide))
      (ofDigits_toUpper _)
  have hread : ∀ cs, escapeToken ctx inClass 'N' ('\x7b' :: 'U' :: '+' :: cs) =
      codePointEscape ctx ('\x7b' :: 'U' :: '+' :: cs) := by
    intro cs
    cases inClass <;> rfl
  refine ⟨'N', '\x7b' :: 'U' :: '+' :: ((Nat.toDigits 16 v.toNat).map Char.toUpper ++ ['\x7d']),
    ?_, by decide, by decide, ?_⟩
  · simp [TokenKind.spelling, Render.literal, upperHex]
  · have hbraced := @braced_spelled _ rest .codePoint hbrace
    simp only [List.cons_append, List.append_assoc, List.nil_append] at hbraced ⊢
    simp only [hread, codePointEscape, hd, hv, Bool.and_self, ↓reduceIte, hbraced,
      List.drop_succ_cons, List.drop_zero, hnumber, bind, Except.bind, pure, Except.pure]

theorem special_spelled (h : ∃ c, specialValue? inClass c = some v) :
    EscapeSpelled ctx inClass (.escaped v .special) rest := by
  obtain ⟨c, hc⟩ := h
  unfold specialValue? at hc
  split at hc
  case h_7 =>
      split at hc
      · next hin =>
          cases hc
          subst hin
          exact ⟨'b', [], rfl, by decide, by decide, rfl⟩
      · cases hc
  case h_8 => cases hc
  all_goals
    cases hc
    exact ⟨_, [], rfl, by decide, by decide, rfl⟩

theorem control_spelled
    (h : ∃ c : Char, 0x20 ≤ c.toNat ∧ c.toNat ≤ 0x7e ∧ v = Char.ofNat (c.toUpper.toNat ^^^ 0x40)) :
    EscapeSpelled ctx inClass (.escaped v .control) rest := by
  obtain ⟨c, hlow, hhigh, rfl⟩ := h
  have hall : ∀ c : Char, c.toNat < 128 → 0x20 ≤ c.toNat → c.toNat ≤ 0x7e →
      let v := Char.ofNat (c.toUpper.toNat ^^^ 0x40)
      let d := Char.ofNat (v.toNat ^^^ 0x40)
      v.toNat < 0x80 ∧ 0x20 ≤ d.toNat ∧ d.toNat ≤ 0x7e ∧ d.toUpper.toNat ^^^ 0x40 = v.toNat :=
    ascii_all (by decide)
  obtain ⟨hv, hd1, hd2, hback⟩ := hall c (by omega) hlow hhigh
  generalize Char.ofNat (c.toUpper.toNat ^^^ 0x40) = v at hv hd1 hd2 hback
  have hread : ∀ cs, escapeToken ctx inClass 'c' cs = controlEscape ctx cs := by
    intro cs
    cases inClass <;> rfl
  refine ⟨'c', [Char.ofNat (v.toNat ^^^ 0x40)], ?_, by decide, by decide, ?_⟩
  · simp [TokenKind.spelling, Render.literal, hv]
  · have hchar : character ctx v.toNat .control = .ok (.escaped v .control) :=
      character_spelled (.inr (by omega))
    simp only [List.cons_append, List.nil_append, hread, controlEscape, hd1, hd2, and_self,
      ↓reduceIte, hback, hchar, bind, Except.bind, pure, Except.pure]

/-- A character that is no letter has no meaning of its own after a backslash. -/
theorem escape_of_not_letter {c : Char} (h : isAsciiLetter c = false) :
    specialValue? inClass c = none ∧ shorthand? c = none ∧ outsideEscape? c = none ∧
      (∀ l, isAsciiLetter l = true → c ≠ l) := by
  have hne : ∀ l, isAsciiLetter l = true → c ≠ l := by
    rintro l hl rfl
    simp [hl] at h
  refine ⟨?_, ?_, ?_, hne⟩
  · unfold specialValue?
    split
    case h_8 => rfl
    all_goals exact absurd rfl (hne _ (by decide))
  · unfold shorthand?
    split
    case h_11 => rfl
    all_goals exact absurd rfl (hne _ (by decide))
  · unfold outsideEscape?
    split
    case h_12 => rfl
    all_goals exact absurd rfl (hne _ (by decide))

theorem punctuation_spelled (hl : isAsciiLetter v = false)
    (hd : isAsciiDigit v = true → inClass = true ∧ isOctalDigit v = false) :
    EscapeSpelled ctx inClass (.escaped v .punctuation) rest := by
  obtain ⟨hspecial, hshort, hout, hne⟩ := @escape_of_not_letter inClass v hl
  refine ⟨v, [], by simp [TokenKind.spelling, Render.literal, Render.escapedText],
    hne 'Q' (by decide), hne 'E' (by decide), ?_⟩
  have honly : isOutsideOnly v = false := by
    rw [Bool.eq_false_iff]
    intro h
    have hmem : v ∈ ['N', 'B', 'A', 'z', 'Z', 'G', 'K', 'R', 'X', 'C', 'g', 'k'] :=
      List.contains_iff_mem.mp h
    have hletters : ∀ c ∈ ['N', 'B', 'A', 'z', 'Z', 'G', 'K', 'R', 'X', 'C', 'g', 'k'],
        isAsciiLetter c = true := by decide
    simp [hletters v hmem] at hl
  rw [List.nil_append, escapeToken, hspecial, hshort]
  by_cases hdigit : isAsciiDigit v = true
  · obtain ⟨rfl, hoctal⟩ := hd hdigit
    simp [hdigit, classDigit, hoctal]
  · simp [hdigit, hne 'o' (by decide), hne 'x' (by decide), hne 'c' (by decide),
      hne 'p' (by decide), hne 'P' (by decide), hne 'N' (by decide), honly, hne 'g' (by decide),
      hne 'k' (by decide), hout, hl]

theorem property_spelled {name : String} (hne : name.toList ≠ [])
    (hall : name.toList.all isPropertyChar = true) (negated : Bool) :
    EscapeSpelled ctx inClass (.shorthand (.property name) negated) rest := by
  have hbrace : name.toList.all (· != '\x7d') = true := by
    rw [List.all_eq_true] at hall ⊢
    intro c hc
    simp only [bne_iff_ne, ne_eq]
    rintro rfl
    exact absurd (hall _ hc) (by decide)
  have hkind : ∀ upper, propertyKind upper name.toList =
      .ok (.shorthand (.property name) upper) := by
    intro upper
    have hcaret : ∀ rest, name.toList ≠ '^' :: rest := by
      intro rest h
      rw [h, List.all_cons, Bool.and_eq_true] at hall
      exact absurd hall.1 (by decide)
    have hempty : name.toList.isEmpty = false := List.isEmpty_eq_false_iff.mpr hne
    unfold propertyKind
    split
    next caret text h =>
      split at h
      · next heq => exact absurd heq (hcaret _)
      · cases h
        simp [hempty, hall]
  have hread : ∀ c cs, c = 'p' ∨ c = 'P' →
      escapeToken ctx inClass c cs = propertyEscape (c == 'P') cs := by
    rintro c cs (rfl | rfl) <;> cases inClass <;> rfl
  have htext : propertyText ('\x7b' :: (name.toList ++ '\x7d' :: rest)) =
      .ok (name.toList, rest) := by
    simp only [propertyText, ↓reduceIte, braced_spelled hbrace]
  have hspelled : (TokenKind.shorthand (.property name) negated).spelling.toList =
      '\\' :: (if negated then 'P' else 'p') :: '\x7b' :: (name.toList ++ ['\x7d']) := by
    cases negated <;>
      simp [TokenKind.spelling, Render.shorthand, Render.shorthandLetter, Render.escapedText]
  refine ⟨_, _, hspelled, by cases negated <;> decide, by cases negated <;> decide, ?_⟩
  rw [hread _ _ (by cases negated <;> simp)]
  simp only [propertyEscape, List.cons_append, List.append_assoc, List.nil_append, htext, hkind,
    bind, Except.bind, pure, Except.pure]
  cases negated <;> rfl

theorem shorthand_spelled {kind : ShorthandKind} {negated : Bool}
    (h : ShorthandWritten inClass negated kind)
    (hf : kind = .notNewline → startsCodePoint rest = false) :
    EscapeSpelled ctx inClass (.shorthand kind negated) rest := by
  cases kind with
  | property name => exact property_spelled h.1 h.2 negated
  | notNewline =>
      obtain ⟨rfl, rfl⟩ := h
      refine ⟨'N', [], rfl, by decide, by decide, ?_⟩
      have hcode := hf rfl
      simp [escapeToken, specialValue?, shorthand?, isAsciiDigit, hcode, outsideEscape?]
  | newline | grapheme | codeUnit =>
      obtain ⟨rfl, rfl⟩ := h
      exact ⟨_, [], rfl, by decide, by decide, rfl⟩
  | _ =>
      cases inClass <;> cases negated <;>
        exact ⟨_, [], rfl, by decide, by decide, rfl⟩

theorem anchor_spelled {kind : AnchorKind} (hs : kind ≠ .start) (he : kind ≠ .stop) :
    EscapeSpelled ctx false (.anchor kind) rest := by
  cases kind with
  | start => exact absurd rfl hs
  | stop => exact absurd rfl he
  | _ => exact ⟨_, [], rfl, by decide, by decide, rfl⟩

end Escapes

/-! ### References -/

section References

variable {ctx : Context} {rest : List Char}

theorem signedText_toList (i : Int) :
    (signedText i).toList = (if 0 ≤ i then '+' else '-') :: Nat.toDigits 10 i.natAbs := by
  cases i with
  | ofNat n =>
      have hn : 0 ≤ Int.ofNat n := Int.natCast_nonneg n
      rw [signedText, if_pos hn, if_pos hn]
      simp [toString, Int.repr]
  | negSucc n =>
      rw [signedText, if_neg (by omega), if_neg (by omega)]
      simp [toString, Int.repr]

/-- A distance that fits is read as it was written. -/
theorem relative_eq {i : Int} (h : i.natAbs ≤ maxDistance) :
    Reference.relative i = signed (some (decide (0 ≤ i))) i.natAbs := by
  by_cases hi : 0 ≤ i
  · simp only [hi, decide_true, signed, Reference.relative.injEq]
    omega
  · simp only [hi, decide_false, signed, Reference.relative.injEq]
    omega

theorem reference?_spelled {ref : Reference} (h : ReferenceWritten ref)
    (hname : ∀ s, ref ≠ .name s) (hback : ∀ i, ref = .relative i → i < 0) :
    reference? ref.spelling.toList false = some ref := by
  cases ref with
  | number n =>
      obtain ⟨d, ds, hd, hdigit⟩ := digits_cons n
      have hread := unsigned?_spelled h
      have htext : (Reference.number n).spelling.toList = d :: ds := by
        rw [← hd]
        simp [Reference.spelling]
      have hminus := digit_ne hdigit (show isAsciiDigit '-' = false by decide)
      have hplus := digit_ne hdigit (show isAsciiDigit '+' = false by decide)
      rw [hd] at hread
      rw [htext]
      unfold reference?
      split
      · next heq => exact absurd (List.cons.inj heq).1 hminus
      · next heq => exact absurd (List.cons.inj heq).1 hplus
      · next heq =>
          cases heq
          simp [hdigit, hread]
      · next heq => cases heq
  | relative i =>
      have hi := hback i rfl
      have hmax : i.natAbs ≤ maxNumber := by
        have : i.natAbs ≤ maxDistance := h
        simp only [maxDistance, maxNumber] at this ⊢
        omega
      have htext : (Reference.relative i).spelling.toList = '-' :: Nat.toDigits 10 i.natAbs := by
        rw [Reference.spelling, signedText_toList, if_neg (by omega)]
      rw [htext, reference?, unsigned?_spelled hmax, Option.map_some, relative_eq h]
      simp [signed, show ¬ 0 ≤ i by omega]
  | name s => exact absurd rfl (hname s)

/-- A reference in braces has no brace inside. -/
theorem reference_no_brace {ref : Reference} (hname : ∀ s, ref ≠ .name s) :
    ref.spelling.toList.all (· != '\x7d') = true := by
  have hdigits : ∀ n, (Nat.toDigits 10 n).all (· != '\x7d') = true :=
    fun n => all_toDigits (by decide) (by decide)
  cases ref with
  | number n => simpa [Reference.spelling] using hdigits n
  | relative i =>
      rw [Reference.spelling, signedText_toList, List.all_cons, hdigits, Bool.and_true]
      split <;> decide
  | name s => exact absurd rfl (hname s)

theorem backref_spelled {ref : Reference} (h : ReferenceWritten ref)
    (hname : ∀ s, ref = .name s → checkName s.toList = .ok ())
    (hback : ∀ i, ref = .relative i → i < 0) :
    EscapeSpelled ctx false (.backref ref) rest := by
  have hbraced : (∀ s, ref ≠ .name s) → EscapeSpelled ctx false (.backref ref) rest := by
    intro hne
    have hread : ∀ cs, escapeToken ctx false 'g' cs = callEscape cs := fun _ => rfl
    have hspelled : (TokenKind.backref ref).spelling.toList =
        '\\' :: 'g' :: '\x7b' :: (ref.spelling.toList ++ ['\x7d']) := by
      cases ref with
      | name s => exact absurd rfl (hne s)
      | _ => simp [TokenKind.spelling]
    refine ⟨_, _, hspelled, by decide, by decide, ?_⟩
    simp only [List.cons_append, List.append_assoc, List.nil_append, hread, callEscape,
      braced_spelled (reference_no_brace hne), reference?_spelled h hne hback, bind, Except.bind,
      pure, Except.pure]
  cases ref with
  | name s =>
      have hcheck := hname s rfl
      have hread : ∀ cs, escapeToken ctx false 'k' ('<' :: cs) = backrefEscape.named '>' cs :=
        fun _ => rfl
      have hne := name_all_ne (checkName_isName hcheck) (show isNameChar '>' = false by decide)
      have hstop : ('>' != '>') = false := by decide
      refine ⟨'k', '<' :: (s.toList ++ ['>']), by simp [TokenKind.spelling], by decide, by decide, ?_⟩
      simp only [List.cons_append, List.append_assoc, List.nil_append, hread, backrefEscape.named,
        dropWhile_stop hne hstop, takeWhile_stop hne hstop, hcheck, bind, Except.bind, pure,
        Except.pure, String.ofList_toList]
  | _ => exact hbraced (by simp)

end References

/-! ### Inline flags -/

section InlineFlags

variable {d : Dialect} {f : Flags} {rest tail : List Char}

theorem note_change (s : FlagState) (f : Flags) :
    (s.note f).change = if s.negate then { s.change with off := s.change.off ||| f }
      else { s.change with on := s.change.on ||| f } := by
  unfold FlagState.note
  split <;> rfl

theorem note_negate (s : FlagState) (f : Flags) : (s.note f).negate = s.negate := by
  unfold FlagState.note
  split <;> rfl

/-- A reading of flags that has come to `f` in front of what is left. -/
def Notes (d : Dialect) (s : FlagState) (f : Flags) (cs tail : List Char) : Prop :=
  ∃ s' : FlagState, s'.negate = s.negate ∧ s'.change = (s.note f).change ∧
    flagGroup d s cs = flagGroup d s' tail

theorem notes_zero (s : FlagState) (cs : List Char) : Notes d s 0 cs cs := by
  refine ⟨s, rfl, ?_, rfl⟩
  rw [note_change]
  split <;> simp

theorem Notes.trans {s : FlagState} {g : Flags} {cs : List Char} (h : Notes d s f cs tail)
    (hg : ∀ s', s'.negate = s.negate → Notes d s' g tail rest) : Notes d s (f ||| g) cs rest := by
  obtain ⟨s', hn, hc, hr⟩ := h
  obtain ⟨s'', hn', hc', hr'⟩ := hg s' hn
  refine ⟨s'', hn'.trans hn, ?_, hr.trans hr'⟩
  rw [hc', note_change, note_change, hc, note_change, hn]
  split <;> simp [BitVec.or_assoc]

theorem notes_letter {s : FlagState} {c : Char} (hbit : Flags.ofInline? c = some f) (hx : c ≠ 'x')
    (hn : c = 'n' → d.supports .noAutoCapture = true) : Notes d s f (c :: tail) tail := by
  have hne : c ≠ ')' ∧ c ≠ ':' ∧ c ≠ '^' ∧ c ≠ '-' := by
    refine ⟨?_, ?_, ?_, ?_⟩ <;> rintro rfl <;> cases hbit
  obtain ⟨h1, h2, h3, h4⟩ := hne
  refine ⟨(s.note f).advance 1, note_negate s f, rfl, ?_⟩
  have hflag : flag d s c = .ok ((s.note f).advance 1) := by
    have hnot : (decide (c = 'n') && !d.supports .noAutoCapture) = false := by
      by_cases hc : c = 'n'
      · simp [hn hc]
      · simp [hc]
    simp [flag, h3, h4, hbit, hnot, hx]
  rw [flagGroup]
  · simp [h1, h2, hflag]
  · intro rest h
    exact absurd h hx

theorem notes_letters {s : FlagState} {l : List (Char × Flags)}
    (hl : ∀ m ∈ l, Flags.ofInline? m.1 = some m.2 ∧ m.1 ≠ 'x')
    (hn : ∀ m ∈ l, m.1 = 'n' → f.has m.2 = true → d.supports .noAutoCapture = true) :
    Notes d s (l.foldr (fun m g => (if f.has m.2 then m.2 else 0) ||| g) 0)
      ((l.filter fun m => f.has m.2).map (·.1) ++ tail) tail := by
  induction l generalizing s with
  | nil => exact notes_zero s tail
  | cons m l ih =>
      have ih := fun s => @ih s (fun m' hm' => hl m' (by simp [hm'])) fun m' hm' => hn m' (by simp [hm'])
      simp only [List.foldr_cons]
      cases hm : f.has m.2 with
      | true =>
          obtain ⟨hbit, hx⟩ := hl m (by simp)
          simp only [List.filter_cons, hm, ↓reduceIte, List.map_cons, List.cons_append]
          exact (notes_letter hbit hx fun h => hn m (by simp) h hm).trans fun s' _ => ih s'
      | false =>
          simp only [List.filter_cons, hm, Bool.false_eq_true, ↓reduceIte]
          exact (notes_zero s _).trans fun s' _ => ih s'

theorem notes_spacing {s : FlagState} (hs : s.negate = true → f.has Flags.extended = true →
    f.has Flags.extendedMore = true) (ht : tail.head? ≠ some 'x') :
    Notes d s (if f.has Flags.extendedMore then Flags.spacing
        else if f.has Flags.extended then Flags.extended else 0)
      ((if f.has Flags.extendedMore then ['x', 'x']
        else if f.has Flags.extended then ['x'] else []) ++ tail) tail := by
  cases hmore : f.has Flags.extendedMore with
  | true =>
      refine ⟨(s.note Flags.spacing).advance 2, note_negate s _, rfl, ?_⟩
      simp only [↓reduceIte, List.cons_append, List.nil_append]
      rw [flagGroup]
  | false =>
      cases hx : f.has Flags.extended with
      | false => exact notes_zero s tail
      | true =>
          have hneg : s.negate = false := by
            rw [Bool.eq_false_iff]
            intro h
            simp [hs h hx] at hmore
          refine ⟨(s.note Flags.extended).advance 1, note_negate s _, rfl, ?_⟩
          have hflag : flag d s 'x' = .ok ((s.note Flags.extended).advance 1) := by
            simp [flag, Flags.ofInline?, hneg]
          simp only [Bool.false_eq_true, ↓reduceIte, List.cons_append, List.nil_append]
          rw [flagGroup]
          · simp [hflag]
          · rintro rest - rfl
            simp at ht

/-- The letters of a word name all of its flags. There are nine bits to try. -/
theorem flags_named (h : FlagsWritten d f) :
    Flags.inlineLetters.foldr (fun m g => (if f.has m.2 then m.2 else 0) ||| g) 0 |||
      (if f.has Flags.extendedMore then Flags.spacing
        else if f.has Flags.extended then Flags.extended else 0) = f := by
  have hall : ∀ n : Fin 512, let f : Flags := BitVec.ofNat 32 n
      f &&& ~~~(Flags.resettable ||| Flags.duplicateNames ||| Flags.swapGreed) = 0#32 →
      (f.has Flags.extendedMore = true → f.has Flags.extended = true) →
      Flags.inlineLetters.foldr (fun m g => (if f.has m.2 then m.2 else 0) ||| g) 0 |||
        (if f.has Flags.extendedMore then Flags.spacing
          else if f.has Flags.extended then Flags.extended else 0) = f := by
    decide +kernel
  have hand : f &&& (Flags.resettable ||| Flags.duplicateNames ||| Flags.swapGreed) = f := by
    have hinline := h.inline
    generalize Flags.resettable ||| Flags.duplicateNames ||| Flags.swapGreed = mask at hinline ⊢
    ext i hi
    have hbit := congrArg (BitVec.getLsbD · i) hinline
    simp only [hi, BitVec.getLsbD_eq_getElem, BitVec.getElem_and] at hbit ⊢
    cases hf : f[i] <;> simp_all
  have hlt : f.toNat < 512 := by
    rw [← hand, BitVec.toNat_and]
    exact Nat.lt_of_le_of_lt Nat.and_le_right (by decide)
  have hf : f = BitVec.ofNat 32 (⟨f.toNat, hlt⟩ : Fin 512).val := by simp
  have hnamed := hall ⟨f.toNat, hlt⟩
  rw [← hf] at hnamed
  exact hnamed h.inline h.spacing

theorem notes_toInline {s : FlagState} (h : FlagsWritten d f)
    (hs : s.negate = true → f.has Flags.extended = true → f.has Flags.extendedMore = true)
    (ht : tail.head? ≠ some 'x') : Notes d s f (f.toInline ++ tail) tail := by
  have hl : ∀ m ∈ Flags.inlineLetters, Flags.ofInline? m.1 = some m.2 ∧ m.1 ≠ 'x' := by decide
  have hn : ∀ m ∈ Flags.inlineLetters, m.1 = 'n' → f.has m.2 = true →
      d.supports .noAutoCapture = true := by
    intro m hm hc hf
    refine h.capture ?_
    rwa [show m.2 = Flags.noAutoCapture from (by decide : ∀ m ∈ Flags.inlineLetters,
      m.1 = 'n' → m.2 = Flags.noAutoCapture) m hm hc] at hf
  have hspacing : ∀ s' : FlagState, s'.negate = s.negate → Notes d s' _ _ tail :=
    fun s' hneg => notes_spacing (fun hn => hs (hneg ▸ hn)) ht
  have hnotes := Notes.trans (notes_letters hl hn) hspacing
  rw [flags_named h] at hnotes
  rwa [Flags.toInline, List.append_assoc]

/-- The letters of a word are those of inline settings. -/
theorem mem_toInline {c : Char} (h : c ∈ f.toInline) : c ∈ ['i', 'J', 'm', 'n', 's', 'U', 'x'] := by
  rw [Flags.toInline, List.mem_append] at h
  rcases h with h | h
  · obtain ⟨m, hm, rfl⟩ := List.mem_map.mp h
    have hall : ∀ m ∈ Flags.inlineLetters, m.1 ∈ ['i', 'J', 'm', 'n', 's', 'U', 'x'] := by decide
    exact hall m (List.mem_filter.mp hm).1
  · split at h
    · simp_all
    · split at h <;> simp_all

theorem letters_toList (change : FlagChange) :
    change.letters.toList = (if change.reset then ['^'] else []) ++ change.on.toInline ++
      (if change.off == 0 then [] else '-' :: change.off.toInline) := String.toList_ofList

/-- A word of inline flags without letters is empty. -/
theorem FlagsWritten.eq_zero (h : FlagsWritten d f) (hl : f.toInline = []) : f = 0 := by
  obtain ⟨hletters, hspacing⟩ := List.append_eq_nil_iff.mp hl
  have hnone : ∀ m ∈ Flags.inlineLetters, f.has m.2 = false := by
    simpa using hletters
  have hmore : f.has Flags.extendedMore = false := by
    cases hf : f.has Flags.extendedMore with
    | true => simp [hf] at hspacing
    | false => rfl
  have hextended : f.has Flags.extended = false := by
    cases hf : f.has Flags.extended with
    | true => simp [hf, hmore] at hspacing
    | false => rfl
  rw [← flags_named h, hmore, hextended]
  simp only [Flags.inlineLetters, List.forall_mem_cons] at hnone
  simp [Flags.inlineLetters, hnone]

/-- A setting without letters is empty. -/
theorem ChangeWritten.eq_empty {change : FlagChange} (h : ChangeWritten d change)
    (hl : change.letters = "") : change = {} := by
  have htoList : change.letters.toList = [] := by rw [hl]; rfl
  rw [letters_toList] at htoList
  obtain ⟨hfront, hoff⟩ := List.append_eq_nil_iff.mp htoList
  obtain ⟨hreset, hon⟩ := List.append_eq_nil_iff.mp hfront
  have hreset : change.reset = false := by
    cases hr : change.reset with
    | true => simp [hr] at hreset
    | false => rfl
  have hoff : change.off = 0 := by
    by_cases hne : change.off = 0
    · exact hne
    · rw [beq_false_of_ne hne] at hoff
      simp at hoff
  obtain ⟨on, off, reset⟩ := change
  rw [FlagChange.mk.injEq]
  exact ⟨h.on.eq_zero hon, hoff, hreset⟩

/-- A setting without letters changes nothing. -/
theorem ChangeWritten.apply_of_letters {change : FlagChange} (h : ChangeWritten d change)
    (hl : change.letters = "") : change.apply f = f := by
  have hones : ~~~(0 : Flags) = BitVec.allOnes 32 := by decide
  rw [h.eq_empty hl, FlagChange.apply]
  simp only [Bool.false_eq_true, if_false, hones, BitVec.and_allOnes]
  exact BitVec.or_zero

/-- An inline setting is read back from its letters, up to what ends it. -/
theorem flagGroup_spelled {change : FlagChange} {close : Char} (h : ChangeWritten d change)
    (hclose : close = ')' ∨ close = ':') :
    ∃ s : FlagState, s.change = change ∧
      flagGroup d {} (change.letters.toList ++ close :: rest) = flagGroup d s (close :: rest) := by
  have hx : (close :: rest).head? ≠ some 'x' := by
    rcases hclose with rfl | rfl <;> simp
  -- The caret comes first, if there is one.
  obtain ⟨s, hneg, hchange, hread⟩ : ∃ s : FlagState, s.negate = false ∧
      s.change = { reset := change.reset } ∧ ∀ tail,
        flagGroup d {} ((if change.reset then ['^'] else []) ++ tail) = flagGroup d s tail := by
    cases hr : change.reset with
    | false => exact ⟨{}, rfl, rfl, fun tail => rfl⟩
    | true =>
        refine ⟨({ change := { reset := true } } : FlagState).advance 1, rfl, rfl, fun tail => ?_⟩
        simp only [↓reduceIte, List.cons_append, List.nil_append]
        rw [flagGroup]
        · simp [flag, (h.reset hr).2]
        · intro rest h
          cases h
  rw [letters_toList, List.append_assoc, List.append_assoc, hread]
  generalize htail : (if change.off == 0 then [] else '-' :: change.off.toInline) ++ close :: rest =
    tail
  have ht : tail.head? ≠ some 'x' := by
    rw [← htail]
    split
    · exact hx
    · simp
  obtain ⟨s₁, hneg₁, hchange₁, hread₁⟩ := @notes_toInline d _ tail s h.on (by simp [hneg]) ht
  have hon : (0 : Flags) ||| change.on = change.on := BitVec.zero_or
  rw [note_change, hneg, hchange] at hchange₁
  simp only [Bool.false_eq_true, ↓reduceIte, hon] at hchange₁
  rw [hread₁, ← htail]
  by_cases hoff : change.off = 0
  · refine ⟨s₁, ?_, by simp [hoff]⟩
    rw [hchange₁, ← hoff]
  · have hoff' : (change.off == 0) = false := beq_false_of_ne hoff
    have hreset : change.reset = false := by
      rw [Bool.eq_false_iff]
      exact fun hr => hoff (h.reset hr).1
    have hminus : ∀ tail, flagGroup d s₁ ('-' :: tail) =
        flagGroup d ({ s₁ with negate := true }.advance 1) tail := by
      intro tail
      rw [flagGroup]
      · simp [flag, hneg₁, hneg, hchange₁, hreset]
      · intro rest h
        cases h
    obtain ⟨s₂, -, hchange₂, hread₂⟩ := @notes_toInline d _ (close :: rest)
      ({ s₁ with negate := true }.advance 1) h.off (fun _ => h.clear) hx
    refine ⟨s₂, ?_, ?_⟩
    · have hchange₃ : (0 : Flags) ||| change.off = change.off := BitVec.zero_or
      rw [hchange₂, note_change]
      simp only [FlagState.advance, ↓reduceIte, hchange₁, hchange₃]
    · rw [hoff', if_neg (by simp), List.cons_append, hminus, hread₂]

end InlineFlags

/-! ### Parentheses -/

section Parentheses

variable {d : Dialect} {rest : List Char}

/-- What follows a parenthesis in the spelling of a token is read as that token. -/
def ParenSpelled (d : Dialect) (k : TokenKind) (rest : List Char) : Prop :=
  ∃ cs, k.spelling.toList = '(' :: cs ∧ paren d (cs ++ rest) = .ok (k, rest)

/-- Where the letters of a setting follow a question mark, a setting is read. -/
theorem questionConstruct_letters {change : FlagChange} {close : Char}
    (hclose : close = ')' ∨ close = ':' ∧ change.letters ≠ "") :
    questionConstruct d (change.letters.toList ++ close :: rest) =
      flagGroup d {} (change.letters.toList ++ close :: rest) := by
  have hinline : ∀ c ∈ ['i', 'J', 'm', 'n', 's', 'U', 'x'], ∀ tail,
      questionConstruct d (c :: tail) = flagGroup d {} (c :: tail) := by
    intro c hc tail
    simp only [List.mem_cons, List.not_mem_nil, or_false] at hc
    rcases hc with rfl | rfl | rfl | rfl | rfl | rfl | rfl <;> rfl
  rw [letters_toList]
  cases hreset : change.reset with
  | true => rfl
  | false =>
      cases hon : change.on.toInline with
      | cons c cs =>
          exact hinline c (mem_toInline (hon ▸ List.mem_cons_self)) _
      | nil =>
          by_cases hoff : change.off = 0
          · have hempty : change.letters = "" := by
              rw [← String.toList_inj, letters_toList, hreset, hon, hoff]
              rfl
            rcases hclose with rfl | ⟨-, hne⟩
            · rw [hoff]
              rfl
            · exact absurd hempty hne
          · have hoff' : (change.off == 0) = false := beq_false_of_ne hoff
            rw [hoff']
            cases hletters : change.off.toInline with
            | nil => rcases hclose with rfl | ⟨rfl, -⟩ <;> rfl
            | cons c cs =>
                have hdigit : ∀ c ∈ ['i', 'J', 'm', 'n', 's', 'U', 'x'],
                    isAsciiDigit c = false := by decide
                have hc := hdigit c (mem_toInline (hletters ▸ List.mem_cons_self))
                have hminus : isAsciiDigit '-' = false := by decide
                simp [questionConstruct, hc, hminus]

theorem inlineFlags_spelled {change : FlagChange} (h : ChangeWritten d change) :
    ParenSpelled d (.inlineFlags change) rest := by
  obtain ⟨s, hs, hread⟩ := @flagGroup_spelled d rest change ')' h (.inl rfl)
  refine ⟨'?' :: (change.letters.toList ++ [')']), by simp [TokenKind.spelling], ?_⟩
  simp only [List.cons_append, List.append_assoc, List.nil_append, paren]
  rw [questionConstruct_letters (.inl rfl), hread, flagGroup, if_pos rfl, hs]
  intro rest h
  cases h

theorem modifiers_spelled {change : FlagChange} (h : ChangeWritten d change)
    (hne : change.letters ≠ "") : ParenSpelled d (.groupOpen (.modifiers change)) rest := by
  obtain ⟨s, hs, hread⟩ := @flagGroup_spelled d rest change ':' h (.inr rfl)
  refine ⟨'?' :: (change.letters.toList ++ [':']), by simp [TokenKind.spelling], ?_⟩
  simp only [List.cons_append, List.append_assoc, List.nil_append, paren]
  rw [questionConstruct_letters (.inr ⟨rfl, hne⟩), hread, flagGroup, if_neg (by decide), if_pos rfl,
    hs]
  intro rest h
  cases h

theorem named_spelled {name : String} (h : checkName name.toList = .ok ()) :
    ParenSpelled d (.groupOpen (.named name)) rest := by
  refine ⟨'?' :: '<' :: (name.toList ++ ['>']), by simp [TokenKind.spelling], ?_⟩
  have hread := @nameUntil_spelled rest '>' name h (by decide)
  -- A name starts with no mark of a lookbehind.
  have hstart : ∀ c cs, name.toList = c :: cs → c ≠ '=' ∧ c ≠ '!' := by
    intro c cs hc
    have hname := isNameChar_of_isName (checkName_isName h)
    rw [hc, List.all_cons, Bool.and_eq_true] at hname
    constructor <;> rintro rfl <;> exact absurd hname.1 (by decide)
  simp only [List.cons_append, List.append_assoc, List.nil_append, paren]
  unfold questionConstruct
  cases hc : name.toList with
  | nil =>
      rw [hc] at h
      cases h
  | cons c cs =>
      obtain ⟨h1, h2⟩ := hstart c cs hc
      rw [hc] at hread
      simp only [List.cons_append] at hread ⊢
      simp [h1, h2, hread, bind, Except.bind, pure, Except.pure]

theorem opener_spelled {o : Opener} (h : OpenerWritten d o)
    (hc : o = .capturing → rest.head? ≠ some '*' ∧ rest.head? ≠ some '?')
    (hm : ∀ change, o = .modifiers change → change.letters ≠ "") :
    ParenSpelled d (.groupOpen o) rest := by
  cases o with
  | capturing =>
      obtain ⟨hstar, hquestion⟩ := hc rfl
      refine ⟨[], rfl, ?_⟩
      rw [List.nil_append, paren]
      · exact fun body hb => hstar (by rw [hb]; rfl)
      · exact fun body hb => hquestion (by rw [hb]; rfl)
  | named name => exact named_spelled h
  | modifiers change => exact modifiers_spelled h (hm change rfl)
  | look l =>
      cases l with
      | nonAtomicAhead =>
          have hd : d.supports .alphaAssertions = true := h
          have hstar : starConstruct d ('n' :: 'a' :: 'p' :: 'l' :: 'a' :: ':' :: rest) =
              some (if d.supports .alphaAssertions then
                .ok (.groupOpen (.look .nonAtomicAhead), rest)
              else fail (.unsupportedAssertion "napla")) := rfl
          refine ⟨['*', 'n', 'a', 'p', 'l', 'a', ':'], rfl, ?_⟩
          simp only [List.cons_append, List.nil_append, paren, hstar, hd, ↓reduceIte,
            Option.getD_some]
      | nonAtomicBehind =>
          have hd : d.supports .alphaAssertions = true := h
          have hstar : starConstruct d ('n' :: 'a' :: 'p' :: 'l' :: 'b' :: ':' :: rest) =
              some (if d.supports .alphaAssertions then
                .ok (.groupOpen (.look .nonAtomicBehind), rest)
              else fail (.unsupportedAssertion "naplb")) := rfl
          refine ⟨['*', 'n', 'a', 'p', 'l', 'b', ':'], rfl, ?_⟩
          simp only [List.cons_append, List.nil_append, paren, hstar, hd, ↓reduceIte,
            Option.getD_some]
      | _ => exact ⟨_, rfl, rfl⟩
  | _ => exact ⟨_, rfl, rfl⟩

theorem mem_digits {c : Char} (h : isAsciiDigit c = true) :
    c ∈ ['0', '1', '2', '3', '4', '5', '6', '7', '8', '9'] := by
  have hall : ∀ c : Char, c.toNat < 128 → isAsciiDigit c = true →
      c ∈ ['0', '1', '2', '3', '4', '5', '6', '7', '8', '9'] := ascii_all (by decide)
  exact hall c (toNat_lt_of_isAsciiDigit h) h

/-- A number or a distance is read with its sign. -/
theorem signed_spelled {ref : Reference} (h : ReferenceWritten ref) (hname : ∀ s, ref ≠ .name s)
    {stop : Char} (hs : isAsciiDigit stop = false) :
    ∃ sign digits n, takeSign (ref.spelling.toList ++ stop :: rest) = (sign, digits) ∧
      number digits = .ok (some n, stop :: rest) ∧ signed sign n = ref := by
  cases ref with
  | number n =>
      obtain ⟨d, ds, hd, hdigit⟩ := digits_cons n
      have hplus := digit_ne hdigit (show isAsciiDigit '+' = false by decide)
      have hminus := digit_ne hdigit (show isAsciiDigit '-' = false by decide)
      refine ⟨none, Nat.toDigits 10 n ++ stop :: rest, n, ?_, number_spelled h hs, rfl⟩
      simp only [Reference.spelling, Nat.toString_eq_ofList_toDigits, String.toList_ofList, hd,
        List.cons_append]
      unfold takeSign
      split
      · next heq => exact absurd (List.cons.inj heq).1 hplus
      · next heq => exact absurd (List.cons.inj heq).1 hminus
      · rfl
  | relative i =>
      have hmax : i.natAbs ≤ maxNumber := by
        have : i.natAbs ≤ maxDistance := h
        simp only [maxDistance, maxNumber] at this ⊢
        omega
      refine ⟨some (decide (0 ≤ i)), Nat.toDigits 10 i.natAbs ++ stop :: rest, i.natAbs, ?_,
        number_spelled hmax hs, (relative_eq h).symm⟩
      rw [Reference.spelling, signedText_toList]
      by_cases hi : 0 ≤ i <;> simp [hi, takeSign]
  | name s => exact absurd rfl (hname s)

/-- The first character of a number or a distance: a digit, or a sign in front of one. -/
theorem reference_cons {ref : Reference} (hname : ∀ s, ref ≠ .name s) :
    ∃ c cs, ref.spelling.toList = c :: cs ∧
      (c = '+' ∨ isAsciiDigit c = true ∨ c = '-' ∧ ∃ d ds, cs = d :: ds ∧ isAsciiDigit d = true) := by
  cases ref with
  | number n =>
      obtain ⟨d, ds, hd, hdigit⟩ := digits_cons n
      exact ⟨d, ds, by simpa [Reference.spelling] using hd, .inr (.inl hdigit)⟩
  | relative i =>
      obtain ⟨d, ds, hd, hdigit⟩ := digits_cons i.natAbs
      rw [Reference.spelling, signedText_toList, hd]
      by_cases hi : 0 ≤ i
      · exact ⟨'+', d :: ds, by simp [hi], .inl rfl⟩
      · exact ⟨'-', d :: ds, by simp [hi], .inr (.inr ⟨rfl, d, ds, rfl, hdigit⟩)⟩
  | name s => exact absurd rfl (hname s)

theorem numberedCall_spelled {ref : Reference} (h : ReferenceWritten ref)
    (hname : ∀ s, ref ≠ .name s) :
    questionConstruct d (ref.spelling.toList ++ ')' :: rest) = .ok (.subroutine ref, rest) := by
  obtain ⟨sign, digits, n, hsign, hnumber, href⟩ := @signed_spelled rest ref h hname ')' (by decide)
  have hcall : numberedCall (ref.spelling.toList ++ ')' :: rest) = .ok (.subroutine ref, rest) := by
    simp only [numberedCall, hsign, hnumber, href, bind, Except.bind, pure, Except.pure]
  rw [← hcall]
  obtain ⟨c, cs, hc, hfirst⟩ := reference_cons hname
  rw [hc, List.cons_append]
  rcases hfirst with rfl | hdigit | ⟨rfl, d', ds, rfl, hdigit⟩
  · rfl
  · have hmem := mem_digits hdigit
    simp only [List.mem_cons, List.not_mem_nil, or_false] at hmem
    rcases hmem with rfl | rfl | rfl | rfl | rfl | rfl | rfl | rfl | rfl | rfl <;> rfl
  · have hminus : isAsciiDigit '-' = false := by decide
    simp [questionConstruct, hminus, hdigit]

theorem subroutine_spelled {ref : Reference} (h : ReferenceWritten ref)
    (hname : ∀ s, ref = .name s → checkName s.toList = .ok ()) :
    ParenSpelled d (.subroutine ref) rest := by
  cases ref with
  | number n =>
      cases n with
      | zero => exact ⟨_, rfl, rfl⟩
      | succ n =>
          refine ⟨'?' :: ((Reference.number (n + 1)).spelling.toList ++ [')']),
            by simp [TokenKind.spelling], ?_⟩
          simp only [List.cons_append, List.append_assoc, List.nil_append, paren]
          exact numberedCall_spelled h (by simp)
  | relative i =>
      refine ⟨'?' :: ((Reference.relative i).spelling.toList ++ [')']),
        by simp [TokenKind.spelling], ?_⟩
      simp only [List.cons_append, List.append_assoc, List.nil_append, paren]
      exact numberedCall_spelled h (by simp)
  | name s =>
      refine ⟨'?' :: '&' :: (s.toList ++ [')']), by simp [TokenKind.spelling], ?_⟩
      have hread := @nameUntil_spelled rest ')' s (hname s rfl) (by decide)
      simp only [List.cons_append, List.append_assoc, List.nil_append, paren, questionConstruct,
        hread, bind, Except.bind, pure, Except.pure]

theorem comment_spelled {text : String} (h : ')' ∉ text.toList) :
    ParenSpelled d (.comment text) rest := by
  have hne : text.toList.all (· != ')') = true := by
    rw [List.all_eq_true]
    intro c hc
    simp only [bne_iff_ne, ne_eq]
    rintro rfl
    exact h hc
  have hstop : (')' != ')') = false := by decide
  refine ⟨'?' :: '#' :: (text.toList ++ [')']), by simp [TokenKind.spelling], ?_⟩
  simp only [List.cons_append, List.append_assoc, List.nil_append, paren, questionConstruct, comment,
    dropWhile_stop hne hstop, takeWhile_stop hne hstop, String.ofList_toList]

theorem doubledUntil_spelled (text : List Char) :
    doubledUntil '"' (text.flatMap (fun c => if c = '"' then ['"', '"'] else [c]) ++
      '"' :: ')' :: rest) = some (text, ')' :: rest) := by
  induction text with
  | nil => simp [doubledUntil]
  | cons c text ih =>
      rw [List.flatMap_cons, List.append_assoc]
      by_cases hc : c = '"'
      · subst hc
        simp [doubledUntil, ih]
      · -- There is always another character behind this one.
        generalize hmore : text.flatMap (fun c => if c = '"' then ['"', '"'] else [c]) ++
          '"' :: ')' :: rest = more at ih ⊢
        cases more with
        | nil => simp at hmore
        | cons e more => simp [hc, doubledUntil, ih]

theorem callout_spelled {arg : CalloutArg} (h : ∀ n, arg = .number n → n ≤ 255) :
    ParenSpelled d (.callout arg) rest := by
  cases arg with
  | number n =>
      have hn := h n rfl
      have hmax : n ≤ maxNumber := by
        simp only [maxNumber]
        omega
      obtain ⟨c, cs, hc, hdigit⟩ := digits_cons n
      have hnumber := @number_spelled rest ')' n hmax (by decide)
      have hclose := digit_ne hdigit (show isAsciiDigit ')' = false by decide)
      refine ⟨'?' :: 'C' :: (Nat.toDigits 10 n ++ [')']), by simp [TokenKind.spelling], ?_⟩
      rw [hc] at hnumber ⊢
      simp only [List.cons_append] at hnumber
      simp [paren, questionConstruct, callout, calloutArg, hclose, hdigit, hnumber, hn, bind,
        Except.bind, pure, Except.pure]
  | text s =>
      refine ⟨'?' :: 'C' :: '"' :: (Render.doubleQuotes s).toList ++ ['"', ')'],
        by simp [TokenKind.spelling], ?_⟩
      have hread := @doubledUntil_spelled rest s.toList
      have hquote : isAsciiDigit '"' = false := by decide
      have hclose : calloutClose? '"' = some '"' := by decide
      simp [paren, questionConstruct, callout, calloutArg, hquote, hclose, Render.doubleQuotes,
        hread, bind, Except.bind, pure, Except.pure]

/-- A condition whose test is read up to its closing parenthesis. -/
theorem condition_of_plainTest {cs : List Char} {test : ConditionToken}
    (hc : ∀ body, cs ≠ '?' :: body) (h : plainTest cs = .ok (test, ')' :: rest)) :
    condition cs = .ok (test, rest) := by
  unfold condition
  split
  · exact absurd rfl (hc _)
  · simp [h, bind, Except.bind, pure, Except.pure]

theorem plainTest_reference {ref : Reference} (h : ReferenceWritten ref)
    (hname : ∀ s, ref ≠ .name s) :
    plainTest (ref.spelling.toList ++ ')' :: rest) = .ok (.reference ref, ')' :: rest) := by
  obtain ⟨sign, digits, n, hsign, hnumber, href⟩ := @signed_spelled rest ref h hname ')' (by decide)
  obtain ⟨c, cs, hc, hfirst⟩ := reference_cons hname
  have hcases : c = '+' ∨ c = '-' ∨ isAsciiDigit c = true := by
    rcases hfirst with h | h | ⟨h, -⟩ <;> simp [h]
  have hmark : (decide (c = '+') || decide (c = '-') || isAsciiDigit c) = true := by
    rcases hcases with h | h | h <;> simp [h]
  have hne : ∀ l, l ≠ '+' → l ≠ '-' → isAsciiDigit l = false → c ≠ l := by
    rintro l h1 h2 h3 rfl
    rcases hcases with h | h | h
    · exact h1 h
    · exact h2 h
    · simp [h] at h3
  have h1 := hne '<' (by decide) (by decide) (by decide)
  have h2 := hne '\'' (by decide) (by decide) (by decide)
  have h3 := hne 'R' (by decide) (by decide) (by decide)
  rw [hc, List.cons_append] at hsign ⊢
  unfold plainTest
  split
  · next heq => exact absurd (List.cons.inj heq).1 h1
  · next heq => exact absurd (List.cons.inj heq).1 h2
  · next heq => exact absurd (List.cons.inj heq).1 h3
  · next heq => exact absurd (List.cons.inj heq).1 h3
  · next heq =>
      cases heq
      simp only [h3, decide_false, Bool.false_and, Bool.false_eq_true, ↓reduceIte, hmark, hsign,
        hnumber, bind, Except.bind, pure, Except.pure, href]
  · next heq => cases heq

theorem conditionOpen_spelled {test : ConditionToken} (h : TestWritten test) :
    ParenSpelled d (.conditionOpen test) rest := by
  have hopen : ∀ {cs : List Char}, condition (cs ++ rest) = .ok (test, rest) →
      paren d ('?' :: '(' :: (cs ++ rest)) = .ok (.conditionOpen test, rest) := by
    intro cs hc
    simp only [paren, questionConstruct, hc, bind, Except.bind, pure, Except.pure]
  cases test with
  | reference ref =>
      have hplain : (∀ s, ref ≠ .name s) → ReferenceWritten ref →
          ParenSpelled d (.conditionOpen (.reference ref)) rest := by
        intro hname hw
        have hspelled : (TokenKind.conditionOpen (.reference ref)).spelling.toList =
            '(' :: '?' :: '(' :: (ref.spelling.toList ++ [')']) := by
          cases ref with
          | name s => exact absurd rfl (hname s)
          | _ => simp [TokenKind.spelling]
        refine ⟨_, hspelled, hopen (condition_of_plainTest ?_ ?_)⟩
        · obtain ⟨c, cs, hc, hfirst⟩ := reference_cons hname
          rw [hc]
          rintro body heq
          obtain rfl : c = '?' := (List.cons.inj heq).1
          rcases hfirst with h | h | ⟨h, -⟩
          · cases h
          · exact absurd h (by decide)
          · cases h
        · simpa using plainTest_reference hw hname
      cases ref with
      | name s =>
          have hread := @nameUntil_spelled (')' :: rest) '>' s h (by decide)
          refine ⟨'?' :: '(' :: ('<' :: (s.toList ++ ['>', ')'])), by simp [TokenKind.spelling],
            hopen (condition_of_plainTest (by simp) ?_)⟩
          simp [plainTest, hread, bind, Except.bind, pure, Except.pure]
      | number n => exact hplain (by simp) h
      | relative i => exact hplain (by simp) h
  | recursion => exact ⟨_, rfl, rfl⟩
  | recursionGroup n =>
      obtain ⟨c, cs, hc, hdigit⟩ := digits_cons n
      have hnumber := @number_spelled rest ')' n h (by decide)
      have h1 := digit_ne hdigit (show isAsciiDigit '&' = false by decide)
      have h2 := digit_ne hdigit (show isAsciiDigit ')' = false by decide)
      refine ⟨'?' :: '(' :: ('R' :: (Nat.toDigits 10 n ++ [')'])), by simp [TokenKind.spelling],
        hopen (condition_of_plainTest (by simp) ?_)⟩
      rw [hc] at hnumber ⊢
      simp only [List.cons_append, List.append_assoc, List.nil_append] at hnumber ⊢
      unfold plainTest
      simp [h1, h2, hdigit, hnumber, bind, Except.bind, pure, Except.pure]
  | recursionName s =>
      have hcheck : checkName s.toList = .ok () := h
      have hne := name_all_ne (checkName_isName hcheck) (show isNameChar ')' = false by decide)
      have hstop : (')' != ')') = false := by decide
      refine ⟨'?' :: '(' :: ('R' :: '&' :: (s.toList ++ [')'])), by simp [TokenKind.spelling],
        hopen (condition_of_plainTest (by simp) ?_)⟩
      simp [plainTest, takeWhile_stop hne hstop, dropWhile_stop hne hstop, hcheck, bind, Except.bind,
        pure, Except.pure]
  | define => exact ⟨_, rfl, rfl⟩
  | assertion look =>
      cases look with
      | nonAtomicAhead => cases h
      | nonAtomicBehind => cases h
      | _ => exact ⟨_, rfl, rfl⟩

/-- The name of a verb is no name of a group. -/
theorem alphaOpener?_verb {name : List Char} {arg : Option (List Char)} {cs : List Char}
    (h : isKnownVerb name arg = true) : alphaOpener? name cs = none := by
  have hsettings : ∀ s ∈ startSettings, (s.toList.all fun c => !decide ('A' ≤ c ∧ c ≤ 'Z')) = false := by
    decide
  have hverbs : ∀ s ∈ verbs, (s.toList.all fun c => !decide ('A' ≤ c ∧ c ≤ 'Z')) = false := by
    decide
  have hsetting : isStartSetting (String.ofList name) = true →
      (name.all fun c => !decide ('A' ≤ c ∧ c ≤ 'Z')) = false := by
    intro hs
    simpa using hsettings _ (List.contains_iff_mem.mp hs)
  have hname : name = [] ∨ (name.all fun c => !decide ('A' ≤ c ∧ c ≤ 'Z')) = false := by
    unfold isKnownVerb at h
    split at h
    · next hn =>
        simp only [Bool.or_eq_true, List.isEmpty_iff, beq_iff_eq] at hn
        rcases hn with rfl | rfl
        · exact .inl rfl
        · exact .inr (by decide)
    · split at h
      · exact .inr (hsetting (Bool.and_eq_true_iff.mp h).1)
      · split at h
        · next hs => exact .inr (hsetting hs)
        · exact .inr (by simpa using hverbs _ (List.contains_iff_mem.mp h))
  unfold alphaOpener?
  split
  · rcases hname with rfl | hname
    · rfl
    · rw [hname, if_neg (by simp)]
  · rfl

theorem verb_spelled {name : String} {arg : Option String} (h : VerbWritten name arg) :
    ParenSpelled d (.verb name arg) rest := by
  have hread : ∀ (stop : Char) (cs : List Char), isVerbChar stop = false →
      (name.toList = [] → stop = ':') →
      paren d ('*' :: (name.toList ++ stop :: cs)) = verb name.toList (stop :: cs) := by
    intro stop cs hstop hempty
    have htake := @takeWhile_stop isVerbChar name.toList cs stop h.chars hstop
    have hdrop := @dropWhile_stop isVerbChar name.toList cs stop h.chars hstop
    have hnone := @alphaOpener?_verb name.toList _ (stop :: cs) h.known
    have hstar : starConstruct d (name.toList ++ stop :: cs) =
        some (verb name.toList (stop :: cs)) := by
      cases hn : name.toList with
      | nil =>
          obtain rfl := hempty hn
          rw [hn] at htake hdrop hnone
          simp only [List.nil_append] at htake hdrop ⊢
          simp [starConstruct, htake, hdrop, hnone]
      | cons c more =>
          have hletter := h.start c (by simp [hn])
          rw [hn] at htake hdrop hnone
          simp only [List.cons_append] at htake hdrop ⊢
          simp [starConstruct, htake, hdrop, hnone, hletter]
    simp only [paren, hstar, Option.getD_some]
  cases arg with
  | none =>
      refine ⟨'*' :: (name.toList ++ [')']), by simp [TokenKind.spelling, Render.verb], ?_⟩
      have hknown : isKnownVerb name.toList none = true := h.known
      have hempty : name.toList = [] → ')' = ':' := by
        intro hn
        rw [hn] at hknown
        cases hknown
      simp only [List.cons_append, List.append_assoc, List.nil_append]
      rw [hread ')' rest (by decide) hempty]
      simp [verb, verbArg, hknown]
  | some arg =>
      have hknown : isKnownVerb name.toList (some arg.toList) = true := h.known
      have harg : arg.toList.all (· != ')') = true := by
        rw [List.all_eq_true]
        intro c hc
        simp only [bne_iff_ne, ne_eq]
        rintro rfl
        exact h.arg arg rfl hc
      have hstop : (')' != ')') = false := by decide
      cases hlimit : isLimit name.toList with
      | true =>
          have hlimit' : Render.isLimitName name = true := hlimit
          refine ⟨'*' :: (name.toList ++ '=' :: (arg.toList ++ [')'])),
            by simp [TokenKind.spelling, Render.verb, hlimit'], ?_⟩
          have hempty : name.toList = [] → '=' = ':' := by
            intro hn
            rw [hn] at hlimit
            cases hlimit
          simp only [List.cons_append, List.append_assoc, List.nil_append]
          rw [hread '=' _ (by decide) hempty]
          simp [verb, verbArg, hlimit, takeWhile_stop harg hstop, dropWhile_stop harg hstop, hknown]
      | false =>
          have hlimit' : Render.isLimitName name = false := hlimit
          refine ⟨'*' :: (name.toList ++ ':' :: (arg.toList ++ [')'])),
            by simp [TokenKind.spelling, Render.verb, hlimit'], ?_⟩
          simp only [List.cons_append, List.append_assoc, List.nil_append]
          rw [hread ':' _ (by decide) fun _ => rfl]
          simp [verb, verbArg, takeWhile_stop harg hstop, dropWhile_stop harg hstop, hknown]

end Parentheses

/-! ### Repetitions -/

section Repetitions

variable {d : Dialect} {rest : List Char}

/-- A digit stops the skipping of blanks. -/
theorem skipBlanks_cons {c : Char} {cs : List Char} (allowed : Bool) (h1 : c ≠ ' ') (h2 : c ≠ '\t') :
    skipBlanks allowed (c :: cs) = c :: cs := by
  unfold skipBlanks
  split
  · simp [h1, h2]
  · rfl

theorem skipBlanks_digits (allowed : Bool) (n : Nat) (cs : List Char) :
    skipBlanks allowed (Nat.toDigits 10 n ++ cs) = Nat.toDigits 10 n ++ cs := by
  obtain ⟨c, ds, hc, hdigit⟩ := digits_cons n
  rw [hc, List.cons_append]
  exact skipBlanks_cons allowed (digit_ne hdigit (by decide)) (digit_ne hdigit (by decide))

theorem interval_exact {n : Nat} (hn : n ≤ Repeat.maxWritten) :
    interval d (Nat.toDigits 10 n ++ '\x7d' :: rest) = .ok (some (n, some n), rest) := by
  simp [interval, skipBlanks_digits, repeatCount_spelled hn (show isAsciiDigit '\x7d' = false by decide),
    skipBlanks_cons, bind, Except.bind, pure, Except.pure]

theorem interval_from {n : Nat} (hn : n ≤ Repeat.maxWritten) :
    interval d (Nat.toDigits 10 n ++ ',' :: '\x7d' :: rest) = .ok (some (n, none), rest) := by
  have hnone : repeatCount ('\x7d' :: rest) = .ok (none, '\x7d' :: rest) := rfl
  simp [interval, skipBlanks_digits, repeatCount_spelled hn (show isAsciiDigit ',' = false by decide),
    skipBlanks_cons, hnone, bind, Except.bind, pure, Except.pure]

theorem interval_between {n m : Nat} (hn : n ≤ Repeat.maxWritten) (hm : m ≤ Repeat.maxWritten) :
    interval d (Nat.toDigits 10 n ++ ',' :: (Nat.toDigits 10 m ++ '\x7d' :: rest)) =
      .ok (some (n, some m), rest) := by
  simp [interval, skipBlanks_digits, repeatCount_spelled hn (show isAsciiDigit ',' = false by decide),
    repeatCount_spelled hm (show isAsciiDigit '\x7d' = false by decide),
    skipBlanks_cons, bind, Except.bind, pure, Except.pure]

theorem greed_spelled {g : Greed}
    (hf : g = .greedy → rest.head? ≠ some '?' ∧ rest.head? ≠ some '+') :
    greed ((Render.greedMark g).toList ++ rest) = (g, rest) := by
  cases g with
  | greedy =>
      obtain ⟨h1, h2⟩ := hf rfl
      simp only [Render.greedMark, String.toList_empty, List.nil_append]
      unfold greed
      split
      · exact absurd rfl h1
      · exact absurd rfl h2
      · rfl
  | lazy => rfl
  | possessive => rfl

/-- What the spelling of a repetition starts with is read as it. -/
theorem quantifier_spelled {ctx : Context} {count : Repeat} (h : CountWritten count)
    (hf : count.greed = .greedy → rest.head? ≠ some '?' ∧ rest.head? ≠ some '+') :
    ∃ c cs, (TokenKind.quantifier count).spelling.toList = c :: cs ∧
      c ∈ ['*', '+', '?', '\x7b'] ∧
      outsideToken ctx c (cs ++ rest) = .ok (.quantifier count, rest) := by
  obtain ⟨min, max, g⟩ := count
  obtain ⟨hmin, hmax⟩ := h
  have hgreed := greed_spelled hf
  have hkind : quantifierKind min max ((Render.greedMark g).toList ++ rest) =
      (.quantifier ⟨min, max, g⟩, rest) := by
    rw [quantifierKind, hgreed]
  have hbrace : ∀ {cs : List Char},
      (∀ rest, interval ctx.dialect (cs ++ rest) = .ok (some (min, max), rest)) →
      outsideToken ctx '\x7b' (cs ++ ((Render.greedMark g).toList ++ rest)) =
        .ok (.quantifier ⟨min, max, g⟩, rest) := by
    intro cs hcs
    simp [outsideToken, hcs, hkind]
  simp only [TokenKind.spelling, Render.quantifier]
  cases max with
  | none =>
      by_cases h0 : min = 0
      · subst h0
        refine ⟨'*', (Render.greedMark g).toList, by simp [Render.counts], by decide, ?_⟩
        exact congrArg Except.ok hkind
      · by_cases h1 : min = 1
        · subst h1
          refine ⟨'+', (Render.greedMark g).toList, by simp [Render.counts], by decide, ?_⟩
          exact congrArg Except.ok hkind
        · refine ⟨'\x7b', Nat.toDigits 10 min ++ [',', '\x7d'] ++ (Render.greedMark g).toList,
            by simp [Render.counts, h0, h1], by decide, ?_⟩
          rw [List.append_assoc]
          exact hbrace fun rest => by simpa using interval_from hmin
  | some max =>
      by_cases h01 : min = 0 ∧ max = 1
      · obtain ⟨rfl, rfl⟩ := h01
        refine ⟨'?', (Render.greedMark g).toList, by simp [Render.counts], by decide, ?_⟩
        exact congrArg Except.ok hkind
      · by_cases heq : min = max
        · subst heq
          refine ⟨'\x7b', Nat.toDigits 10 min ++ ['\x7d'] ++ (Render.greedMark g).toList, ?_,
            by decide, ?_⟩
          · have h01' : ¬ (min = 0 ∧ min = 1) := h01
            simp [Render.counts, h01']
          · rw [List.append_assoc]
            exact hbrace fun rest => by simpa using interval_exact hmin
        · refine ⟨'\x7b', Nat.toDigits 10 min ++ ',' :: Nat.toDigits 10 max ++ ['\x7d'] ++
            (Render.greedMark g).toList, ?_, by decide, ?_⟩
          · simp [Render.counts, h01, heq]
          · rw [List.append_assoc]
            exact hbrace fun rest => by simpa using interval_between hmin (hmax max rfl)

end Repetitions

end PatternLint.Token
