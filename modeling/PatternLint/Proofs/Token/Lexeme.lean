import Mathlib.Logic.Basic
import PatternLint.Proofs.Text.Characters
import PatternLint.Token.Scan

/-!
# What the scanner can read

A token says less than the text that it was read from, but it is not free
either: a literal outside a class is no character of the syntax, a count fits its
limit, a name has the form of a name. `Lexeme` collects, for each kind of token
and each place, what is known of a token that was read there, and `scan_lexeme`
says that every token of the scanner is such a lexeme.

Readers are gone through once, here. Whoever needs to know something about the
tokens of a pattern takes it from `Lexeme` and looks into no reader again.
-/

namespace PatternLint

open Unicode Text

namespace Token

/-- The characters that never stand for themselves outside a class. An opening brace is not among
them: it stands for itself where no counts follow. -/
def isSyntax (c : Char) : Bool :=
  ['\\', '(', ')', '|', '[', '.', '^', '$', '*', '+', '?'].contains c

/-- What is known of a character that was written in some form other than as itself. -/
def FormWritten (ctx : Context) (inClass : Bool) (v : Char) : LiteralForm → Prop
  | .verbatim => False
  | .punctuation => isAsciiLetter v = false ∧
      (isAsciiDigit v = true → inClass = true ∧ isOctalDigit v = false)
  | .special => ∃ c, specialValue? inClass c = some v
  | .control => ∃ c : Char, 0x20 ≤ c.toNat ∧ c.toNat ≤ 0x7e ∧ v = Char.ofNat (c.toUpper.toNat ^^^ 0x40)
  | .octal | .hex => ctx.utf = true ∨ v.toNat ≤ 0xff
  | .codePoint => ctx.dialect.supports .codePointEscape = true ∧ ctx.utf = true
  | .quoted => False

/-- What is known of a shorthand. -/
def ShorthandWritten (inClass negated : Bool) : ShorthandKind → Prop
  | .property name => name.toList ≠ [] ∧ name.toList.all isPropertyChar = true
  | .newline | .notNewline | .grapheme | .codeUnit => inClass = false ∧ negated = false
  | _ => True

/-- What is known of the counts of a repetition. -/
def CountWritten (r : Repeat) : Prop :=
  r.min ≤ Repeat.maxWritten ∧ ∀ max ∈ r.max, max ≤ Repeat.maxWritten

/-- What is known of a reference: its number fits, its distance fits, its name is one. -/
def ReferenceWritten : Reference → Prop
  | .number n => n ≤ maxNumber
  | .relative i => i.natAbs ≤ maxDistance
  | .name s => isName s.toList = true

/-- What is known of a word of inline flags. -/
structure FlagsWritten (dialect : Dialect) (f : Flags) : Prop where
  inline : f &&& ~~~(Flags.resettable ||| Flags.duplicateNames ||| Flags.swapGreed) = 0#32
  spacing : f.has Flags.extendedMore = true → f.has Flags.extended = true
  capture : f.has Flags.noAutoCapture = true → dialect.supports .noAutoCapture = true

/-- What is known of an inline setting. -/
structure ChangeWritten (dialect : Dialect) (change : FlagChange) : Prop where
  on : FlagsWritten dialect change.on
  off : FlagsWritten dialect change.off
  clear : change.off.has Flags.extended = true → change.off.has Flags.extendedMore = true
  reset : change.reset = true → change.off = 0#32 ∧ dialect.supports .caretReset = true

/-- What is known of what opens a group. -/
def OpenerWritten (dialect : Dialect) : Opener → Prop
  | .named name => checkName name.toList = .ok ()
  | .look .nonAtomicAhead | .look .nonAtomicBehind => dialect.supports .alphaAssertions = true
  | .modifiers change => ChangeWritten dialect change
  | _ => True

/-- What is known of the test of a conditional. -/
def TestWritten : ConditionToken → Prop
  | .reference (.name s) | .recursionName s => checkName s.toList = .ok ()
  | .reference ref => ReferenceWritten ref
  | .recursionGroup n => n ≤ maxNumber
  | .assertion look => look.isAtomic = true
  | .recursion | .define => True

/-- What is known of a verb. -/
structure VerbWritten (name : String) (arg : Option String) : Prop where
  known : isKnownVerb name.toList (arg.map String.toList) = true
  chars : name.toList.all isVerbChar = true
  start : ∀ c ∈ name.toList.head?, isAsciiLetter c = true
  arg : ∀ a ∈ arg, ')' ∉ a.toList

/-- What is known of a token outside a class, under a spacing and with its text. -/
def OutsideLexeme (ctx : Context) (spacing : Flags) (text : List Char) : TokenKind → Prop
  | .literal c => isSyntax c = false ∧ (spacing ≠ 0 → isPatternBlank c = false ∧ c ≠ '#')
  | .escaped v form => FormWritten ctx false v form
  | .numericEscape n => ∃ digits, text = '\\' :: digits ∧ digits ≠ [] ∧
      digits.all isAsciiDigit = true ∧ ofDigits 10 digits = n ∧ n ≤ maxNumber
  | .shorthand kind negated => ShorthandWritten false negated kind
  | .anchor _ | .dot | .alternation => True
  | .groupClose => [')'] <+: text
  | .classOpen _ => ['['] <+: text
  | .quantifier count => CountWritten count
  | .groupOpen opener => ['('] <+: text ∧ OpenerWritten ctx.dialect opener
  | .inlineFlags change => ['('] <+: text ∧ ChangeWritten ctx.dialect change
  | .backref ref => ReferenceWritten ref ∧ ∀ i, ref = .relative i → i ≤ 0
  | .subroutine ref => ReferenceWritten ref
  | .conditionOpen test => ['(', '?', '('] <+: text ∧ TestWritten test
  | .verb name arg => VerbWritten name arg
  | .comment t => ')' ∉ t.toList
  | .callout (.number n) => n ≤ 255
  | .callout (.text _) => True
  | .classClose | .classHyphen | .classIntersection | .classSubtraction | .posixClass .. | .eof =>
    False

/-- What is known of a token inside a class, under a spacing and where the class may be fresh. -/
def ClassLexeme (ctx : Context) (spacing : Flags) (fresh : Bool) : TokenKind → Prop
  | .literal c => c ≠ '\\' ∧ c ≠ '-' ∧ (c = ']' → fresh = true) ∧
      (spacing.has Flags.extendedMore = true → c ≠ ' ' ∧ c ≠ '\t')
  | .escaped v form => FormWritten ctx true v form
  | .shorthand kind negated => ShorthandWritten true negated kind
  | .classClose => fresh = false
  | .classHyphen => True
  | .classIntersection | .classSubtraction => ctx.dialect.supports .classSetOperations = true
  | .posixClass name _ => name.toList ≠ [] ∧ name.toList.all isPosixChar = true
  | _ => False

/-- What is known of a token that was read in a mode, with its text. -/
def Lexeme (ctx : Context) (m : Mode) (text : List Char) (kind : TokenKind) : Prop :=
  if m.quoting then ∃ c, kind = .escaped c .quoted
  else
    match m.place with
    | .outside => OutsideLexeme ctx m.spacing text kind
    | .inClass fresh => ClassLexeme ctx m.spacing fresh kind

/-- If what is left is a suffix of what comes after a character, that character was read. -/
theorem eq_cons_of_suffix {c : Char} {cs pre rest : List Char} (hs : rest <:+ cs)
    (h : pre ++ rest = c :: cs) : ∃ pre', pre = c :: pre' ∧ pre' ++ rest = cs := by
  cases pre with
  | nil =>
      have := hs.length_le
      rw [show rest = c :: cs from h, List.length_cons] at this
      omega
  | cons d pre' =>
      simp only [List.cons_append, List.cons.injEq] at h
      exact ⟨pre', by rw [h.1], h.2⟩

/-! ### Readers of numbers and names -/

/-- A number that was read is that of the digits in front of the rest, and it fits. -/
theorem number_some {cs rest : List Char} {n : Nat} (h : number cs = .ok (some n, rest)) :
    n = ofDigits 10 (cs.takeWhile isAsciiDigit) ∧ n ≤ maxNumber ∧
      rest = cs.dropWhile isAsciiDigit := by
  simp only [number, fail] at h
  split at h
  · simp at h
  · split at h
    · next hle =>
        simp only [Except.ok.injEq, Prod.mk.injEq, Option.some.injEq] at h
        exact ⟨h.1.symm, h.1 ▸ hle, h.2.symm⟩
    · simp at h

/-- A number that is asked for with a default fits in any case. -/
theorem number_getD_le {cs rest : List Char} {n : Option Nat} (h : number cs = .ok (n, rest)) :
    n.getD 0 ≤ maxNumber := by
  cases n with
  | none => exact Nat.zero_le _
  | some n => exact (number_some h).2.1

theorem repeatCount_le {cs rest : List Char} {n : Option Nat}
    (h : repeatCount cs = .ok (n, rest)) : ∀ m ∈ n, m ≤ Repeat.maxWritten := by
  simp only [repeatCount, fail] at h
  split at h
  · replace h := ok_inj h
    simp [← h.1]
  · split at h
    · next hle =>
        replace h := ok_inj h
        simpa [← h.1] using hle
    · simp at h

theorem unsigned?_le {cs : List Char} {n : Nat} (h : unsigned? cs = some n) : n ≤ maxNumber := by
  simp only [unsigned?, Option.ite_none_right_eq_some, Bool.and_eq_true, decide_eq_true_eq,
    Option.some.injEq] at h
  exact h.2 ▸ h.1.2

theorem referenceWritten_signed (sign : Option Bool) {n : Nat} (h : n ≤ maxNumber) :
    ReferenceWritten (signed sign n) := by
  unfold signed
  split
  · exact h
  · simp only [ReferenceWritten]
    omega
  · simp only [ReferenceWritten]
    omega

theorem reference?_written {text : List Char} {allowPlus : Bool} {ref : Reference}
    (h : reference? text allowPlus = some ref) : ReferenceWritten ref := by
  unfold reference? at h
  split at h
  · simp only [Option.map_eq_some_iff] at h
    obtain ⟨n, -, rfl⟩ := h
    simp only [ReferenceWritten]
    omega
  · split at h
    · simp only [Option.map_eq_some_iff] at h
      obtain ⟨n, -, rfl⟩ := h
      simp only [ReferenceWritten]
      omega
    · simp at h
  · split at h
    · simp only [Option.map_eq_some_iff] at h
      obtain ⟨n, hn, rfl⟩ := h
      exact unsigned?_le hn
    · split at h
      · next hname =>
          simp only [Option.some.injEq] at h
          subst h
          simpa [ReferenceWritten] using hname
      · simp at h
  · simp at h

/-- Without a plus sign no distance is ahead. -/
theorem reference?_not_ahead {text : List Char} {ref : Reference}
    (h : reference? text false = some ref) : ∀ i, ref = .relative i → i ≤ 0 := by
  intro i hi
  subst hi
  unfold reference? at h
  split at h
  · simp only [Option.map_eq_some_iff] at h
    obtain ⟨n, -, hn⟩ := h
    simp only [Reference.relative.injEq] at hn
    omega
  · simp at h
  · split at h
    · simp at h
    · split at h <;> simp at h
  · simp at h

theorem checkName_isName {name : List Char} (h : checkName name = .ok ()) : isName name = true := by
  simp only [checkName, fail] at h
  split at h
  · simp at h
  · next hn => simpa using hn

theorem nameUntil_checked {close : Char} {cs rest : List Char} {name : String}
    (h : nameUntil close cs = .ok (name, rest)) : checkName name.toList = .ok () := by
  simp only [nameUntil, fail] at h
  split at h
  · split at h
    · obtain ⟨u, hu, h⟩ := ok_bind h
      replace h := ok_inj h
      rw [← h.1, String.toList_ofList]
      exact hu
    · simp at h
  · simp at h

theorem interval_written {dialect : Dialect} {cs rest : List Char} {min : Nat} {max : Option Nat}
    (h : interval dialect cs = .ok (some (min, max), rest)) :
    min ≤ Repeat.maxWritten ∧ ∀ m ∈ max, m ≤ Repeat.maxWritten := by
  unfold interval at h
  obtain ⟨⟨lo, afterMin⟩, hlo, h⟩ := ok_bind h
  have hmin := repeatCount_le hlo
  simp only at h
  split at h
  · split at h
    · simp only [pure, Except.pure, Except.ok.injEq, Prod.mk.injEq, Option.some.injEq] at h
      obtain ⟨⟨rfl, rfl⟩, -⟩ := h
      exact ⟨hmin _ rfl, fun m hm => hmin m hm⟩
    · simp [pure, Except.pure] at h
  · obtain ⟨⟨hi, afterMax⟩, hhi, h⟩ := ok_bind h
    have hmax := repeatCount_le hhi
    simp only at h
    split at h
    · split at h
      · simp only [pure, Except.pure, Except.ok.injEq, Prod.mk.injEq, Option.some.injEq] at h
        obtain ⟨⟨rfl, rfl⟩, -⟩ := h
        exact ⟨hmin _ rfl, hmax⟩
      · split at h
        · simp only [pure, Except.pure, Except.ok.injEq, Prod.mk.injEq, Option.some.injEq] at h
          obtain ⟨⟨rfl, rfl⟩, -⟩ := h
          exact ⟨Nat.zero_le _, fun m hm => hmax m hm⟩
        · simp [pure, Except.pure] at h
      · simp [pure, Except.pure] at h
    · simp [pure, Except.pure] at h
  · simp [pure, Except.pure] at h

/-! ### Escapes -/

theorem character_ok {ctx : Context} {v : Nat} {form : LiteralForm} {k : TokenKind}
    (h : character ctx v form = .ok k) :
    k = .escaped (Char.ofNat v) form ∧ (ctx.utf = true ∨ (Char.ofNat v).toNat ≤ 0xff) := by
  simp only [character, fail] at h
  split at h
  · simp at h
  · next hutf =>
      split at h
      · next hv =>
          simp only [Except.ok.injEq] at h
          rw [toNat_ofNat_of_valid hv]
          exact ⟨h.symm, by simpa [Classical.or_iff_not_imp_left] using hutf⟩
      · simp at h

/-- The escapes that give a character by its number say no more than that it is allowed. -/
theorem bracedNumber_written {ctx : Context} {base : Nat} {form : LiteralForm} {digits : List Char}
    {malformed tooLarge : ScanFault} {k : TokenKind}
    (h : bracedNumber ctx base form digits malformed tooLarge = .ok k) :
    ∃ v, k = .escaped v form ∧ (ctx.utf = true ∨ v.toNat ≤ 0xff) := by
  simp only [bracedNumber, fail] at h
  generalize (if base = 8 then isOctalDigit else isHexDigit) = isDigit at h
  split at h
  · simp at h
  · split at h
    · simp at h
    · exact ⟨_, character_ok h⟩

theorem classDigit_written {ctx : Context} {c : Char} {cs rest : List Char} {k : TokenKind}
    (hl : isAsciiLetter c = false) (h : classDigit ctx c cs = .ok (k, rest)) :
    ∃ v form, k = .escaped v form ∧ FormWritten ctx true v form := by
  simp only [classDigit] at h
  split at h
  · obtain ⟨k', hk, h⟩ := ok_bind h
    replace h := ok_inj h
    obtain ⟨hk', hv⟩ := character_ok hk
    exact ⟨_, .octal, h.1 ▸ hk', hv⟩
  · next ho =>
      replace h := ok_inj h
      exact ⟨c, .punctuation, h.1.symm, hl, fun _ => ⟨rfl, by simpa using ho⟩⟩

theorem octalEscape_written {ctx : Context} {cs rest : List Char} {k : TokenKind}
    (h : octalEscape ctx cs = .ok (k, rest)) :
    ∃ v, k = .escaped v .octal ∧ (ctx.utf = true ∨ v.toNat ≤ 0xff) := by
  obtain ⟨⟨digits, r⟩, -, h⟩ := ok_bind h
  obtain ⟨k', hk, h⟩ := ok_bind h
  replace h := ok_inj h
  exact h.1 ▸ bracedNumber_written hk

theorem hexEscape_written {ctx : Context} {cs rest : List Char} {k : TokenKind}
    (h : hexEscape ctx cs = .ok (k, rest)) :
    ∃ v, k = .escaped v .hex ∧ (ctx.utf = true ∨ v.toNat ≤ 0xff) := by
  simp only [hexEscape] at h
  split at h
  · obtain ⟨⟨digits, r⟩, -, h⟩ := ok_bind h
    obtain ⟨k', hk, h⟩ := ok_bind h
    replace h := ok_inj h
    exact h.1 ▸ bracedNumber_written hk
  · obtain ⟨k', hk, h⟩ := ok_bind h
    replace h := ok_inj h
    exact ⟨_, h.1 ▸ character_ok hk⟩

theorem controlEscape_written {ctx : Context} {cs rest : List Char} {k : TokenKind}
    (h : controlEscape ctx cs = .ok (k, rest)) (inClass : Bool) :
    ∃ v, k = .escaped v .control ∧ FormWritten ctx inClass v .control := by
  unfold controlEscape at h
  split at h
  · simp [fail] at h
  · next c r =>
      split at h
      · next hc =>
          obtain ⟨k', hk, h⟩ := ok_bind h
          replace h := ok_inj h
          exact ⟨_, h.1 ▸ (character_ok hk).1, c, hc.1, hc.2, rfl⟩
      · simp [fail] at h

theorem codePointEscape_written {ctx : Context} {cs rest : List Char} {k : TokenKind}
    (h : codePointEscape ctx cs = .ok (k, rest)) (inClass : Bool) :
    ∃ v, k = .escaped v .codePoint ∧ FormWritten ctx inClass v .codePoint := by
  simp only [codePointEscape] at h
  split at h
  · next hd =>
      obtain ⟨⟨text, r⟩, -, h⟩ := ok_bind h
      obtain ⟨k', hk, h⟩ := ok_bind h
      replace h := ok_inj h
      obtain ⟨v, hv, -⟩ := bracedNumber_written hk
      exact ⟨v, h.1 ▸ hv, by simpa [FormWritten] using hd⟩
  · simp [fail] at h

theorem propertyEscape_written {upper : Bool} {cs rest : List Char} {k : TokenKind}
    (h : propertyEscape upper cs = .ok (k, rest)) (inClass : Bool) :
    ∃ kind negated, k = .shorthand kind negated ∧ ShorthandWritten inClass negated kind := by
  obtain ⟨⟨text, r⟩, -, ht⟩ := ok_bind h
  obtain ⟨k', hk, he⟩ := ok_bind ht
  replace he := ok_inj he
  rw [← he.1]
  simp only [propertyKind, fail] at hk
  split at hk
  all_goals
    split at hk
    · simp at hk
    · next hname =>
        simp only [Except.ok.injEq] at hk
        refine ⟨_, _, hk.symm, ?_⟩
        simpa [ShorthandWritten] using hname

/-- What is known of a token that refers to a group or calls it. -/
def RefersWritten : TokenKind → Prop
  | .backref ref => ReferenceWritten ref ∧ ∀ i, ref = .relative i → i ≤ 0
  | .subroutine ref => ReferenceWritten ref
  | _ => False

theorem callEscape_written {cs rest : List Char} {k : TokenKind}
    (h : callEscape cs = .ok (k, rest)) : RefersWritten k := by
  have hcall : ∀ {close : Char} {body : List Char},
      callEscape.call close body = .ok (k, rest) → RefersWritten k := by
    intro close body h
    simp only [callEscape.call, fail] at h
    split at h
    · simp at h
    · split at h
      · next ref href =>
          replace h := ok_inj h
          exact h.1 ▸ reference?_written href
      · simp at h
  unfold callEscape at h
  split at h
  · obtain ⟨⟨text, r⟩, -, h⟩ := ok_bind h
    simp only at h
    split at h
    · next ref href =>
        replace h := ok_inj h
        exact h.1 ▸ ⟨reference?_written href, reference?_not_ahead href⟩
    · simp [fail] at h
  · exact hcall h
  · exact hcall h
  · split at h
    · obtain ⟨⟨n, r⟩, hn, h⟩ := ok_bind h
      replace h := ok_inj h
      refine h.1 ▸ ⟨referenceWritten_signed _ (number_getD_le hn), fun i hi => ?_⟩
      simp only [signed, Reference.relative.injEq] at hi
      omega
    · simp [fail] at h
  · split at h
    · obtain ⟨⟨n, r⟩, hn, h⟩ := ok_bind h
      replace h := ok_inj h
      exact h.1 ▸ ⟨number_getD_le hn, fun i hi => by simp at hi⟩
    · simp [fail] at h
  · simp [fail] at h

theorem backrefEscape_written {cs rest : List Char} {k : TokenKind}
    (h : backrefEscape cs = .ok (k, rest)) : RefersWritten k := by
  have hnamed : ∀ {close : Char} {body : List Char},
      backrefEscape.named close body = .ok (k, rest) → RefersWritten k := by
    intro close body h
    simp only [backrefEscape.named, fail] at h
    split at h
    · simp at h
    · obtain ⟨u, hu, h⟩ := ok_bind h
      replace h := ok_inj h
      rw [← h.1]
      refine ⟨?_, fun i hi => by simp at hi⟩
      simpa [ReferenceWritten] using checkName_isName hu
  unfold backrefEscape at h
  split at h
  · exact hnamed h
  · exact hnamed h
  · exact hnamed h
  · simp [fail] at h

/-- The digits of a numeric escape are all that was read. -/
theorem outsideDigit_written {c : Char} {pre rest : List Char} {k : TokenKind}
    (hc : isAsciiDigit c = true) (h : outsideDigit c (pre ++ rest) = .ok (k, rest)) :
    ∃ n, k = .numericEscape n ∧ (c :: pre).all isAsciiDigit = true ∧
      ofDigits 10 (c :: pre) = n ∧ n ≤ maxNumber := by
  simp only [outsideDigit] at h
  split at h
  · next h0 =>
      replace h := ok_inj h
      obtain rfl : pre = [] := by simpa using h.2
      subst h0
      exact ⟨0, h.1.symm, by decide, by decide, Nat.zero_le _⟩
  · obtain ⟨⟨n, r⟩, hn, h⟩ := ok_bind h
    replace h := ok_inj h
    obtain ⟨rfl, rfl⟩ := h
    cases n with
    | none =>
        simp only [number, List.takeWhile_cons, hc, ↓reduceIte, List.isEmpty_cons,
          Bool.false_eq_true, fail] at hn
        split at hn <;> simp at hn
    | some n =>
        obtain ⟨hn1, hn2, hn3⟩ := number_some hn
        have hsplit : c :: pre ++ r = (c :: (pre ++ r)).takeWhile isAsciiDigit ++ r := by
          rw [show (c :: (pre ++ r)).takeWhile isAsciiDigit ++ r =
            (c :: (pre ++ r)).takeWhile isAsciiDigit ++ (c :: (pre ++ r)).dropWhile isAsciiDigit by
              rw [← hn3], List.takeWhile_append_dropWhile]
          rfl
        have htake : c :: pre = (c :: (pre ++ r)).takeWhile isAsciiDigit :=
          List.append_cancel_right hsplit
        refine ⟨n, rfl, ?_, by rw [htake, hn1], hn2⟩
        rw [htake]
        exact List.all_takeWhile

theorem shorthand?_written {c : Char} {kind : ShorthandKind} {negated : Bool}
    (h : shorthand? c = some (kind, negated)) (inClass : Bool) :
    ShorthandWritten inClass negated kind := by
  unfold shorthand? at h
  split at h <;> cases h <;> trivial

theorem outsideEscape?_written {c : Char} {k : TokenKind} (h : outsideEscape? c = some k)
    (ctx : Context) (spacing : Flags) (text : List Char) : OutsideLexeme ctx spacing text k := by
  unfold outsideEscape? at h
  split at h <;> cases h <;> trivial

/-- Of the letters with a token outside a class, only `b` has a meaning inside. -/
theorem isOutsideOnly_of_outsideEscape? {c : Char} {k : TokenKind}
    (h : outsideEscape? c = some k) : isOutsideOnly c = true ∨ c = 'b' := by
  unfold outsideEscape? at h
  split at h <;> first | decide | cases h

theorem escapeToken_outside {ctx : Context} {c : Char} {pre rest : List Char} {k : TokenKind}
    (h : escapeToken ctx false c (pre ++ rest) = .ok (k, rest)) (spacing : Flags) :
    OutsideLexeme ctx spacing ('\\' :: c :: pre) k := by
  have hrefers : RefersWritten k → OutsideLexeme ctx spacing ('\\' :: c :: pre) k := by
    intro hk
    cases k <;> first | exact hk | exact hk.elim
  unfold escapeToken at h
  split at h
  · next value hv =>
      replace h := ok_inj h
      exact h.1 ▸ ⟨c, hv⟩
  · next kind negated _ hs =>
      replace h := ok_inj h
      rw [← h.1]
      exact shorthand?_written hs false
  -- The readers are tried in turn. `split` would go through all that are left at each of them.
  · rcases ite_eq_iff.mp h with ⟨hd, h⟩ | ⟨hd, h⟩
    · rw [if_neg Bool.false_ne_true] at h
      obtain ⟨n, rfl, hall, hval, hle⟩ := outsideDigit_written hd h
      exact ⟨c :: pre, rfl, by simp, hall, hval, hle⟩
    rcases ite_eq_iff.mp h with ⟨-, h⟩ | ⟨-, h⟩
    · obtain ⟨v, rfl, hv⟩ := octalEscape_written h
      exact hv
    rcases ite_eq_iff.mp h with ⟨-, h⟩ | ⟨-, h⟩
    · obtain ⟨v, rfl, hv⟩ := hexEscape_written h
      exact hv
    rcases ite_eq_iff.mp h with ⟨-, h⟩ | ⟨-, h⟩
    · obtain ⟨v, rfl, hv⟩ := controlEscape_written h false
      exact hv
    rcases ite_eq_iff.mp h with ⟨-, h⟩ | ⟨-, h⟩
    · obtain ⟨kind, negated, rfl, hk⟩ := propertyEscape_written h false
      exact hk
    rcases ite_eq_iff.mp h with ⟨-, h⟩ | ⟨-, h⟩
    · obtain ⟨v, rfl, hv⟩ := codePointEscape_written h false
      exact hv
    rcases ite_eq_iff.mp h with ⟨-, h⟩ | ⟨-, h⟩
    · simp [fail] at h
    rcases ite_eq_iff.mp h with ⟨-, h⟩ | ⟨-, h⟩
    · exact hrefers (callEscape_written h)
    rcases ite_eq_iff.mp h with ⟨-, h⟩ | ⟨-, h⟩
    · exact hrefers (backrefEscape_written h)
    split at h
    · next kind hk =>
        replace h := ok_inj h
        rw [← h.1]
        exact outsideEscape?_written hk ctx spacing _
    · rcases ite_eq_iff.mp h with ⟨-, h⟩ | ⟨hl, h⟩
      · simp [fail] at h
      · replace h := ok_inj h
        rw [← h.1]
        exact ⟨by simpa using hl, fun hc => absurd hc hd⟩

/-- No digit is a letter. -/
theorem isAsciiLetter_of_isAsciiDigit {c : Char} (h : isAsciiDigit c = true) :
    isAsciiLetter c = false := by
  simp only [isAsciiDigit, decide_eq_true_eq, Char.le_def, UInt32.le_iff_toNat_le] at h
  simp only [isAsciiLetter, decide_eq_false_iff_not, Char.le_def, UInt32.le_iff_toNat_le]
  have h1 : ('9' : Char).val.toNat = 57 := rfl
  have h2 : ('a' : Char).val.toNat = 97 := rfl
  have h3 : ('A' : Char).val.toNat = 65 := rfl
  omega

theorem escapeToken_inClass {ctx : Context} {c : Char} {cs rest : List Char} {k : TokenKind}
    (h : escapeToken ctx true c cs = .ok (k, rest)) (spacing : Flags) (fresh : Bool) :
    ClassLexeme ctx spacing fresh k := by
  unfold escapeToken at h
  split at h
  · next value hv =>
      replace h := ok_inj h
      exact h.1 ▸ ⟨c, hv⟩
  · next kind negated _ hs =>
      replace h := ok_inj h
      rw [← h.1]
      exact shorthand?_written hs true
  · next hsp hsh =>
    rcases ite_eq_iff.mp h with ⟨hd, h⟩ | ⟨hd, h⟩
    · rw [if_pos rfl] at h
      obtain ⟨v, form, rfl, hv⟩ := classDigit_written (isAsciiLetter_of_isAsciiDigit hd) h
      exact hv
    rcases ite_eq_iff.mp h with ⟨-, h⟩ | ⟨-, h⟩
    · obtain ⟨v, rfl, hv⟩ := octalEscape_written h
      exact hv
    rcases ite_eq_iff.mp h with ⟨-, h⟩ | ⟨-, h⟩
    · obtain ⟨v, rfl, hv⟩ := hexEscape_written h
      exact hv
    rcases ite_eq_iff.mp h with ⟨-, h⟩ | ⟨-, h⟩
    · obtain ⟨v, rfl, hv⟩ := controlEscape_written h true
      exact hv
    rcases ite_eq_iff.mp h with ⟨-, h⟩ | ⟨-, h⟩
    · obtain ⟨kind, negated, rfl, hk⟩ := propertyEscape_written h true
      exact hk
    rcases ite_eq_iff.mp h with ⟨-, h⟩ | ⟨-, h⟩
    · obtain ⟨v, rfl, hv⟩ := codePointEscape_written h true
      exact hv
    rcases ite_eq_iff.mp h with ⟨-, h⟩ | ⟨hout, h⟩
    · simp [fail] at h
    -- What is left of the letters with a meaning outside only is `b`, the backspace here.
    have hg : c ≠ 'g' := by rintro rfl; simp [isOutsideOnly] at hout
    have hk : c ≠ 'k' := by rintro rfl; simp [isOutsideOnly] at hout
    have hb : c ≠ 'b' := by rintro rfl; simp [specialValue?] at hsp
    have hnone : outsideEscape? c = none := by
      refine Option.eq_none_iff_forall_ne_some.mpr fun kind hkind => ?_
      rcases isOutsideOnly_of_outsideEscape? hkind with hletter | hletter
      · exact hout (by simpa using hletter)
      · exact hb hletter
    rw [if_neg hg, if_neg hk, hnone] at h
    simp only at h
    rcases ite_eq_iff.mp h with ⟨-, h⟩ | ⟨hl, h⟩
    · simp [fail] at h
    · replace h := ok_inj h
      rw [← h.1]
      exact ⟨by simpa using hl, fun hc => absurd hc hd⟩

/-! ### Parentheses -/

theorem has_or (f g bits : Flags) : (f ||| g).has bits = (f.has bits || g.has bits) := by
  rw [Bool.eq_iff_iff]
  simp only [Flags.has, bne_iff_ne, Bool.or_eq_true, ne_eq, BitVec.and_or_distrib_right,
    BitVec.or_eq_zero_iff]
  exact Classical.not_and_iff_not_or_not

theorem FlagsWritten.or {d : Dialect} {f g : Flags} (hf : FlagsWritten d f)
    (hg : FlagsWritten d g) : FlagsWritten d (f ||| g) where
  inline := by rw [BitVec.and_or_distrib_right, hf.inline, hg.inline]; rfl
  spacing h := by
    rw [has_or, Bool.or_eq_true] at h ⊢
    exact h.imp hf.spacing hg.spacing
  capture h := by
    rw [has_or, Bool.or_eq_true] at h
    exact h.elim hf.capture hg.capture

theorem flagsWritten_zero (d : Dialect) : FlagsWritten d 0#32 where
  inline := by decide
  spacing h := absurd h (by decide)
  capture h := absurd h (by decide)

theorem flagsWritten_spacing (d : Dialect) : FlagsWritten d Flags.spacing where
  inline := by decide
  spacing _ := by decide
  capture h := absurd h (by decide)

theorem flagsWritten_ofInline {d : Dialect} {c : Char} {bit : Flags}
    (h : Flags.ofInline? c = some bit) (hn : c = 'n' → d.supports .noAutoCapture = true) :
    FlagsWritten d bit := by
  unfold Flags.ofInline? at h
  split at h <;> cases h
  all_goals refine ⟨by decide, by decide, ?_⟩
  all_goals first
    | exact fun _ => hn rfl
    | exact fun hc => absurd hc (by decide)

/-- What is known while inline flags are being read. -/
structure FlagStateWritten (d : Dialect) (s : FlagState) : Prop where
  change : ChangeWritten d s.change
  reset : s.change.reset = true → s.negate = false

theorem FlagStateWritten.note {d : Dialect} {s : FlagState} {bits : Flags}
    (hs : FlagStateWritten d s) (hb : FlagsWritten d bits)
    (hx : s.negate = true → bits.has Flags.extended = true → bits.has Flags.extendedMore = true) :
    FlagStateWritten d (s.note bits) := by
  unfold FlagState.note
  split
  · next hneg =>
      have hreset : s.change.reset = false := by
        cases hr : s.change.reset with
        | false => rfl
        | true => simp [hs.reset hr] at hneg
      refine ⟨⟨hs.change.on, hs.change.off.or hb, ?_, ?_⟩, ?_⟩
      · intro h
        rw [has_or, Bool.or_eq_true] at h ⊢
        exact h.imp hs.change.clear (hx hneg)
      · intro h
        rw [show s.change.reset = true from h] at hreset
        simp at hreset
      · intro h
        rw [show s.change.reset = true from h] at hreset
        simp at hreset
  · exact ⟨⟨hs.change.on.or hb, hs.change.off, hs.change.clear, hs.change.reset⟩, hs.reset⟩

theorem FlagStateWritten.advance {d : Dialect} {s : FlagState} (hs : FlagStateWritten d s)
    (size : Nat) : FlagStateWritten d (s.advance size) := ⟨hs.change, hs.reset⟩

/-- Before the first character nothing is cleared and nothing is to be. -/
def FlagState.Fresh (s : FlagState) : Prop :=
  s.first = true → s.negate = false ∧ s.change.off = 0#32

theorem flag_written {d : Dialect} {s s' : FlagState} {c : Char} (hs : FlagStateWritten d s)
    (hf : s.Fresh) (h : flag d s c = .ok s') : FlagStateWritten d s' ∧ s'.Fresh := by
  simp only [flag, notFlag] at h
  split at h
  · next hc =>
      simp only [Bool.and_eq_true] at hc
      obtain ⟨hneg, hoff⟩ := hf hc.1.2
      simp only [Except.ok.injEq] at h
      subst h
      refine ⟨⟨⟨hs.change.on, hs.change.off, hs.change.clear, fun _ => ⟨hoff, hc.2⟩⟩, ?_⟩, ?_⟩
      · exact fun _ => hneg
      · exact fun hfirst => by simp [FlagState.advance] at hfirst
  · split at h
    · next hc =>
        simp only [Bool.and_eq_true, Bool.not_eq_true'] at hc
        simp only [Except.ok.injEq] at h
        subst h
        refine ⟨⟨hs.change, fun hr => ?_⟩, fun hfirst => by simp [FlagState.advance] at hfirst⟩
        rw [show s.change.reset = true from hr] at hc
        simp at hc
    · split at h
      · next bit hbit =>
          split at h
          · split at h <;> simp [fail] at h
          · next hn =>
              simp only [Except.ok.injEq] at h
              subst h
              refine ⟨FlagStateWritten.advance (hs.note ?_ ?_) 1,
                fun hfirst => by simp [FlagState.advance] at hfirst⟩
              · split
                · exact flagsWritten_spacing d
                · refine flagsWritten_ofInline hbit fun hcn => ?_
                  simpa [hcn] using hn
              · intro hneg hx
                split
                · decide
                · next hxc =>
                    exfalso
                    rw [if_neg hxc] at hx
                    simp only [hneg, Bool.and_true, decide_eq_true_eq] at hxc
                    unfold Flags.ofInline? at hbit
                    split at hbit <;> cases hbit <;> first
                      | exact hxc rfl
                      | exact absurd hx (by decide)
      · split at h <;> simp [fail] at h

theorem flagGroup_written {d : Dialect} {s : FlagState} {cs rest : List Char} {k : TokenKind}
    (hs : FlagStateWritten d s) (hf : s.Fresh) (h : flagGroup d s cs = .ok (k, rest)) :
    ∃ change, ChangeWritten d change ∧
      (k = .inlineFlags change ∨ k = .groupOpen (.modifiers change)) := by
  fun_induction flagGroup d s cs with
  | case1 => simp [fail] at h
  | case2 s rest' ih =>
      refine ih ?_ (fun hfirst => by simp [FlagState.advance] at hfirst) h
      exact FlagStateWritten.advance (hs.note (flagsWritten_spacing d) fun _ _ => by decide) 2
  | case3 s rest' =>
      replace h := ok_inj h
      exact ⟨s.change, hs.change, .inl h.1.symm⟩
  | case4 s rest' =>
      replace h := ok_inj h
      exact ⟨s.change, hs.change, .inr h.1.symm⟩
  | case5 => simp at h
  | case6 s c rest' _ _ _ s' hs' ih =>
      obtain ⟨hw, hf'⟩ := flag_written hs hf hs'
      exact ih hw hf' h

theorem numberedCall_written {cs rest : List Char} {k : TokenKind}
    (h : numberedCall cs = .ok (k, rest)) : RefersWritten k := by
  unfold numberedCall at h
  obtain ⟨⟨n, r⟩, hn, h⟩ := ok_bind h
  simp only at h
  split at h
  · replace h := ok_inj h
    exact h.1 ▸ referenceWritten_signed _ (number_some hn).2.1
  · simp [fail] at h

/-- A test by number or by distance, or by a name that was checked. -/
theorem testWritten_signed (sign : Option Bool) {n : Nat} (h : n ≤ maxNumber) :
    TestWritten (.reference (signed sign n)) := by
  have hw := referenceWritten_signed sign h
  unfold signed at hw ⊢
  split <;> exact hw

theorem plainTest_written {cs rest : List Char} {t : ConditionToken}
    (h : plainTest cs = .ok (t, rest)) : TestWritten t := by
  unfold plainTest at h
  split at h
  · obtain ⟨⟨name, r⟩, hn, h⟩ := ok_bind h
    replace h := ok_inj h
    exact h.1 ▸ nameUntil_checked hn
  · obtain ⟨⟨name, r⟩, hn, h⟩ := ok_bind h
    replace h := ok_inj h
    exact h.1 ▸ nameUntil_checked hn
  · obtain ⟨u, hu, h⟩ := ok_bind h
    replace h := ok_inj h
    rw [← h.1]
    simpa only [TestWritten, String.toList_ofList] using hu
  · replace h := ok_inj h
    exact h.1 ▸ trivial
  · split at h
    · obtain ⟨⟨n, r⟩, hn, h⟩ := ok_bind h
      replace h := ok_inj h
      exact h.1 ▸ number_getD_le hn
    split at h
    · obtain ⟨⟨n, r⟩, hn, h⟩ := ok_bind h
      simp only at h
      split at h
      · replace h := ok_inj h
        exact h.1 ▸ testWritten_signed _ (number_some hn).2.1
      · simp [fail] at h
    split at h
    · replace h := ok_inj h
      exact h.1 ▸ trivial
    split at h
    · obtain ⟨u, hu, h⟩ := ok_bind h
      replace h := ok_inj h
      rw [← h.1]
      simpa only [TestWritten, String.toList_ofList] using hu
    · simp [fail] at h
  · simp [fail] at h

theorem condition_written {cs rest : List Char} {t : ConditionToken}
    (h : condition cs = .ok (t, rest)) : TestWritten t := by
  unfold condition at h
  split at h
  · split at h
    · next look r ha =>
        replace h := ok_inj h
        rw [← h.1]
        unfold assertionTest? at ha
        split at ha <;> simp only [Option.some.injEq, Prod.mk.injEq, reduceCtorEq] at ha
        all_goals exact ha.1 ▸ rfl
    · simp [fail] at h
  · obtain ⟨⟨t', r⟩, ht, h⟩ := ok_bind h
    simp only at h
    split at h
    · replace h := ok_inj h
      exact h.1 ▸ plainTest_written ht
    · simp [fail] at h

theorem callout_written {cs rest : List Char} {k : TokenKind}
    (h : callout cs = .ok (k, rest)) :
    (∃ n, k = .callout (.number n) ∧ n ≤ 255) ∨ ∃ s, k = .callout (.text s) := by
  obtain ⟨⟨arg, r⟩, ha, h⟩ := ok_bind h
  simp only at h
  split at h
  · replace h := ok_inj h
    rw [← h.1]
    unfold calloutArg at ha
    split at ha
    · simp [fail] at ha
    · split at ha
      · replace ha := ok_inj ha
        exact .inl ⟨0, by rw [ha.1], by decide⟩
      split at ha
      · obtain ⟨⟨n, r'⟩, -, ha⟩ := ok_bind ha
        simp only at ha
        split at ha
        · next hle =>
            replace ha := ok_inj ha
            exact .inl ⟨n.getD 0, by rw [ha.1], hle⟩
        · simp [fail] at ha
      split at ha
      · simp [fail] at ha
      · split at ha
        · next text r' _ =>
            replace ha := ok_inj ha
            exact .inr ⟨String.ofList text, by rw [ha.1]⟩
        · simp [fail] at ha
  · simp [fail] at h

theorem not_mem_takeWhile_ne (c : Char) (cs : List Char) : c ∉ cs.takeWhile (· != c) := by
  intro h
  have := List.all_takeWhile (p := (· != c)) (l := cs)
  rw [List.all_eq_true] at this
  simpa using this c h

theorem verbArg_no_close (name cs : List Char) : ∀ a ∈ (verbArg name cs).1, ')' ∉ a := by
  intro a ha
  unfold verbArg at ha
  split at ha
  · simp only [Option.mem_def, Option.some.injEq] at ha
    exact ha ▸ not_mem_takeWhile_ne _ _
  · split at ha
    · simp only [Option.mem_def, Option.some.injEq] at ha
      exact ha ▸ not_mem_takeWhile_ne _ _
    · simp at ha
  · simp at ha

theorem alphaAssertion?_written {name : String} {o : Opener} {d : Dialect}
    (h : alphaAssertion? name = some o) (hd : d.supports .alphaAssertions = true) :
    OpenerWritten d o := by
  unfold alphaAssertion? at h
  split at h <;> cases h <;> trivial

theorem starConstruct_written {ctx : Context} {cs rest : List Char} {k : TokenKind}
    (h : starConstruct ctx.dialect cs = some (.ok (k, rest))) (spacing : Flags)
    (text : List Char) : OutsideLexeme ctx spacing ('(' :: text) k := by
  unfold starConstruct at h
  split at h
  · simp at h
  · next c cs' =>
      split at h
      · next hc =>
          simp only [Option.some.injEq] at h
          split at h
          · next o r ho =>
              split at h
              · next hd =>
                  replace h := ok_inj h
                  rw [← h.1]
                  unfold alphaOpener? at ho
                  split at ho
                  · split at ho
                    · simp only [Option.map_eq_some_iff, Prod.mk.injEq] at ho
                      obtain ⟨o', ho', rfl, -⟩ := ho
                      exact ⟨List.prefix_append ['('] _, alphaAssertion?_written ho' hd⟩
                    · simp at ho
                  · simp at ho
              · simp [fail] at h
          · simp only [verb] at h
            split at h
            · split at h
              · next hk =>
                  replace h := ok_inj h
                  rw [← h.1]
                  refine ⟨?_, ?_, ?_, ?_⟩
                  · simpa [Option.map_map, Function.comp_def] using hk
                  · simp only [String.toList_ofList]
                    exact List.all_takeWhile
                  · intro d hd
                    simp only [String.toList_ofList, List.takeWhile_cons] at hd
                    split at hd
                    · simp only [List.head?_cons, Option.mem_def, Option.some.injEq] at hd
                      subst hd
                      simp only [Bool.or_eq_true, beq_iff_eq] at hc
                      rcases hc with hc | rfl
                      · exact hc
                      · next hv => simp [isVerbChar, isAsciiLetter, isAsciiDigit] at hv
                    · simp at hd
                  · intro a ha
                    simp only [Option.mem_def, Option.map_eq_some_iff] at ha
                    obtain ⟨a', ha', rfl⟩ := ha
                    rw [String.toList_ofList]
                    exact verbArg_no_close _ _ a' ha'
              · simp [fail] at h
            · simp [fail] at h
      · simp at h

theorem namedConstruct_written {cs rest : List Char} {k : TokenKind}
    (h : namedConstruct cs = .ok (k, rest)) :
    RefersWritten k ∨ ∃ name, k = .groupOpen (.named name) ∧ checkName name.toList = .ok () := by
  unfold namedConstruct at h
  split at h
  · obtain ⟨⟨name, r⟩, hn, h⟩ := ok_bind h
    replace h := ok_inj h
    exact .inr ⟨name, h.1.symm, nameUntil_checked hn⟩
  · obtain ⟨⟨name, r⟩, hn, h⟩ := ok_bind h
    replace h := ok_inj h
    refine .inl (h.1 ▸ ⟨checkName_isName (nameUntil_checked hn), fun i hi => by simp at hi⟩)
  · obtain ⟨⟨name, r⟩, hn, h⟩ := ok_bind h
    replace h := ok_inj h
    exact .inl (h.1 ▸ checkName_isName (nameUntil_checked hn))
  · simp [fail] at h

/-- A token that refers to a group or calls it is known outside a class, whatever its text. -/
theorem RefersWritten.outside {k : TokenKind} (h : RefersWritten k) (ctx : Context)
    (spacing : Flags) (text : List Char) : OutsideLexeme ctx spacing text k := by
  cases k <;> first | exact h | exact h.elim

theorem questionConstruct_written {ctx : Context} {pre rest : List Char} {k : TokenKind}
    (h : questionConstruct ctx.dialect (pre ++ rest) = .ok (k, rest)) (spacing : Flags) :
    OutsideLexeme ctx spacing ('(' :: '?' :: pre) k := by
  have hparen : ['('] <+: '(' :: '?' :: pre := List.prefix_append ['('] _
  have hflag : flagGroup ctx.dialect {} (pre ++ rest) = .ok (k, rest) →
      OutsideLexeme ctx spacing ('(' :: '?' :: pre) k := by
    intro h
    have hs : FlagStateWritten ctx.dialect {} :=
      ⟨⟨flagsWritten_zero _, flagsWritten_zero _, fun h => absurd h (by decide),
        fun h => absurd h (by decide)⟩, fun _ => rfl⟩
    obtain ⟨change, hc, rfl | rfl⟩ := flagGroup_written hs (fun _ => ⟨rfl, rfl⟩) h
    · exact ⟨hparen, hc⟩
    · exact ⟨hparen, hc⟩
  generalize hcs : pre ++ rest = cs at h hflag
  unfold questionConstruct at h
  split at h
  · simp [fail] at h
  · unfold comment at h
    split at h
    · simp [fail] at h
    · replace h := ok_inj h
      rw [← h.1]
      simpa only [OutsideLexeme, String.toList_ofList] using not_mem_takeWhile_ne _ _
  iterate 7
    replace h := ok_inj h
    exact h.1 ▸ ⟨hparen, trivial⟩
  · obtain ⟨⟨name, r⟩, hn, h⟩ := ok_bind h
    replace h := ok_inj h
    exact h.1 ▸ ⟨hparen, nameUntil_checked hn⟩
  · obtain ⟨⟨name, r⟩, hn, h⟩ := ok_bind h
    replace h := ok_inj h
    exact h.1 ▸ ⟨hparen, nameUntil_checked hn⟩
  · obtain hr | ⟨name, rfl, hn⟩ := namedConstruct_written h
    · exact hr.outside ctx spacing _
    · exact ⟨hparen, hn⟩
  · obtain ⟨⟨name, r⟩, hn, h⟩ := ok_bind h
    replace h := ok_inj h
    exact h.1 ▸ checkName_isName (nameUntil_checked hn)
  · replace h := ok_inj h
    exact h.1 ▸ Nat.zero_le _
  · next body =>
      obtain ⟨⟨t, r⟩, ht, h⟩ := ok_bind h
      replace h := ok_inj h
      obtain ⟨rfl, rfl⟩ := h
      refine ⟨?_, condition_written ht⟩
      obtain ⟨pre', rfl, -⟩ := eq_cons_of_suffix (condition_suffix ht) hcs
      exact List.prefix_append _ _
  · obtain ⟨n, rfl, hn⟩ | ⟨s, rfl⟩ := callout_written h
    · exact hn
    · trivial
  · split at h
    · exact (numberedCall_written h).outside ctx spacing _
    split at h
    · exact (numberedCall_written h).outside ctx spacing _
    · exact hflag h

theorem paren_written {ctx : Context} {pre rest : List Char} {k : TokenKind}
    (h : paren ctx.dialect (pre ++ rest) = .ok (k, rest)) (spacing : Flags) :
    OutsideLexeme ctx spacing ('(' :: pre) k := by
  generalize hcs : pre ++ rest = cs at h
  unfold paren at h
  split at h
  · next body =>
      cases hs : starConstruct ctx.dialect body with
      | none =>
          rw [hs, Option.getD_none] at h
          replace h := ok_inj h
          exact h.1 ▸ ⟨List.prefix_append ['('] _, trivial⟩
      | some r =>
          rw [hs, Option.getD_some] at h
          exact starConstruct_written (h ▸ hs) spacing _
  · next body =>
      obtain ⟨pre', rfl, rfl⟩ := eq_cons_of_suffix (questionConstruct_suffix h) hcs
      exact questionConstruct_written h spacing
  · replace h := ok_inj h
    exact h.1 ▸ ⟨List.prefix_append ['('] _, trivial⟩

/-! ### Pieces -/

theorem escapePiece_lexeme {m m' : Mode} {inClass : Bool} {ctx : Context} {pre rest : List Char}
    {k : TokenKind} (h : escapePiece m inClass ctx (pre ++ rest) = .ok ⟨some k, m', rest⟩) :
    m' = m ∧ ∃ c pre', pre = c :: pre' ∧ escapeToken ctx inClass c (pre' ++ rest) = .ok (k, rest) := by
  unfold escapePiece at h
  split at h
  · simp at h
  · next kind r he =>
      simp only [Except.ok.injEq, Piece.mk.injEq, Option.some.injEq] at h
      obtain ⟨rfl, rfl, rfl⟩ := h
      refine ⟨rfl, ?_⟩
      generalize hcs : pre ++ r = cs at he
      unfold escape at he
      split at he
      · simp [fail] at he
      · next c cs' =>
          split at he
          · simp at he
          split at he
          · simp at he
          · obtain ⟨⟨k', r'⟩, hk, he⟩ := ok_bind he
            simp only [pure, Except.pure, Except.ok.injEq, Prod.mk.injEq, Escape.token.injEq] at he
            obtain ⟨rfl, rfl⟩ := he
            obtain ⟨pre', rfl, rfl⟩ := eq_cons_of_suffix (escapeToken_suffix hk) hcs
            exact ⟨c, pre', rfl, hk⟩
  · simp at h
  · simp at h

/-- The mode after a token inside a class. -/
def Mode.classAfter (m : Mode) (k : TokenKind) : Mode :=
  { m with place := if k = .classClose then .outside else .inClass false }

/-- The mode after a token outside a class. -/
def Mode.outsideAfter (m : Mode) : TokenKind → Mode
  | .classOpen _ => { m with place := .inClass true }
  | k => m.after k

/-- The mode after a token that was read in a mode. -/
def Mode.advance (m : Mode) (k : TokenKind) : Mode :=
  match m.place with
  | .outside => if m.quoting then m else m.outsideAfter k
  | .inClass _ => m.classAfter k

theorem posixClass?_written {cs rest : List Char} {k : TokenKind}
    (h : posixClass? cs = some (k, rest)) (ctx : Context) (spacing : Flags) (fresh : Bool) :
    ClassLexeme ctx spacing fresh k ∧ k ≠ .classClose := by
  have hname : ∀ {negated : Bool} {text : List Char},
      posixName? negated text = some (k, rest) →
        ClassLexeme ctx spacing fresh k ∧ k ≠ .classClose := by
    intro negated text h
    unfold posixName? at h
    split at h
    · simp only at h
      split at h
      · simp at h
      · next hne =>
          simp only [Option.some.injEq, Prod.mk.injEq] at h
          rw [← h.1]
          refine ⟨⟨?_, ?_⟩, by simp⟩
          · simpa only [String.toList_ofList, List.isEmpty_iff] using hne
          · simp only [String.toList_ofList]
            exact List.all_takeWhile
    · simp at h
  unfold posixClass? at h
  split at h
  · exact hname h
  · exact hname h
  · simp at h

theorem doubled_lexeme (ctx : Context) (c : Char) (operation alone : TokenKind) (cs : List Char) :
    (doubled ctx c operation alone cs).1 = alone ∨
      (doubled ctx c operation alone cs).1 = operation ∧
        ctx.dialect.supports .classSetOperations = true := by
  unfold doubled
  split
  · split
    · next hd =>
        simp only [Bool.and_eq_true] at hd
        exact .inr ⟨rfl, hd.1⟩
    · exact .inl rfl
  · exact .inl rfl

theorem classPiece_lexeme {ctx : Context} {m m' : Mode} {fresh : Bool} {c : Char}
    {pre rest : List Char} {k : TokenKind}
    (h : classPiece ctx m fresh c (pre ++ rest) = .ok ⟨some k, m', rest⟩) :
    ClassLexeme ctx m.spacing fresh k ∧ m' = m.classAfter k := by
  unfold Mode.classAfter
  simp only [classPiece] at h
  split at h
  · simp at h
  · next hblank =>
      have hb : m.spacing.has Flags.extendedMore = true → c ≠ ' ' ∧ c ≠ '\t' := by
        intro hx
        simpa [hx] using hblank
      split at h
      · next hc =>
          split at h
          · next hf =>
              simp only [Except.ok.injEq, Piece.mk.injEq, Option.some.injEq] at h
              obtain ⟨rfl, rfl, -⟩ := h
              exact ⟨⟨by decide, by decide, fun _ => hf, fun hx => by decide⟩, by simp⟩
          · next hf =>
              simp only [Except.ok.injEq, Piece.mk.injEq, Option.some.injEq] at h
              obtain ⟨rfl, rfl, -⟩ := h
              exact ⟨by simpa [ClassLexeme] using hf, by simp⟩
      · next hbracket =>
          split at h
          · obtain ⟨rfl, c', pre', rfl, hk⟩ := escapePiece_lexeme h
            have hl := escapeToken_inClass hk m.spacing true
            refine ⟨escapeToken_inClass hk m.spacing fresh, ?_⟩
            rw [if_neg (by rintro rfl; simp [ClassLexeme] at hl)]
          · next hback =>
              split at h
              · next hopen =>
                  simp only [Except.ok.injEq, Piece.mk.injEq, Option.some.injEq] at h
                  obtain ⟨rfl, rfl, -⟩ := h
                  cases hp : posixClass? (pre ++ rest) with
                  | none =>
                      simp only [Option.getD_none]
                      exact ⟨⟨by decide, by decide, by simp, fun _ => by decide⟩, by simp⟩
                  | some r =>
                      obtain ⟨hl, hne⟩ := posixClass?_written hp ctx m.spacing fresh
                      simp only [Option.getD_some]
                      exact ⟨hl, by rw [if_neg hne]⟩
              · split at h
                · simp only [Except.ok.injEq, Piece.mk.injEq, Option.some.injEq] at h
                  obtain ⟨rfl, rfl, -⟩ := h
                  obtain hd | ⟨hd, hs⟩ :=
                    doubled_lexeme ctx c .classIntersection (.literal '&') (pre ++ rest)
                  · rw [hd]
                    exact ⟨⟨by decide, by decide, by simp, fun _ => by decide⟩, by simp⟩
                  · rw [hd]
                    exact ⟨hs, by simp⟩
                · split at h
                  · simp only [Except.ok.injEq, Piece.mk.injEq, Option.some.injEq] at h
                    obtain ⟨rfl, rfl, -⟩ := h
                    obtain hd | ⟨hd, hs⟩ :=
                      doubled_lexeme ctx c .classSubtraction .classHyphen (pre ++ rest)
                    · rw [hd]
                      exact ⟨trivial, by simp⟩
                    · rw [hd]
                      exact ⟨hs, by simp⟩
                  · next hhyphen =>
                      simp only [Except.ok.injEq, Piece.mk.injEq, Option.some.injEq] at h
                      obtain ⟨rfl, rfl, -⟩ := h
                      exact ⟨⟨hback, hhyphen, fun hc => absurd hc hbracket, hb⟩, by simp⟩

theorem quantifierKind_written {min : Nat} {max : Option Nat} {cs rest : List Char} {k : TokenKind}
    (hw : min ≤ Repeat.maxWritten ∧ ∀ m ∈ max, m ≤ Repeat.maxWritten)
    (h : quantifierKind min max cs = (k, rest)) (ctx : Context) (spacing : Flags)
    (text : List Char) : OutsideLexeme ctx spacing text k := by
  simp only [quantifierKind, Prod.mk.injEq] at h
  exact h.1 ▸ hw

theorem outsideToken_lexeme {ctx : Context} {c : Char} {pre rest : List Char} {k : TokenKind}
    {spacing : Flags} (hskip : spacing ≠ 0 → isPatternBlank c = false ∧ c ≠ '#')
    (hback : c ≠ '\\') (hopen : c ≠ '[')
    (h : outsideToken ctx c (pre ++ rest) = .ok (k, rest)) :
    OutsideLexeme ctx spacing (c :: pre) k := by
  unfold outsideToken at h
  rcases ite_eq_iff.mp h with ⟨hc, h⟩ | ⟨h1, h⟩
  · exact hc ▸ paren_written h spacing
  rcases ite_eq_iff.mp h with ⟨hc, h⟩ | ⟨h2, h⟩
  · replace h := ok_inj h
    exact h.1 ▸ hc ▸ List.prefix_append [')'] _
  rcases ite_eq_iff.mp h with ⟨-, h⟩ | ⟨h3, h⟩
  · replace h := ok_inj h
    exact h.1 ▸ trivial
  rcases ite_eq_iff.mp h with ⟨-, h⟩ | ⟨h4, h⟩
  · replace h := ok_inj h
    exact h.1 ▸ trivial
  rcases ite_eq_iff.mp h with ⟨-, h⟩ | ⟨h5, h⟩
  · replace h := ok_inj h
    exact h.1 ▸ trivial
  rcases ite_eq_iff.mp h with ⟨-, h⟩ | ⟨h6, h⟩
  · replace h := ok_inj h
    exact h.1 ▸ trivial
  rcases ite_eq_iff.mp h with ⟨-, h⟩ | ⟨h7, h⟩
  · exact quantifierKind_written (by decide) (Except.ok.inj h) ctx spacing _
  rcases ite_eq_iff.mp h with ⟨-, h⟩ | ⟨h8, h⟩
  · exact quantifierKind_written (by decide) (Except.ok.inj h) ctx spacing _
  rcases ite_eq_iff.mp h with ⟨-, h⟩ | ⟨h9, h⟩
  · exact quantifierKind_written (by decide) (Except.ok.inj h) ctx spacing _
  rcases ite_eq_iff.mp h with ⟨hbrace, h⟩ | ⟨-, h⟩
  · split at h
    · simp at h
    · next hi => exact quantifierKind_written (interval_written hi) (Except.ok.inj h) ctx spacing _
    · replace h := ok_inj h
      exact h.1 ▸ ⟨by rw [hbrace]; decide, hskip⟩
  · replace h := ok_inj h
    refine h.1 ▸ ⟨?_, hskip⟩
    simp [isSyntax, hback, hopen, h1, h2, h3, h4, h5, h6, h7, h8, h9]

theorem outsidePiece_lexeme {ctx : Context} {m m' : Mode} {c : Char} {pre rest : List Char}
    {k : TokenKind} (h : outsidePiece ctx m c (pre ++ rest) = .ok ⟨some k, m', rest⟩) :
    OutsideLexeme ctx m.spacing (c :: pre) k ∧ m' = m.outsideAfter k := by
  unfold outsidePiece at h
  split at h
  · simp at h
  · next hblank =>
  split at h
  · simp at h
  · next hcomment =>
  have hskip : m.spacing ≠ 0 → isPatternBlank c = false ∧ c ≠ '#' := by
    intro hx
    simp only [bne_iff_ne, ne_eq, Bool.and_eq_true, beq_iff_eq, not_and] at hblank hcomment
    exact ⟨by simpa using hblank hx, hcomment hx⟩
  split at h
  · next hc =>
      obtain ⟨rfl, c', pre', rfl, hk⟩ := escapePiece_lexeme h
      have hl := escapeToken_outside hk m'.spacing
      refine ⟨hc ▸ hl, ?_⟩
      -- The tokens that change the mode start with a bracket or a parenthesis, not a backslash.
      cases k <;> first | rfl | simp [OutsideLexeme] at hl
  · next hback =>
  split at h
  · next hc =>
      simp only at h
      split at h
      all_goals
        simp only [Except.ok.injEq, Piece.mk.injEq, Option.some.injEq] at h
        obtain ⟨rfl, rfl, -⟩ := h
        exact ⟨hc ▸ List.prefix_append ['['] _, rfl⟩
  · next hopen =>
  split at h
  · simp at h
  · next kind r ht =>
      simp only [Except.ok.injEq, Piece.mk.injEq, Option.some.injEq] at h
      obtain ⟨rfl, rfl, rfl⟩ := h
      have hl := outsideToken_lexeme hskip hback hopen ht
      refine ⟨hl, ?_⟩
      cases kind with
      | classOpen n =>
          simp only [OutsideLexeme, List.cons_prefix_cons] at hl
          exact absurd hl.1.symm hopen
      | _ => rfl

theorem quotedPiece_lexeme {m m' : Mode} {c : Char} {cs rest : List Char} {k : TokenKind}
    (hq : m.quoting = true) (h : quotedPiece m c cs = ⟨some k, m', rest⟩) :
    k = .escaped c .quoted ∧ m' = m.advance k := by
  have hliteral : k = .escaped c .quoted ∧
      m' = { m with place := match m.place with
        | .outside => Place.outside
        | .inClass _ => .inClass false } → k = .escaped c .quoted ∧ m' = m.advance k := by
    rintro ⟨rfl, rfl⟩
    refine ⟨rfl, ?_⟩
    unfold Mode.advance Mode.classAfter
    obtain ⟨place, quoting, spacing, saved⟩ := m
    simp only at hq
    subst hq
    cases place with
    | outside => rfl
    | inClass fresh => simp
  unfold quotedPiece at h
  simp only at h
  split at h
  · split at h
    · simp at h
    · simp only [Piece.mk.injEq, Option.some.injEq] at h
      exact hliteral ⟨h.1.symm, h.2.1.symm⟩
  · simp only [Piece.mk.injEq, Option.some.injEq] at h
    exact hliteral ⟨h.1.symm, h.2.1.symm⟩

/-- Every token is a lexeme of the mode that it was read in, and the mode goes on from it. -/
theorem scan_lexeme {ctx : Context} {m m' : Mode} {c : Char} {pre rest : List Char}
    {k : TokenKind} (h : scan ctx m c (pre ++ rest) = .ok ⟨some k, m', rest⟩) :
    Lexeme ctx m (c :: pre) k ∧ m' = m.advance k := by
  unfold scan at h
  unfold Lexeme
  split at h
  · next hq =>
      rw [if_pos hq]
      obtain ⟨hk, hm⟩ := quotedPiece_lexeme hq (Except.ok.inj h)
      exact ⟨⟨c, hk⟩, hm⟩
  · next hq =>
      rw [if_neg hq]
      unfold Mode.advance
      split at h
      · next fresh hp =>
          rw [hp]
          exact classPiece_lexeme h
      · next hp =>
          rw [hp, if_neg hq]
          exact outsidePiece_lexeme h

end Token

end PatternLint
