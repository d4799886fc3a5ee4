import PatternLint.Proofs.Token.Counts

/-!
# A blank behind a token

A blank that is put into a pattern behind a token does not change what that token is,
although readers look beyond the end of what they read: for the longest number, for a
brace that turns out to open no repetition, for a bracket that turns out to open no
class with a name. Most readers stop at a character that is no blank, or the text that
they look for has no blanks in it, so a blank can only cut it short. Counts may have
blanks between them, but a blank more among them is read as the blanks that were there.

The place of the blank is given by the number of characters behind it, which does not
change while readers take characters from the front.
-/

namespace PatternLint

namespace Text

variable {w : Char} {n : Nat}

/-- Puts a character into a text, before the last `n` characters. -/
def spaced (w : Char) (n : Nat) : List Char → List Char
  | [] => [w]
  | c :: cs => if n ≤ cs.length then c :: spaced w n cs else w :: c :: cs

theorem spaced_cons {c : Char} {cs : List Char} (h : n ≤ cs.length) :
    spaced w n (c :: cs) = c :: spaced w n cs := if_pos h

theorem spaced_of_length_le {cs : List Char} (h : cs.length ≤ n) : spaced w n cs = w :: cs := by
  cases cs with
  | nil => rfl
  | cons c cs =>
      rw [List.length_cons] at h
      exact if_neg (by omega)

/-- The new character comes behind a word that is in front of it. -/
theorem spaced_append {tail : List Char} (pre : List Char) (h : n ≤ tail.length) :
    spaced w n (pre ++ tail) = pre ++ spaced w n tail := by
  induction pre with
  | nil => rfl
  | cons c pre ih =>
      have hle : n ≤ (pre ++ tail).length := by
        rw [List.length_append]
        omega
      rw [List.cons_append, spaced_cons hle, ih]
      rfl

/-- What comes first is the new character or what came first before. -/
theorem mem_head?_spaced {c : Char} {cs : List Char} (h : c ∈ (spaced w n cs).head?) :
    c = w ∨ c ∈ cs.head? := by
  cases cs with
  | nil => exact .inl (Option.some.inj h).symm
  | cons d cs =>
      by_cases hn : n ≤ cs.length
      · rw [spaced_cons hn] at h
        exact .inr h
      · rw [spaced_of_length_le (by rw [List.length_cons]; omega)] at h
        exact .inl (Option.some.inj h).symm

/-- A text with one more character in it. -/
def Inserted (w : Char) (cs cs' : List Char) : Prop :=
  ∃ before after, cs = before ++ after ∧ cs' = before ++ w :: after

theorem inserted_spaced (w : Char) (n : Nat) (cs : List Char) : Inserted w cs (spaced w n cs) := by
  induction cs with
  | nil => exact ⟨[], [], rfl, rfl⟩
  | cons c cs ih =>
      by_cases h : n ≤ cs.length
      · obtain ⟨before, after, hcs, hspaced⟩ := ih
        refine ⟨c :: before, after, by rw [hcs, List.cons_append], ?_⟩
        rw [spaced_cons h, hspaced, List.cons_append]
      · exact ⟨[], c :: cs, rfl, if_neg h⟩

theorem Inserted.mem {cs cs' : List Char} (h : Inserted w cs cs') : w ∈ cs' := by
  obtain ⟨before, after, -, rfl⟩ := h
  simp

theorem Inserted.subset {cs cs' : List Char} (h : Inserted w cs cs') : cs ⊆ cs' := by
  obtain ⟨before, after, rfl, rfl⟩ := h
  intro c hc
  rcases List.mem_append.mp hc with hc | hc
  · exact List.mem_append_left _ hc
  · exact List.mem_append_right _ (List.mem_cons_of_mem w hc)

/-- Of two parts of a text, one has the new character in it. -/
theorem Inserted.append {cs front back : List Char} (h : Inserted w cs (front ++ back)) :
    (∃ front', Inserted w front' front ∧ cs = front' ++ back) ∨
      ∃ back', Inserted w back' back ∧ cs = front ++ back' := by
  obtain ⟨before, after, rfl, heq⟩ := h
  rcases List.append_eq_append_iff.mp heq with ⟨mid, hbefore, hback⟩ | ⟨mid, hfront, hafter⟩
  · exact .inr ⟨mid ++ after, ⟨mid, after, rfl, hback⟩, by rw [hbefore, List.append_assoc]⟩
  · cases mid with
    | nil =>
        rw [List.append_nil] at hfront
        exact .inr ⟨after, ⟨[], after, rfl, hafter.symm⟩, by rw [hfront]⟩
    | cons d mid =>
        rw [List.cons_append, List.cons.injEq] at hafter
        obtain ⟨rfl, rfl⟩ := hafter
        exact .inl ⟨before ++ mid, ⟨before, mid, rfl, hfront⟩, by rw [List.append_assoc]⟩

/-- A word without the new character at the start of a text was there before. -/
theorem Inserted.word {cs word back : List Char} (h : Inserted w cs (word ++ back))
    (hw : w ∉ word) : ∃ back', cs = word ++ back' := by
  rcases h.append with ⟨front', hfront, -⟩ | ⟨back', -, hcs⟩
  · exact absurd hfront.mem hw
  · exact ⟨back', hcs⟩

/-- What stands before the first character that fails a test stays as it is, if the test stops at
the new character or before it. -/
theorem takeWhile_spaced {p : Char → Bool} {cs : List Char} (hn : n ≤ (cs.dropWhile p).length)
    (hw : p w = false ∨ n < (cs.dropWhile p).length) :
    (spaced w n cs).takeWhile p = cs.takeWhile p ∧
      (spaced w n cs).dropWhile p = spaced w n (cs.dropWhile p) := by
  induction cs with
  | nil =>
      have hstop : p w = false := hw.resolve_right (Nat.not_lt_zero n)
      simp [spaced, hstop]
  | cons c cs ih =>
      cases hc : p c with
      | true =>
          rw [List.dropWhile_cons_of_pos hc] at hn hw
          have hle : (cs.dropWhile p).length ≤ cs.length := (List.dropWhile_suffix p).length_le
          obtain ⟨htake, hdrop⟩ := ih hn hw
          rw [spaced_cons (by omega), List.takeWhile_cons_of_pos hc, List.takeWhile_cons_of_pos hc,
            List.dropWhile_cons_of_pos hc, List.dropWhile_cons_of_pos hc, htake, hdrop]
          exact ⟨rfl, rfl⟩
      | false =>
          have hc' : ¬ p c = true := by simp [hc]
          rw [List.dropWhile_cons_of_neg hc'] at hn hw ⊢
          rw [List.takeWhile_cons_of_neg hc']
          by_cases hlt : n ≤ cs.length
          · rw [spaced_cons hlt, List.takeWhile_cons_of_neg hc', List.dropWhile_cons_of_neg hc']
            exact ⟨rfl, rfl⟩
          · have hstop : p w = false := by
              refine hw.resolve_right ?_
              rw [List.length_cons]
              omega
            have hstop' : ¬ p w = true := by simp [hstop]
            rw [spaced_of_length_le (by rw [List.length_cons]; omega),
              List.takeWhile_cons_of_neg hstop', List.dropWhile_cons_of_neg hstop']
            exact ⟨rfl, rfl⟩

/-- A text up to a mark stays as it is, where the new character comes behind the mark. -/
theorem takeWhile_spaced_of_cons {p : Char → Bool} {c : Char} {cs rest : List Char}
    (h : cs.dropWhile p = c :: rest) (hn : n ≤ rest.length) :
    (spaced w n cs).takeWhile p = cs.takeWhile p ∧
      (spaced w n cs).dropWhile p = c :: spaced w n rest := by
  have hlt : n < (cs.dropWhile p).length := by
    rw [h, List.length_cons]
    omega
  obtain ⟨htake, hdrop⟩ := takeWhile_spaced (w := w) (Nat.le_of_lt hlt) (.inr hlt)
  rw [h, spaced_cons hn] at hdrop
  exact ⟨htake, hdrop⟩

end Text

namespace Token

open Text Unicode

section Blank

variable {w : Char} (hw : isPatternBlank w = true)
include hw

/-- There are eleven blanks, so a test can be tried on all of them. -/
theorem eq_false_of_blank (p : Char → Bool)
    (h : ∀ k ∈ [0x20, 0x9, 0xa, 0xb, 0xc, 0xd, 0x85, 0x200e, 0x200f, 0x2028, 0x2029],
      p (Char.ofNat k) = false) : p w = false := by
  rw [isPatternBlank, List.contains_iff_mem] at hw
  rw [← Char.ofNat_toNat w]
  exact h w.toNat hw

theorem isAsciiDigit_blank : isAsciiDigit w = false :=
  eq_false_of_blank hw isAsciiDigit (by decide)

theorem isOctalDigit_blank : isOctalDigit w = false :=
  eq_false_of_blank hw isOctalDigit (by decide)

theorem isHexDigit_blank : isHexDigit w = false :=
  eq_false_of_blank hw isHexDigit (by decide)

theorem isAsciiLetter_blank : isAsciiLetter w = false :=
  eq_false_of_blank hw isAsciiLetter (by decide)

theorem isPosixChar_blank : isPosixChar w = false :=
  eq_false_of_blank hw isPosixChar (by decide)

theorem ne_of_blank {c : Char} (hc : isPatternBlank c = false) : w ≠ c := by
  rintro rfl
  rw [hw] at hc
  cases hc

theorem not_mem_of_blank {word : List Char} (hword : ∀ c ∈ word, isPatternBlank c = false) :
    w ∉ word :=
  fun hmem => ne_of_blank hw (hword w hmem) rfl

end Blank

/-! ### Pieces of tokens -/

section Reader

variable {w : Char} {n : Nat} {cs rest : List Char}

theorem number_spaced {value : Option Nat} (hw : isPatternBlank w = true)
    (h : number cs = .ok (value, rest)) (hn : n ≤ rest.length) :
    number (spaced w n cs) = .ok (value, spaced w n rest) := by
  have hstop : isAsciiDigit w = false := isAsciiDigit_blank hw
  unfold number at h ⊢
  simp only [fail] at h ⊢
  split at h
  · next hnone =>
      rw [Except.ok.injEq, Prod.mk.injEq] at h
      obtain ⟨rfl, rfl⟩ := h
      have hsplit := List.takeWhile_append_dropWhile (p := isAsciiDigit) (l := cs)
      rw [List.isEmpty_iff.mp hnone, List.nil_append] at hsplit
      rw [← hsplit] at hn
      rw [(takeWhile_spaced hn (.inl hstop)).1, if_pos hnone]
  · next hsome =>
      split at h
      · next hle =>
          rw [Except.ok.injEq, Prod.mk.injEq] at h
          obtain ⟨rfl, rfl⟩ := h
          obtain ⟨htake, hdrop⟩ := takeWhile_spaced hn (.inl hstop)
          rw [htake, hdrop, if_neg hsome, if_pos hle]
      · cases h

/-- The text up to a closing brace, without a look at an opening brace. -/
def bracedText (escape : BracedEscape) (body : List Char) :
    Except ScanError (List Char × List Char) :=
  match body.dropWhile (· != '\x7d') with
  | [] => fail (.unclosedBrace escape)
  | _ :: rest => .ok (body.takeWhile (· != '\x7d'), rest)

theorem braced_cons (escape : BracedEscape) (c : Char) (cs : List Char) :
    braced escape (c :: cs) = bracedText escape (if c = '\x7b' then cs else c :: cs) := by
  by_cases hc : c = '\x7b'
  · subst hc
    rfl
  · rw [if_neg hc, braced]
    · rfl
    · exact fun _ heq => hc (List.cons.inj heq).1

theorem bracedText_spaced {escape : BracedEscape} {text : List Char}
    (h : bracedText escape cs = .ok (text, rest)) (hn : n ≤ rest.length) :
    n < cs.length ∧ bracedText escape (spaced w n cs) = .ok (text, spaced w n rest) := by
  unfold bracedText at h ⊢
  split at h
  · cases h
  · next d tail hdrop =>
      rw [Except.ok.injEq, Prod.mk.injEq] at h
      obtain ⟨rfl, rfl⟩ := h
      have hle := (hdrop ▸ List.dropWhile_suffix (l := cs) (· != '\x7d')).length_le
      rw [List.length_cons] at hle
      obtain ⟨htake, hdrop'⟩ := takeWhile_spaced_of_cons (w := w) hdrop hn
      rw [htake, hdrop']
      exact ⟨by omega, rfl⟩

theorem braced_spaced {escape : BracedEscape} {text : List Char}
    (h : braced escape cs = .ok (text, rest)) (hn : n ≤ rest.length) :
    n < cs.length ∧ braced escape (spaced w n cs) = .ok (text, spaced w n rest) := by
  cases cs with
  | nil => cases h
  | cons c cs =>
      rw [braced_cons] at h
      obtain ⟨hlt, hspaced⟩ := bracedText_spaced (w := w) h hn
      rw [List.length_cons]
      by_cases hc : c = '\x7b'
      · rw [if_pos hc] at hlt hspaced
        rw [spaced_cons (Nat.le_of_lt hlt), braced_cons, if_pos hc, hspaced]
        exact ⟨by omega, rfl⟩
      · rw [if_neg hc, List.length_cons] at hlt
        rw [if_neg hc, spaced_cons (by omega)] at hspaced
        rw [spaced_cons (by omega), braced_cons, if_neg hc, hspaced]
        exact ⟨hlt, rfl⟩

theorem nameUntil_spaced {close : Char} {name : String} (h : nameUntil close cs = .ok (name, rest))
    (hn : n ≤ rest.length) : nameUntil close (spaced w n cs) = .ok (name, spaced w n rest) := by
  unfold nameUntil at h ⊢
  simp only [fail] at h ⊢
  split at h
  · next c tail hdrop =>
      split at h
      · next hc =>
          obtain ⟨_, hname, h⟩ := ok_bind h
          obtain ⟨rfl, rfl⟩ := Prod.mk.inj (Except.ok.inj h)
          obtain ⟨htake, hdrop'⟩ := takeWhile_spaced_of_cons (w := w) hdrop hn
          simp only [htake, hdrop', if_pos hc, hname]
          rfl
      · cases h
  · cases h

/-- A reader that takes one of two marks from the front, if there is one. -/
theorem mark_spaced {α : Type} {f : List Char → α × List Char} {a b : Char} {x y z v : α}
    (ha : ∀ cs, f (a :: cs) = (x, cs)) (hb : ∀ cs, f (b :: cs) = (y, cs))
    (hplain : ∀ cs, (∀ c ∈ cs.head?, c ≠ a ∧ c ≠ b) → f cs = (z, cs)) (hw : w ≠ a ∧ w ≠ b)
    (h : f cs = (v, rest)) (hn : n ≤ rest.length) :
    f (spaced w n cs) = (v, spaced w n rest) := by
  by_cases hhead : ∀ c ∈ cs.head?, c ≠ a ∧ c ≠ b
  · rw [hplain cs hhead] at h
    obtain ⟨rfl, rfl⟩ := Prod.mk.inj h
    refine hplain _ fun c hc => ?_
    rcases mem_head?_spaced hc with rfl | hc
    · exact hw
    · exact hhead c hc
  · cases cs with
    | nil => simp at hhead
    | cons c cs =>
        have hc : c = a ∨ c = b := by
          simpa only [List.head?_cons, Option.mem_some_iff, forall_eq', not_and_or,
            Decidable.not_not, ne_eq] using hhead
        rcases hc with rfl | rfl
        · rw [ha] at h
          obtain ⟨rfl, rfl⟩ := Prod.mk.inj h
          rw [spaced_cons hn, ha]
        · rw [hb] at h
          obtain ⟨rfl, rfl⟩ := Prod.mk.inj h
          rw [spaced_cons hn, hb]

theorem greed_spaced (hw : isPatternBlank w = true) {g : Greed} (h : greed cs = (g, rest))
    (hn : n ≤ rest.length) : greed (spaced w n cs) = (g, spaced w n rest) := by
  refine mark_spaced (a := '?') (b := '+') (z := .greedy) (fun _ => rfl) (fun _ => rfl)
    (fun cs hcs => ?_) ⟨ne_of_blank hw (by decide), ne_of_blank hw (by decide)⟩ h hn
  unfold greed
  split
  · simp at hcs
  · simp at hcs
  · rfl

theorem digitsUpTo_of_head {limit : Nat} {p : Char → Bool} (h : ∀ c ∈ cs.head?, p c = false) :
    digitsUpTo limit p cs = ([], cs) := by
  cases limit with
  | zero => rfl
  | succ limit =>
      cases cs with
      | nil => rfl
      | cons c cs => simp [digitsUpTo, h c rfl]

theorem digitsUpTo_cons {limit : Nat} {p : Char → Bool} {c : Char} (hc : p c = true)
    (cs : List Char) : digitsUpTo (limit + 1) p (c :: cs) =
      (c :: (digitsUpTo limit p cs).1, (digitsUpTo limit p cs).2) := by
  simp [digitsUpTo, hc]

theorem digitsUpTo_spaced {limit : Nat} {p : Char → Bool} {digits : List Char} (hw : p w = false)
    (h : digitsUpTo limit p cs = (digits, rest)) (hn : n ≤ rest.length) :
    digitsUpTo limit p (spaced w n cs) = (digits, spaced w n rest) := by
  induction limit generalizing cs digits with
  | zero =>
      obtain ⟨rfl, rfl⟩ := Prod.mk.inj h
      rfl
  | succ limit ih =>
      by_cases hhead : ∀ c ∈ cs.head?, p c = false
      · rw [digitsUpTo_of_head hhead] at h
        obtain ⟨rfl, rfl⟩ := Prod.mk.inj h
        refine digitsUpTo_of_head fun c hc => ?_
        rcases mem_head?_spaced hc with rfl | hc
        · exact hw
        · exact hhead c hc
      · cases cs with
        | nil => simp at hhead
        | cons c cs =>
            have hc : p c = true := by simpa using hhead
            rw [digitsUpTo_cons hc] at h
            obtain ⟨rfl, rfl⟩ := Prod.mk.inj h
            have hle := (digitsUpTo_suffix limit p cs).length_le
            rw [spaced_cons (Nat.le_trans hn hle), digitsUpTo_cons hc, ih rfl]
            rfl

/-! ### Escapes -/

variable {ctx : Context} {k : TokenKind}

theorem classDigit_spaced (hw : isPatternBlank w = true) {c : Char}
    (h : classDigit ctx c cs = .ok (k, rest)) (hn : n ≤ rest.length) :
    classDigit ctx c (spaced w n cs) = .ok (k, spaced w n rest) := by
  unfold classDigit at h ⊢
  split at h
  · next hc =>
      cases hdigits : digitsUpTo 2 isOctalDigit cs with
      | mk more tail =>
      rw [hdigits] at h
      obtain ⟨kind, hkind, h⟩ := ok_bind h
      obtain ⟨rfl, rfl⟩ := Prod.mk.inj (Except.ok.inj h)
      rw [if_pos hc, digitsUpTo_spaced (isOctalDigit_blank hw) hdigits hn]
      show (character ctx (ofDigits 8 (c :: more)) .octal >>= _) = _
      rw [hkind]
      rfl
  · next hc =>
      obtain ⟨rfl, rfl⟩ := Prod.mk.inj (Except.ok.inj h)
      rw [if_neg hc]

theorem outsideDigit_spaced (hw : isPatternBlank w = true) {c : Char} (hc : isAsciiDigit c = true)
    (h : outsideDigit c cs = .ok (k, rest)) (hn : n ≤ rest.length) :
    outsideDigit c (spaced w n cs) = .ok (k, spaced w n rest) := by
  unfold outsideDigit at h ⊢
  split at h
  · next hzero =>
      obtain ⟨rfl, rfl⟩ := Prod.mk.inj (Except.ok.inj h)
      rw [if_pos hzero]
  · next hzero =>
      obtain ⟨⟨value, tail⟩, hnumber, h⟩ := ok_bind h
      obtain ⟨rfl, rfl⟩ := Prod.mk.inj (Except.ok.inj h)
      have hle := (number_cons_suffix hc hnumber).length_le
      have hspaced := number_spaced hw hnumber hn
      rw [spaced_cons (Nat.le_trans hn hle)] at hspaced
      rw [if_neg hzero, hspaced]
      rfl

theorem octalEscape_spaced (h : octalEscape ctx cs = .ok (k, rest)) (hn : n ≤ rest.length) :
    octalEscape ctx (spaced w n cs) = .ok (k, spaced w n rest) := by
  unfold octalEscape at h ⊢
  obtain ⟨⟨digits, tail⟩, hbraced, h⟩ := ok_bind h
  obtain ⟨kind, hkind, h⟩ := ok_bind h
  obtain ⟨rfl, rfl⟩ := Prod.mk.inj (Except.ok.inj h)
  rw [(braced_spaced hbraced hn).2]
  show (bracedNumber ctx 8 .octal digits .notOctal .octalTooLarge >>= _) = _
  rw [hkind]
  rfl

theorem hexEscape_spaced (hw : isPatternBlank w = true) (h : hexEscape ctx cs = .ok (k, rest))
    (hn : n ≤ rest.length) : hexEscape ctx (spaced w n cs) = .ok (k, spaced w n rest) := by
  unfold hexEscape at h ⊢
  split at h
  · next hopen =>
      obtain ⟨⟨digits, tail⟩, hbraced, h⟩ := ok_bind h
      obtain ⟨kind, hkind, h⟩ := ok_bind h
      obtain ⟨rfl, rfl⟩ := Prod.mk.inj (Except.ok.inj h)
      obtain ⟨hlt, hspaced⟩ := braced_spaced (w := w) hbraced hn
      have hopen' : (spaced w n cs).head? = some '\x7b' := by
        cases cs with
        | nil => cases hopen
        | cons c cs =>
            rw [List.length_cons] at hlt
            rw [spaced_cons (by omega)]
            exact hopen
      rw [if_pos hopen', hspaced]
      show (bracedNumber ctx 16 .hex digits .notHex .hexTooLarge >>= _) = _
      rw [hkind]
      rfl
  · next hopen =>
      cases hdigits : digitsUpTo 2 isHexDigit cs with
      | mk digits tail =>
      rw [hdigits] at h
      obtain ⟨kind, hkind, h⟩ := ok_bind h
      obtain ⟨rfl, rfl⟩ := Prod.mk.inj (Except.ok.inj h)
      have hopen' : ¬ (spaced w n cs).head? = some '\x7b' := by
        intro hhead
        rcases mem_head?_spaced hhead with hc | hc
        · exact ne_of_blank hw (by decide) hc.symm
        · exact hopen hc
      rw [if_neg hopen', digitsUpTo_spaced (isHexDigit_blank hw) hdigits hn]
      show (character ctx (ofDigits 16 digits) .hex >>= _) = _
      rw [hkind]
      rfl

theorem controlEscape_spaced (h : controlEscape ctx cs = .ok (k, rest)) (hn : n ≤ rest.length) :
    controlEscape ctx (spaced w n cs) = .ok (k, spaced w n rest) := by
  unfold controlEscape at h
  split at h
  · cases h
  · next c tail =>
      split at h
      · next hc =>
          obtain ⟨kind, hkind, h⟩ := ok_bind h
          obtain ⟨rfl, rfl⟩ := Prod.mk.inj (Except.ok.inj h)
          rw [spaced_cons hn, controlEscape, if_pos hc, hkind]
          rfl
      · cases h

theorem codePointEscape_spaced (h : codePointEscape ctx cs = .ok (k, rest)) (hn : n ≤ rest.length) :
    codePointEscape ctx (spaced w n cs) = .ok (k, spaced w n rest) := by
  unfold codePointEscape at h ⊢
  split at h
  · next hutf =>
      obtain ⟨⟨text, tail⟩, hbraced, h⟩ := ok_bind h
      obtain ⟨kind, hkind, h⟩ := ok_bind h
      obtain ⟨rfl, rfl⟩ := Prod.mk.inj (Except.ok.inj h)
      rw [if_pos hutf, (braced_spaced hbraced hn).2]
      show (bracedNumber ctx 16 .codePoint (text.drop 2) .notHexCodePoint .codePointTooLarge >>= _)
        = _
      rw [hkind]
      rfl
  · cases h

theorem propertyText_spaced {text : List Char} (h : propertyText cs = .ok (text, rest))
    (hn : n ≤ rest.length) : propertyText (spaced w n cs) = .ok (text, spaced w n rest) := by
  unfold propertyText at h
  split at h
  · next c tail =>
      split at h
      · next hc =>
          obtain ⟨hlt, hspaced⟩ := braced_spaced (w := w) h hn
          rw [List.length_cons] at hlt
          rw [spaced_cons (by omega)] at hspaced ⊢
          rw [propertyText]
          simp only [if_pos hc, hspaced]
      · next hc =>
          split at h
          · next hletter =>
              obtain ⟨rfl, rfl⟩ := Prod.mk.inj (Except.ok.inj h)
              rw [spaced_cons hn, propertyText]
              simp only [if_neg hc, if_pos hletter]
          · cases h
  · cases h

theorem propertyEscape_spaced {upper : Bool} (h : propertyEscape upper cs = .ok (k, rest))
    (hn : n ≤ rest.length) : propertyEscape upper (spaced w n cs) = .ok (k, spaced w n rest) := by
  unfold propertyEscape at h ⊢
  obtain ⟨⟨text, tail⟩, htext, h⟩ := ok_bind h
  obtain ⟨kind, hkind, h⟩ := ok_bind h
  obtain ⟨rfl, rfl⟩ := Prod.mk.inj (Except.ok.inj h)
  rw [propertyText_spaced htext hn]
  show (propertyKind upper text >>= _) = _
  rw [hkind]
  rfl

theorem call_spaced {close : Char} (h : callEscape.call close cs = .ok (k, rest))
    (hn : n ≤ rest.length) : callEscape.call close (spaced w n cs) = .ok (k, spaced w n rest) := by
  unfold callEscape.call at h ⊢
  split at h
  · cases h
  · next d tail hdrop =>
      split at h
      · next ref href =>
          obtain ⟨rfl, rfl⟩ := Prod.mk.inj (Except.ok.inj h)
          obtain ⟨htake, hdrop'⟩ := takeWhile_spaced_of_cons (w := w) hdrop hn
          simp only [htake, hdrop', href]
      · cases h

/-- A digit after `g` is the first one of a number. -/
theorem callEscape_digit {d : Char} (hd : isAsciiDigit d = true) (cs : List Char) :
    callEscape (d :: cs) =
      (number (d :: cs) >>= fun r => .ok (.backref (.number (r.1.getD 0)), r.2)) := by
  unfold callEscape
  split
  · next heq => exact absurd (List.cons.inj heq).1 (digit_ne hd (by decide))
  · next heq => exact absurd (List.cons.inj heq).1 (digit_ne hd (by decide))
  · next heq => exact absurd (List.cons.inj heq).1 (digit_ne hd (by decide))
  · next heq => exact absurd (List.cons.inj heq).1 (digit_ne hd (by decide))
  · next heq =>
      obtain ⟨rfl, rfl⟩ := List.cons.inj heq
      rw [if_pos hd]
      rfl
  · next heq => cases heq

theorem callEscape_spaced (hw : isPatternBlank w = true) (h : callEscape cs = .ok (k, rest))
    (hn : n ≤ rest.length) : callEscape (spaced w n cs) = .ok (k, spaced w n rest) := by
  have hle := (callEscape_suffix h).length_le
  unfold callEscape at h
  split at h
  · next tail =>
      obtain ⟨⟨text, rest'⟩, hbraced, h⟩ := ok_bind h
      simp only at h
      split at h
      · next ref href =>
          obtain ⟨rfl, rfl⟩ := Prod.mk.inj (Except.ok.inj h)
          obtain ⟨hlt, hspaced⟩ := braced_spaced (w := w) hbraced hn
          rw [List.length_cons] at hlt
          rw [spaced_cons (by omega)] at hspaced ⊢
          rw [callEscape, hspaced]
          simp only [bind, Except.bind, href]
          rfl
      · cases h
  · next body =>
      have hsuffix := (call_suffix h).length_le
      rw [spaced_cons (Nat.le_trans hn hsuffix), callEscape, call_spaced h hn]
  · next body =>
      have hsuffix := (call_suffix h).length_le
      rw [spaced_cons (Nat.le_trans hn hsuffix), callEscape, call_spaced h hn]
  · next d tail =>
      split at h
      · next hd =>
          obtain ⟨⟨value, rest'⟩, hnumber, h⟩ := ok_bind h
          obtain ⟨rfl, rfl⟩ := Prod.mk.inj (Except.ok.inj h)
          have hsuffix := (number_cons_suffix hd hnumber).length_le
          have hspaced := number_spaced hw hnumber hn
          rw [spaced_cons (by omega)] at hspaced
          rw [spaced_cons (by rw [List.length_cons]; omega), spaced_cons (by omega), callEscape,
            if_pos hd, hspaced]
          rfl
      · cases h
  · next d tail _ _ _ _ =>
      split at h
      · next hd =>
          obtain ⟨⟨value, rest'⟩, hnumber, h⟩ := ok_bind h
          obtain ⟨rfl, rfl⟩ := Prod.mk.inj (Except.ok.inj h)
          have hsuffix := (number_cons_suffix hd hnumber).length_le
          have hspaced := number_spaced hw hnumber hn
          rw [spaced_cons (by omega)] at hspaced ⊢
          rw [callEscape_digit hd, hspaced]
          rfl
      · cases h
  · cases h

theorem named_spaced {close : Char} (h : backrefEscape.named close cs = .ok (k, rest))
    (hn : n ≤ rest.length) :
    backrefEscape.named close (spaced w n cs) = .ok (k, spaced w n rest) := by
  unfold backrefEscape.named at h ⊢
  split at h
  · cases h
  · next d tail hdrop =>
      obtain ⟨_, hname, h⟩ := ok_bind h
      obtain ⟨rfl, rfl⟩ := Prod.mk.inj (Except.ok.inj h)
      obtain ⟨htake, hdrop'⟩ := takeWhile_spaced_of_cons (w := w) hdrop hn
      simp only [htake, hdrop', hname]
      rfl

theorem backrefEscape_spaced (h : backrefEscape cs = .ok (k, rest)) (hn : n ≤ rest.length) :
    backrefEscape (spaced w n cs) = .ok (k, spaced w n rest) := by
  unfold backrefEscape at h
  split at h
  case h_4 => cases h
  all_goals
    have hsuffix := (named_suffix h).length_le
    rw [spaced_cons (Nat.le_trans hn hsuffix), backrefEscape, named_spaced h hn]

/-- Whether a word without blanks is at the start of a text is not changed by a blank, unless the
blank comes into the word. -/
theorem isPrefixOf_spaced {word : List Char} (hword : ∀ c ∈ word, isPatternBlank c = false)
    (hw : isPatternBlank w = true) {p : Bool}
    (hn : (p && word.isPrefixOf cs) = true → word.length + n ≤ cs.length) :
    (p && word.isPrefixOf (spaced w n cs)) = (p && word.isPrefixOf cs) := by
  cases p with
  | false => rfl
  | true =>
      rw [Bool.true_and] at hn ⊢
      rw [Bool.true_and, Bool.eq_iff_iff]
      constructor
      · intro h
        obtain ⟨back, hback⟩ := List.isPrefixOf_iff_prefix.mp h
        have hinserted := inserted_spaced w n cs
        rw [← hback] at hinserted
        obtain ⟨back', hcs⟩ := hinserted.word (not_mem_of_blank hw hword)
        exact List.isPrefixOf_iff_prefix.mpr ⟨back', hcs.symm⟩
      · intro h
        have hle := hn h
        obtain ⟨back, rfl⟩ := List.isPrefixOf_iff_prefix.mp h
        rw [List.length_append] at hle
        rw [spaced_append word (by omega)]
        exact List.isPrefixOf_iff_prefix.mpr (List.prefix_append word _)

/-- A code point has its closing brace behind the mark that starts it. -/
theorem codePointEscape_length (hstart : startsCodePoint cs = true)
    (h : codePointEscape ctx cs = .ok (k, rest)) : 3 + rest.length < cs.length := by
  obtain ⟨tail, rfl⟩ := List.isPrefixOf_iff_prefix.mp hstart
  unfold codePointEscape at h
  split at h
  · obtain ⟨⟨text, rest'⟩, hbraced, h⟩ := ok_bind h
    obtain ⟨kind, -, h⟩ := ok_bind h
    obtain ⟨rfl, rfl⟩ := Prod.mk.inj (Except.ok.inj h)
    change (match tail.dropWhile (· != '\x7d') with
      | [] => fail (.unclosedBrace .codePoint)
      | _ :: rest => .ok (('U' :: '+' :: tail).takeWhile (· != '\x7d'), rest)) = _ at hbraced
    split at hbraced
    · cases hbraced
    · next d rest'' hdrop =>
        obtain ⟨-, rfl⟩ := Prod.mk.inj (Except.ok.inj hbraced)
        have hle := (hdrop ▸ List.dropWhile_suffix (l := tail) (· != '\x7d')).length_le
        rw [List.length_cons] at hle
        show 3 + rest''.length < tail.length + 3
        omega
  · cases h

/-- A choice that does not depend on the text. -/
theorem ite_ok {p : Prop} [Decidable p] {α : Type} {x y x' y' : Except ScanError α} {a a' : α}
    (h : (if p then x else y) = .ok a) (hx : p → x = .ok a → x' = .ok a')
    (hy : ¬ p → y = .ok a → y' = .ok a') : (if p then x' else y') = .ok a' := by
  by_cases hp : p
  · rw [if_pos hp] at h ⊢
    exact hx hp h
  · rw [if_neg hp] at h ⊢
    exact hy hp h

theorem escapeToken_spaced (hw : isPatternBlank w = true) {inClass : Bool} {c : Char}
    (h : escapeToken ctx inClass c cs = .ok (k, rest)) (hn : n ≤ rest.length) :
    escapeToken ctx inClass c (spaced w n cs) = .ok (k, spaced w n rest) := by
  unfold escapeToken at h ⊢
  cases hvalue : specialValue? inClass c with
  | some value =>
      simp only [hvalue] at h ⊢
      obtain ⟨rfl, rfl⟩ := Prod.mk.inj (Except.ok.inj h)
      rfl
  | none =>
  cases hshort : shorthand? c with
  | some s =>
      simp only [hvalue, hshort] at h ⊢
      obtain ⟨rfl, rfl⟩ := Prod.mk.inj (Except.ok.inj h)
      rfl
  | none =>
  simp only [hvalue, hshort] at h ⊢
  refine ite_ok h (fun hd h => ?_) (fun _ h => ?_)
  · exact ite_ok h (fun _ h => classDigit_spaced hw h hn) fun _ h => outsideDigit_spaced hw hd h hn
  refine ite_ok h (fun _ h => octalEscape_spaced h hn) (fun _ h => ?_)
  refine ite_ok h (fun _ h => hexEscape_spaced hw h hn) (fun _ h => ?_)
  refine ite_ok h (fun _ h => controlEscape_spaced h hn) (fun _ h => ?_)
  refine ite_ok h (fun _ h => propertyEscape_spaced h hn) (fun _ h => ?_)
  have hcode : (c = 'N' && startsCodePoint (spaced w n cs) : Bool) =
      (c = 'N' && startsCodePoint cs : Bool) := by
    refine isPrefixOf_spaced (by decide) hw fun hcode => ?_
    rw [startsCodePoint, if_pos hcode] at h
    have hlt := codePointEscape_length (Bool.and_eq_true_iff.mp hcode).2 h
    show 3 + n ≤ cs.length
    omega
  rw [hcode]
  refine ite_ok h (fun _ h => codePointEscape_spaced h hn) (fun _ h => ?_)
  refine ite_ok h (fun _ h => nomatch h) (fun _ h => ?_)
  refine ite_ok h (fun _ h => callEscape_spaced hw h hn) (fun _ h => ?_)
  refine ite_ok h (fun _ h => backrefEscape_spaced h hn) (fun _ h => ?_)
  cases hother : outsideEscape? c with
  | some kind =>
      rw [hother] at h
      obtain ⟨rfl, rfl⟩ := Prod.mk.inj (Except.ok.inj h)
      rfl
  | none =>
      rw [hother] at h
      refine ite_ok h (fun _ h => nomatch h) (fun _ h => ?_)
      obtain ⟨rfl, rfl⟩ := Prod.mk.inj (Except.ok.inj h)
      rfl

theorem escape_spaced (hw : isPatternBlank w = true) {inClass : Bool} {e : Escape}
    (h : escape ctx inClass cs = .ok (e, rest)) (hn : n ≤ rest.length) :
    escape ctx inClass (spaced w n cs) = .ok (e, spaced w n rest) := by
  unfold escape at h
  split at h
  · cases h
  · next c tail =>
      split at h
      · next hQ =>
          obtain ⟨rfl, rfl⟩ := Prod.mk.inj (Except.ok.inj h)
          rw [spaced_cons hn, escape, if_pos hQ]
      split at h
      · next hQ hE =>
          obtain ⟨rfl, rfl⟩ := Prod.mk.inj (Except.ok.inj h)
          rw [spaced_cons hn, escape, if_neg hQ, if_pos hE]
      · next hQ hE =>
          obtain ⟨⟨kind, rest'⟩, htoken, h⟩ := ok_bind h
          obtain ⟨rfl, rfl⟩ := Prod.mk.inj (Except.ok.inj h)
          have hle := (escapeToken_suffix htoken).length_le
          rw [spaced_cons (Nat.le_trans hn hle), escape, if_neg hQ, if_neg hE,
            escapeToken_spaced hw htoken hn]
          rfl

/-! ### Parentheses -/

variable {dialect : Dialect}

theorem takeSign_spaced (hw : isPatternBlank w = true) {sign : Option Bool}
    (h : takeSign cs = (sign, rest)) (hn : n ≤ rest.length) :
    takeSign (spaced w n cs) = (sign, spaced w n rest) := by
  refine mark_spaced (a := '+') (b := '-') (z := none) (fun _ => rfl) (fun _ => rfl)
    (fun cs hcs => ?_) ⟨ne_of_blank hw (by decide), ne_of_blank hw (by decide)⟩ h hn
  unfold takeSign
  split
  · simp at hcs
  · simp at hcs
  · rfl

theorem numberedCall_spaced (hw : isPatternBlank w = true) (h : numberedCall cs = .ok (k, rest))
    (hn : n ≤ rest.length) : rest.length < (takeSign cs).2.length ∧
      numberedCall (spaced w n cs) = .ok (k, spaced w n rest) := by
  unfold numberedCall at h ⊢
  cases hsign : takeSign cs with
  | mk sign digits =>
  rw [hsign] at h
  obtain ⟨⟨value, tail⟩, hnumber, h⟩ := ok_bind h
  simp only at h
  split at h
  · next v rest' =>
      obtain ⟨rfl, rfl⟩ := Prod.mk.inj (Except.ok.inj h)
      have hsuffix := (number_suffix hnumber).length_le
      have hle : n ≤ (')' :: rest').length := Nat.le_succ_of_le hn
      have hspaced := number_spaced hw hnumber hle
      rw [spaced_cons hn] at hspaced
      rw [takeSign_spaced hw hsign (Nat.le_trans hle hsuffix)]
      refine ⟨hsuffix, ?_⟩
      show (number (spaced w n digits) >>= _) = _
      rw [hspaced]
      rfl
  · cases h

theorem assertionTest?_spaced {look : Lookaround} (h : assertionTest? cs = some (look, rest))
    (hn : n ≤ rest.length) :
    assertionTest? (spaced w n cs) = some (look, spaced w n rest) := by
  unfold assertionTest? at h
  split at h
  case h_5 => cases h
  all_goals
    obtain ⟨rfl, rfl⟩ := Prod.mk.inj (Option.some.inj h)
    first
      | rw [spaced_cons hn, assertionTest?]
      | rw [spaced_cons (Nat.le_succ_of_le hn), spaced_cons hn, assertionTest?]

/-- Whether a text starts with a digit is not changed by a blank, unless the blank comes before
it. -/
theorem headDigit_spaced (hw : isPatternBlank w = true) {p : Bool}
    (hn : (p && (cs.head?.map isAsciiDigit).getD false) = true → n < cs.length) :
    (p && ((spaced w n cs).head?.map isAsciiDigit).getD false) =
      (p && (cs.head?.map isAsciiDigit).getD false) := by
  cases p with
  | false => rfl
  | true =>
  rw [Bool.true_and] at hn ⊢
  rw [Bool.true_and]
  cases cs with
  | nil => exact isAsciiDigit_blank hw
  | cons c cs =>
      by_cases hle : n ≤ cs.length
      · rw [spaced_cons hle]
        rfl
      · rw [spaced_of_length_le (by rw [List.length_cons]; omega)]
        have hc : ¬ isAsciiDigit c = true := by
          intro hc
          have := hn hc
          rw [List.length_cons] at this
          omega
        show isAsciiDigit w = isAsciiDigit c
        rw [isAsciiDigit_blank hw, Bool.eq_false_iff.mpr hc]

/-- A text that does not start with a character that is no blank does not with a blank in it. -/
theorem ne_cons_spaced (hw : isPatternBlank w = true) {d : Char} (hd : isPatternBlank d = false)
    (h : ∀ tail, cs = d :: tail → False) : ∀ tail, spaced w n cs = d :: tail → False := by
  intro tail heq
  have hmem : d ∈ (spaced w n cs).head? := by
    rw [heq]
    rfl
  rcases mem_head?_spaced hmem with hdw | hdw
  · exact ne_of_blank hw hd hdw.symm
  · cases cs with
    | nil => cases hdw
    | cons d' tail' => exact h tail' (by rw [Option.some.inj hdw])

/-- A test without a mark before it: of a number, of `DEFINE` or of a name. -/
def bareTest (c : Char) (body : List Char) : Except ScanError (ConditionToken × List Char) :=
  if c = 'R' && (body.head?.map isAsciiDigit).getD false then do
    let (n, rest) ← number body
    return (.recursionGroup (n.getD 0), rest)
  else if c = '+' || c = '-' || isAsciiDigit c then do
    let (sign, digits) := takeSign (c :: body)
    let (n, rest) ← number digits
    match n with
    | some n => return (.reference (signed sign n), rest)
    | none => fail .malformedCondition
  else if ['D', 'E', 'F', 'I', 'N', 'E', ')'].isPrefixOf (c :: body) then
    return (.define, (c :: body).drop 6)
  else if isNameStart c then do
    let name := (c :: body).takeWhile isNameChar
    checkName name
    return (.reference (.name (String.ofList name)), (c :: body).dropWhile isNameChar)
  else fail .malformedCondition

theorem bareTest_spaced (hw : isPatternBlank w = true) {c : Char} {t : ConditionToken}
    (h : bareTest c cs = .ok (t, rest)) (hn : n < rest.length) (hle : n ≤ cs.length) :
    bareTest c (spaced w n cs) = .ok (t, spaced w n rest) := by
  have hspaced := (spaced_cons (w := w) (c := c) hle).symm
  unfold bareTest at h ⊢
  rw [headDigit_spaced hw, hspaced]
  · refine ite_ok h (fun _ h => ?_) (fun _ h => ?_)
    · obtain ⟨⟨value, tail⟩, hnumber, h⟩ := ok_bind h
      obtain ⟨rfl, rfl⟩ := Prod.mk.inj (Except.ok.inj h)
      rw [number_spaced hw hnumber (Nat.le_of_lt hn)]
      rfl
    refine ite_ok h (fun _ h => ?_) (fun _ h => ?_)
    · cases hsign : takeSign (c :: cs) with
      | mk sign digits =>
      rw [hsign] at h
      obtain ⟨⟨value, tail⟩, hnumber, h⟩ := ok_bind h
      simp only at h
      split at h
      · next v =>
          obtain ⟨rfl, rfl⟩ := Prod.mk.inj (Except.ok.inj h)
          have hdigits := (number_suffix hnumber).length_le
          rw [takeSign_spaced hw hsign (by omega)]
          show (number (spaced w n digits) >>= _) = _
          rw [number_spaced hw hnumber (Nat.le_of_lt hn)]
          rfl
      · cases h
    have hdefine : ['D', 'E', 'F', 'I', 'N', 'E', ')'].isPrefixOf (spaced w n (c :: cs)) =
        ['D', 'E', 'F', 'I', 'N', 'E', ')'].isPrefixOf (c :: cs) := by
      refine isPrefixOf_spaced (p := true) (by decide) hw fun hdefine => ?_
      rw [Bool.true_and] at hdefine
      rw [if_pos hdefine] at h
      obtain ⟨rfl, rfl⟩ := Prod.mk.inj (Except.ok.inj h)
      obtain ⟨tail, htail⟩ := List.isPrefixOf_iff_prefix.mp hdefine
      rw [← htail] at hn ⊢
      rw [List.length_append]
      exact Nat.add_le_add_left (Nat.le_of_lt_succ hn) 7
    rw [hdefine]
    refine ite_ok h (fun hprefix h => ?_) (fun _ h => ?_)
    · obtain ⟨rfl, rfl⟩ := Prod.mk.inj (Except.ok.inj h)
      obtain ⟨tail, htail⟩ := List.isPrefixOf_iff_prefix.mp hprefix
      rw [← htail] at hn ⊢
      have hback : n ≤ tail.length := Nat.le_of_lt_succ hn
      rw [spaced_append _ hback]
      show _ = Except.ok (ConditionToken.define, spaced w n (')' :: tail))
      rw [spaced_cons hback]
      rfl
    refine ite_ok h (fun _ h => ?_) (fun _ h => nomatch h)
    obtain ⟨_, hname, h⟩ := ok_bind h
    obtain ⟨rfl, rfl⟩ := Prod.mk.inj (Except.ok.inj h)
    obtain ⟨htake, hdrop⟩ := takeWhile_spaced (w := w) (Nat.le_of_lt hn) (.inr hn)
    simp only [htake, hdrop, hname]
    rfl
  · intro hdigit
    rw [if_pos hdigit] at h
    obtain ⟨⟨value, tail⟩, hnumber, h⟩ := ok_bind h
    obtain ⟨rfl, rfl⟩ := Prod.mk.inj (Except.ok.inj h)
    exact Nat.lt_of_lt_of_le hn (number_suffix hnumber).length_le

/-- Where a test ends before a parenthesis, it does not see a blank behind the parenthesis. -/
theorem plainTest_spaced (hw : isPatternBlank w = true) {t : ConditionToken}
    (h : plainTest cs = .ok (t, rest)) (hn : n < rest.length) :
    plainTest (spaced w n cs) = .ok (t, spaced w n rest) := by
  have hle := (plainTest_suffix h).length_le
  unfold plainTest at h
  split at h
  · next body =>
      obtain ⟨⟨name, tail⟩, hname, h⟩ := ok_bind h
      obtain ⟨rfl, rfl⟩ := Prod.mk.inj (Except.ok.inj h)
      have hsuffix := (nameUntil_suffix hname).length_le
      rw [spaced_cons (by omega), plainTest, nameUntil_spaced hname (Nat.le_of_lt hn)]
      rfl
  · next body =>
      obtain ⟨⟨name, tail⟩, hname, h⟩ := ok_bind h
      obtain ⟨rfl, rfl⟩ := Prod.mk.inj (Except.ok.inj h)
      have hsuffix := (nameUntil_suffix hname).length_le
      rw [spaced_cons (by omega), plainTest, nameUntil_spaced hname (Nat.le_of_lt hn)]
      rfl
  · next body =>
      obtain ⟨_, hname, h⟩ := ok_bind h
      obtain ⟨rfl, rfl⟩ := Prod.mk.inj (Except.ok.inj h)
      have hsuffix := (List.dropWhile_suffix (l := body) (· != ')')).length_le
      obtain ⟨htake, hdrop⟩ := takeWhile_spaced (w := w) (Nat.le_of_lt hn) (.inr hn)
      rw [spaced_cons (by rw [List.length_cons]; omega), spaced_cons (by omega), plainTest]
      simp only [htake, hdrop, hname]
      rfl
  · next tail =>
      obtain ⟨rfl, rfl⟩ := Prod.mk.inj (Except.ok.inj h)
      have htail : n ≤ tail.length := Nat.le_of_lt_succ hn
      have hclose : n ≤ (')' :: tail).length := Nat.le_of_lt hn
      show _ = Except.ok (ConditionToken.recursion, spaced w n (')' :: tail))
      rw [spaced_cons hclose, spaced_cons htail, plainTest]
      rfl
  · next c body hangle hquote hamp hclose =>
      rw [List.length_cons] at hle
      have hbody : n ≤ body.length := by omega
      rw [spaced_cons hbody, plainTest]
      · exact bareTest_spaced hw h hn hbody
      · exact hangle
      · exact hquote
      · exact fun tail hc => ne_cons_spaced hw (by decide) (fun tail => hamp tail hc) tail
      · exact fun tail hc => ne_cons_spaced hw (by decide) (fun tail => hclose tail hc) tail
  · cases h

theorem condition_spaced (hw : isPatternBlank w = true) {t : ConditionToken}
    (h : condition cs = .ok (t, rest)) (hn : n ≤ rest.length) :
    condition (spaced w n cs) = .ok (t, spaced w n rest) := by
  unfold condition at h
  split at h
  · next body =>
      split at h
      · next look tail htest =>
          obtain ⟨rfl, rfl⟩ := Prod.mk.inj (Except.ok.inj h)
          have hsuffix := (assertionTest?_suffix htest).length_le
          rw [spaced_cons (Nat.le_trans hn hsuffix), condition]
          simp only [assertionTest?_spaced htest hn]
      · cases h
  · next hquestion =>
      obtain ⟨⟨test, tail⟩, htest, h⟩ := ok_bind h
      simp only at h
      split at h
      · next rest' =>
          obtain ⟨rfl, rfl⟩ := Prod.mk.inj (Except.ok.inj h)
          have hspaced := plainTest_spaced hw htest (Nat.lt_succ_of_le hn)
          rw [spaced_cons hn] at hspaced
          rw [condition, hspaced]
          · rfl
          · exact ne_cons_spaced hw (by decide) hquestion
      · cases h

theorem doubledUntil_spaced {close : Char} {text : List Char}
    (h : doubledUntil close cs = some (text, rest)) (hn : n < rest.length) :
    doubledUntil close (spaced w n cs) = some (text, spaced w n rest) := by
  fun_induction doubledUntil close cs generalizing text rest with
  | case1 => cases h
  | case2 =>
      obtain ⟨-, rfl⟩ := Prod.mk.inj (Option.some.inj h)
      exact absurd hn (Nat.not_lt_zero n)
  | case3 => cases h
  | case4 tail ih =>
      obtain ⟨⟨text', rest'⟩, hread, hpair⟩ := Option.map_eq_some_iff.mp h
      obtain ⟨rfl, rfl⟩ := Prod.mk.inj hpair
      have hsuffix := (doubledUntil_suffix hread).length_le
      rw [spaced_cons (by rw [List.length_cons]; omega), spaced_cons (by omega), doubledUntil,
        if_pos rfl, if_pos rfl, ih hread hn]
      rfl
  | case5 d tail hd =>
      obtain ⟨rfl, rfl⟩ := Prod.mk.inj (Option.some.inj h)
      have htail : n ≤ tail.length := Nat.le_of_lt_succ hn
      rw [spaced_cons (Nat.le_of_lt hn), spaced_cons htail, doubledUntil, if_pos rfl, if_neg hd]
  | case6 c d tail hc ih =>
      obtain ⟨⟨text', rest'⟩, hread, hpair⟩ := Option.map_eq_some_iff.mp h
      obtain ⟨rfl, rfl⟩ := Prod.mk.inj hpair
      have hsuffix := (doubledUntil_suffix hread).length_le
      have htail : n ≤ tail.length := Nat.le_of_lt_succ (Nat.lt_of_lt_of_le hn hsuffix)
      have hspaced := ih hread hn
      rw [spaced_cons htail] at hspaced
      rw [spaced_cons (Nat.le_succ_of_le htail), spaced_cons htail, doubledUntil, if_neg hc,
        hspaced]
      rfl

theorem calloutArg_spaced (hw : isPatternBlank w = true) {arg : CalloutArg}
    (h : calloutArg cs = .ok (arg, rest)) (hn : n < rest.length) :
    calloutArg (spaced w n cs) = .ok (arg, spaced w n rest) := by
  have hle := (calloutArg_suffix h).length_le
  unfold calloutArg at h
  split at h
  · cases h
  · next c body =>
      rw [List.length_cons] at hle
      have hbody : n ≤ body.length := by omega
      rw [spaced_cons hbody, calloutArg]
      refine ite_ok h (fun _ h => ?_) (fun _ h => ?_)
      · obtain ⟨rfl, rfl⟩ := Prod.mk.inj (Except.ok.inj h)
        rw [spaced_cons hbody]
      refine ite_ok h (fun _ h => ?_) (fun _ h => ?_)
      · rw [← spaced_cons hbody]
        obtain ⟨⟨value, tail⟩, hnumber, h⟩ := ok_bind h
        simp only at h
        split at h
        · next hvalue =>
            obtain ⟨rfl, rfl⟩ := Prod.mk.inj (Except.ok.inj h)
            rw [number_spaced hw hnumber (Nat.le_of_lt hn)]
            show (if value.getD 0 ≤ 255 then _ else _) = _
            rw [if_pos hvalue]
            rfl
        · cases h
      · split at h
        · cases h
        · next close hclose =>
            split at h
            · next text tail hread =>
                obtain ⟨rfl, rfl⟩ := Prod.mk.inj (Except.ok.inj h)
                rw [doubledUntil_spaced hread hn]
            · cases h

theorem callout_spaced (hw : isPatternBlank w = true) (h : callout cs = .ok (k, rest))
    (hn : n ≤ rest.length) : callout (spaced w n cs) = .ok (k, spaced w n rest) := by
  unfold callout at h ⊢
  obtain ⟨⟨arg, tail⟩, harg, h⟩ := ok_bind h
  simp only at h
  split at h
  · next rest' =>
      obtain ⟨rfl, rfl⟩ := Prod.mk.inj (Except.ok.inj h)
      have hspaced := calloutArg_spaced hw harg (Nat.lt_succ_of_le hn)
      rw [spaced_cons hn] at hspaced
      rw [hspaced]
      rfl
  · cases h

theorem flagGroup_spaced (hw : isPatternBlank w = true) {s : FlagState}
    (h : flagGroup dialect s cs = .ok (k, rest)) (hn : n ≤ rest.length) :
    rest.length < cs.length ∧ flagGroup dialect s (spaced w n cs) = .ok (k, spaced w n rest) := by
  fun_induction flagGroup dialect s cs with
  | case1 => cases h
  | case2 s tail ih =>
      obtain ⟨hlt, hspaced⟩ := ih h
      have hle : n ≤ tail.length := by omega
      rw [spaced_cons (Nat.le_succ_of_le hle), spaced_cons hle, flagGroup]
      exact ⟨Nat.lt_succ_of_lt (Nat.lt_succ_of_lt hlt), hspaced⟩
  | case3 s tail hx =>
      obtain ⟨rfl, rfl⟩ := Prod.mk.inj (Except.ok.inj h)
      rw [spaced_cons hn, flagGroup, if_pos rfl]
      · exact ⟨Nat.lt_succ_self _, rfl⟩
      · exact fun _ hc => absurd hc (by decide)
  | case4 s tail hx =>
      obtain ⟨rfl, rfl⟩ := Prod.mk.inj (Except.ok.inj h)
      rw [spaced_cons hn, flagGroup, if_neg (by decide), if_pos rfl]
      · exact ⟨Nat.lt_succ_self _, rfl⟩
      · exact fun _ hc => absurd hc (by decide)
  | case5 => cases h
  | case6 s c tail hx hclose hcolon s' hs ih =>
      obtain ⟨hlt, hspaced⟩ := ih h
      rw [spaced_cons (by omega), flagGroup, if_neg hclose, if_neg hcolon, hs]
      · exact ⟨Nat.lt_succ_of_lt hlt, hspaced⟩
      · exact fun tail hc => ne_cons_spaced hw (by decide) (fun tail => hx tail hc) tail

theorem verbArg_spaced (hw : isPatternBlank w = true) {name : List Char} {arg : Option (List Char)}
    (h : verbArg name cs = (arg, rest)) (hn : n < rest.length) :
    verbArg name (spaced w n cs) = (arg, spaced w n rest) := by
  unfold verbArg at h
  split at h
  · next body =>
      obtain ⟨rfl, rfl⟩ := Prod.mk.inj h
      have hsuffix := (List.dropWhile_suffix (l := body) (· != ')')).length_le
      obtain ⟨htake, hdrop⟩ := takeWhile_spaced (w := w) (Nat.le_of_lt hn) (.inr hn)
      rw [spaced_cons (by omega), verbArg, htake, hdrop]
  · next body =>
      split at h
      · next hlimit =>
          obtain ⟨rfl, rfl⟩ := Prod.mk.inj h
          have hsuffix := (List.dropWhile_suffix (l := body) (· != ')')).length_le
          obtain ⟨htake, hdrop⟩ := takeWhile_spaced (w := w) (Nat.le_of_lt hn) (.inr hn)
          rw [spaced_cons (by omega), verbArg, if_pos hlimit, htake, hdrop]
      · next hlimit =>
          obtain ⟨rfl, rfl⟩ := Prod.mk.inj h
          rw [spaced_cons (Nat.le_of_lt_succ hn), verbArg, if_neg hlimit]
  · next hcolon hequals =>
      obtain ⟨rfl, rfl⟩ := Prod.mk.inj h
      rw [verbArg]
      · exact ne_cons_spaced hw (by decide) hcolon
      · exact ne_cons_spaced hw (by decide) hequals

theorem verb_spaced (hw : isPatternBlank w = true) {name : List Char}
    (h : verb name cs = .ok (k, rest)) (hn : n ≤ rest.length) :
    rest.length < cs.length ∧ verb name (spaced w n cs) = .ok (k, spaced w n rest) := by
  unfold verb at h ⊢
  cases harg : verbArg name cs with
  | mk arg tail =>
  rw [harg] at h
  simp only at h
  split at h
  · next rest' =>
      split at h
      · next hknown =>
          obtain ⟨rfl, rfl⟩ := Prod.mk.inj (Except.ok.inj h)
          have hspaced := verbArg_spaced hw harg (Nat.lt_succ_of_le hn)
          rw [spaced_cons hn] at hspaced
          rw [hspaced]
          have hsuffix := (harg ▸ verbArg_suffix name cs).length_le
          exact ⟨hsuffix, if_pos hknown⟩
      · cases h
  · cases h

theorem alphaOpener?_spaced {name : List Char} {o : Opener}
    (h : alphaOpener? name cs = some (o, rest)) (hn : n ≤ rest.length) :
    rest.length < cs.length ∧ alphaOpener? name (spaced w n cs) = some (o, spaced w n rest) := by
  unfold alphaOpener? at h
  split at h
  · next tail =>
      split at h
      · next hname =>
          obtain ⟨o', ho, hpair⟩ := Option.map_eq_some_iff.mp h
          obtain ⟨rfl, rfl⟩ := Prod.mk.inj hpair
          rw [spaced_cons hn, alphaOpener?, if_pos hname, ho]
          exact ⟨Nat.lt_succ_self _, rfl⟩
      · cases h
  · cases h

theorem alphaOpener?_none (hw : isPatternBlank w = true) {name : List Char}
    (h : alphaOpener? name cs = none) : alphaOpener? name (spaced w n cs) = none := by
  have hother : ∀ {cs : List Char}, (∀ tail, cs = ':' :: tail → False) →
      alphaOpener? name cs = none := by
    intro cs hcs
    rw [alphaOpener?]
    exact hcs
  by_cases hcolon : ∀ tail, cs = ':' :: tail → False
  · exact hother (ne_cons_spaced hw (by decide) hcolon)
  · obtain ⟨tail, htail⟩ := not_forall.mp hcolon
    obtain rfl : cs = ':' :: tail := not_not.mp htail
    by_cases hle : n ≤ tail.length
    · rw [alphaOpener?] at h
      rw [spaced_cons hle, alphaOpener?]
      split at h
      · next hname =>
          rw [Option.map_eq_none_iff] at h
          rw [if_pos hname, h]
          rfl
      · next hname => exact if_neg hname
    · rw [spaced_of_length_le (by rw [List.length_cons]; omega)]
      exact hother fun _ heq => ne_of_blank hw (by decide) (List.cons.inj heq).1

/-- What a star stands before, if it is no group that starts with a star. -/
def starText (dialect : Dialect) (cs : List Char) : Except ScanError (TokenKind × List Char) :=
  match alphaOpener? (cs.takeWhile isVerbChar) (cs.dropWhile isVerbChar) with
  | some (opener, rest) =>
    if dialect.supports .alphaAssertions then .ok (.groupOpen opener, rest)
    else fail (.unsupportedAssertion (String.ofList (cs.takeWhile isVerbChar)))
  | none => verb (cs.takeWhile isVerbChar) (cs.dropWhile isVerbChar)

theorem starConstruct_cons (c : Char) (cs : List Char) : starConstruct dialect (c :: cs) =
    if isAsciiLetter c || c == ':' then some (starText dialect (c :: cs)) else none := rfl

theorem starText_spaced (hw : isPatternBlank w = true) (h : starText dialect cs = .ok (k, rest))
    (hn : n ≤ rest.length) :
    n < cs.length ∧ starText dialect (spaced w n cs) = .ok (k, spaced w n rest) := by
  have hlength := (List.dropWhile_suffix (l := cs) isVerbChar).length_le
  have hname : n < (cs.dropWhile isVerbChar).length →
      (spaced w n cs).takeWhile isVerbChar = cs.takeWhile isVerbChar ∧
        (spaced w n cs).dropWhile isVerbChar = spaced w n (cs.dropWhile isVerbChar) :=
    fun hlt => takeWhile_spaced (Nat.le_of_lt hlt) (.inr hlt)
  unfold starText at h ⊢
  split at h
  · next opener rest' hopener =>
      split at h
      · next hdialect =>
          obtain ⟨rfl, rfl⟩ := Prod.mk.inj (Except.ok.inj h)
          obtain ⟨hlt, hspaced⟩ := alphaOpener?_spaced (w := w) hopener hn
          obtain ⟨htake, hdrop⟩ := hname (Nat.lt_of_le_of_lt hn hlt)
          rw [htake, hdrop, hspaced]
          exact ⟨by omega, if_pos hdialect⟩
      · cases h
  · next hopener =>
      obtain ⟨hlt, hspaced⟩ := verb_spaced hw h hn
      obtain ⟨htake, hdrop⟩ := hname (Nat.lt_of_le_of_lt hn hlt)
      rw [htake, hdrop, alphaOpener?_none hw hopener]
      exact ⟨by omega, hspaced⟩

theorem starConstruct_spaced (hw : isPatternBlank w = true)
    (h : starConstruct dialect cs = some (.ok (k, rest))) (hn : n ≤ rest.length) :
    n < cs.length ∧ starConstruct dialect (spaced w n cs) = some (.ok (k, spaced w n rest)) := by
  cases cs with
  | nil => cases h
  | cons c cs =>
      rw [starConstruct_cons] at h
      split at h
      · next hstart =>
          obtain ⟨hlt, hspaced⟩ := starText_spaced hw (Option.some.inj h) hn
          have hle : n ≤ cs.length := Nat.le_of_lt_succ hlt
          rw [spaced_cons hle] at hspaced ⊢
          rw [starConstruct_cons, if_pos hstart, hspaced]
          exact ⟨hlt, rfl⟩
      · cases h

theorem starConstruct_none (hw : isPatternBlank w = true) (h : starConstruct dialect cs = none) :
    starConstruct dialect (spaced w n cs) = none := by
  have hblank : ∀ tail, starConstruct dialect (w :: tail) = none := by
    intro tail
    have hw' : (isAsciiLetter w || w == ':') = false := by
      rw [isAsciiLetter_blank hw, Bool.false_or, beq_eq_false_iff_ne]
      exact ne_of_blank hw (by decide)
    rw [starConstruct_cons, hw', if_neg Bool.false_ne_true]
  cases cs with
  | nil => exact hblank []
  | cons c tail =>
      by_cases hle : n ≤ tail.length
      · rw [starConstruct_cons] at h
        rw [spaced_cons hle, starConstruct_cons]
        split at h
        · cases h
        · next hstart => exact if_neg hstart
      · rw [spaced_of_length_le (by rw [List.length_cons]; omega)]
        exact hblank _

theorem namedConstruct_spaced (h : namedConstruct cs = .ok (k, rest)) (hn : n ≤ rest.length) :
    namedConstruct (spaced w n cs) = .ok (k, spaced w n rest) := by
  unfold namedConstruct at h
  split at h
  case h_4 => cases h
  all_goals
    obtain ⟨⟨name, tail⟩, hname, h⟩ := ok_bind h
    obtain ⟨rfl, rfl⟩ := Prod.mk.inj (Except.ok.inj h)
    have hsuffix := (nameUntil_suffix hname).length_le
    rw [spaced_cons (Nat.le_trans hn hsuffix), namedConstruct, nameUntil_spaced hname hn]
    rfl

theorem comment_spaced (h : comment cs = .ok (k, rest)) (hn : n ≤ rest.length) :
    comment (spaced w n cs) = .ok (k, spaced w n rest) := by
  unfold comment at h ⊢
  split at h
  · cases h
  · next c tail hdrop =>
      obtain ⟨rfl, rfl⟩ := Prod.mk.inj (Except.ok.inj h)
      obtain ⟨htake, hdrop'⟩ := takeWhile_spaced_of_cons (w := w) hdrop hn
      rw [htake, hdrop']

/-- What a question mark stands before, if a number or settings follow it. -/
def callOrFlags (dialect : Dialect) (c : Char) (body : List Char) :
    Except ScanError (TokenKind × List Char) :=
  if c = '+' || isAsciiDigit c then numberedCall (c :: body)
  else if c = '-' && (body.head?.map isAsciiDigit).getD false then numberedCall (c :: body)
  else flagGroup dialect {} (c :: body)

/-- A reader does not get to the new character before it has taken the first one. -/
theorem spaced_of_lt {α : Type} {f : List Char → α} {x : α} {c : Char}
    (hn : n < (c :: cs).length) (h : f (spaced w n (c :: cs)) = x) :
    n ≤ cs.length ∧ f (c :: spaced w n cs) = x := by
  have hle : n ≤ cs.length := Nat.le_of_lt_succ hn
  rw [spaced_cons hle] at h
  exact ⟨hle, h⟩

theorem callOrFlags_spaced (hw : isPatternBlank w = true) {c : Char}
    (h : callOrFlags dialect c cs = .ok (k, rest)) (hn : n ≤ rest.length) :
    n ≤ cs.length ∧ callOrFlags dialect c (spaced w n cs) = .ok (k, spaced w n rest) := by
  have hcall : numberedCall (c :: cs) = .ok (k, rest) →
      n ≤ cs.length ∧ numberedCall (c :: spaced w n cs) = .ok (k, spaced w n rest) := by
    intro h
    obtain ⟨hlt, hspaced⟩ := numberedCall_spaced hw h hn
    have hle := (takeSign_suffix (c :: cs)).length_le
    exact spaced_of_lt (by omega) hspaced
  have hflags : flagGroup dialect {} (c :: cs) = .ok (k, rest) →
      n ≤ cs.length ∧ flagGroup dialect {} (c :: spaced w n cs) = .ok (k, spaced w n rest) := by
    intro h
    obtain ⟨hlt, hspaced⟩ := flagGroup_spaced hw h hn
    exact spaced_of_lt (Nat.lt_of_le_of_lt hn hlt) hspaced
  unfold callOrFlags at h ⊢
  by_cases hplus : (c = '+' || isAsciiDigit c : Bool) = true
  · rw [if_pos hplus] at h ⊢
    exact hcall h
  rw [if_neg hplus] at h ⊢
  rw [headDigit_spaced hw]
  · split at h
    · next hminus =>
        rw [if_pos hminus]
        exact hcall h
    · next hminus =>
        rw [if_neg hminus]
        exact hflags h
  · intro hminus
    rw [if_pos hminus, of_decide_eq_true (Bool.and_eq_true_iff.mp hminus).1] at h
    exact Nat.lt_of_le_of_lt hn (numberedCall_spaced hw h hn).1

theorem questionConstruct_spaced (hw : isPatternBlank w = true)
    (h : questionConstruct dialect cs = .ok (k, rest)) (hn : n ≤ rest.length) :
    questionConstruct dialect (spaced w n cs) = .ok (k, spaced w n rest) := by
  unfold questionConstruct at h
  split at h
  · cases h
  · next body =>
      have hsuffix := (comment_suffix h).length_le
      rw [spaced_cons (Nat.le_trans hn hsuffix), questionConstruct, comment_spaced h hn]
  iterate 5
    · obtain ⟨rfl, rfl⟩ := Prod.mk.inj (Except.ok.inj h)
      rw [spaced_cons hn, questionConstruct]
  iterate 2
    · obtain ⟨rfl, rfl⟩ := Prod.mk.inj (Except.ok.inj h)
      rw [spaced_cons (Nat.le_succ_of_le hn), spaced_cons hn, questionConstruct]
  · next body hahead hbehind =>
      obtain ⟨⟨name, tail⟩, hname, h⟩ := ok_bind h
      obtain ⟨rfl, rfl⟩ := Prod.mk.inj (Except.ok.inj h)
      have hsuffix := (nameUntil_suffix hname).length_le
      rw [spaced_cons (Nat.le_trans hn hsuffix), questionConstruct, nameUntil_spaced hname hn]
      · rfl
      · exact ne_cons_spaced hw (by decide) hahead
      · exact ne_cons_spaced hw (by decide) hbehind
  · next body =>
      obtain ⟨⟨name, tail⟩, hname, h⟩ := ok_bind h
      obtain ⟨rfl, rfl⟩ := Prod.mk.inj (Except.ok.inj h)
      have hsuffix := (nameUntil_suffix hname).length_le
      rw [spaced_cons (Nat.le_trans hn hsuffix), questionConstruct, nameUntil_spaced hname hn]
      rfl
  · next body =>
      have hsuffix := (namedConstruct_suffix h).length_le
      rw [spaced_cons (Nat.le_trans hn hsuffix), questionConstruct, namedConstruct_spaced h hn]
  · next body =>
      obtain ⟨⟨name, tail⟩, hname, h⟩ := ok_bind h
      obtain ⟨rfl, rfl⟩ := Prod.mk.inj (Except.ok.inj h)
      have hsuffix := (nameUntil_suffix hname).length_le
      rw [spaced_cons (Nat.le_trans hn hsuffix), questionConstruct, nameUntil_spaced hname hn]
      rfl
  · obtain ⟨rfl, rfl⟩ := Prod.mk.inj (Except.ok.inj h)
    rw [spaced_cons (Nat.le_succ_of_le hn), spaced_cons hn, questionConstruct]
  · next body =>
      obtain ⟨⟨test, tail⟩, htest, h⟩ := ok_bind h
      obtain ⟨rfl, rfl⟩ := Prod.mk.inj (Except.ok.inj h)
      have hsuffix := (condition_suffix htest).length_le
      rw [spaced_cons (Nat.le_trans hn hsuffix), questionConstruct, condition_spaced hw htest hn]
      rfl
  · next body =>
      have hsuffix := (callout_suffix h).length_le
      rw [spaced_cons (Nat.le_trans hn hsuffix), questionConstruct, callout_spaced hw h hn]
  · next c body hhash hcolon hatomic hequals hbang hbar hahead hbehind hangle hquote hP hamp hR
      hparen hC =>
      obtain ⟨hle, hspaced⟩ := callOrFlags_spaced hw h hn
      rw [spaced_cons hle, questionConstruct] <;> try assumption
      · exact fun _ hc _ => hangle hc
      · exact fun _ hc _ => hangle hc
      · exact fun tail hc => ne_cons_spaced hw (by decide) (fun tail => hR tail hc) tail

theorem paren_spaced (hw : isPatternBlank w = true) (h : paren dialect cs = .ok (k, rest))
    (hn : n ≤ rest.length) : paren dialect (spaced w n cs) = .ok (k, spaced w n rest) := by
  unfold paren at h
  split at h
  · next body =>
      cases hstar : starConstruct dialect body with
      | none =>
          rw [hstar] at h
          obtain ⟨rfl, rfl⟩ := Prod.mk.inj (Except.ok.inj h)
          by_cases hle : n ≤ body.length
          · rw [spaced_cons hle, paren, starConstruct_none hw hstar]
            rfl
          · have hlength : ('*' :: body).length ≤ n := by
              rw [List.length_cons]
              omega
            rw [spaced_of_length_le hlength, paren]
            · exact fun _ heq => ne_of_blank hw (by decide) (List.cons.inj heq).1
            · exact fun _ heq => ne_of_blank hw (by decide) (List.cons.inj heq).1
      | some r =>
          rw [hstar] at h
          obtain rfl : r = .ok (k, rest) := h
          obtain ⟨hlt, hspaced⟩ := starConstruct_spaced hw hstar hn
          rw [spaced_cons (Nat.le_of_lt hlt), paren, hspaced]
          rfl
  · next body =>
      have hsuffix := (questionConstruct_suffix h).length_le
      rw [spaced_cons (Nat.le_trans hn hsuffix), paren, questionConstruct_spaced hw h hn]
  · next hstar hquestion =>
      obtain ⟨rfl, rfl⟩ := Prod.mk.inj (Except.ok.inj h)
      rw [paren]
      · exact ne_cons_spaced hw (by decide) hstar
      · exact ne_cons_spaced hw (by decide) hquestion

end Reader

end Token

end PatternLint
