import Mathlib.Data.List.Chain
import PatternLint.Proofs.Token.Trail

/-!
# Tokens that are written from a tree

Writing a tree does not look at the text around it, and in five ways that can go
wrong. A brace that stands for itself comes to stand before counts, or `\N` before
a code point in braces. A mark of direction, which extended patterns skip, is
written as itself. A large character is written in hexadecimal where the pattern
is no Unicode text. A class without members does not close. `clear` says that none
of this happens, and it can be computed from the tokens.

All else is in order whenever the tokens come from a tree. `Strung` and `Fits` say
what such tokens have to do with the mode they are read in and with each other,
and `trail` that such tokens, if they are clear, can be written and read.
-/

namespace PatternLint.Token

open Unicode Text

/-- Whether a mode is that of a class. -/
def Mode.isInClass (m : Mode) : Bool := m.place != .outside

theorem Mode.isInClass_of_outside {m : Mode} (hp : m.place = .outside) : m.isInClass = false := by
  rw [isInClass, hp]
  rfl

theorem Mode.isInClass_of_inClass {m : Mode} {fresh : Bool} (hp : m.place = .inClass fresh) :
    m.isInClass = true := by
  rw [isInClass, hp]
  rfl

/-- What is known of a token that is written in a mode: all that is known of one that was read, but
for the blanks of extended patterns, the end of a class and whether the pattern is Unicode text. -/
def Issued (d : Dialect) (m : Mode) : TokenKind → Prop
  | .literal c =>
    match m.place with
    | .outside => isSyntax c = false ∧ (m.spacing ≠ 0 → c ≠ '#')
    | .inClass _ => Render.isClassSpecial c = false ∧ c ≠ '\\' ∧
        (m.spacing.has Flags.extendedMore = true → c ≠ ' ' ∧ c ≠ '\t')
  | .classClose => m.place ≠ .outside
  | k => Spellable k ∧
    match m.place with
    | .outside => ∃ text, OutsideLexeme ⟨d, true⟩ m.spacing text k
    | .inClass fresh => ClassLexeme ⟨d, true⟩ m.spacing fresh k

/-- Whether what follows an opening brace are counts, or would be but for their size. -/
def startsCounts (dialect : Dialect) (cs : List Char) : Bool :=
  match interval dialect cs with
  | .ok (none, _) => false
  | _ => true

/-- Whether a token in its spelling means the same in front of a text, where that is not a matter
of the tree it was written from. -/
def isClear (ctx : Context) (m : Mode) (k : TokenKind) (rest : List Char) : Bool :=
  match k with
  | .literal c => m.place != .outside ||
      !(c == '\x7b' && startsCounts ctx.dialect rest) && !(m.spacing != 0 && isPatternBlank c)
  | .escaped c .octal | .escaped c .hex => ctx.utf || decide (c.toNat ≤ 0xff)
  | .escaped _ .codePoint => ctx.utf
  | .shorthand .notNewline _ => !startsCodePoint rest
  | .classClose => m.place != .inClass true
  | _ => true

/-- Whether this is so for all of several tokens. -/
def clear (ctx : Context) : Mode → List TokenKind → Bool
  | _, [] => true
  | m, k :: ks => isClear ctx m k (spell ks) && clear ctx (m.advance k) ks

/-- Tokens that are written one after another, from one mode to another. A hyphen stands only
between the ends of a range. -/
def Strung (d : Dialect) : Mode → List TokenKind → Mode → Prop
  | m, [], m' => m' = m
  | m, k :: ks, m' => Issued d m k ∧
      (k = .classHyphen → ∃ k' ks', ks = k' :: ks' ∧ k' ≠ .classHyphen ∧ k' ≠ .classSubtraction) ∧
      Strung d (m.advance k) ks m'

/-- Whether a token may follow another one. Repetitions follow only what can be repeated. -/
def Fits (k : TokenKind) : TokenKind → Prop
  | .quantifier count => (∀ o, k ≠ .groupOpen o) ∧
      ∀ c, k = .quantifier c → (Render.quantifier count).toList.head? = some '\x7b'
  | _ => True

section Strung

variable {d : Dialect} {m m' m'' : Mode} {k : TokenKind} {ks ls : List TokenKind}

theorem Strung.append (h : Strung d m ks m') (h' : Strung d m' ls m'') :
    Strung d m (ks ++ ls) m'' := by
  induction ks generalizing m with
  | nil =>
      obtain rfl := h
      exact h'
  | cons k ks ih =>
      obtain ⟨hk, hhyphen, hks⟩ := h
      refine ⟨hk, fun he => ?_, ih hks⟩
      obtain ⟨k', ks', rfl, hne⟩ := hhyphen he
      exact ⟨k', ks' ++ ls, rfl, hne⟩

theorem strung_one (hk : Issued d m k) (hne : k ≠ .classHyphen) :
    Strung d m [k] (m.advance k) :=
  ⟨hk, fun h => absurd h hne, rfl⟩

/-- A token outside a class is no hyphen of a range. -/
theorem strung_outside (hp : m.place = .outside) (hk : Issued d m k) :
    Strung d m [k] (m.advance k) := by
  refine strung_one hk ?_
  rintro rfl
  simp only [Issued, hp] at hk
  obtain ⟨-, text, hl⟩ := hk
  exact hl

end Strung

/-- Tokens that fit each other and do not start with a repetition, so that they fit behind all
others. -/
structure Leading (ks : List TokenKind) : Prop where
  fits : ks.IsChain Fits
  head : ∀ k ∈ ks.head?, ∀ count, k ≠ .quantifier count

section Leading

variable {k : TokenKind} {ks ls : List TokenKind}

theorem fits_of_ne (k : TokenKind) {k' : TokenKind} (h : ∀ count, k' ≠ .quantifier count) :
    Fits k k' := by
  cases k' with
  | quantifier count => exact absurd rfl (h count)
  | _ => trivial

theorem leading_nil : Leading [] := ⟨.nil, by simp⟩

theorem Leading.append (h : Leading ks) (h' : Leading ls) : Leading (ks ++ ls) := by
  refine ⟨List.isChain_append.mpr ⟨h.fits, h'.fits, fun k _ k' hk' => fits_of_ne k (h'.head k' hk')⟩,
    ?_⟩
  cases ks with
  | nil => exact h'.head
  | cons k ks => exact h.head

theorem leading_one (h : ∀ count, k ≠ .quantifier count) : Leading [k] :=
  ⟨.singleton k, by simpa using h⟩

/-- Tokens without a repetition among them. -/
theorem leading_of_forall (h : ∀ k ∈ ks, ∀ count, k ≠ .quantifier count) : Leading ks := by
  induction ks with
  | nil => exact leading_nil
  | cons k ks ih =>
      exact (leading_one (h k (by simp))).append (ih fun k' hk' => h k' (List.mem_cons_of_mem _ hk'))

/-- What follows an opening parenthesis does not start with a repetition. -/
theorem Leading.of_groupOpen {o : Opener} (h : Leading (.groupOpen o :: ks)) : Leading ks := by
  obtain ⟨hhead, hks⟩ := List.isChain_cons.mp h.fits
  refine ⟨hks, ?_⟩
  rintro k hk count rfl
  exact (hhead _ hk).1 o rfl

end Leading

/-! ### Reading what is written -/

/-- A form that can be read can be read in Unicode text. -/
theorem FormWritten.widen {ctx : Context} {inClass : Bool} {v : Char} {form : LiteralForm}
    (h : FormWritten ctx inClass v form) : FormWritten ⟨ctx.dialect, true⟩ inClass v form := by
  cases form with
  | octal => exact .inl rfl
  | hex => exact .inl rfl
  | codePoint => exact ⟨h.1, rfl⟩
  | _ => exact h

section Legible

variable {ctx : Context} {m : Mode} {k : TokenKind} {rest : List Char}

/-- A form that can be read in Unicode text can be read where it is clear. -/
theorem FormWritten.narrow {inClass : Bool} {v : Char} {form : LiteralForm}
    (h : FormWritten ⟨ctx.dialect, true⟩ inClass v form)
    (hc : isClear ctx m (.escaped v form) rest = true) : FormWritten ctx inClass v form := by
  cases form with
  | octal => simpa [isClear, FormWritten] using hc
  | hex => simpa [isClear, FormWritten] using hc
  | codePoint => exact ⟨h.1, by simpa [isClear] using hc⟩
  | _ => exact h

theorem legible_outside (hq : m.quoting = false) (hp : m.place = .outside) (hs : Spellable k)
    {text : List Char} (hl : OutsideLexeme ctx m.spacing text k) : Legible ctx m k := by
  refine ⟨hq, ⟨text, ?_⟩, hs, fun h => absurd hp h⟩
  unfold Lexeme
  rw [hq, hp]
  exact hl

theorem legible_inClass (hq : m.quoting = false) {fresh : Bool} (hp : m.place = .inClass fresh)
    (hs : Spellable k) (hl : ClassLexeme ctx m.spacing fresh k)
    (hspecial : ∀ c, k = .literal c → Render.isClassSpecial c = false) : Legible ctx m k := by
  refine ⟨hq, ⟨[], ?_⟩, hs, fun _ => hspecial⟩
  unfold Lexeme
  rw [hq, hp]
  exact hl

theorem literal_legible {c : Char} (h : Issued ctx.dialect m (.literal c)) (hq : m.quoting = false)
    (hc : isClear ctx m (.literal c) rest = true) : Legible ctx m (.literal c) := by
  cases hp : m.place with
  | outside =>
      simp only [Issued, hp] at h
      obtain ⟨hmark, hspacing⟩ := h
      simp only [isClear, hp, bne_self_eq_false, Bool.false_or, Bool.and_eq_true,
        Bool.not_eq_true', Bool.and_eq_false_iff] at hc
      refine @legible_outside ctx m _ hq hp trivial [] ⟨hmark, fun hs => ⟨?_, hspacing hs⟩⟩
      rcases hc.2 with hc | hc
      · exact absurd (bne_eq_false_iff_eq.mp hc) hs
      · exact hc
  | inClass fresh =>
      simp only [Issued, hp] at h
      obtain ⟨hspecial, hslash, hblank⟩ := h
      have hne : ∀ d, Render.isClassSpecial d = true → c ≠ d := by
        rintro d hd rfl
        rw [hspecial] at hd
        cases hd
      refine legible_inClass hq hp trivial
        ⟨hslash, hne '-' (by decide), fun he => absurd he (hne ']' (by decide)), hblank⟩ ?_
      rintro _ ⟨⟩
      exact hspecial

/-- A token that is written in a mode and is clear can be read there. -/
theorem Issued.legible (h : Issued ctx.dialect m k) (hq : m.quoting = false)
    (hc : isClear ctx m k rest = true) : Legible ctx m k := by
  have hplain : (∀ c, k ≠ .literal c) → Spellable k → (match m.place with
      | .outside => ∃ text, OutsideLexeme ctx m.spacing text k
      | .inClass fresh => ClassLexeme ctx m.spacing fresh k) → Legible ctx m k := by
    intro hne hs hl
    cases hp : m.place with
    | outside =>
        rw [hp] at hl
        obtain ⟨text, hl⟩ := hl
        exact legible_outside hq hp hs hl
    | inClass fresh =>
        rw [hp] at hl
        exact legible_inClass hq hp hs hl fun c he => absurd he (hne c)
  cases k with
  | literal c => exact literal_legible h hq hc
  | escaped v form =>
      obtain ⟨hs, hl⟩ := h
      refine hplain (by simp) hs ?_
      cases hp : m.place with
      | outside =>
          rw [hp] at hl
          obtain ⟨text, hl⟩ := hl
          exact ⟨text, hl.narrow hc⟩
      | inClass fresh =>
          rw [hp] at hl
          exact hl.narrow hc
  | classClose =>
      refine hplain (by simp) trivial ?_
      cases hp : m.place with
      | outside => exact absurd hp h
      | inClass fresh =>
          cases fresh with
          | false => rfl
          | true => simp [isClear, hp] at hc
  | callout arg => cases arg <;> exact hplain (by simp) h.1 h.2
  | _ => exact hplain (by simp) h.1 h.2

end Legible

/-! ### What follows a token -/

section Follows

variable {d : Dialect} {m : Mode} {k : TokenKind}

/-- Where there are no counts, nothing has been read. -/
theorem interval_none {cs rest : List Char}
    (h : interval d cs = .ok (none, rest)) : rest = cs := by
  unfold interval at h
  obtain ⟨⟨lo, afterMin⟩, -, h⟩ := ok_bind h
  simp only at h
  split at h
  · split at h
    all_goals simp only [pure, Except.pure, Except.ok.injEq, Prod.mk.injEq, reduceCtorEq,
      false_and, true_and] at h
    exact h.symm
  · obtain ⟨⟨hi, afterMax⟩, -, h⟩ := ok_bind h
    simp only at h
    split at h
    · split at h
      · simp [pure, Except.pure] at h
      · split at h
        all_goals simp only [pure, Except.pure, Except.ok.injEq, Prod.mk.injEq, reduceCtorEq,
          false_and, true_and] at h
        exact h.symm
      · simp only [pure, Except.pure, Except.ok.injEq, Prod.mk.injEq, true_and] at h
        exact h.symm
    · simp only [pure, Except.pure, Except.ok.injEq, Prod.mk.injEq, true_and] at h
      exact h.symm
  · simp only [pure, Except.pure, Except.ok.injEq, Prod.mk.injEq, true_and] at h
    exact h.symm

theorem interval_of_startsCounts {cs : List Char} (h : startsCounts d cs = false) :
    interval d cs = .ok (none, cs) := by
  unfold startsCounts at h
  split at h
  · next rest hi => rw [hi, interval_none hi]
  · cases h

theorem escaped_head {v : Char} {form : LiteralForm} (h1 : form ≠ .verbatim) (h2 : form ≠ .quoted) :
    (TokenKind.escaped v form).spelling.toList.head? = some '\\' := by
  have hhex : (Render.hexText v).toList.head? = some '\\' := by simp [Render.hexText]
  cases form with
  | verbatim => exact absurd rfl h1
  | quoted => exact absurd rfl h2
  | punctuation => simp [TokenKind.spelling, Render.literal, Render.escapedText]
  | special =>
      simp only [TokenKind.spelling, Render.literal]
      split
      · simp [Render.escapedText]
      · exact hhex
  | control =>
      simp only [TokenKind.spelling, Render.literal]
      split
      · simp
      · exact hhex
  | octal => simp [TokenKind.spelling, Render.literal]
  | hex => exact hhex
  | codePoint => simp [TokenKind.spelling, Render.literal]

theorem shorthand_head (kind : ShorthandKind) (negated : Bool) :
    (TokenKind.shorthand kind negated).spelling.toList.head? = some '\\' := by
  cases kind <;> simp [TokenKind.spelling, Render.shorthand, Render.escapedText]

/-- Outside a class nothing but a repetition starts like one. -/
theorem Issued.head_outside (h : Issued d m k) (hp : m.place = .outside)
    (hk : ∀ c, k ≠ .quantifier c) : ∀ c ∈ k.spelling.toList.head?, c ∉ ['?', '*', '+'] := by
  have hhead : ∀ {d : Char}, k.spelling.toList.head? = some d → d ∉ ['?', '*', '+'] →
      ∀ c ∈ k.spelling.toList.head?, c ∉ ['?', '*', '+'] := by
    intro d hd hnot c hc
    rw [hd] at hc
    cases hc
    exact hnot
  cases k with
  | literal c =>
      simp only [Issued, hp] at h
      refine hhead (d := c) (by simp [TokenKind.spelling]) ?_
      intro hc
      have hall : ∀ c ∈ ['?', '*', '+'], isSyntax c = true := by decide
      rw [hall c hc] at h
      cases h.1
  | escaped v form =>
      by_cases h1 : form = .verbatim
      · subst h1
        simp only [Issued, hp] at h
        obtain ⟨-, text, hl⟩ := h
        exact hl.elim
      · by_cases h2 : form = .quoted
        · subst h2
          exact absurd rfl h.1
        · exact hhead (escaped_head h1 h2) (by decide)
  | numericEscape n => exact h.1.elim
  | shorthand kind negated => exact hhead (shorthand_head kind negated) (by decide)
  | anchor kind => cases kind <;> simp [TokenKind.spelling, Render.anchor]
  | quantifier c => exact absurd rfl (hk c)
  | groupOpen opener =>
      cases opener with
      | look l => cases l <;> simp [TokenKind.spelling, Render.opener]
      | _ => simp [TokenKind.spelling]
  | classOpen negated => simp [TokenKind.spelling]
  | posixClass name negated => simp [TokenKind.spelling]
  | backref ref => cases ref <;> simp [TokenKind.spelling]
  | subroutine ref =>
      cases ref with
      | number n => cases n <;> simp [TokenKind.spelling]
      | _ => simp [TokenKind.spelling]
  | conditionOpen test =>
      cases test with
      | reference ref => cases ref <;> simp [TokenKind.spelling]
      | assertion look => cases look <;> simp [TokenKind.spelling, Render.opener]
      | _ => simp [TokenKind.spelling]
  | verb name arg => cases arg <;> simp [TokenKind.spelling, Render.verb]
  | callout arg => cases arg <;> simp [TokenKind.spelling]
  | _ => simp [TokenKind.spelling]

/-- Inside a class nothing starts with a caret, and only hyphens start with a hyphen. -/
theorem Issued.head_inClass (h : Issued d m k) {fresh : Bool} (hp : m.place = .inClass fresh) :
    ∀ c ∈ k.spelling.toList.head?, c ≠ '^' ∧
      (k ≠ .classHyphen → k ≠ .classSubtraction → c ≠ '-') := by
  have hhead : ∀ {d : Char}, k.spelling.toList.head? = some d → d ≠ '^' → d ≠ '-' →
      ∀ c ∈ k.spelling.toList.head?, c ≠ '^' ∧
        (k ≠ .classHyphen → k ≠ .classSubtraction → c ≠ '-') := by
    intro d hd h1 h2 c hc
    rw [hd] at hc
    cases hc
    exact ⟨h1, fun _ _ => h2⟩
  cases k with
  | literal c =>
      simp only [Issued, hp] at h
      have hne : ∀ d, Render.isClassSpecial d = true → c ≠ d := by
        rintro d hd rfl
        rw [h.1] at hd
        cases hd
      exact hhead (d := c) (by simp [TokenKind.spelling]) (hne '^' (by decide)) (hne '-' (by decide))
  | escaped v form =>
      by_cases h1 : form = .verbatim
      · subst h1
        simp only [Issued, hp] at h
        exact h.2.elim
      · by_cases h2 : form = .quoted
        · subst h2
          exact absurd rfl h.1
        · exact hhead (escaped_head h1 h2) (by decide) (by decide)
  | shorthand kind negated => exact hhead (shorthand_head kind negated) (by decide) (by decide)
  | classClose => simp [TokenKind.spelling]
  | classHyphen => simp [TokenKind.spelling]
  | classIntersection => simp [TokenKind.spelling]
  | classSubtraction => simp [TokenKind.spelling]
  | posixClass name negated => simp [TokenKind.spelling]
  | _ =>
      simp only [Issued, hp] at h
      exact h.2.elim

/-- Only tokens that open or close a class lead into it or out of it. -/
theorem Mode.advance_place (m : Mode) (k : TokenKind) (hp : m.place = .outside)
    (hk : ∀ negated, k ≠ .classOpen negated) : (m.advance k).place = .outside := by
  have hrestore : m.restore.place = .outside := by
    unfold Mode.restore
    split <;> exact hp
  have hafter : (m.after k).place = .outside := by
    unfold Mode.after
    split
    case h_5 => exact hrestore
    all_goals exact hp
  have houtside : (m.outsideAfter k).place = .outside := by
    unfold Mode.outsideAfter
    split
    · exact absurd rfl (hk _)
    · exact hafter
  unfold Mode.advance
  rw [hp]
  simp only
  split
  · exact hp
  · exact houtside

theorem Mode.advance_quoting (m : Mode) (k : TokenKind) : (m.advance k).quoting = m.quoting := by
  have hrestore : m.restore.quoting = m.quoting := by
    unfold Mode.restore
    split <;> rfl
  have hafter : (m.after k).quoting = m.quoting := by
    unfold Mode.after
    split
    case h_5 => exact hrestore
    all_goals rfl
  have houtside : (m.outsideAfter k).quoting = m.quoting := by
    unfold Mode.outsideAfter
    split
    · rfl
    · exact hafter
  unfold Mode.advance
  split
  · split
    · rfl
    · exact houtside
  · rfl

/-- A token that is written outside a class only. -/
theorem Issued.outside (h : Issued d m k)
    (hk : ∀ spacing fresh, ¬ClassLexeme ⟨d, true⟩ spacing fresh k) (hclose : k ≠ .classClose)
    (hliteral : ∀ c, k ≠ .literal c) (hescaped : ∀ v form, k ≠ .escaped v form) :
    m.place = .outside := by
  cases hp : m.place with
  | outside => rfl
  | inClass fresh =>
      cases k with
      | literal c => exact absurd rfl (hliteral c)
      | escaped v form => exact absurd rfl (hescaped v form)
      | classClose => exact absurd rfl hclose
      | _ =>
          simp only [Issued, hp] at h
          exact absurd h.2 (hk _ _)

end Follows

/-- Tokens that are strung, fit each other and are clear can be written and read. -/
theorem Strung.trail {ctx : Context} {m m' : Mode} {ks : List TokenKind}
    (h : Strung ctx.dialect m ks m') (hq : m.quoting = false) (hfits : ks.IsChain Fits)
    (hc : clear ctx m ks = true) : Trail ctx m ks [] := by
  induction ks generalizing m with
  | nil => trivial
  | cons k ks ih =>
      obtain ⟨hk, hhyphen, hks⟩ := h
      obtain ⟨hck, hcks⟩ := Bool.and_eq_true_iff.mp hc
      have hrest : Trail ctx (m.advance k) ks [] :=
        ih hks (by rw [Mode.advance_quoting, hq]) hfits.tail hcks
      refine ⟨hk.legible hq hck, ?_, hrest⟩
      rw [List.append_nil]
      -- What follows starts as the next token does.
      have hnext : ∀ {c : Char}, (spell ks).head? = some c → ∃ k' ks', ks = k' :: ks' ∧
          Issued ctx.dialect (m.advance k) k' ∧ Fits k k' ∧ c ∈ k'.spelling.toList.head? := by
        intro c hhead
        cases ks with
        | nil => cases hhead
        | cons k' ks' =>
            obtain ⟨d, ds, hspelling, -⟩ := scan_spelling hrest.1 hrest.2.1
            rw [spell_cons, hspelling] at hhead
            exact ⟨k', ks', rfl, hks.1, hfits.rel, by rw [hspelling]; exact hhead⟩
      have hplain : ∀ {c : Char}, m.place = .outside → (∀ negated, k ≠ .classOpen negated) →
          (spell ks).head? = some c → (∃ count, Fits k (.quantifier count) ∧
            (Render.quantifier count).toList.head? = some c) ∨ c ∉ ['?', '*', '+'] := by
        intro c hp hk hhead
        obtain ⟨k', ks', -, hk', hfit, hc'⟩ := hnext hhead
        by_cases hquant : ∃ count, k' = .quantifier count
        · obtain ⟨count, rfl⟩ := hquant
          exact .inl ⟨count, hfit, hc'⟩
        · have hplace := Mode.advance_place m k hp hk
          exact .inr (hk'.head_outside hplace (fun count he => hquant ⟨count, he⟩) c hc')
      cases k with
      | literal c =>
          intro hp hbrace
          simp only [isClear, hp, hbrace, bne_self_eq_false, Bool.false_or, Bool.and_eq_true,
            Bool.not_eq_true', beq_self_eq_true, Bool.true_and] at hck
          exact interval_of_startsCounts hck.1
      | shorthand kind negated =>
          cases kind with
          | notNewline =>
              change startsCodePoint (spell ks) = false
              simpa [isClear] using hck
          | _ => trivial
      | quantifier count =>
          have hp : m.place = .outside := hk.outside (by simp [ClassLexeme]) (by simp) (by simp)
            (by simp)
          have hnot : ∀ c ∈ ['?', '+'], (spell ks).head? ≠ some c := by
            intro c hc hhead
            rcases hplain hp (by simp) hhead with ⟨count', hfit, hhead'⟩ | hnot
            · rw [hfit.2 count rfl] at hhead'
              cases hhead'
              exact absurd hc (by decide)
            · exact hnot (by grind)
          exact fun _ => ⟨hnot '?' (by decide), hnot '+' (by decide)⟩
      | groupOpen opener =>
          have hp : m.place = .outside := hk.outside (by simp [ClassLexeme]) (by simp) (by simp)
            (by simp)
          have hnot : ∀ c ∈ ['*', '?'], (spell ks).head? ≠ some c := by
            intro c hc hhead
            rcases hplain hp (by simp) hhead with ⟨count, hfit, -⟩ | hnot
            · exact hfit.1 opener rfl
            · exact hnot (by grind)
          cases opener with
          | capturing => exact ⟨hnot '*' (by decide), hnot '?' (by decide)⟩
          | _ => trivial
      | classOpen negated =>
          have hp : m.place = .outside := hk.outside (by simp [ClassLexeme]) (by simp) (by simp)
            (by simp)
          cases negated with
          | true => trivial
          | false =>
              intro hhead
              obtain ⟨k', ks', -, hk', -, hc'⟩ := hnext hhead
              have hplace : (m.advance (.classOpen false)).place = .inClass true := by
                simp [Mode.advance, hp, hq, Mode.outsideAfter]
              exact (hk'.head_inClass hplace '^' hc').1 rfl
      | classHyphen =>
          intro hhead
          obtain ⟨k', ks', hks', hk', -, hc'⟩ := hnext hhead
          obtain ⟨k'', ks'', hks'', hne, hne'⟩ := hhyphen rfl
          rw [hks'] at hks''
          cases hks''
          have hplace : (m.advance .classHyphen).place = .inClass false := by
            cases hp : m.place with
            | outside =>
                simp only [Issued, hp] at hk
                obtain ⟨-, text, hl⟩ := hk
                exact hl.elim
            | inClass fresh => simp [Mode.advance, hp, Mode.classAfter]
          exact (hk'.head_inClass hplace '-' hc').2 hne hne' rfl
      | _ => trivial

end PatternLint.Token
