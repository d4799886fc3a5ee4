import PatternLint.Proofs.Token.Lexeme

/-!
# The tokens of a text, one after another

`tokens` recurses on the text that is left and computes the text of a piece from
two lengths. `Scanned` says the same as a relation, where the text of every piece
stands in front of the rest: a proof about all tokens of a text is an induction
on it.

From it comes what the parser relies on. Every token is a lexeme, its text is the
part of the pattern that its offsets mark, and the tokens follow each other up to
the one that ends the text.
-/

namespace PatternLint

namespace Token

open Text

/-- The tokens that a text divides into, from a mode and an offset on. -/
inductive Scanned (ctx : Context) : Mode → Nat → List Char → List Token → Prop where
  | done (m : Mode) (offset : Nat) : Scanned ctx m offset [] [eof offset]
  | skip {m m' : Mode} {offset : Nat} {c : Char} {pre rest : List Char} {ts : List Token}
      (hp : scan ctx m c (pre ++ rest) = .ok ⟨none, m', rest⟩)
      (h : Scanned ctx m' (offset + size (c :: pre)) rest ts) :
      Scanned ctx m offset (c :: (pre ++ rest)) ts
  | token {m m' : Mode} {offset : Nat} {c : Char} {pre rest : List Char} {k : TokenKind}
      {ts : List Token} (hp : scan ctx m c (pre ++ rest) = .ok ⟨some k, m', rest⟩)
      (h : Scanned ctx m' (offset + size (c :: pre)) rest ts) :
      Scanned ctx m offset (c :: (pre ++ rest))
        (⟨k, c :: pre, offset, offset + size (c :: pre)⟩ :: ts)

@[simp] theorem textBefore_append (pre rest : List Char) : textBefore (pre ++ rest) rest = pre := by
  simp [textBefore]

/-- One round of `tokens` when its piece is known. -/
theorem tokens_cons {ctx : Context} {m m' : Mode} {offset : Nat} {c : Char} {pre rest : List Char}
    {k : Option TokenKind} (hp : scan ctx m c (pre ++ rest) = .ok ⟨k, m', rest⟩) :
    tokens ctx m offset (c :: (pre ++ rest)) =
      (tokens ctx m' (offset + size (c :: pre)) rest).map fun ts =>
        match k with
        | none => ts
        | some k => ⟨k, c :: pre, offset, offset + size (c :: pre)⟩ :: ts := by
  have ht : textBefore (c :: (pre ++ rest)) rest = c :: pre := textBefore_append (c :: pre) rest
  rw [tokens]
  split
  · next e he => simp [hp] at he
  · next p he =>
      obtain rfl : ⟨k, m', rest⟩ = p := Except.ok.inj (hp ▸ he)
      simp only [ht]
      cases tokens ctx m' (offset + size (c :: pre)) rest with
      | error e => rfl
      | ok ts => cases k <;> rfl

/-- `Scanned` is what `tokens` computes. -/
theorem tokens_eq_ok_iff {ctx : Context} {m : Mode} {offset : Nat} {cs : List Char}
    {ts : List Token} : tokens ctx m offset cs = .ok ts ↔ Scanned ctx m offset cs ts := by
  constructor
  · intro h
    induction hn : cs.length using Nat.strongRecOn generalizing m offset cs ts with
    | _ n ih =>
    cases cs with
    | nil =>
        rw [tokens, Except.ok.injEq] at h
        exact h ▸ .done m offset
    | cons c cs =>
        cases hp : scan ctx m c cs with
        | error e =>
            rw [tokens] at h
            split at h
            · simp at h
            · next he => simp [hp] at he
        | ok p =>
            obtain ⟨k, m', rest⟩ := p
            obtain ⟨pre, rfl⟩ : rest <:+ cs := scan_suffix hp
            have hlt : rest.length < n := by simp at hn; omega
            rw [tokens_cons hp] at h
            cases ht : tokens ctx m' (offset + size (c :: pre)) rest with
            | error e => rw [ht] at h; simp [Except.map] at h
            | ok ts' =>
                rw [ht] at h
                simp only [Except.map, Except.ok.injEq] at h
                subst h
                cases k with
                | none => exact .skip hp (ih _ hlt ht rfl)
                | some k => exact .token hp (ih _ hlt ht rfl)
  · intro h
    induction h with
    | done m offset => rw [tokens]
    | skip hp _ ih => rw [tokens_cons hp, ih]; rfl
    | token hp _ ih => rw [tokens_cons hp, ih]; rfl

/-! ### Modes -/

/-- A piece without a token, which starts with a character: what may be skipped in a mode, with the
mode and the text after it. Only the escapes touch the mode: they turn quoting on and off, and count
as members of the class that they stand in. -/
inductive Skipped (m : Mode) : Char → List Char → Mode → List Char → Prop where
  | openQuote (rest : List Char) {place : Place} (hp : place = .outside ↔ m.place = .outside) :
      Skipped m '\\' ('Q' :: rest) { m with place, quoting := true } rest
  | closeQuote (rest : List Char) {place : Place} (hp : place = .outside ↔ m.place = .outside) :
      Skipped m '\\' ('E' :: rest) { m with place, quoting := false } rest
  | blank {c : Char} (rest : List Char) (hp : m.place = .outside) (hx : m.spacing ≠ 0)
      (hc : isPatternBlank c = true) : Skipped m c rest m rest
  | comment (cs : List Char) (hp : m.place = .outside) (hx : m.spacing ≠ 0) :
      Skipped m '#' cs m ((cs.dropWhile (· != '\n')).drop 1)
  | classBlank {c : Char} (rest : List Char) (hp : m.place ≠ .outside)
      (hx : m.spacing.has Flags.extendedMore = true) (hc : c = ' ' ∨ c = '\t') :
      Skipped m c rest m rest

section Skip

variable {ctx : Context} {m m₀ m' : Mode} {c : Char} {cs rest : List Char}

theorem escapePiece_skipped {inClass : Bool}
    (h : escapePiece m₀ inClass ctx cs = .ok ⟨none, m', rest⟩) :
    cs = 'Q' :: rest ∧ m' = { m₀ with quoting := true } ∨ cs = 'E' :: rest ∧ m' = m₀ := by
  unfold escapePiece at h
  split at h
  · simp at h
  · simp at h
  all_goals
    next r he =>
      simp only [Except.ok.injEq, Piece.mk.injEq, true_and] at h
      obtain ⟨rfl, rfl⟩ := h
      unfold escape at he
      split at he
      · simp [fail] at he
      split at he
      · next hc => simp_all
      split at he
      · next hc => simp_all
      · obtain ⟨⟨k, r'⟩, -, he⟩ := ok_bind he
        simp [pure, Except.pure] at he

/-- What is skipped in a class: a blank, or a mark, behind which the class is not fresh. -/
theorem classPiece_none {fresh : Bool} (h : classPiece ctx m fresh c cs = .ok ⟨none, m', rest⟩) :
    (m.spacing.has Flags.extendedMore = true ∧ (c = ' ' ∨ c = '\t') ∧ m' = m ∧ rest = cs) ∨
      c = '\\' ∧ (cs = 'Q' :: rest ∧ m' = { m with place := .inClass false, quoting := true } ∨
        cs = 'E' :: rest ∧ m' = { m with place := .inClass false }) := by
  unfold classPiece at h
  split at h
  · next hblank =>
      simp only [Except.ok.injEq, Piece.mk.injEq, true_and] at h
      obtain ⟨rfl, rfl⟩ := h
      simp only [Bool.and_eq_true, Bool.or_eq_true, beq_iff_eq] at hblank
      exact .inl ⟨hblank.1, hblank.2, rfl, rfl⟩
  · simp only at h
    split at h
    · split at h <;> simp at h
    split at h
    · next hc => exact .inr ⟨hc, escapePiece_skipped h⟩
    iterate 3
      split at h
      · simp at h
    simp at h

theorem classPiece_skipped {fresh : Bool} (hq : m.quoting = false) (hp : m.place = .inClass fresh)
    (h : classPiece ctx m fresh c cs = .ok ⟨none, m', rest⟩) : Skipped m c cs m' rest := by
  have hin : m.place ≠ .outside := by simp [hp]
  rcases classPiece_none h with ⟨hx, hc, rfl, rfl⟩ | ⟨rfl, ⟨rfl, rfl⟩ | ⟨rfl, rfl⟩⟩
  · exact .classBlank _ hin hx hc
  · exact .openQuote rest (by simp [hin])
  · have hm : ({ m with place := .inClass false } : Mode) =
        { m with place := .inClass false, quoting := false } := by rw [hq]
    rw [hm]
    exact .closeQuote rest (by simp [hin])

theorem outsidePiece_skipped (hq : m.quoting = false) (hp : m.place = .outside)
    (h : outsidePiece ctx m c cs = .ok ⟨none, m', rest⟩) : Skipped m c cs m' rest := by
  unfold outsidePiece at h
  split at h
  · next hblank =>
      simp only [Except.ok.injEq, Piece.mk.injEq, true_and] at h
      obtain ⟨rfl, rfl⟩ := h
      simp only [Bool.and_eq_true, bne_iff_ne] at hblank
      exact .blank cs hp hblank.1 hblank.2
  split at h
  · next hcomment =>
      simp only [Except.ok.injEq, Piece.mk.injEq, true_and] at h
      obtain ⟨rfl, rfl⟩ := h
      simp only [Bool.and_eq_true, bne_iff_ne, beq_iff_eq] at hcomment
      exact hcomment.2 ▸ .comment cs hp hcomment.1
  split at h
  · next hc =>
      obtain ⟨rfl, rfl⟩ | ⟨rfl, rfl⟩ := escapePiece_skipped h
      · exact hc ▸ .openQuote rest Iff.rfl
      · obtain ⟨place, quoting, spacing, saved⟩ := m'
        obtain rfl : quoting = false := hq
        exact hc ▸ .closeQuote rest Iff.rfl
  split at h
  · simp only at h
    split at h <;> simp at h
  · split at h <;> simp at h

/-- In quoted text only its end is skipped. -/
theorem quotedPiece_none (h : quotedPiece m c cs = ⟨none, m', rest⟩) :
    c = '\\' ∧ cs = 'E' :: rest ∧ m' = { m with quoting := false } := by
  unfold quotedPiece at h
  simp only at h
  split at h
  · split at h
    · next hc =>
        simp only [Piece.mk.injEq, true_and] at h
        obtain ⟨rfl, rfl⟩ := h
        exact ⟨hc, rfl, rfl⟩
    · simp at h
  · simp at h

theorem quotedPiece_skipped (h : quotedPiece m c cs = ⟨none, m', rest⟩) :
    Skipped m c cs m' rest := by
  obtain ⟨rfl, rfl, rfl⟩ := quotedPiece_none h
  exact .closeQuote rest Iff.rfl

theorem scan_skipped (h : scan ctx m c cs = .ok ⟨none, m', rest⟩) : Skipped m c cs m' rest := by
  unfold scan at h
  split at h
  · exact quotedPiece_skipped (Except.ok.inj h)
  · next hq =>
      rw [Bool.not_eq_true] at hq
      split at h
      · next fresh hp => exact classPiece_skipped hq hp h
      · next hp => exact outsidePiece_skipped hq hp h

/-- What is read without a token changes neither the spacing nor the side of a class. -/
theorem scan_skip (h : scan ctx m c cs = .ok ⟨none, m', rest⟩) :
    m'.spacing = m.spacing ∧ m'.saved = m.saved ∧ (m'.place = .outside ↔ m.place = .outside) := by
  cases scan_skipped h with
  | openQuote rest hp => exact ⟨rfl, rfl, hp⟩
  | closeQuote rest hp => exact ⟨rfl, rfl, hp⟩
  | _ => exact ⟨rfl, rfl, Iff.rfl⟩

end Skip

section Outside

variable {ctx : Context} {m : Mode} {text : List Char} {k : TokenKind}

/-- A token outside a class is quoted or has its own form there. -/
theorem Lexeme.outside (h : Lexeme ctx m text k) (hp : m.place = .outside) :
    ((∃ v, k = .escaped v .quoted) ∨ OutsideLexeme ctx m.spacing text k) ∧
      m.advance k = m.outsideAfter k := by
  unfold Lexeme at h
  unfold Mode.advance
  rw [hp] at h ⊢
  split at h
  · next hq =>
      obtain ⟨v, rfl⟩ := h
      exact ⟨.inl ⟨v, rfl⟩, by simp [hq, Mode.outsideAfter, Mode.after]⟩
  · next hq => exact ⟨.inr h, by simp [hq]⟩

/-- A token inside a class is quoted or has its own form there. -/
theorem Lexeme.inside (h : Lexeme ctx m text k) (hp : m.place ≠ .outside) :
    ((∃ v, k = .escaped v .quoted) ∨ ∃ fresh, ClassLexeme ctx m.spacing fresh k) ∧
      m.advance k = m.classAfter k := by
  unfold Lexeme at h
  unfold Mode.advance
  cases hplace : m.place with
  | outside => exact absurd hplace hp
  | inClass fresh =>
      rw [hplace] at h
      refine ⟨?_, rfl⟩
      split at h
      · exact .inl h
      · exact .inr ⟨fresh, h⟩

end Outside

/-! ### Where the tokens stand -/

/-- An offset that falls between two characters of a text, or at one of its ends. -/
def Boundary (cs : List Char) (offset : Nat) : Prop :=
  ∃ pre post, cs = pre ++ post ∧ size pre = offset

theorem Boundary.le_size {cs : List Char} {offset : Nat} (h : Boundary cs offset) :
    offset ≤ size cs := by
  obtain ⟨pre, post, rfl, rfl⟩ := h
  simp

theorem boundary_size (cs : List Char) : Boundary cs (size cs) := ⟨cs, [], by simp, rfl⟩

/-- A token whose text, which is not empty, is the part of the pattern that its offsets mark. -/
structure Placed (ctx : Context) (cs : List Char) (t : Token) : Prop where
  text_ne_nil : t.text ≠ []
  slice : ∃ pre post, cs = pre ++ (t.text ++ post) ∧ size pre = t.start
  stop : t.stop = t.start + size t.text
  lexeme : ∃ m, Lexeme ctx m t.text t.kind

/-- Tokens one after another, from an offset up to the end of the text. -/
inductive Laid (ctx : Context) (cs : List Char) : Nat → List Token → Prop where
  | done : Laid ctx cs (size cs) [eof (size cs)]
  | token {t : Token} {next : Nat} {ts : List Token} (ht : Placed ctx cs t) (hle : t.stop ≤ next)
      (h : Laid ctx cs next ts) : Laid ctx cs t.start (t :: ts)

namespace Placed

variable {ctx : Context} {cs : List Char} {t : Token}

/-- Where the text of a token starts with a word, the end of the word is a place of the text. -/
theorem boundary_add (h : Placed ctx cs t) {word : List Char} (hw : word <+: t.text) :
    Boundary cs (t.start + size word) := by
  obtain ⟨pre, post, hcs, hsize⟩ := h.slice
  obtain ⟨more, hm⟩ := hw
  refine ⟨pre ++ word, more ++ post, ?_, by simp [hsize]⟩
  rw [hcs, ← hm]
  simp

theorem boundary_start (h : Placed ctx cs t) : Boundary cs t.start := by
  simpa using h.boundary_add (List.nil_prefix (l := t.text))

theorem boundary_stop (h : Placed ctx cs t) : Boundary cs t.stop := by
  rw [h.stop]
  exact h.boundary_add (List.prefix_refl t.text)

theorem start_lt_stop (h : Placed ctx cs t) : t.start < t.stop := by
  obtain ⟨c, text, htext⟩ := List.exists_cons_of_ne_nil h.text_ne_nil
  have hpos := c.utf8Size_pos
  rw [h.stop, htext, size_cons]
  omega

theorem start_le_stop (h : Placed ctx cs t) : t.start ≤ t.stop := Nat.le_of_lt h.start_lt_stop

end Placed

namespace Laid

variable {ctx : Context} {cs : List Char} {next : Nat} {ts : List Token}

/-- The offset is that of the first token. -/
theorem head (h : Laid ctx cs next ts) : ts.head?.map Token.start = some next := by
  cases h <;> rfl

theorem boundary (h : Laid ctx cs next ts) : Boundary cs next := by
  cases h with
  | done => exact boundary_size cs
  | token ht _ _ => exact ht.boundary_start

end Laid

/-- The tokens of the rest of a text stand in it one after another. -/
theorem Scanned.laid {ctx : Context} {m : Mode} {offset : Nat} {cs pre rest : List Char}
    {ts : List Token} (h : Scanned ctx m offset rest ts) (hcs : cs = pre ++ rest)
    (ho : size pre = offset) : ∃ next, offset ≤ next ∧ Laid ctx cs next ts := by
  induction h generalizing pre with
  | done m offset =>
      have hsize : size cs = offset := by simp [hcs, ho]
      exact ⟨offset, Nat.le_refl _, hsize ▸ .done⟩
  | @skip m m' offset c piece rest ts hp _ ih =>
      obtain ⟨next, hle, hl⟩ := @ih (pre ++ c :: piece) (by simp [hcs]) (by simp [ho])
      exact ⟨next, by omega, hl⟩
  | @token m m' offset c piece rest k ts hp _ ih =>
      obtain ⟨next, hle, hl⟩ := @ih (pre ++ c :: piece) (by simp [hcs]) (by simp [ho])
      have ht : Placed ctx cs ⟨k, c :: piece, offset, offset + size (c :: piece)⟩ :=
        ⟨by simp, ⟨pre, rest, by simp [hcs], ho⟩, rfl, m, (scan_lexeme hp).1⟩
      exact ⟨offset, Nat.le_refl _, .token ht hle hl⟩

end Token

/-- The context that the tokens of a body are read in. -/
def Token.contextOf (body : String) (flags : Flags) (dialect : Dialect) : Token.Context :=
  ⟨dialect, flags.has Flags.unicode || Token.asksForUtf body.toList⟩

theorem tokenize_laid {body : String} {flags : Flags} {dialect : Dialect} {ts : List Token}
    (h : tokenize body flags dialect = .ok ts) :
    ∃ next, Token.Laid (Token.contextOf body flags dialect) body.toList next ts := by
  obtain ⟨next, -, hl⟩ := (Token.tokens_eq_ok_iff.mp h).laid (List.nil_append _).symm rfl
  exact ⟨next, hl⟩

end PatternLint
