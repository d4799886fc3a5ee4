import PatternLint.Proofs.Token.Canonical
import PatternLint.Proofs.Token.Stream

/-!
# Texts that divide into the tokens they were written from

A token in its spelling is read back where it is a lexeme, unless it goes on into
what follows: a repetition takes a mark after it, an opening brace may turn out to
hold counts. `Trail` says of tokens one after another that each is a lexeme of its
mode and ends where its spelling ends. Such tokens can be written and read again.
-/

namespace PatternLint.Token

open Unicode Text

/-- What a token must not be followed by, so that it ends where its spelling ends. -/
def Follows (ctx : Context) (m : Mode) (k : TokenKind) (rest : List Char) : Prop :=
  match k with
  | .literal c => m.place = .outside → c = '\x7b' → interval ctx.dialect rest = .ok (none, rest)
  | .shorthand .notNewline _ => startsCodePoint rest = false
  | .quantifier count => count.greed = .greedy → rest.head? ≠ some '?' ∧ rest.head? ≠ some '+'
  | .groupOpen .capturing => rest.head? ≠ some '*' ∧ rest.head? ≠ some '?'
  | .classOpen false => rest.head? ≠ some '^'
  | .classHyphen => rest.head? ≠ some '-'
  | _ => True

/-- A token whose spelling is a way to write it. Quoted characters and backslashes with digits have
none; a name has to be one that is not too long, and a distance back must not be zero. -/
def Spellable : TokenKind → Prop
  | .backref ref => (∀ s, ref = .name s → checkName s.toList = .ok ()) ∧ ref ≠ .relative 0
  | .subroutine ref => ∀ s, ref = .name s → checkName s.toList = .ok ()
  | .groupOpen (.modifiers change) => change.letters ≠ ""
  | .escaped _ form => form ≠ .quoted
  | .numericEscape _ => False
  | _ => True

/-- A token that can be written and read in a mode. -/
structure Legible (ctx : Context) (m : Mode) (k : TokenKind) : Prop where
  quoting : m.quoting = false
  lexeme : ∃ text, Lexeme ctx m text k
  spellable : Spellable k
  special : m.place ≠ .outside → ∀ c, k = .literal c → Render.isClassSpecial c = false

section Outside

variable {ctx : Context} {m : Mode} {k : TokenKind} {rest : List Char}

theorem scan_of_outsideToken {c : Char} {cs : List Char} (hq : m.quoting = false)
    (hp : m.place = .outside) (hb : m.spacing ≠ 0 → isPatternBlank c = false ∧ c ≠ '#')
    (h1 : c ≠ '\\') (h2 : c ≠ '[') (hk : m.outsideAfter k = m.after k)
    (h : outsideToken ctx c cs = .ok (k, rest)) :
    scan ctx m c cs = .ok ⟨some k, m.outsideAfter k, rest⟩ := by
  have hblank : (m.spacing != 0 && isPatternBlank c) = false := by
    by_cases hs : m.spacing = 0
    · simp [hs]
    · simp [(hb hs).1]
  have hcomment : (m.spacing != 0 && c == '#') = false := by
    by_cases hs : m.spacing = 0
    · simp [hs]
    · simp [(hb hs).2]
  simp only [scan, hq, hp, outsidePiece, hblank, hcomment, h1, h2, h, hk, Bool.false_eq_true,
    ↓reduceIte]

theorem scan_of_escape (hq : m.quoting = false) (hp : m.place = .outside)
    (hk : m.outsideAfter k = m) (h : EscapeSpelled ctx false k rest) :
    ∃ c cs, k.spelling.toList = c :: cs ∧
      scan ctx m c (cs ++ rest) = .ok ⟨some k, m.outsideAfter k, rest⟩ := by
  obtain ⟨c, cs, hspelling, hQ, hE, hread⟩ := h
  refine ⟨'\\', c :: cs, hspelling, ?_⟩
  have hblank : isPatternBlank '\\' = false := by decide
  have hescape : escape ctx false (c :: (cs ++ rest)) = .ok (.token k, rest) := by
    simp only [escape, hQ, hE, ↓reduceIte, hread, bind, Except.bind, pure, Except.pure]
  simp [scan, hq, hp, outsidePiece, hblank, escapePiece, hescape, hk]

theorem scan_of_paren (hq : m.quoting = false) (hp : m.place = .outside)
    (hk : m.outsideAfter k = m.after k) (h : ParenSpelled ctx.dialect k rest) :
    ∃ c cs, k.spelling.toList = c :: cs ∧
      scan ctx m c (cs ++ rest) = .ok ⟨some k, m.outsideAfter k, rest⟩ := by
  obtain ⟨cs, hspelling, hread⟩ := h
  exact ⟨'(', cs, hspelling, scan_of_outsideToken hq hp (fun _ => by decide) (by decide) (by decide)
    hk hread⟩

theorem outsideToken_literal {c : Char} (h : isSyntax c = false)
    (hb : c = '\x7b' → interval ctx.dialect rest = .ok (none, rest)) :
    outsideToken ctx c rest = .ok (.literal c, rest) := by
  have hne : ∀ d, isSyntax d = true → c ≠ d := by
    rintro d hd rfl
    simp [h] at hd
  unfold outsideToken
  rw [if_neg (hne '(' (by decide)), if_neg (hne ')' (by decide)), if_neg (hne '|' (by decide)),
    if_neg (hne '.' (by decide)), if_neg (hne '^' (by decide)), if_neg (hne '$' (by decide)),
    if_neg (hne '*' (by decide)), if_neg (hne '+' (by decide)), if_neg (hne '?' (by decide))]
  split
  · next hc => rw [hb hc]
  · rfl

theorem scan_classOpen {negated : Bool} (hq : m.quoting = false) (hp : m.place = .outside)
    (hf : Follows ctx m (.classOpen negated) rest) :
    ∃ c cs, (TokenKind.classOpen negated).spelling.toList = c :: cs ∧
      scan ctx m c (cs ++ rest) =
        .ok ⟨some (.classOpen negated), m.outsideAfter (.classOpen negated), rest⟩ := by
  have hblank : isPatternBlank '[' = false := by decide
  cases negated with
  | true =>
      refine ⟨'[', ['^'], by simp [TokenKind.spelling], ?_⟩
      simp [scan, hq, hp, outsidePiece, hblank, Mode.outsideAfter]
  | false =>
      refine ⟨'[', [], by simp [TokenKind.spelling], ?_⟩
      cases rest with
      | nil => simp [scan, hq, hp, outsidePiece, hblank, Mode.outsideAfter]
      | cons d rest =>
          have hcaret : d ≠ '^' := by
            rintro rfl
            exact hf rfl
          simp [scan, hq, hp, outsidePiece, hblank, Mode.outsideAfter, hcaret]

theorem scan_outside (h : Legible ctx m k) (hp : m.place = .outside) (hf : Follows ctx m k rest) :
    ∃ c cs, k.spelling.toList = c :: cs ∧
      scan ctx m c (cs ++ rest) = .ok ⟨some k, m.outsideAfter k, rest⟩ := by
  obtain ⟨hq, ⟨text, hl⟩, hs, -⟩ := h
  have hl : OutsideLexeme ctx m.spacing text k := by
    unfold Lexeme at hl
    rw [hq, hp] at hl
    exact hl
  have hplain : ∀ {c : Char}, m.outsideAfter k = m.after k → isPatternBlank c = false → c ≠ '#' →
      c ≠ '\\' → c ≠ '[' → outsideToken ctx c rest = .ok (k, rest) →
      scan ctx m c rest = .ok ⟨some k, m.outsideAfter k, rest⟩ :=
    fun hk h1 h2 h3 h4 hread => scan_of_outsideToken hq hp (fun _ => ⟨h1, h2⟩) h3 h4 hk hread
  cases k with
  | literal c =>
      have hne : ∀ d, isSyntax d = true → c ≠ d := by
        rintro d hd rfl
        simp [hl.1] at hd
      refine ⟨c, [], by simp [TokenKind.spelling], ?_⟩
      exact scan_of_outsideToken hq hp hl.2 (hne _ (by decide)) (hne _ (by decide)) rfl
        (outsideToken_literal hl.1 (hf hp))
  | escaped v form =>
      refine scan_of_escape hq hp rfl ?_
      cases form with
      | verbatim => exact hl.elim
      | punctuation => exact punctuation_spelled hl.1 hl.2
      | special => exact special_spelled hl
      | control => exact control_spelled hl
      | octal => exact octal_spelled hl
      | hex => exact hex_spelled hl
      | codePoint => exact codePoint_spelled hl.1 hl.2
      | quoted => exact absurd rfl hs
  | numericEscape n => exact hs.elim
  | shorthand kind negated =>
      refine scan_of_escape hq hp rfl (shorthand_spelled hl ?_)
      rintro rfl
      exact hf
  | anchor kind =>
      by_cases h1 : kind = .start
      · subst h1
        exact ⟨'^', [], rfl, hplain rfl (by decide) (by decide) (by decide) (by decide) rfl⟩
      · by_cases h2 : kind = .stop
        · subst h2
          exact ⟨'$', [], rfl, hplain rfl (by decide) (by decide) (by decide) (by decide) rfl⟩
        · exact scan_of_escape hq hp rfl (anchor_spelled h1 h2)
  | dot => exact ⟨'.', [], rfl, hplain rfl (by decide) (by decide) (by decide) (by decide) rfl⟩
  | quantifier count =>
      obtain ⟨c, cs, hspelling, hc, hread⟩ := quantifier_spelled hl hf
      have hall : ∀ c ∈ ['*', '+', '?', '\x7b'],
          isPatternBlank c = false ∧ c ≠ '#' ∧ c ≠ '\\' ∧ c ≠ '[' := by decide
      obtain ⟨h1, h2, h3, h4⟩ := hall c hc
      exact ⟨c, cs, hspelling, scan_of_outsideToken hq hp (fun _ => ⟨h1, h2⟩) h3 h4 rfl hread⟩
  | alternation => exact ⟨'|', [], rfl, hplain rfl (by decide) (by decide) (by decide) (by decide) rfl⟩
  | groupOpen opener =>
      refine scan_of_paren hq hp rfl (opener_spelled hl.2 ?_ ?_)
      · rintro rfl
        exact hf
      · rintro change rfl
        exact hs
  | groupClose => exact ⟨')', [], rfl, hplain rfl (by decide) (by decide) (by decide) (by decide) rfl⟩
  | inlineFlags change => exact scan_of_paren hq hp rfl (inlineFlags_spelled hl.2)
  | classOpen negated => exact scan_classOpen hq hp hf
  | backref ref =>
      refine scan_of_escape hq hp rfl (backref_spelled hl.1 hs.1 ?_)
      rintro i rfl
      have hle := hl.2 i rfl
      have hne : i ≠ 0 := fun h => hs.2 (by rw [h])
      omega
  | subroutine ref => exact scan_of_paren hq hp rfl (subroutine_spelled hl hs)
  | conditionOpen test => exact scan_of_paren hq hp rfl (conditionOpen_spelled hl.2)
  | verb name arg => exact scan_of_paren hq hp rfl (verb_spelled hl)
  | comment text => exact scan_of_paren hq hp rfl (comment_spelled hl)
  | callout arg =>
      refine scan_of_paren hq hp rfl (callout_spelled ?_)
      rintro n rfl
      exact hl
  | _ => exact hl.elim

end Outside

section InClass

variable {ctx : Context} {m : Mode} {k : TokenKind} {fresh : Bool} {rest : List Char}

/-- Inside a class, other tokens than the one that closes it leave it as it is, but not fresh. -/
theorem scan_of_classPiece {c : Char} {cs : List Char} (hq : m.quoting = false)
    (hp : m.place = .inClass fresh)
    (h : classPiece ctx m fresh c cs = .ok ⟨some k, m.classAfter k, rest⟩) :
    scan ctx m c cs = .ok ⟨some k, m.classAfter k, rest⟩ := by
  simp only [scan, hq, hp, Bool.false_eq_true, ↓reduceIte, h]

theorem scan_of_classEscape (hq : m.quoting = false) (hp : m.place = .inClass fresh)
    (hk : k ≠ .classClose) (h : EscapeSpelled ctx true k rest) :
    ∃ c cs, k.spelling.toList = c :: cs ∧
      scan ctx m c (cs ++ rest) = .ok ⟨some k, m.classAfter k, rest⟩ := by
  obtain ⟨c, cs, hspelling, hQ, hE, hread⟩ := h
  refine ⟨'\\', c :: cs, hspelling, scan_of_classPiece hq hp ?_⟩
  have hescape : escape ctx true (c :: (cs ++ rest)) = .ok (.token k, rest) := by
    simp only [escape, hQ, hE, ↓reduceIte, hread, bind, Except.bind, pure, Except.pure]
  simp [classPiece, escapePiece, hescape, Mode.classAfter, hk]

theorem posix_spelled {name : String} (hne : name.toList ≠ [])
    (hall : name.toList.all isPosixChar = true) (negated : Bool) :
    posixClass? ((if negated then [':', '^'] else [':']) ++ name.toList ++ ':' :: ']' :: rest) =
      some (.posixClass name negated, rest) := by
  have hstop : isPosixChar ':' = false := by decide
  have hname : posixName? negated (name.toList ++ ':' :: ']' :: rest) =
      some (.posixClass name negated, rest) := by
    simp [posixName?, dropWhile_stop hall hstop, takeWhile_stop hall hstop, hne]
  cases negated with
  | true => exact hname
  | false =>
      cases hc : name.toList with
      | nil => exact absurd hc hne
      | cons c cs =>
          have hcaret : c ≠ '^' := by
            rw [hc, List.all_cons, Bool.and_eq_true] at hall
            rintro rfl
            exact absurd hall.1 (by decide)
          rw [hc] at hname
          simp only [List.cons_append] at hname
          simp [posixClass?, hcaret, hname]

theorem scan_inClass (h : Legible ctx m k) (hp : m.place = .inClass fresh)
    (hf : Follows ctx m k rest) :
    ∃ c cs, k.spelling.toList = c :: cs ∧
      scan ctx m c (cs ++ rest) = .ok ⟨some k, m.classAfter k, rest⟩ := by
  obtain ⟨hq, ⟨text, hl⟩, hs, hspecial⟩ := h
  have hl : ClassLexeme ctx m.spacing fresh k := by
    unfold Lexeme at hl
    rw [hq, hp] at hl
    exact hl
  cases k with
  | literal c =>
      refine ⟨c, [], by simp [TokenKind.spelling], scan_of_classPiece hq hp ?_⟩
      have hne : ∀ d, Render.isClassSpecial d = true → c ≠ d := by
        rintro d hd rfl
        simp [hspecial (by simp [hp]) c rfl] at hd
      have hblank : (m.spacing.has Flags.extendedMore && (c == ' ' || c == '\t')) = false := by
        cases hx : m.spacing.has Flags.extendedMore with
        | false => rfl
        | true => simp [hl.2.2.2 hx]
      simp [classPiece, hblank, hne ']' (by decide), hl.1, hne '[' (by decide),
        hne '&' (by decide), hne '-' (by decide), Mode.classAfter]
  | escaped v form =>
      refine scan_of_classEscape hq hp (by simp) ?_
      cases form with
      | verbatim => exact hl.elim
      | punctuation => exact punctuation_spelled hl.1 hl.2
      | special => exact special_spelled hl
      | control => exact control_spelled hl
      | octal => exact octal_spelled hl
      | hex => exact hex_spelled hl
      | codePoint => exact codePoint_spelled hl.1 hl.2
      | quoted => exact absurd rfl hs
  | shorthand kind negated =>
      refine scan_of_classEscape hq hp (by simp) (shorthand_spelled hl ?_)
      rintro rfl
      exact hf
  | classClose =>
      refine ⟨']', [], by simp [TokenKind.spelling], scan_of_classPiece hq hp ?_⟩
      obtain rfl : fresh = false := hl
      simp [classPiece, Mode.classAfter]
  | classHyphen =>
      refine ⟨'-', [], by simp [TokenKind.spelling], scan_of_classPiece hq hp ?_⟩
      have halone : doubled ctx '-' .classSubtraction .classHyphen rest = (.classHyphen, rest) := by
        cases rest with
        | nil => rfl
        | cons d rest =>
            have hne : d ≠ '-' := by
              rintro rfl
              exact hf rfl
            simp [doubled, hne]
      simp [classPiece, halone, Mode.classAfter]
  | classIntersection =>
      refine ⟨'&', ['&'], by simp [TokenKind.spelling], scan_of_classPiece hq hp ?_⟩
      have hd : ctx.dialect.supports .classSetOperations = true := hl
      simp [classPiece, doubled, hd, Mode.classAfter]
  | classSubtraction =>
      refine ⟨'-', ['-'], by simp [TokenKind.spelling], scan_of_classPiece hq hp ?_⟩
      have hd : ctx.dialect.supports .classSetOperations = true := hl
      simp [classPiece, doubled, hd, Mode.classAfter]
  | posixClass name negated =>
      refine ⟨'[', (if negated then [':', '^'] else [':']) ++ name.toList ++ [':', ']'], ?_,
        scan_of_classPiece hq hp ?_⟩
      · cases negated <;> simp [TokenKind.spelling]
      · have hread := @posix_spelled rest name hl.1 hl.2 negated
        simp only [List.append_assoc, List.cons_append, List.nil_append] at hread ⊢
        simp [classPiece, hread, Mode.classAfter]
  | _ => exact hl.elim

end InClass

/-- Every token in its spelling is read back, if what follows lets it end there. -/
theorem scan_spelling {ctx : Context} {m : Mode} {k : TokenKind} {rest : List Char}
    (h : Legible ctx m k) (hf : Follows ctx m k rest) :
    ∃ c cs, k.spelling.toList = c :: cs ∧
      scan ctx m c (cs ++ rest) = .ok ⟨some k, m.advance k, rest⟩ := by
  unfold Mode.advance
  cases hp : m.place with
  | outside =>
      simp only [h.quoting, Bool.false_eq_true, ↓reduceIte]
      exact scan_outside h hp hf
  | inClass fresh => exact scan_inClass h hp hf

/-! ### Tokens one after another -/

/-- Tokens in front of others, each of which can be read where it stands and ends there. -/
def Trail (ctx : Context) (m : Mode) : List TokenKind → List TokenKind → Prop
  | [], _ => True
  | k :: ks, after => Legible ctx m k ∧ Follows ctx m k (spell (ks ++ after)) ∧
      Trail ctx (m.advance k) ks after

/-- Tokens of given kinds, each in its spelling. -/
inductive Spelled : List TokenKind → List Token → Prop where
  | nil : Spelled [] []
  | cons {t : Token} {ks : List TokenKind} {ts : List Token}
      (ht : t.text = t.kind.spelling.toList) (h : Spelled ks ts) : Spelled (t.kind :: ks) (t :: ts)

/-- A text that was written token by token divides into those tokens. -/
theorem Trail.scanned {ctx : Context} {m : Mode} {ks : List TokenKind} (h : Trail ctx m ks [])
    (offset : Nat) :
    ∃ ts size, Scanned ctx m offset (spell ks) (ts ++ [eof size]) ∧ Spelled ks ts := by
  induction ks generalizing m offset with
  | nil => exact ⟨[], offset, .done m offset, .nil⟩
  | cons k ks ih =>
      obtain ⟨hk, hf, hks⟩ := h
      rw [List.append_nil] at hf
      obtain ⟨c, cs, hspelling, hscan⟩ := scan_spelling hk hf
      obtain ⟨ts, size, hts, hspelled⟩ := ih hks (offset + Text.size (c :: cs))
      have hcons := @Spelled.cons ⟨k, c :: cs, offset, offset + Text.size (c :: cs)⟩ ks ts
        hspelling.symm hspelled
      refine ⟨_, size, ?_, hcons⟩
      rw [spell_cons, hspelling]
      exact .token hscan hts

theorem Spelled.map_kind {ks : List TokenKind} {ts : List Token} (h : Spelled ks ts) :
    ts.map Token.kind = ks := by
  induction h with
  | nil => rfl
  | cons _ _ ih => rw [List.map_cons, ih]

theorem Spelled.append {ks ls : List TokenKind} {ts : List Token} (h : Spelled (ks ++ ls) ts) :
    ∃ ts₁ ts₂, ts = ts₁ ++ ts₂ ∧ Spelled ks ts₁ ∧ Spelled ls ts₂ := by
  induction ks generalizing ts with
  | nil => exact ⟨[], ts, rfl, .nil, h⟩
  | cons k ks ih =>
      cases h with
      | @cons t _ ts ht h =>
          obtain ⟨ts₁, ts₂, rfl, h₁, h₂⟩ := ih h
          exact ⟨t :: ts₁, ts₂, rfl, .cons ht h₁, h₂⟩

end PatternLint.Token
