import PatternLint.Proofs.FlagLetters
import PatternLint.Proofs.Parse.Written
import PatternLint.Proofs.Token.ClassTokens

/-!
# Characters and the texts they are written as

A literal is written in the form in which it was read where that can be: what was quoted is
written with a backslash or by its number instead, and so are letters of escapes that have no
meaning in the other context, and the marks of classes. Whatever form comes out, the text is that
of one token, and it is a character again, the same one. What a token was read from is not needed
to see this, only that its form is one that can be read inside a class or outside
(`LiteralFormed`), since that is all that a tree knows of it when it is written.
-/

namespace PatternLint

open Token Parse Text

/-- The character and the form that a token of a literal has. -/
def TokenKind.literal? : TokenKind → Option (Char × LiteralForm)
  | .literal c => some (c, .verbatim)
  | .escaped c form => some (c, form)
  | _ => none

/-! ### The forms of characters that are read -/

section Read

variable {ctx : Context} {m : Mode} {inClass : Bool} {spacing : Flags} {text : List Char}
  {k : TokenKind} {c : Char} {form : LiteralForm}

/-- A character that was read is in a form in which it can be read where it was. -/
theorem Token.Lexeme.literalFormed (hl : Lexeme ctx m text k) (hk : k.literal? = some (c, form)) :
    LiteralFormed ctx m.isInClass m.spacing c form := by
  cases hp : m.place with
  | outside =>
      rw [Mode.isInClass_of_outside hp]
      rcases (hl.outside hp).1 with ⟨v, rfl⟩ | hl
      · cases hk
        trivial
      · cases k with
        | literal d =>
            cases hk
            exact hl
        | escaped d form' =>
            cases hk
            exact FormWritten.literalFormed hl m.spacing
        | _ => cases hk
  | inClass fresh =>
      rw [Mode.isInClass_of_inClass hp]
      rcases (hl.inside (by simp [hp])).1 with ⟨v, rfl⟩ | ⟨fresh, hl⟩
      · cases hk
        trivial
      · cases k with
        | literal d =>
            cases hk
            exact ⟨hl.1, hl.2.2.2⟩
        | escaped d form' =>
            cases hk
            exact FormWritten.literalFormed hl m.spacing
        | _ => cases hk

/-- A form that can be read anywhere can be read in Unicode text where no blanks are skipped. -/
theorem LiteralFormed.unspaced (h : LiteralFormed ctx inClass spacing c form) :
    LiteralFormed ⟨default, true⟩ inClass 0 c form := by
  cases form with
  | verbatim =>
      cases inClass with
      | false => exact ⟨h.1, fun hs => absurd rfl hs⟩
      | true => exact ⟨h.1, fun hs => nomatch hs⟩
  | octal | hex => exact .inl rfl
  | codePoint => exact ⟨rfl, rfl⟩
  | _ => exact h

end Read

/-! ### The texts of characters -/

section Written

variable {ctx : Context} {m : Mode} {rest : List Char}

theorem literalKind_literal? (inClass : Bool) (c : Char) (form : LiteralForm) :
    ∃ form', (literalKind inClass c form).literal? = some (c, form') := by
  rcases literalKind_cases inClass c form with hk | ⟨form', hk⟩
  · exact ⟨.verbatim, by rw [hk]; rfl⟩
  · exact ⟨form', by rw [hk]; rfl⟩

/-- In Unicode text where no blanks are skipped, nothing but counts can change what the text of a
character is. -/
theorem isClear_literalKind (hutf : ctx.utf = true) (hspacing : m.spacing = 0)
    (hrest : m.place = .outside → startsCounts ctx.dialect rest = false) (inClass : Bool)
    (c : Char) (form : LiteralForm) : isClear ctx m (literalKind inClass c form) rest = true := by
  rcases literalKind_cases inClass c form with hk | ⟨form', hk⟩
  · rw [hk]
    by_cases hp : m.place = .outside
    · simp [isClear, hspacing, hrest hp]
    · simp [isClear, hp]
  · rw [hk]
    cases form' <;> simp [isClear, hutf]

end Written

namespace Token

variable {body : String} {flags : Flags} {c : Char} {form : LiteralForm}

/-- Unicode text of clear tokens has those tokens. -/
theorem tokenKinds_strung {m' : Mode} {ks : List TokenKind} (hutf : flags.has Flags.unicode = true)
    (hbody : body.toList = spell ks) (h : Strung default (Mode.initial flags) ks m')
    (hfits : ks.IsChain Fits) (hc : clear ⟨default, true⟩ (Mode.initial flags) ks = true) :
    tokenKinds body flags default = .ok (ks ++ [.eof]) := by
  have hctx : contextOf body flags default = ⟨default, true⟩ := by simp [contextOf, hutf]
  refine tokenKinds_trail hbody ?_
  rw [hctx]
  exact Strung.trail h rfl hfits hc

/-- A character that is written outside a class is read as one token. -/
theorem tokenKinds_outside (h : LiteralFormed ⟨default, true⟩ false 0 c form)
    (hutf : flags.has Flags.unicode = true) (hspacing : flags &&& Flags.spacing = 0) :
    tokenKinds (Render.literal false c form) flags default =
      .ok [literalKind false c form, .eof] := by
  have hmode : (Mode.initial flags).spacing = 0 := hspacing
  have hformed : LiteralFormed ⟨default, true⟩ (Mode.initial flags).isInClass
      (Mode.initial flags).spacing c form := hmode ▸ h
  have hissued : Issued default (Mode.initial flags) (literalKind false c form) := hformed.issued
  have hclear : isClear ⟨default, true⟩ (Mode.initial flags) (literalKind false c form) [] = true :=
    isClear_literalKind rfl hmode (fun _ => by cbv) false c form
  refine tokenKinds_strung hutf ?_ (strung_outside rfl hissued) (.singleton _) ?_
  · simp [literal_spelling]
  · simp [clear, hclear]

/-- A character that is written in a class is read as one token. -/
theorem tokenKinds_inClass (h : LiteralFormed ⟨default, true⟩ true 0 c form)
    (hutf : flags.has Flags.unicode = true) (hspacing : flags &&& Flags.spacing = 0) :
    tokenKinds ("[" ++ Render.literal true c form ++ "]") flags default =
      .ok [.classOpen false, literalKind true c form, .classClose, .eof] := by
  -- The tokens are those of a class with this one member.
  let member : Node := .atom (.point 1) (.literal c form false)
  have hmember : ClassFormed ⟨default, true⟩ (flags &&& Flags.spacing) false member := by
    refine .inr fun n hn => ⟨_, _, List.mem_singleton.mp hn, rfl, ?_⟩
    rw [hspacing]
    exact h
  have hstrung : Strung default (Mode.initial flags)
      [.classOpen false, literalKind true c form, .classClose] (Mode.initial flags) :=
    @strung_class ⟨default, true⟩ ⟨flags, 0, []⟩ [] (.point 0) false false member hmember
  have hne : literalKind true c form ≠ .classClose ∧
      ∀ count, literalKind true c form ≠ .quantifier count := by
    rcases literalKind_cases true c form with hk | ⟨form', hk⟩ <;> simp [hk]
  refine tokenKinds_strung hutf ?_ hstrung (leading_of_forall ?_).fits ?_
  · rw [literal_spelling, String.toList_append, String.toList_append, List.append_assoc]
    rfl
  · simp [hne.2]
  · have hopen : (Mode.initial flags).advance (.classOpen false) =
        (Mode.initial flags).inClass true := rfl
    have hin : ((Mode.initial flags).inClass true).place ≠ .outside := nofun
    have hclear : isClear ⟨default, true⟩ ((Mode.initial flags).inClass true)
        (literalKind true c form) (spell [.classClose]) = true :=
      isClear_literalKind rfl hspacing (fun hp => absurd hp hin) true c form
    simp only [clear, hopen, hclear, advance_inClass hne.1, Bool.and_true, Bool.true_and]
    rfl

end Token

/-- A character is written as one token that gives the same character, whatever form it was read
in: in Unicode text and under the dialect that is used when none is asked for, between brackets if
it was read inside a class, and on its own if it was read outside. -/
theorem literal_decodes {body : String} {flags flags' : Flags} {dialect : Dialect}
    {before after : List Token} {t : Token} {c : Char} {form : LiteralForm}
    (h : tokenize body flags dialect = .ok (before ++ t :: after))
    (hk : t.kind.literal? = some (c, form)) (hutf : flags'.has Flags.unicode = true)
    (hspacing : flags' &&& Flags.spacing = 0) :
    ∃ k form', k.literal? = some (c, form') ∧
      if Token.within false before then
        tokenKinds ("[" ++ Render.literal true c form ++ "]") flags' default =
          .ok [.classOpen false, k, .classClose, .eof]
      else tokenKinds (Render.literal false c form) flags' default = .ok [k, .eof] := by
  have heof : t.kind ≠ .eof := by
    intro he
    rw [he] at hk
    cases hk
  obtain ⟨m, hinside, hl⟩ := (tokens_eq_ok_iff.mp h).lexeme_at heof
  have hformed := (hl.literalFormed hk).unspaced
  rw [hinside, show (Mode.initial flags).isInClass = false from rfl] at hformed
  split
  · next hin =>
      rw [hin] at hformed
      obtain ⟨form', hform⟩ := literalKind_literal? true c form
      exact ⟨_, form', hform, tokenKinds_inClass hformed hutf hspacing⟩
  · next hout =>
      rw [Bool.eq_false_iff.mpr hout] at hformed
      obtain ⟨form', hform⟩ := literalKind_literal? false c form
      exact ⟨_, form', hform, tokenKinds_outside hformed hutf hspacing⟩

/-- A bracket that was quoted in a class is written there with a backslash. -/
theorem literal_decodes_bracket :
    ∃ before t after, tokenize "[\\Q]\\E]" 0 .pcre43 = .ok (before ++ t :: after) ∧
      t.kind.literal? = some (']', .quoted) ∧ Token.within false before = true ∧
      Render.literal true ']' .quoted = "\\]" ∧
      ∃ k form, k.literal? = some (']', form) ∧
        tokenKinds "[\\]]" Flags.unicode .pcre43 =
          .ok [.classOpen false, k, .classClose, .eof] := by
  have ht : tokenize "[\\Q]\\E]" 0 .pcre43 =
      .ok ([⟨.classOpen false, ['['], 0, 1⟩] ++ ⟨.escaped ']' .quoted, [']'], 3, 4⟩ ::
        [⟨.classClose, [']'], 6, 7⟩, Token.eof 7]) := by cbv
  have hdecodes := @literal_decodes _ 0 Flags.unicode .pcre43 _ _ _ _ _ ht rfl (by decide)
    (by decide)
  exact ⟨_, _, _, ht, rfl, rfl, by cbv, hdecodes⟩

end PatternLint
