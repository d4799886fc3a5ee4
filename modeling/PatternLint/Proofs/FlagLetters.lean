import Mathlib
import PatternLint.Proofs.Literal
import PatternLint.Proofs.Token.Trail

/-!
# Flags and their letters

A word of flags that was read from modifier letters has a letter for each of its bits, so
it is read back from the letters that it is written with, whatever blanks and repeats it
was read from. An inline setting is read from letters as well, but it has a sign, a caret
and a doubled letter, and its letters stand between marks that other groups begin with.
What is known of a setting that was read (`ChangeWritten`) is enough for its letters to be
read as that setting again.
-/

namespace PatternLint

/-! ### Modifiers -/

namespace Flags

/-- Flags that were read from modifiers are read back from the letters that they are written
with. -/
theorem ofModifiers_letters {modifiers : String} {f : Flags} (h : ofModifiers modifiers = .ok f) :
    ofModifiers f.letters = .ok f := by
  exact readModifiers_letters h 0

end Flags

/-! ### Inline settings -/

/-- The kinds of the tokens of a body. -/
def tokenKinds (body : String) (flags : Flags) (dialect : Dialect) :
    Except ScanError (List TokenKind) :=
  (tokenize body flags dialect).map (List.map Token.kind)

theorem tokenKinds_eq_ok_iff {body : String} {flags : Flags} {dialect : Dialect}
    {ks : List TokenKind} : tokenKinds body flags dialect = .ok ks ↔
      ∃ ts, tokenize body flags dialect = .ok ts ∧ ts.map Token.kind = ks := by
  rw [tokenKinds]
  cases tokenize body flags dialect <;> simp [Except.map]

namespace Token

/-- Every token that a text is divided into was read in some mode, up to the one that ends it. -/
theorem Laid.lexeme {ctx : Context} {cs : List Char} {next : Nat} {ts : List Token}
    (h : Laid ctx cs next ts) : ∀ t ∈ ts, t.kind ≠ .eof → ∃ m, Lexeme ctx m t.text t.kind := by
  induction h with
  | done =>
      intro t ht hk
      rw [List.mem_singleton] at ht
      exact absurd (congrArg Token.kind ht) hk
  | token ht _ _ ih =>
      rw [List.forall_mem_cons]
      exact ⟨fun _ => ht.lexeme, ih⟩

variable {flags : Flags} {dialect : Dialect} {change : FlagChange}

/-- An inline setting that is among the tokens of some body was read from letters. -/
theorem changeWritten_of_tokenKinds {body : String} {k : TokenKind} {ks : List TokenKind}
    (h : tokenKinds body flags dialect = .ok ks) (hmem : k ∈ ks)
    (hk : k = .inlineFlags change ∨ k = .groupOpen (.modifiers change)) :
    ChangeWritten dialect change := by
  obtain ⟨ts, hts, rfl⟩ := tokenKinds_eq_ok_iff.mp h
  obtain ⟨t, ht, rfl⟩ := List.mem_map.mp hmem
  obtain ⟨next, hlaid⟩ := tokenize_laid hts
  obtain ⟨m, hl⟩ := hlaid.lexeme t ht (by rcases hk with hk | hk <;> rw [hk] <;> simp)
  have hquoted : ¬ ∃ c, t.kind = .escaped c .quoted := by
    rcases hk with hk | hk <;> rw [hk] <;> simp
  by_cases hp : m.place = .outside
  · have hwritten := (hl.outside hp).1.resolve_left hquoted
    rcases hk with hk | hk <;> rw [hk] at hwritten <;> exact hwritten.2
  · obtain ⟨fresh, hwritten⟩ := (hl.inside hp).1.resolve_left hquoted
    rcases hk with hk | hk <;> rw [hk] at hwritten <;> exact hwritten.elim

/-- A body that was written token by token has those tokens, and one that ends it. -/
theorem tokenKinds_trail {body : String} {ks : List TokenKind} (hbody : body.toList = spell ks)
    (h : Trail (contextOf body flags dialect) (Mode.initial flags) ks []) :
    tokenKinds body flags dialect = .ok (ks ++ [.eof]) := by
  obtain ⟨ts, size, hscanned, hspelled⟩ := h.scanned 0
  rw [← hbody] at hscanned
  refine tokenKinds_eq_ok_iff.mpr ⟨_, tokens_eq_ok_iff.mpr hscanned, ?_⟩
  rw [List.map_append, hspelled.map_kind]
  rfl

/-- A token that is known outside a class and written in front of nothing is read from its
spelling. -/
theorem tokenKinds_spelling {body : String} {k : TokenKind}
    (hbody : body.toList = k.spelling.toList)
    (hk : ∀ ctx : Context, ctx.dialect = dialect →
      OutsideLexeme ctx (flags &&& Flags.spacing) k.spelling.toList k)
    (hs : Spellable k) (hf : ∀ ctx, Follows ctx (Mode.initial flags) k []) :
    tokenKinds body flags dialect = .ok [k, .eof] := by
  have hlegible : Legible (contextOf body flags dialect) (Mode.initial flags) k :=
    ⟨rfl, ⟨_, hk _ rfl⟩, hs, fun hp => absurd rfl hp⟩
  have htrail : Trail (contextOf body flags dialect) (Mode.initial flags) [k] [] :=
    ⟨hlegible, hf _, trivial⟩
  exact tokenKinds_trail (by simpa using hbody) htrail

end Token

/-- Flags are read back from the letters that they are written with. Of modifiers this holds for
all words that modifiers can give. Where a text between `(?` and a closing parenthesis is a single
setting, its letters in the place of the text are that setting again, under any modifiers and in
any dialect; and so it is with a text between `(?` and a colon that opens a group, unless the
setting is empty. -/
theorem letters_read :
    (∀ (modifiers : String) (f : Flags), Flags.ofModifiers modifiers = .ok f →
      Flags.ofModifiers f.letters = .ok f) ∧
    ∀ (flags : Flags) (dialect : Dialect) (text : String) (change : FlagChange),
      (tokenKinds ("(?" ++ text ++ ")") flags dialect = .ok [.inlineFlags change, .eof] →
        tokenKinds ("(?" ++ change.letters ++ ")") flags dialect =
          .ok [.inlineFlags change, .eof]) ∧
      (change ≠ {} →
        tokenKinds ("(?" ++ text ++ ":") flags dialect =
          .ok [.groupOpen (.modifiers change), .eof] →
        tokenKinds ("(?" ++ change.letters ++ ":") flags dialect =
          .ok [.groupOpen (.modifiers change), .eof]) := by
  refine ⟨fun _ _ h => Flags.ofModifiers_letters h, fun flags dialect text change => ⟨?_, ?_⟩⟩
  · intro h
    have hwritten := Token.changeWritten_of_tokenKinds h List.mem_cons_self (.inl rfl)
    refine Token.tokenKinds_spelling rfl (fun ctx hd => ⟨?_, hd ▸ hwritten⟩) trivial fun _ => trivial
    simp [TokenKind.spelling]
  · intro hne h
    have hwritten := Token.changeWritten_of_tokenKinds h List.mem_cons_self (.inr rfl)
    have hletters : change.letters ≠ "" := fun hl => hne (hwritten.eq_empty hl)
    refine Token.tokenKinds_spelling rfl (fun ctx hd => ⟨?_, hd ▸ hwritten⟩) hletters
      fun _ => trivial
    simp [TokenKind.spelling]

/-- In `(?xi-smx:` the flags for blanks are set by one letter and cleared, both, by another. -/
theorem letters_read_repeats :
    Flags.ofModifiers " xix\n" = .ok 0x9#32 ∧ Flags.ofModifiers (Flags.letters 0x9#32) = .ok 0x9#32 ∧
    tokenKinds "(?xi-smx:" 0 .pcre43 =
      .ok [.groupOpen (.modifiers ⟨0x9#32, 0x1e#32, false⟩), .eof] ∧
    tokenKinds ("(?" ++ FlagChange.letters ⟨0x9#32, 0x1e#32, false⟩ ++ ":") 0 .pcre43 =
      .ok [.groupOpen (.modifiers ⟨0x9#32, 0x1e#32, false⟩), .eof] := by
  have hmodifiers : Flags.ofModifiers " xix\n" = .ok 0x9#32 := by cbv
  have hgroup : tokenKinds ("(?" ++ "xi-smx" ++ ":") 0 .pcre43 =
      .ok [.groupOpen (.modifiers ⟨0x9#32, 0x1e#32, false⟩), .eof] := by cbv
  exact ⟨hmodifiers, letters_read.1 _ _ hmodifiers, hgroup,
    (letters_read.2 0 .pcre43 "xi-smx" _).2 (by decide) hgroup⟩

end PatternLint
