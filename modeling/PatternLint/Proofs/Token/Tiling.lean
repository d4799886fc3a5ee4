import PatternLint.Proofs.Positions
import PatternLint.Proofs.Token.Strung

/-!
# Tokens tile their text

Nothing of a text is lost between its tokens or read twice. What stands between two
of them is put together from a few things that may be skipped there, and whether blanks
and comments are among these can be told from the tokens before: `Mode.replay` goes
through them without the text.

The scanner skips one thing at a time, so a gap is where it came to no token for a
while. `Tiled` puts its rounds together, one gap and one token at a time.
-/

namespace PatternLint

namespace Token

open Text

/-- The mode after tokens, from what the tokens say alone. -/
def Mode.replay (m : Mode) : List Token → Mode
  | [] => m
  | t :: ts => (m.advance t.kind).replay ts

/-- Where the last of some tokens stops, or `offset` if there are none. -/
def stopOf (offset : Nat) : List Token → Nat
  | [] => offset
  | t :: ts => stopOf t.stop ts

/-- What may be skipped in a mode, in front of what follows it. -/
inductive Skip (m : Mode) : List Char → List Char → Prop where
  | openQuote (rest : List Char) : Skip m ['\\', 'Q'] rest
  | closeQuote (rest : List Char) : Skip m ['\\', 'E'] rest
  | blank {c : Char} (rest : List Char) (hp : m.place = .outside)
      (hx : m.spacing.has Flags.extended = true ∨ m.spacing.has Flags.extendedMore = true)
      (hc : isPatternBlank c = true) : Skip m [c] rest
  | comment {text : List Char} (rest : List Char) (hp : m.place = .outside)
      (hx : m.spacing.has Flags.extended = true ∨ m.spacing.has Flags.extendedMore = true)
      (ht : '\n' ∉ text) : Skip m ('#' :: (text ++ ['\n'])) rest
  /-- A comment in the last line. -/
  | lastComment {text : List Char} (hp : m.place = .outside)
      (hx : m.spacing.has Flags.extended = true ∨ m.spacing.has Flags.extendedMore = true)
      (ht : '\n' ∉ text) : Skip m ('#' :: text) []
  | classBlank {c : Char} (rest : List Char) (hp : m.place ≠ .outside)
      (hx : m.spacing.has Flags.extendedMore = true) (hc : c = ' ' ∨ c = '\t') : Skip m [c] rest

/-- What may stand before a token or at the end of a text, in front of what follows it. -/
inductive Gap (m : Mode) : List Char → List Char → Prop where
  | nil (rest : List Char) : Gap m [] rest
  | cons {piece gap rest : List Char} (hs : Skip m piece (gap ++ rest)) (hg : Gap m gap rest) :
      Gap m (piece ++ gap) rest

/-- Tokens that come one after another in a text, each behind a gap of the mode that the tokens
before it lead to. -/
inductive Tiled : Mode → Nat → List Char → List Token → Prop where
  | done {m : Mode} {offset : Nat} {gap : List Char} (hg : Gap m gap []) :
      Tiled m offset gap [eof (offset + size gap)]
  | token {m : Mode} {offset : Nat} {gap text rest : List Char} {k : TokenKind} {ts : List Token}
      (hg : Gap m gap (text ++ rest)) (hne : text ≠ []) (hk : k ≠ .eof)
      (h : Tiled (m.advance k) (offset + size gap + size text) rest ts) :
      Tiled m offset (gap ++ (text ++ rest))
        (⟨k, text, offset + size gap, offset + size gap + size text⟩ :: ts)

/-! ### The mode that the tokens tell -/

/-- A mode that holds no other flags than the two for blanks. -/
structure Mode.Narrow (m : Mode) : Prop where
  spacing : m.spacing &&& Flags.spacing = m.spacing
  saved : ∀ f ∈ m.saved, f &&& Flags.spacing = f

/-- A mode of the scanner and one that was told from the tokens: they are the same where it matters
which blanks are skipped. -/
structure Mode.Agrees (m r : Mode) : Prop where
  spacing : m.spacing = r.spacing
  saved : m.saved = r.saved
  place : m.place = .outside ↔ r.place = .outside
  quoting : r.quoting = false

namespace Mode

variable {m r : Mode} {k : TokenKind}

theorem narrow_initial (flags : Flags) : (initial flags).Narrow where
  spacing := by simp [initial, BitVec.and_assoc]
  saved := by simp [initial]

theorem Narrow.save (h : m.Narrow) : m.save.Narrow where
  spacing := h.spacing
  saved := List.forall_mem_cons.mpr ⟨h.spacing, h.saved⟩

theorem Narrow.respaced (h : m.Narrow) (change : FlagChange) : (m.respaced change).Narrow where
  spacing := by simp [Mode.respaced, BitVec.and_assoc]
  saved := h.saved

theorem Narrow.restore (h : m.Narrow) : m.restore.Narrow := by
  unfold Mode.restore
  split
  · exact h
  · next spacing saved hs =>
      obtain ⟨h1, h2⟩ := List.forall_mem_cons.mp (hs ▸ h.saved)
      exact ⟨h1, h2⟩

theorem Narrow.after (h : m.Narrow) (k : TokenKind) : (m.after k).Narrow := by
  unfold Mode.after
  split
  · exact h.save.respaced _
  · exact h.save
  · exact h.save.save
  · exact h.save
  · exact h.restore
  · exact h.respaced _
  · exact h

theorem Narrow.advance (h : m.Narrow) (k : TokenKind) : (m.advance k).Narrow := by
  unfold Mode.advance
  split
  · split
    · exact h
    · unfold outsideAfter
      split
      · exact ⟨h.spacing, h.saved⟩
      · exact h.after k
  · exact ⟨h.spacing, h.saved⟩

/-- In a narrow mode any flag is one of the two. -/
theorem Narrow.has_of_ne_zero (h : m.Narrow) (hx : m.spacing ≠ 0) :
    m.spacing.has Flags.extended = true ∨ m.spacing.has Flags.extendedMore = true := by
  by_contra hno
  simp only [Flags.has, bne_iff_ne, ne_eq, not_or, not_not] at hno
  refine hx ?_
  rw [← h.spacing, Flags.spacing, BitVec.and_or_distrib_left, hno.1, hno.2]
  rfl

theorem Agrees.of_skip (h : m.Agrees r) {m' : Mode} (hspacing : m'.spacing = m.spacing)
    (hsaved : m'.saved = m.saved) (hplace : m'.place = .outside ↔ m.place = .outside) :
    m'.Agrees r where
  spacing := hspacing.trans h.spacing
  saved := hsaved.trans h.saved
  place := hplace.trans h.place
  quoting := h.quoting

theorem Agrees.after (h : m.Agrees r) (k : TokenKind) : (m.after k).Agrees (r.after k) := by
  obtain ⟨place, quoting, spacing, saved⟩ := m
  obtain ⟨place', quoting', spacing', saved'⟩ := r
  obtain ⟨h1, h2, h3, h4⟩ := h
  obtain rfl : spacing = spacing' := h1
  obtain rfl : saved = saved' := h2
  cases k with
  | groupOpen opener =>
      cases opener <;> exact ⟨rfl, rfl, h3, h4⟩
  | conditionOpen test =>
      cases test <;> exact ⟨rfl, rfl, h3, h4⟩
  | groupClose =>
      cases saved <;> exact ⟨rfl, rfl, h3, h4⟩
  | _ => exact ⟨rfl, rfl, h3, h4⟩

/-- A token takes modes that agree to modes that agree. -/
theorem Agrees.advance (h : m.Agrees r) {ctx : Context} {text : List Char}
    (hl : Lexeme ctx m text k) : (m.advance k).Agrees (r.advance k) := by
  by_cases hp : m.place = .outside
  · have hr : r.advance k = r.outsideAfter k := by
      simp [Mode.advance, h.place.mp hp, h.quoting]
    rw [(hl.outside hp).2, hr]
    unfold outsideAfter
    split
    · exact ⟨h.spacing, h.saved, by simp, h.quoting⟩
    · exact h.after k
  · have hr : r.advance k = r.classAfter k := by
      unfold Mode.advance
      cases hrp : r.place with
      | outside => exact absurd (h.place.mpr hrp) hp
      | inClass fresh => rfl
    rw [(hl.inside hp).2, hr]
    exact ⟨h.spacing, h.saved, Iff.rfl, h.quoting⟩

end Mode

/-! ### Gaps -/

/-- What the scanner skips may be skipped in the mode that the tokens tell. -/
theorem Skipped.skip {m m' r : Mode} {c : Char} {cs rest : List Char} (h : Skipped m c cs m' rest)
    (hr : m.Agrees r) (hn : r.Narrow) : ∃ pre, cs = pre ++ rest ∧ Skip r (c :: pre) rest := by
  have hx : m.spacing ≠ 0 →
      r.spacing.has Flags.extended = true ∨ r.spacing.has Flags.extendedMore = true :=
    fun hx => hn.has_of_ne_zero (hr.spacing ▸ hx)
  cases h with
  | openQuote => exact ⟨['Q'], rfl, .openQuote rest⟩
  | closeQuote => exact ⟨['E'], rfl, .closeQuote rest⟩
  | blank _ hp hspacing hc => exact ⟨[], rfl, .blank _ (hr.place.mp hp) (hx hspacing) hc⟩
  | comment _ hp hspacing =>
      have hline : '\n' ∉ cs.takeWhile (· != '\n') := not_mem_takeWhile_ne '\n' cs
      have hcs := (List.takeWhile_append_dropWhile (p := (· != '\n')) (l := cs)).symm
      cases hd : cs.dropWhile (· != '\n') with
      | nil =>
          rw [hd, List.append_nil] at hcs
          refine ⟨cs, (List.append_nil cs).symm, ?_⟩
          exact .lastComment (hr.place.mp hp) (hx hspacing) (hcs ▸ hline)
      | cons d rest =>
          have hnewline : d = '\n' := by
            have hhead := List.head?_dropWhile_not (· != '\n') cs
            rw [hd] at hhead
            simpa using hhead
          rw [hd, hnewline] at hcs
          refine ⟨cs.takeWhile (· != '\n') ++ ['\n'], ?_, ?_⟩
          · rw [List.append_assoc]
            exact hcs
          · exact .comment rest (hr.place.mp hp) (hx hspacing) hline
  | classBlank _ hp hspacing hc =>
      exact ⟨[], rfl, .classBlank _ (fun h => hp (hr.place.mpr h)) (hr.spacing ▸ hspacing) hc⟩

theorem Tiled.skip {m : Mode} {offset : Nat} {piece rest : List Char} {ts : List Token}
    (hs : Skip m piece rest) (h : Tiled m (offset + size piece) rest ts) :
    Tiled m offset (piece ++ rest) ts := by
  cases h with
  | done hg =>
      rw [Nat.add_assoc, ← size_append]
      exact .done (.cons (by rwa [List.append_nil]) hg)
  | @token _ _ gap text rest k ts hg hne hk h =>
      have hoffset : offset + size (piece ++ gap) = offset + size piece + size gap := by
        rw [size_append, Nat.add_assoc]
      rw [← hoffset, ← List.append_assoc]
      exact .token (.cons hs hg) hne hk (hoffset ▸ h)

/-- The token that ends a text is not read from it. -/
theorem Lexeme.ne_eof {ctx : Context} {m : Mode} {text : List Char} {k : TokenKind}
    (h : Lexeme ctx m text k) : k ≠ .eof := by
  rintro rfl
  unfold Lexeme at h
  split at h
  · simp at h
  · split at h <;> exact h

/-- The tokens of a text tile it. -/
theorem Scanned.tiled {ctx : Context} {m r : Mode} {offset : Nat} {cs : List Char}
    {ts : List Token} (h : Scanned ctx m offset cs ts) (hr : m.Agrees r) (hn : r.Narrow) :
    Tiled r offset cs ts := by
  -- The two modes need not be equal: that of the scanner also knows whether it is quoting and
  -- whether a class is fresh, which text that is skipped changes without a token.
  induction h generalizing r with
  | done m offset => exact .done (.nil [])
  | @skip m m' offset c pre rest ts hp _ ih =>
      obtain ⟨pre', hpre, hs⟩ := (scan_skipped hp).skip hr hn
      obtain rfl := List.append_cancel_right hpre
      obtain ⟨hspacing, hsaved, hplace⟩ := scan_skip hp
      exact .skip hs (ih (hr.of_skip hspacing hsaved hplace) hn)
  | @token m m' offset c pre rest k ts hp _ ih =>
      obtain ⟨hl, rfl⟩ := scan_lexeme hp
      exact .token (.nil _) (List.cons_ne_nil c pre) hl.ne_eof (ih (hr.advance hl) (hn.advance k))

/-! ### Tilings taken apart -/

section Tiled

variable {m : Mode} {offset : Nat} {cs : List Char} {ts : List Token}

/-- A tiling ends in the one token that ends the text. -/
theorem Tiled.exists_init (h : Tiled m offset cs ts) :
    ∃ init, ts = init ++ [eof (offset + size cs)] ∧ ∀ t ∈ init, t.kind ≠ .eof ∧ t.text ≠ [] := by
  induction h with
  | done hg => exact ⟨[], rfl, by simp⟩
  | @token m offset gap text rest k ts hg hne hk _ ih =>
      obtain ⟨init, rfl, hinit⟩ := ih
      refine ⟨⟨k, text, offset + size gap, offset + size gap + size text⟩ :: init, ?_,
        List.forall_mem_cons.mpr ⟨⟨hk, hne⟩, hinit⟩⟩
      rw [size_append, size_append, ← Nat.add_assoc, ← Nat.add_assoc]
      rfl

theorem Tiled.offset_le_start (h : Tiled m offset cs ts) : ∀ t ∈ ts, offset ≤ t.start := by
  induction h with
  | done hg => simp [eof]
  | token hg hne hk _ ih =>
      refine List.forall_mem_cons.mpr ⟨Nat.le_add_right _ _, ?_⟩
      intro t ht
      have := ih t ht
      omega

theorem Tiled.pairwise (h : Tiled m offset cs ts) : ts.Pairwise fun a b => a.stop ≤ b.start := by
  induction h with
  | done hg => exact List.pairwise_singleton _ _
  | token hg hne hk h ih => exact List.pairwise_cons.mpr ⟨h.offset_le_start, ih⟩

/-- Each token stands behind its gap in the text, and the gap where the token before it stops. -/
theorem Tiled.split {before after : List Token} {t : Token}
    (h : Tiled m offset cs (before ++ t :: after)) :
    ∃ pre gap post, cs = pre ++ (gap ++ (t.text ++ post)) ∧
      offset + size pre = stopOf offset before ∧ t.start = stopOf offset before + size gap ∧
      t.stop = t.start + size t.text ∧ Gap (m.replay before) gap (t.text ++ post) := by
  induction before generalizing m offset cs with
  | nil =>
      cases h with
      | @done _ _ gap hg => exact ⟨[], cs, [], by simp [eof], rfl, rfl, rfl, hg⟩
      | @token _ _ gap text rest k _ hg _ _ _ => exact ⟨[], gap, rest, rfl, rfl, rfl, rfl, hg⟩
  | cons b before ih =>
      -- What follows the first token is not empty, so that it does not end the text.
      generalize htail : before ++ t :: after = tail at h ih
      obtain ⟨gap₀, text, rest, rfl, hstop, h⟩ : ∃ gap₀ text rest, cs = gap₀ ++ (text ++ rest) ∧
          b.stop = offset + size gap₀ + size text ∧ Tiled (m.advance b.kind) b.stop rest tail := by
        rw [List.cons_append, htail] at h
        cases h with
        | done => simp at htail
        | @token _ _ gap₀ text rest k _ _ _ _ h => exact ⟨gap₀, text, rest, rfl, rfl, h⟩
      obtain ⟨pre, gap, post, rfl, hpre, hstart, hs, hg⟩ := ih h
      refine ⟨gap₀ ++ (text ++ pre), gap, post, by simp, ?_, hstart, hs, hg⟩
      rw [stopOf, ← hpre, hstop, size_append, size_append]
      omega

end Tiled

end Token

/-- Every piece of a text takes at least a character, so that a text is divided in finitely many
rounds. If it divides, the tokens end in the one that ends the text, and the others are not empty.
Each token is the text between its offsets, which are places between characters, and comes behind
the token before it. What stands between is a gap: quotation marks, and where the tokens before it
say that they are skipped, blanks and comments. The flags are those of any modifiers. -/
theorem tokenize_tiles (body : String) (flags : Flags) (dialect : Dialect) :
    (∀ ctx m c cs p, Token.scan ctx m c cs = .ok p → p.rest.length < (c :: cs).length) ∧
    ∀ ts, tokenize body flags dialect = .ok ts →
      (∃ init, ts = init ++ [Token.eof body.utf8ByteSize] ∧
        ∀ t ∈ init, t.kind ≠ .eof ∧ t.text ≠ []) ∧
      (∀ t ∈ ts, t.start ≤ t.stop ∧ Text.slice? t.start t.stop body.toList = some t.text ∧
        (String.Pos.Raw.mk t.start).IsValid body ∧ (String.Pos.Raw.mk t.stop).IsValid body) ∧
      ts.Pairwise (fun a b => a.stop ≤ b.start) ∧
      ∀ before t after, ts = before ++ t :: after →
        ∃ gap rest, Text.slice? (Token.stopOf 0 before) t.start body.toList = some gap ∧
          Text.slice? t.start body.utf8ByteSize body.toList = some rest ∧
          Token.Gap ((Token.Mode.initial flags).replay before) gap rest := by
  refine ⟨fun ctx m c cs p hp => Nat.lt_succ_of_le (Token.scan_suffix hp).length_le, ?_⟩
  intro ts h
  have hagrees : (Token.Mode.initial flags).Agrees (Token.Mode.initial flags) :=
    ⟨rfl, rfl, Iff.rfl, rfl⟩
  have htiled : Token.Tiled (Token.Mode.initial flags) 0 body.toList ts :=
    (Token.tokens_eq_ok_iff.mp h).tiled hagrees (Token.Mode.narrow_initial flags)
  have hsize := Text.utf8ByteSize_eq body
  refine ⟨?_, ?_, htiled.pairwise, ?_⟩
  · obtain ⟨init, hts, hinit⟩ := htiled.exists_init
    rw [Nat.zero_add, ← hsize] at hts
    exact ⟨init, hts, hinit⟩
  · intro t ht
    obtain ⟨before, after, rfl⟩ := List.append_of_mem ht
    obtain ⟨pre, gap, post, hcs, hpre, hstart, hstop, -⟩ := htiled.split
    have hcs' : body.toList = (pre ++ gap) ++ (t.text ++ post) := by
      rw [hcs, List.append_assoc]
    have hfrom : t.start = Text.size (pre ++ gap) := by
      rw [hstart, ← hpre, Text.size_append, Nat.zero_add]
    refine ⟨by omega, Text.slice?_eq_some _ _ hcs' hfrom hstop,
      isValid_of_boundary ⟨_, _, hcs', hfrom.symm⟩,
      isValid_of_boundary ⟨(pre ++ gap) ++ t.text, post, by simp [hcs'], ?_⟩⟩
    rw [hstop, hfrom, Text.size_append]
  · rintro before t after rfl
    obtain ⟨pre, gap, post, hcs, hpre, hstart, -, hgap⟩ := htiled.split
    rw [Nat.zero_add] at hpre
    refine ⟨gap, t.text ++ post, ?_, ?_, hgap⟩
    · exact Text.slice?_eq_some _ _ hcs hpre.symm hstart
    · refine Text.slice?_eq_some (pre ++ gap) [] (by simp [hcs]) ?_ ?_
      · rw [hstart, ← hpre, Text.size_append]
      · rw [hsize, hcs, hstart, ← hpre]
        simp only [Text.size_append]
        omega

theorem tokenize_tiles_comment :
    ∃ ts, tokenize "é\\Q \\E # ü\n[ \\E](?xx:[ é])#" (Flags.ofKnownModifiers "x") .pcre43 = .ok ts ∧
      ts.Pairwise (fun a b => a.stop ≤ b.start) := by
  have haccepted : (tokenize "é\\Q \\E # ü\n[ \\E](?xx:[ é])#" (Flags.ofKnownModifiers "x")
      .pcre43).isOk = true := by cbv
  obtain ⟨ts, hts⟩ := exists_of_isOk haccepted
  exact ⟨ts, hts, ((tokenize_tiles _ _ _).2 ts hts).2.2.1⟩

end PatternLint
