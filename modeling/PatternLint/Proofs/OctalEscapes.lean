import PatternLint.Proofs.Parse.Lockstep
import PatternLint.Proofs.Token.Canonical

/-!
# Characters by three octal digits

A backslash with octal digits is read in two places. Inside a class, and in braces, the
scanner makes a character of the digits; elsewhere it leaves them to the parser, since only
the parser can tell them from a reference. Three digits of which the first is 4 or more make
a number that does not fit in a byte, so that both have to ask whether the pattern is
Unicode text, and they ask differently. The parser looks at the flags in force, and that
is a matter of the modifiers alone, because no inline setting changes it. For the scanner a
pattern may also ask for it in its first words.
-/

namespace PatternLint

open Token Unicode Text

namespace Parse

/-! ### Unicode text is a matter of the modifiers -/

/-- All flags that are in force, or will be again, say the same of Unicode text. -/
def State.AllUnicode (u : Bool) (st : State) : Prop :=
  ∀ flags ∈ st.flags :: st.frames.map Frame.flags, flags.has Flags.unicode = u

namespace State

variable {u : Bool} {ctx : Context} {limit : Nat} {initial : Env} {m : Mode} {st st' : State}
  {t : Token} {next : Nat}

theorem AllUnicode.pushAtom (h : st.AllUnicode u) (span : Span) (a : Atom) :
    (st.pushAtom span a).AllUnicode u := h

theorem AllUnicode.pushDigits (h : st.AllUnicode u) (offset : Nat) (digits : List Char) :
    (st.pushDigits offset digits).AllUnicode u := by
  induction digits generalizing st offset with
  | nil => exact h
  | cons c cs ih => exact ih (h.pushAtom _ _) (offset + 1)

theorem AllUnicode.frame {f : Frame} {frames : List Frame} (h : st.AllUnicode u)
    (hf : st.frames = f :: frames) :
    ∀ flags ∈ f.flags :: frames.map Frame.flags, flags.has Flags.unicode = u := by
  intro flags hmem
  refine h flags (List.mem_cons_of_mem _ ?_)
  rw [hf]
  exact hmem

theorem Move.allUnicode (hm : Move limit st t next st') (h : st.AllUnicode u)
    (hspacing : m.spacing = st.env.spacing)
    (hk : (∃ v, t.kind = .escaped v .quoted) ∨ OutsideLexeme ctx m.spacing t.text t.kind) :
    st'.AllUnicode u := by
  rw [hspacing] at hk
  cases hm with
  | atom ha =>
      intro flags hmem
      rcases List.mem_cons.mp hmem with rfl | hmem
      · exact (Env.has_unicode_after (ha.formed hk)).trans (h st.flags List.mem_cons_self)
      · exact h flags (List.mem_cons_of_mem _ hmem)
  | octal => exact (h.pushAtom _ _).pushDigits _ _
  | enter ho =>
      intro flags hmem
      rcases List.mem_cons.mp hmem with rfl | hmem
      · have hlexeme := hk.resolve_left fun ⟨v, hv⟩ => by
          rw [hv] at ho
          cases ho
        exact (Opens.has_unicode ho hlexeme).trans (h st.flags List.mem_cons_self)
      · exact h flags hmem
  | leave hkind hf hc => exact h.frame hf
  | test hkind hf hc =>
      intro flags hmem
      rcases List.mem_cons.mp hmem with rfl | hmem
      · exact h.frame hf _ List.mem_cons_self
      · exact h.frame hf flags hmem
  | again | branch | startClass | finish => exact h

end State

variable {u : Bool} {s : ParserSettings} {ctx : Context} {initial : Env} {m : Mode}
  {st st' : State} {t : Token} {next : Nat}

theorem step_allUnicode (h : st.Formed ctx s.nestLimit initial m) (hu : st.AllUnicode u)
    (hl : Lexeme ctx m t.text t.kind) (hs : step s st t next = .ok st') : st'.AllUnicode u := by
  rcases step_move hs with ⟨hnone, hm⟩ | ⟨c, c', ho, hm, rfl⟩ | ⟨c, n, ho, hm, rfl⟩
  · exact hm.allUnicode hu h.spacing (hl.outside (h.place.mpr hnone)).1
  · exact hu
  · exact hu

/-- At every token the parser is in step with the scanner, and its flags say of Unicode text what
they said at the start. -/
theorem states_zip_readings {offset : Nat} {cs : List Char} {ts : List Token}
    (hts : Scanned ctx m offset cs ts) (h : st.Formed ctx s.nestLimit initial m)
    (hu : st.AllUnicode u) : ∀ q ∈ (states s st ts).zip (readings ctx m offset cs),
      q.1.Formed ctx s.nestLimit initial q.2.1 ∧ q.1.AllUnicode u := by
  induction hts generalizing st with
  | done m offset =>
      rw [readings, states]
      simp [h, hu]
  | skip hp _ ih =>
      rw [readings_cons hp]
      obtain ⟨hspacing, hsaved, hplace⟩ := scan_skip hp
      exact ih ⟨hspacing.trans h.spacing, hsaved.trans h.saved, hplace.trans h.place, h.level,
        h.members, h.utf⟩ hu
  | token hp _ ih =>
      obtain ⟨hl, rfl⟩ := scan_lexeme hp
      rw [readings_cons hp, states]
      intro q hq
      rcases List.mem_cons.mp hq with rfl | hq
      · exact ⟨h, hu⟩
      · split at hq
        · cases hq
        · next mid hs => exact ih (step_formed h hl hs) (step_allUnicode h hu hl hs) q hq

end Parse

/-! ### Three digits -/

/-- Three octal digits whose number does not fit in a byte. -/
structure WideOctal (a b c : Char) : Prop where
  first : '4' ≤ a
  octal : ∀ d ∈ [a, b, c], isOctalDigit d = true

namespace WideOctal

variable {a b c : Char}

theorem ofDigits_bounds (h : WideOctal a b c) :
    0xff < ofDigits 8 [a, b, c] ∧ ofDigits 8 [a, b, c] ≤ 0x1ff ∧
      10 ≤ ofDigits 10 [a, b, c] ∧ ofDigits 10 [a, b, c] ≤ maxNumber := by
  obtain ⟨-, ha⟩ := digitValue_of_isOctalDigit (h.octal a (by simp))
  obtain ⟨-, hb⟩ := digitValue_of_isOctalDigit (h.octal b (by simp))
  obtain ⟨-, hc⟩ := digitValue_of_isOctalDigit (h.octal c (by simp))
  have hfirst : 52 ≤ a.toNat := UInt32.le_iff_toNat_le.mp (Char.le_def.mp h.first)
  have hmax : maxNumber = 0xffffffff := rfl
  simp only [ofDigits, List.foldl_cons, List.foldl_nil]
  omega

end WideOctal

namespace Token

variable {ctx : Context} {m : Mode} {a b c : Char}

/-- A number that does not fit in a byte is a character only in Unicode text. -/
theorem character_wide {v : Nat} (hwide : 0xff < v) (hvalid : v.isValidChar) (form : LiteralForm) :
    character ctx v form =
      if ctx.utf then .ok (.escaped (Char.ofNat v) form) else fail .tooLargeOutsideUtf := by
  cases hutf : ctx.utf <;> simp [character, hutf, hwide, hvalid]

theorem scan_backslash (hq : m.quoting = false) (cs : List Char) :
    scan ctx m '\\' cs = escapePiece (m.advance (.escaped '\\' .punctuation))
      (m.place != .outside) ctx cs := by
  have hblank : isPatternBlank '\\' = false := by decide
  cases hp : m.place with
  | outside => simp [scan, hq, hp, outsidePiece, hblank, Mode.advance, Mode.outsideAfter, Mode.after]
  | inClass fresh =>
      have hin : (Place.inClass fresh != .outside) = true := rfl
      simp [scan, hq, hp, hin, classPiece, Mode.advance, Mode.classAfter]

theorem scan_wide {d : Char} {cs rest : List Char} {v : Char} {form : LiteralForm}
    {fault : ScanFault} (hq : m.quoting = false) (hQ : d ≠ 'Q') (hE : d ≠ 'E')
    (h : escapeToken ctx (m.place != .outside) d cs =
      if ctx.utf then .ok (.escaped v form, rest) else fail fault) :
    scan ctx m '\\' (d :: cs) =
      if ctx.utf then .ok ⟨some (.escaped v form), m.advance (.escaped v form), rest⟩
      else fail fault := by
  have hadvance : m.advance (.escaped '\\' .punctuation) = m.advance (.escaped v form) := by
    simp [Mode.advance, Mode.outsideAfter, Mode.after, Mode.classAfter]
  rw [scan_backslash hq, hadvance, escapePiece, escape, if_neg hQ, if_neg hE, h]
  cases ctx.utf <;> rfl

theorem octalDigit_apart {d : Char} (h : isOctalDigit d = true) :
    d ≠ 'Q' ∧ d ≠ 'E' ∧ (∀ inClass, specialValue? inClass d = none) ∧ shorthand? d = none ∧
      isAsciiDigit d = true := by
  refine octal_all (P := fun d => d ≠ 'Q' ∧ d ≠ 'E' ∧ (∀ inClass, specialValue? inClass d = none) ∧
    shorthand? d = none ∧ isAsciiDigit d = true) ?_ d h
  decide

section Wide

variable (h : WideOctal a b c)

include h

theorem character_octal :
    character ctx (ofDigits 8 [a, b, c]) .octal =
      if ctx.utf then .ok (.escaped (Char.ofNat (ofDigits 8 [a, b, c])) .octal)
      else fail .tooLargeOutsideUtf := by
  obtain ⟨hwide, hle, -⟩ := h.ofDigits_bounds
  exact character_wide hwide (.inl (by omega)) .octal

/-- What the scanner makes of a backslash and three digits in a class. -/
theorem scan_classOctal (hq : m.quoting = false) (hp : m.place ≠ .outside) (rest : List Char) :
    scan ctx m '\\' (a :: b :: c :: rest) =
      let k : TokenKind := .escaped (Char.ofNat (ofDigits 8 [a, b, c])) .octal
      if ctx.utf then .ok ⟨some k, m.advance k, rest⟩ else fail .tooLargeOutsideUtf := by
  have hdigits : digitsUpTo 2 isOctalDigit (b :: c :: rest) = ([b, c], rest) := by
    simp [digitsUpTo, h.octal b, h.octal c]
  obtain ⟨hQ, hE, hspecial, hshorthand, hdigit⟩ := octalDigit_apart (h.octal a (by simp))
  have hread : escapeToken ctx true a (b :: c :: rest) = classDigit ctx a (b :: c :: rest) := by
    simp only [escapeToken, hspecial, hshorthand, hdigit, ↓reduceIte]
  refine scan_wide hq hQ hE ?_
  rw [bne_iff_ne.mpr hp, hread, classDigit, if_pos (h.octal a (by simp)), hdigits]
  simp only [character_octal h]
  cases ctx.utf <;> rfl

/-- What the scanner makes of the three digits in braces, wherever they stand. -/
theorem scan_bracedOctal (hq : m.quoting = false) (rest : List Char) :
    scan ctx m '\\' ('o' :: '\x7b' :: a :: b :: c :: '\x7d' :: rest) =
      let k : TokenKind := .escaped (Char.ofNat (ofDigits 8 [a, b, c])) .octal
      if ctx.utf then .ok ⟨some k, m.advance k, rest⟩ else fail .tooLargeOutsideUtf := by
  have hbraced : braced .octal ('\x7b' :: a :: b :: c :: '\x7d' :: rest) =
      .ok ([a, b, c], rest) := by
    refine braced_spelled (List.all_eq_true.mpr fun d hd => ?_ : [a, b, c].all (· != '\x7d') = true)
    exact octal_all (P := fun d => (d != '\x7d') = true) (by decide) d (h.octal d hd)
  have hall : [a, b, c].all isOctalDigit = true := List.all_eq_true.mpr h.octal
  have hnumber : bracedNumber ctx 8 .octal [a, b, c] .notOctal .octalTooLarge =
      character ctx (ofDigits 8 [a, b, c]) .octal := by
    have hfits : ¬ maxNumber < ofDigits 8 [a, b, c] := by
      have hle := h.ofDigits_bounds.2.1
      simp only [maxNumber]
      omega
    simp only [bracedNumber, ↓reduceIte, hall, hfits, List.isEmpty_cons, Bool.not_true,
      Bool.or_self, Bool.false_eq_true]
  refine scan_wide hq (by decide) (by decide) ?_
  show octalEscape ctx _ = _
  simp only [octalEscape, hbraced, bind, Except.bind, hnumber, character_octal h]
  cases ctx.utf <;> rfl

/-- What the scanner leaves to the parser elsewhere, if the digits end there. -/
theorem scan_outsideOctal (hq : m.quoting = false) (hp : m.place = .outside) {post : List Char}
    (hpost : ∀ d ∈ post.head?, isAsciiDigit d = false) :
    scan ctx m '\\' (a :: b :: c :: post) =
      .ok ⟨some (.numericEscape (ofDigits 10 [a, b, c])), m, post⟩ := by
  obtain ⟨hQ, hE, hspecial, hshorthand, ha⟩ := octalDigit_apart (h.octal a (by simp))
  obtain ⟨-, -, -, -, hb⟩ := octalDigit_apart (h.octal b (by simp))
  obtain ⟨-, -, -, -, hc⟩ := octalDigit_apart (h.octal c (by simp))
  have hzero : a ≠ '0' := by
    rintro rfl
    exact absurd h.first (by decide)
  have hread : number (a :: b :: c :: post) = .ok (some (ofDigits 10 [a, b, c]), post) := by
    have hfits := h.ofDigits_bounds.2.2.2
    cases post with
    | nil => simp [number, ha, hb, hc, hfits]
    | cons d post => simp [number, ha, hb, hc, hpost d rfl, hfits]
  have hadvance : m.advance (.escaped '\\' .punctuation) = m := by
    simp [Mode.advance, hp, hq, Mode.outsideAfter, Mode.after]
  have htoken : escapeToken ctx false a (b :: c :: post) =
      .ok (.numericEscape (ofDigits 10 [a, b, c]), post) := by
    simp only [escapeToken, hspecial, hshorthand, ha, outsideDigit, hzero, hread, ↓reduceIte]
    rfl
  rw [scan_backslash hq, hadvance, hp, escapePiece, escape, if_neg hQ, if_neg hE,
    show (Place.outside != .outside) = false from rfl, htoken]
  rfl

end Wide

/-- A token that the scanner reads at a place of a text in a mode. -/
def ReadAt (ctx : Context) (m : Mode) (offset : Nat) (cs : List Char) (t : Token) : Prop :=
  ∃ pre d piece m' rest, cs = pre ++ d :: (piece ++ rest) ∧ t.start = offset + size pre ∧
    t.text = d :: piece ∧ scan ctx m d (piece ++ rest) = .ok ⟨some t.kind, m', rest⟩

theorem ReadAt.append {offset : Nat} {cs : List Char} {t : Token} (before : List Char)
    (h : ReadAt ctx m (offset + size before) cs t) : ReadAt ctx m offset (before ++ cs) t := by
  obtain ⟨pre, d, piece, m', rest, rfl, hstart, htext, hp⟩ := h
  refine ⟨before ++ pre, d, piece, m', rest, by simp, ?_, htext, hp⟩
  rw [hstart, size_append, Nat.add_assoc]

/-- Every reading but the last is that of a token at its place. -/
theorem Scanned.readAt {m₀ : Mode} {offset : Nat} {cs : List Char} {ts : List Token} {t : Token}
    (hts : Scanned ctx m₀ offset cs ts) (hmem : (m, t) ∈ readings ctx m₀ offset cs) :
    t = eof (offset + size cs) ∨ ReadAt ctx m offset cs t := by
  induction hts with
  | done m₀ offset =>
      rw [readings, List.mem_singleton] at hmem
      exact .inl (congrArg Prod.snd hmem)
  | @skip m₀ m₁ offset d piece rest ts hp _ ih =>
      rw [readings_cons hp] at hmem
      refine (ih hmem).imp (fun h => ?_) (ReadAt.append (d :: piece))
      rw [h, ← List.cons_append, size_append, Nat.add_assoc]
  | @token m₀ m₁ offset d piece rest k ts hp _ ih =>
      rw [readings_cons hp] at hmem
      rcases List.mem_cons.mp hmem with heq | hmem
      · cases heq
        exact .inr ⟨[], d, piece, m₁, rest, rfl, rfl, rfl, hp⟩
      · refine (ih hmem).imp (fun h => ?_) (ReadAt.append (d :: piece))
        rw [h, ← List.cons_append, size_append, Nat.add_assoc]

/-- The digits that are read at their place, with nothing but them, are the token there. -/
theorem Scanned.wideOctal_at {m₀ : Mode} {cs pre post : List Char} {ts : List Token} {t : Token}
    (hts : Scanned ctx m₀ 0 cs ts) (hmem : (m, t) ∈ readings ctx m₀ 0 cs)
    (hq : m.quoting = false) (hp : m.place = .outside)
    (hcs : cs = pre ++ '\\' :: a :: b :: c :: post) (hstart : t.start = size pre)
    (h : WideOctal a b c) (hpost : ∀ d ∈ post.head?, isAsciiDigit d = false) :
    t.kind = .numericEscape (ofDigits 10 [a, b, c]) ∧ t.text = ['\\', a, b, c] := by
  rcases hts.readAt hmem with rfl | ⟨pre', d, piece, m', rest, hcs', hstart', htext, hscan⟩
  · have hsize : size cs = size pre := (Nat.zero_add (size cs)).symm.trans hstart
    have hpos := ('\\' : Char).utf8Size_pos
    rw [hcs, size_append, size_cons] at hsize
    omega
  · obtain ⟨rfl, hsame⟩ := append_inj_of_size (hcs.symm.trans hcs') (by omega)
    obtain ⟨rfl, hrest⟩ := List.cons.inj hsame
    rw [← hrest, scan_outsideOctal h hq hp hpost] at hscan
    simp only [Except.ok.injEq, Piece.mk.injEq, Option.some.injEq] at hscan
    obtain ⟨hkind, -, rfl⟩ := hscan
    obtain rfl : [a, b, c] = piece := List.append_cancel_right hrest
    exact ⟨hkind.symm, htext⟩

end Token

namespace Parse

variable {s : ParserSettings} {st : State} {t : Token} {a b c : Char}

/-- What the parser makes of the three digits, where there are not that many groups. -/
theorem State.numericEscape_wide (h : WideOctal a b c) (htext : t.text = ['\\', a, b, c])
    (hgroups : st.captures < ofDigits 10 [a, b, c]) :
    st.numericEscape t (ofDigits 10 [a, b, c]) =
      if st.flags.has Flags.unicode then
        .ok (st.pushAtom ⟨t.start, t.start + 4⟩
          (.literal (Char.ofNat (ofDigits 8 [a, b, c])) .octal st.caseless))
      else .error ⟨.octalTooLarge, t.start⟩ := by
  obtain ⟨hwide, -, hten, -⟩ := h.ofDigits_bounds
  have hnotDigits : a ≠ '8' ∧ a ≠ '9' :=
    octal_all (P := fun d => d ≠ '8' ∧ d ≠ '9') (by decide) a (h.octal a (by simp))
  have hoctal : ([a, b, c].take 3).takeWhile isOctalDigit = [a, b, c] := by
    simp [h.octal a, h.octal b, h.octal c]
  have hreference : ¬ ofDigits 10 [a, b, c] < 10 := by omega
  have hzero : ofDigits 10 [a, b, c] ≠ 0 := by omega
  have hplain : (decide (ofDigits 10 [a, b, c] < 10) || a == '8' || a == '9' ||
      decide (ofDigits 10 [a, b, c] ≤ st.captures)) = false := by
    simp [hnotDigits, hreference, Nat.not_le.mpr hgroups]
  simp only [numericEscape, htext, List.drop_one, List.tail_cons, List.headD_cons, hoctal, hzero,
    hplain, hwide, decide_true, Bool.true_and, Bool.false_eq_true, ↓reduceIte]
  cases st.flags.has Flags.unicode <;> rfl

/-- Three octal digits after a backslash, of which the first is 4 or more, where they are not a
reference: the parser takes them for a character if the modifiers ask for Unicode text, and the
scanner takes the same digits, in a class or in braces, for the same character if either the
modifiers or the first words of the body do. So they agree unless the first words ask for it and
the modifiers do not. -/
theorem step_wideOctal {body : String} {flags : Flags} {ts : List Token} {m : Mode}
    {pre post : List Char} (ht : tokenize body flags s.dialect = .ok ts)
    (hat : (st, m, t) ∈ (states s (initial flags ts) ts).zip
      (readings (contextOf body flags s.dialect) (Mode.initial flags) 0 body.toList))
    (hplace : m.place = .outside) (hquoting : m.quoting = false)
    (hbody : body.toList = pre ++ '\\' :: a :: b :: c :: post) (hstart : t.start = size pre)
    (hdigits : WideOctal a b c) (hpost : ∀ d ∈ post.head?, isAsciiDigit d = false)
    (hgroups : st.captures < ofDigits 10 [a, b, c]) :
    let v := Char.ofNat (ofDigits 8 [a, b, c])
    (∀ next, step s st t next =
      if flags.has Flags.unicode then
        .ok (st.pushAtom ⟨t.start, t.start + 4⟩ (.literal v .octal st.caseless))
      else .error ⟨.octalTooLarge, t.start⟩) ∧
    ∀ (m' : Mode) (rest : List Char), m'.quoting = false →
      let ctx := contextOf body flags s.dialect
      let read : Except ScanError Piece :=
        if flags.has Flags.unicode || asksForUtf body.toList then
          .ok ⟨some (.escaped v .octal), m'.advance (.escaped v .octal), rest⟩
        else fail .tooLargeOutsideUtf
      scan ctx m' '\\' ('o' :: '\x7b' :: a :: b :: c :: '\x7d' :: rest) = read ∧
        (m'.place ≠ .outside → scan ctx m' '\\' (a :: b :: c :: rest) = read) ∧
        ∀ next, (step s st t next).isOk = read.isOk ↔
          (asksForUtf body.toList = true → flags.has Flags.unicode = true) := by
  have hts := tokens_eq_ok_iff.mp ht
  obtain ⟨hformed, hunicode⟩ := states_zip_readings (u := flags.has Flags.unicode) hts
    (formed_initial s body flags ts) (fun f hf => by simp_all [initial]) _ hat
  obtain ⟨hkind, htext⟩ := hts.wideOctal_at (List.of_mem_zip hat).2 hquoting hplace hbody hstart
    hdigits hpost
  have hstep : ∀ next, step s st t next =
      if flags.has Flags.unicode then
        .ok (st.pushAtom ⟨t.start, t.start + 4⟩
          (.literal (Char.ofNat (ofDigits 8 [a, b, c])) .octal st.caseless))
      else .error ⟨.octalTooLarge, t.start⟩ := by
    intro next
    have htake : step s st t next = st.numericEscape t (ofDigits 10 [a, b, c]) := by
      rw [step_outside (hformed.place.mp hplace)]
      simp only [State.takeToken, State.takeVia, State.takeAtom, hkind]
    rw [htake, State.numericEscape_wide hdigits htext hgroups,
      hunicode st.flags List.mem_cons_self]
  refine ⟨hstep, fun m' rest hq => ⟨scan_bracedOctal hdigits hq rest,
    fun hp => scan_classOctal hdigits hq hp rest, fun next => ?_⟩⟩
  rw [hstep]
  cases flags.has Flags.unicode <;> cases asksForUtf body.toList <;> simp [fail, Except.isOk,
    Except.toBool]

/-- Under the modifier for Unicode text, `\400` is the character with the number 256. -/
theorem step_wideOctal_unicode :
    ∃ ts st m t, tokenize "\\400" Flags.unicode .pcre43 = .ok ts ∧
      (st, m, t) ∈ (states {} (initial Flags.unicode ts) ts).zip
        (readings (contextOf "\\400" Flags.unicode .pcre43) (Mode.initial Flags.unicode) 0
          "\\400".toList) ∧
      WideOctal '4' '0' '0' ∧
      step {} st t 4 = .ok (st.pushAtom ⟨0, 4⟩ (.literal 'Ā' .octal false)) := by
  let t : Token := ⟨.numericEscape 400, ['\\', '4', '0', '0'], 0, 4⟩
  have ht : tokenize "\\400" Flags.unicode .pcre43 = .ok [t, eof 4] := by cbv
  have hreadings : readings (contextOf "\\400" Flags.unicode .pcre43)
      (Mode.initial Flags.unicode) 0 "\\400".toList = [({}, t), ({}, eof 4)] := by cbv
  have hat : (initial Flags.unicode [t, eof 4], {}, t) ∈
      (states {} (initial Flags.unicode [t, eof 4]) [t, eof 4]).zip
        (readings (contextOf "\\400" Flags.unicode .pcre43) (Mode.initial Flags.unicode) 0
          "\\400".toList) := by
    rw [hreadings, states]
    exact List.mem_cons_self
  have hdigits : WideOctal '4' '0' '0' := ⟨by decide, by decide⟩
  have hbody : "\\400".toList = [] ++ '\\' :: '4' :: '0' :: '0' :: [] := by simp
  have hstep := (step_wideOctal (s := {}) ht hat rfl rfl hbody rfl hdigits (by simp)
    (by decide)).1 4
  have hchar : Char.ofNat (ofDigits 8 ['4', '0', '0']) = 'Ā' := by decide
  have hcaseless : (initial Flags.unicode [t, eof 4]).caseless = false := by decide
  rw [hchar, if_pos (by decide), hcaseless] at hstep
  exact ⟨_, _, _, _, ht, hat, hdigits, hstep⟩

end Parse

/-- A pattern that asks for Unicode text in its first words: in braces and in a class the digits
are a character, and elsewhere they are refused. -/
theorem Pattern.parseBody_octal_utf :
    parseBody {} "(*UTF)\\400" "" '/' = .error (.inText "(*UTF)\\400" 6 .octalTooLarge) ∧
      (parseBody {} "(*UTF)\\o\x7b400\x7d" "" '/').isOk = true ∧
      (parseBody {} "(*UTF)[\\400]" "" '/').isOk = true :=
  ⟨by cbv, by cbv, by cbv⟩

end PatternLint
