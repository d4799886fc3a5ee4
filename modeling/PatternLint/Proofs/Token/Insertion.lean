import PatternLint.Proofs.Parse.Lockstep
import PatternLint.Proofs.Positions
import PatternLint.Proofs.Token.Spaced

/-!
# A blank before a token

Where extended patterns skip blanks, a blank more before a token changes nothing but the
offsets behind it. This is not plain from the scanner, which looks far ahead: a brace is a
literal because of what is missing behind it, and the blank may stand just there.

So two things are shown of what comes before the blank. What was read is read again,
which is a matter of each reader. And what was not there is still not there: counts and
POSIX names that a text has with the blank, it has without it (`Counts.of_inserted`,
`posixClass?_word`). `scan_spaced` puts both together for one piece. Along the pieces of a
text, the blank is skipped when its place comes, and the rest is read from an offset that
is larger (`Scanned.blank`).

One piece does change. A comment that no line end follows takes a blank at the end of the
text with it, so that the blank is skipped there and not on its own.
-/

namespace PatternLint

namespace Text

/-- A number with more digits behind it does not become smaller. -/
theorem ofDigits_le_append {base : Nat} (hbase : 0 < base) (ds more : List Char) :
    ofDigits base ds ≤ ofDigits base (ds ++ more) := by
  induction more using List.reverseRecOn with
  | nil => rw [List.append_nil]
  | append_singleton more d ih =>
      rw [← List.append_assoc, ofDigits_append_singleton]
      have hscaled := Nat.le_mul_of_pos_left (ofDigits base (ds ++ more)) hbase
      omega

theorem Inserted.cons {w c : Char} {cs back : List Char} (h : Inserted w cs (c :: back))
    (hc : w ≠ c) : ∃ back', Inserted w back' back ∧ cs = c :: back' := by
  have hsplit : Inserted w cs ([c] ++ back) := h
  rcases hsplit.append with ⟨front, hfront, -⟩ | ⟨back', hback, hcs⟩
  · exact absurd (List.mem_singleton.mp hfront.mem) hc
  · exact ⟨back', hback, hcs⟩

end Text

namespace Token

open Text Unicode

/-! ### Counts -/

section Removed

variable {d : Dialect} {w : Char} {cs cs' : List Char} {n : Option Nat}

theorem Blanks.of_inserted (h : Blanks d cs') (hins : Inserted w cs cs') : Blanks d cs :=
  fun c hc => h c (hins.subset hc)

theorem Digits.not_inserted (hw : isPatternBlank w = true) (h : Digits cs') :
    ¬ Inserted w cs cs' := by
  intro hins
  have hdigit := List.all_eq_true.mp h.2 w hins.mem
  rw [isAsciiDigit_blank hw] at hdigit
  cases hdigit

/-- A place for a count is one without a blank that is in it. -/
theorem Slot.of_inserted (hw : isPatternBlank w = true) (h : Slot d cs' n)
    (hins : Inserted w cs cs') : Slot d cs n := by
  cases h with
  | number hbefore hdigits hafter =>
      rcases hins.append with ⟨front, hfront, rfl⟩ | ⟨after, hi, rfl⟩
      · rcases hfront.append with ⟨before, hi, rfl⟩ | ⟨digits, hi, -⟩
        · exact .number (hbefore.of_inserted hi) hdigits hafter
        · exact absurd hi (hdigits.not_inserted hw)
      · exact .number hbefore hdigits (hafter.of_inserted hi)
  | blank hblanks => exact .blank (hblanks.of_inserted hins)

/-- The same for the part of counts from the comma on. -/
theorem Slot.of_inserted_comma (hw : isPatternBlank w = true) {text : List Char}
    (h : Slot d text n) (hins : Inserted w cs (',' :: (text ++ ['\x7d']))) :
    ∃ text', Slot d text' n ∧ cs = ',' :: (text' ++ ['\x7d']) := by
  obtain ⟨back, hback, rfl⟩ := hins.cons (ne_of_blank hw (by decide))
  rcases hback.append with ⟨text', hi, rfl⟩ | ⟨close, hi, -⟩
  · exact ⟨text', h.of_inserted hw hi, rfl⟩
  · exact absurd (List.mem_singleton.mp hi.mem) (ne_of_blank hw (by decide))

theorem Counts.of_inserted (hw : isPatternBlank w = true) {min : Nat} {max : Option Nat}
    (h : Counts d cs' min max) (hins : Inserted w cs cs') : Counts d cs min max := by
  cases h with
  | exactly h =>
      rcases hins.append with ⟨text, hi, rfl⟩ | ⟨close, hi, -⟩
      · exact .exactly (h.of_inserted hw hi)
      · exact absurd (List.mem_singleton.mp hi.mem) (ne_of_blank hw (by decide))
  | range h h' =>
      rcases hins.append with ⟨text, hi, rfl⟩ | ⟨back, hi, rfl⟩
      · exact .range (h.of_inserted hw hi) h'
      · obtain ⟨text', hslot, rfl⟩ := h'.of_inserted_comma hw hi
        exact .range h hslot
  | upTo hd h h' =>
      rcases hins.append with ⟨text, hi, rfl⟩ | ⟨back, hi, rfl⟩
      · exact .upTo hd (h.of_inserted hw hi) h'
      · obtain ⟨text', hslot, rfl⟩ := h'.of_inserted_comma hw hi
        exact .upTo hd h hslot

/-- A number that is too large may have more digits behind it. -/
theorem tooLarge_of_digits {blanks digits : List Char} (hblanks : Blanks d blanks)
    (hdigits : Digits digits) (hlarge : Repeat.maxWritten < ofDigits 10 digits)
    (rest : List Char) : TooLarge d (blanks ++ digits ++ rest) := by
  have hall : Digits (digits ++ rest.takeWhile isAsciiDigit) := by
    refine ⟨List.append_ne_nil_of_left_ne_nil hdigits.1 _, ?_⟩
    rw [List.all_append, hdigits.2, List.all_takeWhile, Bool.and_self]
  have hstop : ∀ c ∈ (rest.dropWhile isAsciiDigit).head?, isAsciiDigit c = false := by
    intro c hc
    have hhead := List.head?_dropWhile_not isAsciiDigit rest
    rw [hc] at hhead
    exact hhead
  have hle : ofDigits 10 digits ≤ ofDigits 10 (digits ++ rest.takeWhile isAsciiDigit) :=
    ofDigits_le_append (by decide) _ _
  have htoo := TooLarge.intro hblanks hall hstop (Nat.lt_of_lt_of_le hlarge hle)
  rwa [← List.append_assoc, List.append_assoc _ (rest.takeWhile isAsciiDigit),
    List.takeWhile_append_dropWhile] at htoo

theorem TooLarge.of_inserted (hw : isPatternBlank w = true) (h : TooLarge d cs')
    (hins : Inserted w cs cs') : TooLarge d cs := by
  cases h with
  | intro hblanks hdigits hrest hlarge =>
      rcases hins.append with ⟨front, hfront, rfl⟩ | ⟨rest, -, rfl⟩
      · rcases hfront.append with ⟨blanks, hi, rfl⟩ | ⟨digits, hi, -⟩
        · exact .intro (hblanks.of_inserted hi) hdigits hrest hlarge
        · exact absurd hi (hdigits.not_inserted hw)
      · exact tooLarge_of_digits hblanks hdigits hlarge rest

theorem Oversized.of_inserted (hw : isPatternBlank w = true) (h : Oversized d cs')
    (hins : Inserted w cs cs') : Oversized d cs := by
  cases h with
  | first h => exact .first (h.of_inserted hw hins)
  | second h hmax h' =>
      rcases hins.append with ⟨text, hi, rfl⟩ | ⟨back, hback, rfl⟩
      · exact .second (h.of_inserted hw hi) hmax h'
      · obtain ⟨cs, hi, rfl⟩ := hback.cons (ne_of_blank hw (by decide))
        exact .second h hmax (h'.of_inserted hw hi)

end Removed

section Interval

variable {d : Dialect} {w : Char} {n : Nat} {cs rest : List Char}

theorem interval_spaced {min : Nat} {max : Option Nat}
    (h : interval d cs = .ok (some (min, max), rest)) (hn : n ≤ rest.length) :
    interval d (spaced w n cs) = .ok (some (min, max), spaced w n rest) := by
  obtain ⟨text, rfl, hcounts⟩ := interval_eq_some_iff.mp h
  exact interval_eq_some_iff.mpr ⟨text, spaced_append text hn, hcounts⟩

/-- Where no counts are read, none are with a blank more: it would be one of the blanks around
counts, or behind them. -/
theorem interval_spaced_none (hw : isPatternBlank w = true)
    (h : interval d cs = .ok (none, cs)) :
    interval d (spaced w n cs) = .ok (none, spaced w n cs) := by
  obtain ⟨hlarge, hnone⟩ := interval_eq_none_iff.mp h
  have hins := inserted_spaced w n cs
  refine interval_eq_none_iff.mpr ⟨fun h => hlarge (h.of_inserted hw hins), ?_⟩
  intro text back min max hspaced hcounts
  rw [hspaced] at hins
  rcases hins.append with ⟨text', hi, hcs⟩ | ⟨back', -, hcs⟩
  · exact hnone text' back min max hcs (hcounts.of_inserted hw hi)
  · exact hnone text back' min max hcs hcounts

end Interval

/-! ### Pieces -/

section Piece

variable {ctx : Context} {m m' : Mode} {w c : Char} {n : Nat} {cs rest : List Char}
  {k : Option TokenKind}

theorem quantifierKind_spaced (hw : isPatternBlank w = true) {min : Nat} {max : Option Nat}
    {t : TokenKind} (h : quantifierKind min max cs = (t, rest)) (hn : n ≤ rest.length) :
    quantifierKind min max (spaced w n cs) = (t, spaced w n rest) := by
  unfold quantifierKind at h ⊢
  obtain ⟨rfl, rfl⟩ := Prod.mk.inj h
  rw [greed_spaced hw rfl hn]

theorem isPatternBlank_posixChar (hc : isPosixChar c = true) : isPatternBlank c = false := by
  cases hblank : isPatternBlank c with
  | false => rfl
  | true =>
      rw [isPosixChar_blank hblank] at hc
      cases hc

/-- The name of a POSIX class and what closes it have no blanks, and do not look beyond. -/
theorem posixName?_word {negated : Bool} {t : TokenKind}
    (h : posixName? negated cs = some (t, rest)) :
    ∃ word, cs = word ++ rest ∧ (∀ c ∈ word, isPatternBlank c = false) ∧
      ∀ back, posixName? negated (word ++ back) = some (t, back) := by
  unfold posixName? at h
  split at h
  · next tail hdrop =>
      simp only at h
      split at h
      · cases h
      · next hname =>
          obtain ⟨rfl, rfl⟩ := Prod.mk.inj (Option.some.inj h)
          have hall : ∀ c ∈ cs.takeWhile isPosixChar, isPosixChar c = true :=
            List.all_eq_true.mp List.all_takeWhile
          refine ⟨cs.takeWhile isPosixChar ++ [':', ']'], ?_, ?_, fun back => ?_⟩
          · rw [List.append_assoc]
            show cs = cs.takeWhile isPosixChar ++ ':' :: ']' :: tail
            rw [← hdrop, List.takeWhile_append_dropWhile]
          · intro c hc
            rcases List.mem_append.mp hc with hc | hc
            · exact isPatternBlank_posixChar (hall c hc)
            · have hclose : ∀ c ∈ [':', ']'], isPatternBlank c = false := by decide
              exact hclose c hc
          · have hdrop' : (cs.takeWhile isPosixChar ++ [':', ']'] ++ back).dropWhile isPosixChar =
                ':' :: ']' :: back := by
              rw [List.append_assoc, List.dropWhile_append_of_pos hall]
              exact List.dropWhile_cons_of_neg (by decide)
            have htake : (cs.takeWhile isPosixChar ++ [':', ']'] ++ back).takeWhile isPosixChar =
                cs.takeWhile isPosixChar := by
              rw [List.append_assoc, List.takeWhile_append_of_pos hall, List.cons_append,
                List.takeWhile_cons_of_neg (by decide), List.append_nil]
            simp only [posixName?, hdrop', htake, if_neg hname]
  · cases h

/-- The same of the whole POSIX class. -/
theorem posixClass?_word {t : TokenKind} (h : posixClass? cs = some (t, rest)) :
    ∃ word, cs = word ++ rest ∧ (∀ c ∈ word, isPatternBlank c = false) ∧
      ∀ back, posixClass? (word ++ back) = some (t, back) := by
  unfold posixClass? at h
  split at h
  · next text =>
      obtain ⟨word, rfl, hblank, hread⟩ := posixName?_word h
      refine ⟨':' :: '^' :: word, rfl, ?_, hread⟩
      simpa only [List.forall_mem_cons] using ⟨by decide, by decide, hblank⟩
  · next text hcaret =>
      obtain ⟨word, rfl, hblank, hread⟩ := posixName?_word h
      refine ⟨':' :: word, rfl, ?_, fun back => ?_⟩
      · simpa only [List.forall_mem_cons] using ⟨by decide, hblank⟩
      · rw [List.cons_append, posixClass?]
        · exact hread back
        · cases word with
          | nil => cases hread []
          | cons c word =>
              intro tail heq
              exact hcaret (word ++ rest) (by rw [(List.cons.inj heq).1]; rfl)
  · cases h

theorem posixClass?_spaced {t : TokenKind} (h : posixClass? cs = some (t, rest))
    (hn : n ≤ rest.length) : posixClass? (spaced w n cs) = some (t, spaced w n rest) := by
  obtain ⟨word, rfl, -, hread⟩ := posixClass?_word h
  rw [spaced_append word hn, hread]

theorem posixClass?_spaced_none (hw : isPatternBlank w = true) (h : posixClass? cs = none) :
    posixClass? (spaced w n cs) = none := by
  cases hread : posixClass? (spaced w n cs) with
  | none => rfl
  | some r =>
      obtain ⟨word, hspaced, hblank, hback⟩ := posixClass?_word hread
      have hins := inserted_spaced w n cs
      rw [hspaced] at hins
      obtain ⟨back, rfl⟩ := hins.word (not_mem_of_blank hw hblank)
      rw [hback] at h
      cases h

theorem doubled_spaced (hw : isPatternBlank w = true) (hc : isPatternBlank c = false)
    {operation alone t : TokenKind} (h : doubled ctx c operation alone cs = (t, rest))
    (hn : n ≤ rest.length) :
    doubled ctx c operation alone (spaced w n cs) = (t, spaced w n rest) := by
  cases hd : ctx.dialect.supports .classSetOperations with
  | false =>
      have halone : ∀ cs, doubled ctx c operation alone cs = (alone, cs) := by
        intro cs
        cases cs with
        | nil => rfl
        | cons d cs => simp [doubled, hd]
      rw [halone] at h ⊢
      obtain ⟨rfl, rfl⟩ := Prod.mk.inj h
      rfl
  | true =>
      have hdouble : ∀ cs, doubled ctx c operation alone (c :: cs) = (operation, cs) := by
        simp [doubled, hd]
      refine mark_spaced (z := alone) hdouble hdouble (fun cs hcs => ?_)
        ⟨ne_of_blank hw hc, ne_of_blank hw hc⟩ h hn
      cases cs with
      | nil => rfl
      | cons d cs => simp [doubled, (hcs d rfl).1]

theorem escapePiece_spaced (hw : isPatternBlank w = true) {inClass : Bool}
    (h : escapePiece m inClass ctx cs = .ok ⟨k, m', rest⟩) (hn : n ≤ rest.length) :
    escapePiece m inClass ctx (spaced w n cs) = .ok ⟨k, m', spaced w n rest⟩ := by
  unfold escapePiece at h ⊢
  split at h
  · cases h
  all_goals
    next hescape =>
      obtain ⟨rfl, rfl, rfl⟩ := Piece.mk.inj (Except.ok.inj h)
      rw [escape_spaced hw hescape hn]

/-- A quoted character does not depend on what follows it, unless it starts the mark that ends the
quotation. -/
theorem quotedPiece_literal (h : c = '\\' → ∀ tail, cs = 'E' :: tail → False) :
    quotedPiece m c cs = { quotedPiece m c [] with rest := cs } := by
  unfold quotedPiece
  simp only
  split
  · next tail => exact if_neg fun hc => h hc tail rfl
  · rfl

theorem quotedPiece_spaced (hw : isPatternBlank w = true)
    (h : quotedPiece m c cs = ⟨k, m', rest⟩) (hn : n ≤ rest.length) :
    quotedPiece m c (spaced w n cs) = ⟨k, m', spaced w n rest⟩ := by
  by_cases hend : c = '\\' → ∀ tail, cs = 'E' :: tail → False
  · rw [quotedPiece_literal hend] at h
    rw [quotedPiece_literal fun hc => ne_cons_spaced hw (by decide) (hend hc)]
    obtain ⟨rfl, rfl, rfl⟩ := Piece.mk.inj h
    rfl
  · simp only [Classical.not_imp, not_forall, not_false_eq_true, and_true] at hend
    obtain ⟨rfl, tail, rfl⟩ := hend
    obtain ⟨rfl, rfl, rfl⟩ := Piece.mk.inj h
    rw [spaced_cons hn]
    rfl

/-- The piece of a token, if the token is read as before. -/
theorem piece_spaced {r r' : TokenKind × List Char} {m₀ : Mode}
    (hr : ∀ t, r = (t, rest) → r' = (t, spaced w n rest))
    (h : (.ok ⟨some r.1, m₀, r.2⟩ : Except ScanError Piece) = .ok ⟨k, m', rest⟩) :
    (.ok ⟨some r'.1, m₀, r'.2⟩ : Except ScanError Piece) = .ok ⟨k, m', spaced w n rest⟩ := by
  obtain ⟨rfl, rfl, rfl⟩ := Piece.mk.inj (Except.ok.inj h)
  rw [hr r.1 rfl]

theorem classPiece_spaced (hw : isPatternBlank w = true) {fresh : Bool}
    (h : classPiece ctx m fresh c cs = .ok ⟨k, m', rest⟩) (hn : n ≤ rest.length) :
    classPiece ctx m fresh c (spaced w n cs) = .ok ⟨k, m', spaced w n rest⟩ := by
  have hplain : ∀ {t t' : TokenKind}, (t, cs) = (t', rest) →
      (t, spaced w n cs) = (t', spaced w n rest) := by
    intro t t' h
    obtain ⟨rfl, rfl⟩ := Prod.mk.inj h
    rfl
  unfold classPiece at h ⊢
  refine ite_ok h (fun _ h => ?_) (fun _ h => ?_)
  · obtain ⟨rfl, rfl, rfl⟩ := Piece.mk.inj (Except.ok.inj h)
    rfl
  simp only at h ⊢
  refine ite_ok h (fun _ h => ?_) (fun _ h => ?_)
  · exact ite_ok h (fun _ h => piece_spaced (fun _ => hplain) h)
      (fun _ h => piece_spaced (r := (.classClose, cs)) (fun _ => hplain) h)
  refine ite_ok h (fun _ h => escapePiece_spaced hw h hn) (fun _ h => ?_)
  refine ite_ok h (fun _ h => piece_spaced (fun t ht => ?_) h) (fun _ h => ?_)
  · cases hposix : posixClass? cs with
    | none =>
        rw [hposix] at ht
        rw [posixClass?_spaced_none hw hposix]
        exact hplain ht
    | some r =>
        rw [hposix] at ht
        obtain rfl : r = (t, rest) := ht
        rw [posixClass?_spaced hposix hn]
        rfl
  have hdoubled : isPatternBlank c = false → ∀ {operation alone t : TokenKind},
      doubled ctx c operation alone cs = (t, rest) →
        doubled ctx c operation alone (spaced w n cs) = (t, spaced w n rest) :=
    fun hc _ _ _ h => doubled_spaced hw hc h hn
  refine ite_ok h (fun hc h => piece_spaced (fun _ => hdoubled (by rw [hc]; decide)) h)
    (fun _ h => ?_)
  exact ite_ok h (fun hc h => piece_spaced (fun _ => hdoubled (by rw [hc]; decide)) h)
    (fun _ h => piece_spaced (r := (.literal c, cs)) (fun _ => hplain) h)

theorem outsideToken_spaced (hw : isPatternBlank w = true) {t : TokenKind}
    (h : outsideToken ctx c cs = .ok (t, rest)) (hn : n ≤ rest.length) :
    outsideToken ctx c (spaced w n cs) = .ok (t, spaced w n rest) := by
  have hmark : ∀ {kind : TokenKind}, (.ok (kind, cs) : Except ScanError _) = .ok (t, rest) →
      (.ok (kind, spaced w n cs) : Except ScanError _) = .ok (t, spaced w n rest) := by
    intro kind h
    obtain ⟨rfl, rfl⟩ := Prod.mk.inj (Except.ok.inj h)
    rfl
  have hrepeat : ∀ {min : Nat} {max : Option Nat},
      (.ok (quantifierKind min max cs) : Except ScanError _) = .ok (t, rest) →
      (.ok (quantifierKind min max (spaced w n cs)) : Except ScanError _) =
        .ok (t, spaced w n rest) := by
    intro min max h
    rw [quantifierKind_spaced hw (Except.ok.inj h) hn]
  unfold outsideToken at h ⊢
  refine ite_ok h (fun _ h => paren_spaced hw h hn) (fun _ h => ?_)
  iterate 5 refine ite_ok h (fun _ h => hmark h) (fun _ h => ?_)
  iterate 3 refine ite_ok h (fun _ h => hrepeat h) (fun _ h => ?_)
  refine ite_ok h (fun _ h => ?_) (fun _ h => hmark h)
  split at h
  · cases h
  · next min max tail hinterval =>
      have hle := (greed_suffix tail).length_le
      have hgreed : quantifierKind min max tail = (t, rest) := Except.ok.inj h
      obtain ⟨-, rfl⟩ := Prod.mk.inj hgreed
      rw [interval_spaced hinterval (Nat.le_trans hn hle)]
      exact congrArg Except.ok (quantifierKind_spaced hw hgreed hn)
  · next hinterval =>
      rw [interval_spaced_none hw (interval_none hinterval ▸ hinterval)]
      exact hmark h

/-- A comment up to the end of its line stays as it is, unless nothing ends the line: then a blank
at the end of the text belongs to the comment. -/
theorem skippedComment_spaced (hn : n ≤ ((cs.dropWhile (· != '\n')).drop 1).length) :
    ((spaced w n cs).dropWhile (· != '\n')).drop 1 =
        spaced w n ((cs.dropWhile (· != '\n')).drop 1) ∨
      (cs.dropWhile (· != '\n')).drop 1 = [] ∧
        ((spaced w n cs).dropWhile (· != '\n')).drop 1 = [] := by
  cases hdrop : cs.dropWhile (· != '\n') with
  | nil =>
      have hall : ∀ c ∈ cs, (c != '\n') = true := List.dropWhile_eq_nil_iff.mp hdrop
      rw [hdrop] at hn
      have hspaced : spaced w n (cs ++ []) = cs ++ [w] := spaced_append cs hn
      rw [List.append_nil] at hspaced
      refine .inr ⟨rfl, ?_⟩
      rw [hspaced, List.dropWhile_append_of_pos hall]
      exact List.drop_eq_nil_iff.mpr (List.dropWhile_suffix _).length_le
  | cons c tail =>
      rw [hdrop] at hn
      rw [(takeWhile_spaced_of_cons hdrop hn).2]
      exact .inl rfl

theorem outsidePiece_spaced (hw : isPatternBlank w = true)
    (h : outsidePiece ctx m c cs = .ok ⟨k, m', rest⟩) (hn : n ≤ rest.length) :
    outsidePiece ctx m c (spaced w n cs) = .ok ⟨k, m', spaced w n rest⟩ ∨
      k = none ∧ rest = [] ∧ outsidePiece ctx m c (spaced w n cs) = .ok ⟨none, m', []⟩ := by
  unfold outsidePiece at h ⊢
  by_cases hblank : (m.spacing != 0 && isPatternBlank c) = true
  · rw [if_pos hblank] at h ⊢
    obtain ⟨rfl, rfl, rfl⟩ := Piece.mk.inj (Except.ok.inj h)
    exact .inl rfl
  rw [if_neg hblank] at h ⊢
  by_cases hcomment : (m.spacing != 0 && c == '#') = true
  · rw [if_pos hcomment] at h ⊢
    obtain ⟨rfl, rfl, rfl⟩ := Piece.mk.inj (Except.ok.inj h)
    rcases skippedComment_spaced (w := w) hn with hspaced | ⟨hrest, hspaced⟩
    · exact .inl (by rw [hspaced])
    · exact .inr ⟨rfl, hrest, by rw [hspaced]⟩
  rw [if_neg hcomment] at h ⊢
  refine .inl (ite_ok h (fun _ h => escapePiece_spaced hw h hn) (fun _ h => ?_))
  refine ite_ok h (fun _ h => ?_) (fun _ h => ?_)
  · simp only at h ⊢
    split at h
    · obtain ⟨rfl, rfl, rfl⟩ := Piece.mk.inj (Except.ok.inj h)
      rw [spaced_cons hn]
      rfl
    · next hcaret =>
        obtain ⟨rfl, rfl, rfl⟩ := Piece.mk.inj (Except.ok.inj h)
        split
        · next heq => exact (ne_cons_spaced hw (by decide) hcaret _ heq).elim
        · rfl
  · split at h
    · cases h
    · next htoken =>
        obtain ⟨rfl, rfl, rfl⟩ := Piece.mk.inj (Except.ok.inj h)
        rw [outsideToken_spaced hw htoken hn]

/-- A blank behind a piece does not change it. Only a comment that nothing ends takes a blank at
the end of the text with it. -/
theorem scan_spaced (hw : isPatternBlank w = true)
    (h : scan ctx m c cs = .ok ⟨k, m', rest⟩) (hn : n ≤ rest.length) :
    scan ctx m c (spaced w n cs) = .ok ⟨k, m', spaced w n rest⟩ ∨
      k = none ∧ rest = [] ∧ scan ctx m c (spaced w n cs) = .ok ⟨none, m', []⟩ := by
  unfold scan at h ⊢
  by_cases hq : m.quoting = true
  · rw [if_pos hq] at h ⊢
    rw [quotedPiece_spaced hw (Except.ok.inj h) hn]
    exact .inl rfl
  rw [if_neg hq] at h ⊢
  split at h
  · next fresh hplace => exact .inl (classPiece_spaced hw h hn)
  · next hplace => exact outsidePiece_spaced hw h hn

end Piece

/-! ### Runs -/

/-- A token that stands further back by a number of bytes. -/
def shifted (bytes : Nat) (t : Token) : Token :=
  { t with start := t.start + bytes, stop := t.stop + bytes }

section Run

variable {ctx : Context} {m m₀ : Mode} {w : Char} {offset i : Nat} {cs : List Char}
  {ts : List Token} {t : Token}

/-- What is read does not depend on the offset that it is read from. -/
theorem Scanned.shift (h : Scanned ctx m offset cs ts) (bytes : Nat) :
    Scanned ctx m (offset + bytes) cs (ts.map (shifted bytes)) := by
  induction h with
  | done m offset => exact .done m (offset + bytes)
  | skip hp _ ih =>
      rw [Nat.add_right_comm] at ih
      exact .skip hp ih
  | @token m m' offset c pre rest k ts hp _ ih =>
      rw [Nat.add_right_comm] at ih
      have hstop : offset + size (c :: pre) + bytes = offset + bytes + size (c :: pre) := by omega
      rw [List.map_cons, shifted, hstop]
      exact .token hp ih

theorem le_start_of_mem_readings {r : Mode × Token} (h : r ∈ readings ctx m offset cs) :
    offset ≤ r.2.start := by
  fun_induction readings ctx m offset cs with
  | case1 m offset =>
      rw [List.mem_singleton.mp h]
      exact Nat.le_refl offset
  | case2 => cases h
  | case3 m offset c cs p hp text next later hk ih =>
      exact Nat.le_trans (Nat.le_add_right _ _) (ih h)
  | case4 m offset c cs p hp text next later kind hk ih =>
      rcases List.mem_cons.mp h with rfl | h
      · exact Nat.le_refl offset
      · exact Nat.le_trans (Nat.le_add_right _ _) (ih h)

theorem scan_blank (hplace : m.place = .outside) (hquoting : m.quoting = false)
    (hspacing : m.spacing ≠ 0) (hw : isPatternBlank w = true) (cs : List Char) :
    scan ctx m w cs = .ok ⟨none, m, cs⟩ := by
  have hskip : (m.spacing != 0 && isPatternBlank w) = true := by
    rw [hw, Bool.and_true, bne_iff_ne]
    exact hspacing
  simp only [scan, hplace, hquoting, outsidePiece, if_pos hskip, if_neg Bool.false_ne_true]

/-- The same as `scan_spaced`, for a text that is divided where the blank comes. -/
theorem scan_behind (hw : isPatternBlank w = true) {c : Char} {pre front back : List Char}
    {m' : Mode} {k : Option TokenKind}
    (h : scan ctx m c (pre ++ (front ++ back)) = .ok ⟨k, m', front ++ back⟩) :
    scan ctx m c (pre ++ (front ++ w :: back)) = .ok ⟨k, m', front ++ w :: back⟩ ∨
      k = none ∧ (front = [] ∧ back = []) ∧ scan ctx m c (pre ++ [w]) = .ok ⟨none, m', []⟩ := by
  have hfront : spaced w back.length (front ++ back) = front ++ w :: back := by
    rw [spaced_append front (Nat.le_refl _), spaced_of_length_le (Nat.le_refl _)]
  have hle : back.length ≤ (front ++ back).length := by
    rw [List.length_append]
    omega
  have hspaced := scan_spaced hw h hle
  rw [spaced_append pre hle, hfront] at hspaced
  refine hspaced.imp id ?_
  rintro ⟨hk, hnil, hscan⟩
  obtain ⟨rfl, rfl⟩ := List.append_eq_nil_iff.mp hnil
  exact ⟨hk, ⟨rfl, rfl⟩, hscan⟩

theorem readings_nil (hr : (readings ctx m₀ offset [])[i]? = some (m, t)) :
    i = 0 ∧ m = m₀ ∧ t = eof offset := by
  rw [readings, List.getElem?_singleton] at hr
  split at hr
  · next hi =>
      obtain ⟨rfl, rfl⟩ := Prod.mk.inj (Option.some.inj hr)
      exact ⟨hi, rfl, rfl⟩
  · cases hr

/-- A piece that takes the blank at the end of the text with it leaves the end alone, which stands
further back. -/
theorem Scanned.skip_end {c : Char} {pre : List Char}
    (h : scan ctx m₀ c (pre ++ [w]) = .ok ⟨none, m, []⟩) (offset : Nat) :
    Scanned ctx m₀ offset (c :: (pre ++ [w]))
      [eof (offset + size (c :: pre) + w.utf8Size)] := by
  have hnext : offset + size (c :: (pre ++ [w])) = offset + size (c :: pre) + w.utf8Size := by
    simp only [size_cons, size_append, size_nil]
    omega
  have hscan : scan ctx m₀ c ((pre ++ [w]) ++ []) = .ok ⟨none, m, []⟩ := by
    rw [List.append_nil]
    exact h
  have hskip := Scanned.skip hscan (.done m (offset + size (c :: (pre ++ [w]))))
  rw [List.append_nil, hnext] at hskip
  exact hskip

/-- A blank before a token where blanks are skipped. The pieces before it are read as they were,
the blank is skipped, and what follows it stands further back. -/
theorem Scanned.blank (hw : isPatternBlank w = true) (h : Scanned ctx m₀ offset cs ts)
    (hr : (readings ctx m₀ offset cs)[i]? = some (m, t)) (hplace : m.place = .outside)
    (hquoting : m.quoting = false) (hspacing : m.spacing ≠ 0) :
    ∃ front back, cs = front ++ back ∧ offset + size front = t.start ∧
      Scanned ctx m₀ offset (front ++ w :: back)
        (ts.take i ++ (ts.drop i).map (shifted w.utf8Size)) := by
  have hread : ∀ cs, scan ctx m w ([] ++ cs) = .ok ⟨none, m, cs⟩ :=
    scan_blank hplace hquoting hspacing hw
  have hwidth : size [w] = w.utf8Size := by simp
  induction h generalizing i with
  | done m₀ offset =>
      obtain ⟨rfl, rfl, rfl⟩ := readings_nil hr
      exact ⟨[], [], rfl, rfl, .skip (hread []) (hwidth ▸ .done m (offset + w.utf8Size))⟩
  | @skip m₀ m' offset c pre rest ts hp h ih =>
      rw [readings_cons hp] at hr
      obtain ⟨front, back, rfl, hstart, hscanned⟩ := ih hr
      refine ⟨c :: (pre ++ front), back, by simp, ?_, ?_⟩
      · rw [← hstart, size_cons, size_append, size_cons]
        omega
      rw [List.cons_append, List.append_assoc]
      rcases scan_behind hw hp with hp' | ⟨-, ⟨rfl, rfl⟩, hp'⟩
      · exact .skip hp' hscanned
      · -- A comment that nothing ends takes the blank with it.
        obtain ⟨rfl, rfl, rfl⟩ := readings_nil hr
        cases h
        exact .skip_end hp' offset
  | @token m₀ m' offset c pre rest k ts hp h ih =>
      rw [readings_cons hp] at hr
      cases i with
      | zero =>
          obtain ⟨rfl, rfl⟩ := Prod.mk.inj (Option.some.inj hr)
          refine ⟨[], c :: (pre ++ rest), rfl, rfl, ?_⟩
          have hshift := (Scanned.token hp h).shift w.utf8Size
          exact .skip (hread _) (hwidth ▸ hshift)
      | succ i =>
          obtain ⟨front, back, rfl, hstart, hscanned⟩ := ih hr
          refine ⟨c :: (pre ++ front), back, by simp, ?_, ?_⟩
          · rw [← hstart, size_cons, size_append, size_cons]
            omega
          rw [List.cons_append, List.append_assoc]
          rcases scan_behind hw hp with hp' | ⟨hk, -⟩
          · exact .token hp' hscanned
          · cases hk

/-! ### Words that ask for UTF mode -/

/-- The words by which a pattern asks for UTF mode. -/
def utfWords : List (List Char) := ["(*UTF)".toList, "(*UTF8)".toList]

theorem isPatternBlank_utfWords : ∀ word ∈ utfWords, ∀ c ∈ word, isPatternBlank c = false := by
  decide

theorem asksForUtf_iff : asksForUtf cs = true ↔ ∃ word ∈ utfWords, word <+: cs := by
  simp only [asksForUtf, utfWords, Bool.or_eq_true, List.isPrefixOf_iff_prefix, List.mem_cons,
    List.not_mem_nil, or_false, exists_eq_or_imp, exists_eq_left]

/-- Such a word at the start of a pattern is its first token. -/
theorem scan_utf (ctx : Context) {word : List Char} (hword : word ∈ utfWords) (flags : Flags)
    (tail : List Char) :
    ∃ c pre k, word = c :: pre ∧ scan ctx (Mode.initial flags) c (pre ++ tail) =
      .ok ⟨some k, Mode.initial flags, tail⟩ := by
  have hverb : ∀ {body : List Char} {name : String},
      paren ctx.dialect (body ++ tail) = .ok (.verb name none, tail) →
        scan ctx (Mode.initial flags) '(' (body ++ tail) =
          .ok ⟨some (.verb name none), Mode.initial flags, tail⟩ := fun h =>
    scan_of_outsideToken rfl rfl (fun _ => by decide) (by decide) (by decide) rfl h
  rcases List.mem_cons.mp hword with rfl | hword
  · exact ⟨'(', "*UTF)".toList, .verb "UTF" none, rfl, hverb rfl⟩
  · rw [List.mem_singleton.mp hword]
    exact ⟨'(', "*UTF8)".toList, .verb "UTF8" none, rfl, hverb rfl⟩

/-- A token behind the start of such a pattern is behind the word. -/
theorem size_word_le {word tail : List Char} {flags : Flags} (hword : word ∈ utfWords)
    (hr : (readings ctx (Mode.initial flags) 0 (word ++ tail))[i]? = some (m, t))
    (hstart : 0 < t.start) : size word ≤ t.start := by
  obtain ⟨c, pre, k, rfl, hscan⟩ := scan_utf ctx hword flags tail
  rw [List.cons_append, readings_cons hscan, Nat.zero_add] at hr
  cases i with
  | zero =>
      obtain ⟨-, rfl⟩ := Prod.mk.inj (Option.some.inj hr)
      exact absurd hstart (Nat.lt_irrefl 0)
  | succ i => exact le_start_of_mem_readings (List.mem_of_getElem? hr)

/-- Whether UTF mode is asked for does not change by a blank behind the first token. -/
theorem asksForUtf_blank (hw : isPatternBlank w = true) {front back : List Char} {flags : Flags}
    (hr : (readings ctx (Mode.initial flags) 0 (front ++ back))[i]? = some (m, t))
    (hstart : 0 < t.start) (hfront : size front = t.start) :
    asksForUtf (front ++ w :: back) = asksForUtf (front ++ back) := by
  rw [Bool.eq_iff_iff, asksForUtf_iff, asksForUtf_iff]
  constructor
  · rintro ⟨word, hword, tail, htail⟩
    have hins : Inserted w (front ++ back) (word ++ tail) := ⟨front, back, rfl, htail⟩
    have hmem : w ∉ word := not_mem_of_blank hw (isPatternBlank_utfWords word hword)
    obtain ⟨tail', htail'⟩ := hins.word hmem
    exact ⟨word, hword, tail', htail'.symm⟩
  · rintro ⟨word, hword, tail, htail⟩
    refine ⟨word, hword, ?_⟩
    rw [← htail] at hr
    have hle := size_word_le hword hr hstart
    rcases List.prefix_or_prefix_of_prefix ⟨tail, htail⟩ (List.prefix_append front back) with
      hprefix | ⟨more, rfl⟩
    · exact hprefix.trans (List.prefix_append front _)
    · cases more with
      | nil =>
          rw [List.append_nil]
          exact List.prefix_append front _
      | cons c more =>
          have hpos := c.utf8Size_pos
          rw [size_append, size_cons] at hle
          omega

end Run

end Token

open Token

/-- Blanks are insignificant where they are skipped. If the scanner stands before a token outside
classes and quotations, under flags that skip blanks, and the token is not at the very start of the
pattern, then one blank more before it leaves all tokens as they were, but that token and those
behind it stand further back by the size of the blank. The token may be the one that ends the
pattern. At its start a blank may matter, since there a pattern asks for UTF mode. -/
theorem tokenize_blank {body : String} {flags : Flags} {dialect : Dialect} {ts : List Token}
    {i : Nat} {m : Mode} {t : Token} {w : Char} (h : tokenize body flags dialect = .ok ts)
    (hr : (readings (contextOf body flags dialect) (Mode.initial flags) 0 body.toList)[i]? =
      some (m, t)) (hplace : m.place = .outside) (hquoting : m.quoting = false)
    (hspacing : m.spacing ≠ 0) (hstart : 0 < t.start) (hw : isPatternBlank w = true) :
    ∃ front back : String, body = front ++ back ∧ front.utf8ByteSize = t.start ∧
      tokenize (front ++ String.singleton w ++ back) flags dialect =
        .ok (ts.take i ++ (ts.drop i).map (shifted w.utf8Size)) := by
  obtain ⟨front, back, hbody, hfront, hscanned⟩ :=
    (tokens_eq_ok_iff.mp h).blank hw hr hplace hquoting hspacing
  rw [Nat.zero_add] at hfront
  refine ⟨String.ofList front, String.ofList back, ?_, ?_, ?_⟩
  · rw [← String.ofList_append, ← hbody, String.ofList_toList]
  · rw [Text.utf8ByteSize_ofList, hfront]
  · have htext : (String.ofList front ++ String.singleton w ++ String.ofList back).toList =
        front ++ w :: back := by simp
    have hutf : asksForUtf (front ++ w :: back) = asksForUtf body.toList := by
      rw [hbody] at hr ⊢
      exact asksForUtf_blank hw hr hstart hfront
    rw [tokenize, htext, hutf]
    exact tokens_eq_ok_iff.mpr hscanned

/-- A blank behind a brace that opens no repetition, before a bracket that opens no class with a
name and a comment that nothing ends. -/
theorem tokenize_blank_brace :
    ∃ ts front back, tokenize "é\x7b1,2[[:a] #" Flags.extended .pcre43 = .ok ts ∧
      "é\x7b1,2[[:a] #" = front ++ back ∧ front.utf8ByteSize = 3 ∧
      tokenize (front ++ String.singleton '\u2028' ++ back) Flags.extended .pcre43 =
        .ok (ts.take 2 ++ (ts.drop 2).map (shifted 3)) := by
  obtain ⟨ts, hts⟩ := exists_of_isOk
    (x := tokenize "é\x7b1,2[[:a] #" Flags.extended .pcre43) (by cbv)
  have hread : (readings (contextOf "é\x7b1,2[[:a] #" Flags.extended .pcre43)
      (Mode.initial Flags.extended) 0 "é\x7b1,2[[:a] #".toList)[2]? =
        some (⟨.outside, false, Flags.extended, []⟩, ⟨.literal '1', ['1'], 3, 4⟩) := by cbv
  obtain ⟨front, back, hbody, hsize, hspaced⟩ :=
    tokenize_blank (w := '\u2028') hts hread rfl rfl (by decide) (by decide) (by decide)
  exact ⟨ts, front, back, hts, hbody, hsize, hspaced⟩

end PatternLint
