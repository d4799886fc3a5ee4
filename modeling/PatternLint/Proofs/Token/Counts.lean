import PatternLint.Proofs.Token.Strung

/-!
# Braces

An opening brace starts a repetition if counts and a closing brace follow, and stands for
itself if not. `Counts` says which texts are counts, and `interval_eq_some_iff` that these
are the ones that are read as such, with their values. `tokens_openBrace` says which token
comes of it, wherever an opening brace is met.

A number is checked as soon as it has been read, before it is known whether it belongs to a
repetition. So a brace with a number behind it that is too large is refused, although nothing
may close it: `Oversized` says where that happens.
-/

namespace PatternLint.Token

open Unicode Text

/-! ### The form of counts -/

section Form

variable {d : Dialect} {text cs rest : List Char} {n : Option Nat}

/-- Blanks, which may stand around counts in some dialects only. -/
def Blanks (d : Dialect) (cs : List Char) : Prop :=
  ∀ c ∈ cs, (c = ' ' ∨ c = '\t') ∧ d.supports .openLowerBound = true

/-- At least one decimal digit. -/
def Digits (cs : List Char) : Prop := cs ≠ [] ∧ cs.all isAsciiDigit = true

/-- A place for a count: a number with blanks around it, or blanks alone. -/
inductive Slot (d : Dialect) : List Char → Option Nat → Prop where
  | number {before digits after : List Char} (hbefore : Blanks d before) (hdigits : Digits digits)
      (hafter : Blanks d after) : Slot d (before ++ digits ++ after) (some (ofDigits 10 digits))
  | blank {blanks : List Char} (hblanks : Blanks d blanks) : Slot d blanks none

/-- The text of counts after an opening brace, with the closing brace, and their values: a number of
turns, a least number, a least and a greatest number, or in some dialects a greatest number. -/
inductive Counts (d : Dialect) : List Char → Nat → Option Nat → Prop where
  | exactly {text : List Char} {n : Nat} (h : Slot d text (some n)) :
      Counts d (text ++ ['\x7d']) n (some n)
  | range {text text' : List Char} {min : Nat} {max : Option Nat} (h : Slot d text (some min))
      (h' : Slot d text' max) : Counts d (text ++ ',' :: (text' ++ ['\x7d'])) min max
  | upTo {text text' : List Char} {max : Nat} (hd : d.supports .openLowerBound = true)
      (h : Slot d text none) (h' : Slot d text' (some max)) :
      Counts d (text ++ ',' :: (text' ++ ['\x7d'])) 0 (some max)

/-- A number that is too large, where a count is looked for. -/
inductive TooLarge (d : Dialect) : List Char → Prop where
  | intro {blanks digits rest : List Char} (hblanks : Blanks d blanks) (hdigits : Digits digits)
      (hrest : ∀ c ∈ rest.head?, isAsciiDigit c = false)
      (hlarge : Repeat.maxWritten < ofDigits 10 digits) : TooLarge d (blanks ++ digits ++ rest)

/-- A number that is too large, at the first or at the second place of a text that starts like
counts. -/
inductive Oversized (d : Dialect) : List Char → Prop where
  | first {cs : List Char} (h : TooLarge d cs) : Oversized d cs
  | second {text cs : List Char} {n : Option Nat} (h : Slot d text n)
      (hn : ∀ v ∈ n, v ≤ Repeat.maxWritten) (h' : TooLarge d cs) : Oversized d (text ++ ',' :: cs)

end Form

/-! ### Reading one count -/

section Slots

variable {d : Dialect} {text cs rest : List Char} {n : Option Nat} {c : Char}

theorem isAsciiDigit_of_blank (h : c = ' ' ∨ c = '\t') : isAsciiDigit c = false := by
  rcases h with rfl | rfl <;> decide

theorem Digits.head_not_blank {digits : List Char} (h : Digits digits) :
    ∀ c ∈ (digits ++ rest).head?, c ≠ ' ' ∧ c ≠ '\t' := by
  obtain ⟨hne, hall⟩ := h
  cases digits with
  | nil => exact absurd rfl hne
  | cons c digits =>
      rw [List.all_cons, Bool.and_eq_true] at hall
      simp only [List.cons_append, List.head?_cons, Option.mem_some_iff, forall_eq']
      exact ⟨digit_ne hall.1 (by decide), digit_ne hall.1 (by decide)⟩

theorem Blanks.head_not_digit {blanks : List Char} (h : Blanks d blanks)
    (hc : isAsciiDigit c = false) : ∀ c' ∈ (blanks ++ c :: rest).head?, isAsciiDigit c' = false := by
  cases blanks with
  | nil => simpa using hc
  | cons b blanks => simpa using isAsciiDigit_of_blank (h b (by simp)).1

/-- Blanks are skipped, up to a character that is none. -/
theorem skipBlanks_append {blanks : List Char} (hblanks : Blanks d blanks)
    (hrest : ∀ c ∈ rest.head?, c ≠ ' ' ∧ c ≠ '\t') :
    skipBlanks (d.supports .openLowerBound) (blanks ++ rest) = rest := by
  unfold skipBlanks
  split
  · rw [List.dropWhile_append_of_pos fun c hc => by simpa using (hblanks c hc).1]
    cases rest with
    | nil => rfl
    | cons c rest =>
        obtain ⟨hspace, htab⟩ := hrest c rfl
        simp [hspace, htab]
  · next hd =>
      cases blanks with
      | nil => rfl
      | cons c blanks => exact absurd (hblanks c (by simp)).2 hd

theorem skipBlanks_split (d : Dialect) (cs : List Char) :
    ∃ blanks, Blanks d blanks ∧
      cs = blanks ++ skipBlanks (d.supports .openLowerBound) cs := by
  unfold skipBlanks
  split
  · next hd =>
      refine ⟨cs.takeWhile fun c => c == ' ' || c == '\t', fun c hc => ⟨?_, hd⟩, ?_⟩
      · simpa using List.all_eq_true.mp List.all_takeWhile c hc
      · exact List.takeWhile_append_dropWhile.symm
  · exact ⟨[], by simp [Blanks], rfl⟩

/-- A text starts with a number or with no digit at all. -/
theorem digits_or_not (cs : List Char) : (∀ c ∈ cs.head?, isAsciiDigit c = false) ∨
    ∃ digits rest, Digits digits ∧ (∀ c ∈ rest.head?, isAsciiDigit c = false) ∧
      cs = digits ++ rest := by
  cases cs with
  | nil => simp
  | cons c cs =>
      cases hc : isAsciiDigit c with
      | false => exact .inl (by simp [hc])
      | true =>
          refine .inr ⟨_, _, ⟨?_, List.all_takeWhile⟩, ?_, List.takeWhile_append_dropWhile.symm⟩
          · simp [hc]
          · have hstop := List.head?_dropWhile_not isAsciiDigit (c :: cs)
            intro c' hc'
            rw [hc'] at hstop
            simpa using hstop

theorem repeatCount_of_no_digit (h : ∀ c ∈ cs.head?, isAsciiDigit c = false) :
    repeatCount cs = .ok (none, cs) := by
  have hnone : cs.takeWhile isAsciiDigit = [] := by
    cases cs with
    | nil => rfl
    | cons c cs => simp [h c rfl]
  simp [repeatCount, hnone]

theorem repeatCount_digits {digits : List Char} (hdigits : Digits digits)
    (hrest : ∀ c ∈ rest.head?, isAsciiDigit c = false) :
    repeatCount (digits ++ rest) =
      if ofDigits 10 digits ≤ Repeat.maxWritten then .ok (some (ofDigits 10 digits), rest)
      else fail .countTooLarge := by
  have hall : ∀ c ∈ digits, isAsciiDigit c = true := List.all_eq_true.mp hdigits.2
  have htake : (digits ++ rest).takeWhile isAsciiDigit = digits := by
    rw [List.takeWhile_append_of_pos hall]
    cases rest with
    | nil => simp
    | cons c rest => simp [hrest c rfl]
  have hdrop : (digits ++ rest).dropWhile isAsciiDigit = rest := by
    rw [List.dropWhile_append_of_pos hall]
    cases rest with
    | nil => rfl
    | cons c rest => simp [hrest c rfl]
  simp only [repeatCount, htake, hdrop, List.isEmpty_iff, hdigits.1, ↓reduceIte]

/-- A count is read from its place, up to a character that is neither a digit nor a blank. -/
theorem Slot.read (h : Slot d text n) (rest : List Char)
    (hn : ∀ v ∈ n, v ≤ Repeat.maxWritten) (hblank : c ≠ ' ' ∧ c ≠ '\t')
    (hdigit : isAsciiDigit c = false) :
    ∃ mid, repeatCount (skipBlanks (d.supports .openLowerBound) (text ++ c :: rest)) =
        .ok (n, mid) ∧
      skipBlanks (d.supports .openLowerBound) mid = c :: rest := by
  have hstop : ∀ c' ∈ (c :: rest).head?, c' ≠ ' ' ∧ c' ≠ '\t' := by simpa using hblank
  cases h with
  | @number before digits after hbefore hdigits hafter =>
      refine ⟨after ++ c :: rest, ?_, skipBlanks_append hafter hstop⟩
      rw [List.append_assoc, List.append_assoc, skipBlanks_append hbefore hdigits.head_not_blank,
        repeatCount_digits hdigits (hafter.head_not_digit hdigit), if_pos (hn _ rfl)]
  | blank hblanks =>
      refine ⟨c :: rest, ?_, ?_⟩
      · rw [skipBlanks_append hblanks hstop]
        exact repeatCount_of_no_digit (by simpa using hdigit)
      · have hnone : Blanks d [] := by simp [Blanks]
        exact skipBlanks_append hnone hstop

/-- What has been read as a count is the text of a place for one. -/
theorem slot_of_read {mid : List Char}
    (h : repeatCount (skipBlanks (d.supports .openLowerBound) cs) = .ok (n, mid)) :
    ∃ text, cs = text ++ skipBlanks (d.supports .openLowerBound) mid ∧ Slot d text n ∧
      ∀ v ∈ n, v ≤ Repeat.maxWritten := by
  have hmax := repeatCount_le h
  obtain ⟨before, hbefore, hcs⟩ := skipBlanks_split d cs
  obtain ⟨after, hafter, hmid⟩ := skipBlanks_split d mid
  rcases digits_or_not (skipBlanks (d.supports .openLowerBound) cs) with
    hnone | ⟨digits, rest, hdigits, hrest, hsplit⟩
  · rw [repeatCount_of_no_digit hnone, Except.ok.injEq, Prod.mk.injEq] at h
    obtain ⟨rfl, rfl⟩ := h
    refine ⟨before ++ after, ?_, .blank ?_, hmax⟩
    · rw [List.append_assoc, ← hmid, ← hcs]
    · exact fun c hc => (List.mem_append.mp hc).elim (hbefore c) (hafter c)
  · rw [hsplit, repeatCount_digits hdigits hrest] at h
    split at h
    · rw [Except.ok.injEq, Prod.mk.injEq] at h
      obtain ⟨rfl, rfl⟩ := h
      refine ⟨before ++ digits ++ after, ?_, .number hbefore hdigits hafter, hmax⟩
      rw [List.append_assoc, ← hmid, List.append_assoc, ← hsplit, ← hcs]
    · cases h

/-- A count is refused if and only if its number is too large. -/
theorem repeatCount_error_iff {e : ScanError} :
    repeatCount (skipBlanks (d.supports .openLowerBound) cs) = .error e ↔
      e = ⟨.countTooLarge, 0⟩ ∧ TooLarge d cs := by
  constructor
  · intro h
    obtain ⟨before, hbefore, hcs⟩ := skipBlanks_split d cs
    rcases digits_or_not (skipBlanks (d.supports .openLowerBound) cs) with
      hnone | ⟨digits, rest, hdigits, hrest, hsplit⟩
    · rw [repeatCount_of_no_digit hnone] at h
      cases h
    · rw [hsplit, repeatCount_digits hdigits hrest] at h
      split at h
      · cases h
      · next hlarge =>
          obtain rfl := Except.error.inj h
          rw [hcs, hsplit, ← List.append_assoc]
          exact ⟨rfl, .intro hbefore hdigits hrest (Nat.lt_of_not_le hlarge)⟩
  · rintro ⟨rfl, h⟩
    cases h with
    | @intro blanks digits rest hblanks hdigits hrest hlarge =>
        rw [List.append_assoc, skipBlanks_append hblanks hdigits.head_not_blank,
          repeatCount_digits hdigits hrest, if_neg (Nat.not_le_of_lt hlarge)]
        rfl

end Slots

/-! ### Reading counts -/

section Interval

variable {d : Dialect} {text cs rest : List Char} {min : Nat} {max n : Option Nat}

theorem close_stops : ('\x7d' ≠ ' ' ∧ '\x7d' ≠ '\t') ∧ isAsciiDigit '\x7d' = false := by decide

theorem comma_stops : (',' ≠ ' ' ∧ ',' ≠ '\t') ∧ isAsciiDigit ',' = false := by decide

/-- Counts that are not too large are read. -/
theorem Counts.read (h : Counts d text min max) (rest : List Char)
    (hmin : min ≤ Repeat.maxWritten) (hmax : ∀ n ∈ max, n ≤ Repeat.maxWritten) :
    interval d (text ++ rest) = .ok (some (min, max), rest) := by
  obtain ⟨hclose, hclose'⟩ := close_stops
  obtain ⟨hcomma, hcomma'⟩ := comma_stops
  cases h with
  | @exactly text min h =>
      obtain ⟨mid, hread, hskip⟩ := h.read rest hmax hclose hclose'
      rw [List.append_assoc, List.singleton_append]
      simp only [interval, hread, bind, Except.bind, hskip, pure, Except.pure]
  | @range text text' min max h h' =>
      have hmin' : ∀ v ∈ some min, v ≤ Repeat.maxWritten := by simpa using hmin
      obtain ⟨mid, hread, hskip⟩ := h.read (text' ++ '\x7d' :: rest) hmin' hcomma hcomma'
      obtain ⟨mid', hread', hskip'⟩ := h'.read rest hmax hclose hclose'
      rw [List.append_assoc, List.cons_append, List.append_assoc, List.singleton_append]
      simp only [interval, hread, bind, Except.bind, hskip, hread', hskip', pure, Except.pure]
  | @upTo text text' max hd h h' =>
      have hnone : ∀ v ∈ (none : Option Nat), v ≤ Repeat.maxWritten := by simp
      obtain ⟨mid, hread, hskip⟩ := h.read (text' ++ '\x7d' :: rest) hnone hcomma hcomma'
      obtain ⟨mid', hread', hskip'⟩ := h'.read rest hmax hclose hclose'
      rw [List.append_assoc, List.cons_append, List.append_assoc, List.singleton_append]
      simp only [interval, hread, bind, Except.bind, hskip, hread', hskip', pure, Except.pure]
      rw [if_pos hd]

/-- What is read as counts has their form, and they are not too large. -/
theorem counts_of_interval (h : interval d cs = .ok (some (min, max), rest)) :
    ∃ text, cs = text ++ rest ∧ Counts d text min max ∧ min ≤ Repeat.maxWritten ∧
      ∀ n ∈ max, n ≤ Repeat.maxWritten := by
  unfold interval at h
  obtain ⟨⟨first, mid⟩, hread, h⟩ := ok_bind h
  obtain ⟨text, hcs, hslot, hle⟩ := slot_of_read hread
  simp only at h
  split at h
  · next hskip =>
      rw [hskip] at hcs
      split at h
      · next n =>
          simp only [pure, Except.pure, Except.ok.injEq, Prod.mk.injEq, Option.some.injEq] at h
          obtain ⟨⟨rfl, rfl⟩, rfl⟩ := h
          exact ⟨text ++ ['\x7d'], by simp [hcs], .exactly hslot, hle _ rfl, hle⟩
      · cases h
  · next hskip =>
      obtain ⟨⟨second, mid'⟩, hread', h⟩ := ok_bind h
      obtain ⟨text', hcs', hslot', hle'⟩ := slot_of_read hread'
      rw [hskip, hcs'] at hcs
      simp only at h
      split at h
      · next hskip' =>
          rw [hskip'] at hcs
          split at h
          · simp only [pure, Except.pure, Except.ok.injEq, Prod.mk.injEq, Option.some.injEq] at h
            obtain ⟨⟨rfl, rfl⟩, rfl⟩ := h
            exact ⟨text ++ ',' :: (text' ++ ['\x7d']), by simp [hcs], .range hslot hslot', hle _ rfl,
              hle'⟩
          · split at h
            · next hd =>
                simp only [pure, Except.pure, Except.ok.injEq, Prod.mk.injEq,
                  Option.some.injEq] at h
                obtain ⟨⟨rfl, rfl⟩, rfl⟩ := h
                exact ⟨text ++ ',' :: (text' ++ ['\x7d']), by simp [hcs], .upTo hd hslot hslot',
                  Nat.zero_le _, hle'⟩
            · cases h
          · cases h
      · cases h
  · cases h

/-- Reading counts fails if and only if a number is too large where one is looked for. -/
theorem interval_error_iff {e : ScanError} :
    interval d cs = .error e ↔ e = ⟨.countTooLarge, 0⟩ ∧ Oversized d cs := by
  constructor
  · intro h
    unfold interval at h
    cases hread : repeatCount (skipBlanks (d.supports .openLowerBound) cs) with
    | error e' =>
        obtain ⟨rfl, hlarge⟩ := repeatCount_error_iff.mp hread
        simp only [hread, bind, Except.bind, Except.error.injEq] at h
        exact ⟨h.symm, .first hlarge⟩
    | ok first =>
        obtain ⟨text, hcs, hslot, hmax⟩ := slot_of_read hread
        simp only [hread, bind, Except.bind] at h
        split at h
        · split at h <;> cases h
        · next afterComma hskip =>
            cases hread' : repeatCount (skipBlanks (d.supports .openLowerBound) afterComma) with
            | error e' =>
                obtain ⟨rfl, hlarge⟩ := repeatCount_error_iff.mp hread'
                simp only [hread', Except.error.injEq] at h
                rw [hskip] at hcs
                exact ⟨h.symm, hcs ▸ .second hslot hmax hlarge⟩
            | ok second =>
                simp only [hread'] at h
                split at h
                · split at h
                  · cases h
                  · split at h <;> cases h
                  · cases h
                · cases h
        · cases h
  · rintro ⟨rfl, h⟩
    cases h with
    | first h =>
        have hread := repeatCount_error_iff.mpr ⟨rfl, h⟩
        simp only [interval, hread, bind, Except.bind]
    | @second text cs n h hn h' =>
        obtain ⟨hcomma, hcomma'⟩ := comma_stops
        obtain ⟨mid, hread, hskip⟩ := h.read cs hn hcomma hcomma'
        have hread' := repeatCount_error_iff.mpr ⟨rfl, h'⟩
        simp only [interval, hread, bind, Except.bind, hskip, hread']

/-- A number that is too large keeps its place from being read. -/
theorem Slot.tooLarge {n : Nat} {c : Char} (h : Slot d text (some n)) (hn : Repeat.maxWritten < n)
    (hc : isAsciiDigit c = false) (rest : List Char) : TooLarge d (text ++ c :: rest) := by
  cases h with
  | @number before digits after hbefore hdigits hafter =>
      rw [List.append_assoc]
      exact .intro hbefore hdigits (hafter.head_not_digit hc) hn

/-- Counts with a number that is too large are oversized. -/
theorem Counts.oversized (h : Counts d text min max)
    (hlarge : Repeat.maxWritten < min ∨ ∃ n ∈ max, Repeat.maxWritten < n) (rest : List Char) :
    Oversized d (text ++ rest) := by
  obtain ⟨-, hclose⟩ := close_stops
  obtain ⟨-, hcomma⟩ := comma_stops
  cases h with
  | @exactly text min h =>
      have hmin : Repeat.maxWritten < min := by simpa using hlarge
      rw [List.append_assoc]
      exact .first (h.tooLarge hmin hclose rest)
  | @range text text' min max h h' =>
      rw [List.append_assoc, List.cons_append, List.append_assoc]
      by_cases hmin : Repeat.maxWritten < min
      · exact .first (h.tooLarge hmin hcomma _)
      · obtain ⟨n, rfl, hn⟩ := hlarge.resolve_left hmin
        exact .second h (by simpa using hmin) (h'.tooLarge hn hclose rest)
  | @upTo text text' max hd h h' =>
      have hmax : Repeat.maxWritten < max := by simpa using hlarge
      rw [List.append_assoc, List.cons_append, List.append_assoc]
      exact .second h (by simp) (h'.tooLarge hmax hclose rest)

/-- Counts are read if and only if a text has their form and none of them is too large. -/
theorem interval_eq_some_iff : interval d cs = .ok (some (min, max), rest) ↔
    ∃ text, cs = text ++ rest ∧ Counts d text min max ∧ min ≤ Repeat.maxWritten ∧
      ∀ n ∈ max, n ≤ Repeat.maxWritten := by
  constructor
  · exact counts_of_interval
  · rintro ⟨text, rfl, hcounts, hmin, hmax⟩
    exact hcounts.read rest hmin hmax

/-- No counts are read, and no text is passed, if and only if there are none and no number is too
large where one is looked for. -/
theorem interval_eq_none_iff : interval d cs = .ok (none, cs) ↔
    ¬ Oversized d cs ∧ ∀ text rest min max, cs = text ++ rest → ¬ Counts d text min max := by
  constructor
  · intro h
    have hlarge : ¬ Oversized d cs := by
      intro hlarge
      have herror := interval_error_iff.mpr ⟨rfl, hlarge⟩
      simp [h] at herror
    refine ⟨hlarge, ?_⟩
    rintro text rest min max rfl hcounts
    have hmin : min ≤ Repeat.maxWritten :=
      Nat.le_of_not_lt fun hlt => hlarge (hcounts.oversized (.inl hlt) rest)
    have hmax : ∀ n ∈ max, n ≤ Repeat.maxWritten := fun n hn =>
      Nat.le_of_not_lt fun hlt => hlarge (hcounts.oversized (.inr ⟨n, hn, hlt⟩) rest)
    have hread := hcounts.read rest hmin hmax
    simp [h] at hread
  · rintro ⟨hlarge, hnone⟩
    rcases hread : interval d cs with e | ⟨_ | ⟨min, max⟩, rest⟩
    · exact absurd (interval_error_iff.mp hread).2 hlarge
    · rw [interval_none hread]
    · obtain ⟨text, hcs, hcounts, -⟩ := counts_of_interval hread
      exact absurd hcounts (hnone text rest min max hcs)

/-- The text of counts ends in a closing brace. -/
theorem Counts.close_mem (h : Counts d text min max) : '\x7d' ∈ text := by
  cases h <;> simp

end Interval

/-! ### The token of an opening brace -/

section Brace

variable {ctx : Context} {m : Mode} {cs : List Char}

/-- Outside classes and quotations, an opening brace is read by the counts that follow it. -/
theorem scan_openBrace (hq : m.quoting = false) (hp : m.place = .outside) :
    scan ctx m '\x7b' cs =
      match interval ctx.dialect cs with
      | .error e => .error e
      | .ok (some (min, max), rest) =>
          .ok ⟨some (.quantifier ⟨min, max, (greed rest).1⟩), m, (greed rest).2⟩
      | .ok (none, _) => .ok ⟨some (.literal '\x7b'), m, cs⟩ := by
  have hbrace : outsideToken ctx '\x7b' cs =
      match interval ctx.dialect cs with
      | .error e => .error e
      | .ok (some (min, max), rest) => .ok (quantifierKind min max rest)
      | .ok (none, _) => .ok (.literal '\x7b', cs) := rfl
  have hblank : isPatternBlank '\x7b' = false := by decide
  have hcomment : ('\x7b' == '#') = false := by decide
  have hescape : '\x7b' ≠ '\\' := by decide
  have hopen : '\x7b' ≠ '[' := by decide
  simp only [scan, hq, hp, outsidePiece, hblank, hcomment, hescape, hopen, hbrace, Bool.and_false,
    Bool.false_eq_true, ↓reduceIte]
  rcases interval ctx.dialect cs with e | ⟨_ | ⟨min, max⟩, rest⟩ <;> rfl

theorem tokens_of_scan_error {offset : Nat} {c : Char} {e : ScanError}
    (h : scan ctx m c cs = .error e) :
    tokens ctx m offset (c :: cs) = .error { e with offset := offset + e.offset } := by
  rw [tokens]
  split
  · next e' he =>
      obtain rfl := Except.error.inj (h ▸ he)
      rfl
  · next p he => simp [h] at he

/-- What an opening brace outside classes and quotations is read as. Counts that are not too large
make it a repetition, with a mark that may follow. A number that is too large, where a count is
looked for, is refused at the brace, whether or not a brace closes it. Else it is a literal, and
reading goes on right after it. -/
theorem tokens_openBrace (hq : m.quoting = false) (hp : m.place = .outside) (offset : Nat) :
    (∀ text rest min max, cs = text ++ rest → Counts ctx.dialect text min max →
      min ≤ Repeat.maxWritten → (∀ n ∈ max, n ≤ Repeat.maxWritten) →
      ∃ mark after g, rest = mark ++ after ∧ greed rest = (g, after) ∧
        tokens ctx m offset ('\x7b' :: cs) =
          (tokens ctx m (offset + size ('\x7b' :: (text ++ mark))) after).map
            (⟨.quantifier ⟨min, max, g⟩, '\x7b' :: (text ++ mark), offset,
              offset + size ('\x7b' :: (text ++ mark))⟩ :: ·)) ∧
    (Oversized ctx.dialect cs →
      tokens ctx m offset ('\x7b' :: cs) = .error ⟨.countTooLarge, offset⟩) ∧
    (¬ Oversized ctx.dialect cs →
      (∀ text rest min max, cs = text ++ rest → ¬ Counts ctx.dialect text min max) →
      tokens ctx m offset ('\x7b' :: cs) =
        (tokens ctx m (offset + 1) cs).map
          (⟨.literal '\x7b', ['\x7b'], offset, offset + 1⟩ :: ·)) := by
  refine ⟨?_, fun hlarge => ?_, fun hlarge hnone => ?_⟩
  · rintro text rest min max rfl hcounts hmin hmax
    obtain ⟨mark, hmark⟩ := greed_suffix rest
    refine ⟨mark, (greed rest).2, (greed rest).1, hmark.symm, rfl, ?_⟩
    have hsplit : text ++ rest = (text ++ mark) ++ (greed rest).2 := by
      rw [List.append_assoc, hmark]
    have hscan : scan ctx m '\x7b' (text ++ rest) =
        .ok ⟨some (.quantifier ⟨min, max, (greed rest).1⟩), m, (greed rest).2⟩ := by
      rw [scan_openBrace hq hp, hcounts.read rest hmin hmax]
    rw [hsplit] at hscan ⊢
    exact tokens_cons hscan
  · have hscan : scan ctx m '\x7b' cs = .error ⟨.countTooLarge, 0⟩ := by
      rw [scan_openBrace hq hp, interval_error_iff.mpr ⟨rfl, hlarge⟩]
    exact tokens_of_scan_error hscan
  · have hread := interval_eq_none_iff.mpr ⟨hlarge, hnone⟩
    have hscan : scan ctx m '\x7b' ([] ++ cs) = .ok ⟨some (.literal '\x7b'), m, cs⟩ := by
      rw [List.nil_append, scan_openBrace hq hp, hread]
    exact tokens_cons hscan

/-- Counts with a mark make a repetition. Where the least number may not be left out, a brace in
front of a greatest number alone is a literal. And a number is refused for its size although no
brace closes it. -/
theorem tokens_openBrace_each :
    (∃ mark after g, "?x".toList = mark ++ after ∧ greed "?x".toList = (g, after) ∧
      tokens ⟨.pcre45, false⟩ (Mode.initial 0) 1 ('\x7b' :: ("2,5\x7d".toList ++ "?x".toList)) =
        (tokens ⟨.pcre45, false⟩ (Mode.initial 0)
          (1 + size ('\x7b' :: ("2,5\x7d".toList ++ mark))) after).map
          (⟨.quantifier ⟨2, some 5, g⟩, '\x7b' :: ("2,5\x7d".toList ++ mark), 1,
            1 + size ('\x7b' :: ("2,5\x7d".toList ++ mark))⟩ :: ·)) ∧
    tokens ⟨.pcre34, false⟩ (Mode.initial 0) 1 ('\x7b' :: ",3\x7d".toList) =
      (tokens ⟨.pcre34, false⟩ (Mode.initial 0) 2 ",3\x7d".toList).map
        (⟨.literal '\x7b', ['\x7b'], 1, 2⟩ :: ·) ∧
    tokens ⟨.pcre45, false⟩ (Mode.initial 0) 1 ('\x7b' :: "70000x".toList) =
      .error ⟨.countTooLarge, 1⟩ := by
  refine ⟨?_, ?_, ?_⟩
  · have hread : interval .pcre45 ("2,5\x7d".toList ++ "?x".toList) =
        .ok (some (2, some 5), "?x".toList) := rfl
    obtain ⟨text, htext, hcounts, hmin, hmax⟩ := interval_eq_some_iff.mp hread
    obtain rfl := List.append_cancel_right htext
    exact (tokens_openBrace rfl rfl 1).1 _ _ _ _ rfl hcounts hmin hmax
  · have hread : interval .pcre34 ",3\x7d".toList = .ok (none, ",3\x7d".toList) := rfl
    obtain ⟨hlarge, hnone⟩ := interval_eq_none_iff.mp hread
    exact (tokens_openBrace rfl rfl 1).2.2 hlarge hnone
  · have hread : interval .pcre45 "70000x".toList = fail .countTooLarge := rfl
    exact (tokens_openBrace rfl rfl 1).2.1 (interval_error_iff.mp hread).2

/-- A number that is too large makes a brace that no counts follow an error: such a brace is not
always a literal. -/
theorem tokens_openBrace_large :
    (∀ text rest min max, "70000x".toList = text ++ rest → ¬ Counts .pcre45 text min max) ∧
      tokenize "\x7b70000x" 0 .pcre45 = .error ⟨.countTooLarge, 0⟩ := by
  refine ⟨?_, ?_⟩
  · intro text rest min max htext hcounts
    have hmem : '\x7d' ∈ "70000x".toList := htext ▸ List.mem_append_left rest hcounts.close_mem
    exact absurd hmem (by decide)
  · have hscan : scan ⟨.pcre45, false⟩ (Mode.initial 0) '\x7b' "70000x".toList =
        fail .countTooLarge := rfl
    exact tokens_of_scan_error hscan

end Brace

end PatternLint.Token
