import PatternLint.Pattern
import PatternLint.Proofs.Delimited
import PatternLint.Proofs.Token.Lexeme

/-!
# Literals that are written and split again

The modifiers of a literal are a set of letters, and a word that was read from
letters is read again from its own. A body is found again between its delimiters
when the closing one is the first that is met there, which the body decides alone.
-/

namespace PatternLint

open Unicode

namespace Flags

/-- All flags that a modifier letter sets. -/
def lettered (ms : List (Char × Flags)) : Flags := ms.foldr (fun m f => m.2 ||| f) 0

theorem mem_modifiers {c : Char} {bit : Flags} (h : ofModifier? c = some bit) :
    (c, bit) ∈ modifiers := by
  obtain ⟨before, after, heq, -⟩ := List.lookup_eq_some_iff.mp h
  rw [heq]
  simp

/-- Each flag with a letter is a single bit, and is found by that letter. -/
theorem modifiers_spec : ∀ m ∈ modifiers, isModifierBlank m.1 = false ∧
    ofModifier? m.1 = some m.2 ∧ m.2 &&& lettered modifiers = m.2 ∧
    ∃ i, m.2 = BitVec.twoPow 32 i := by
  have hbits : ∀ m ∈ modifiers, isModifierBlank m.1 = false ∧ ofModifier? m.1 = some m.2 ∧
      m.2 &&& lettered modifiers = m.2 ∧ m.2 ∈ (List.range 32).map (BitVec.twoPow 32) := by decide
  intro m hm
  obtain ⟨h1, h2, h3, hbit⟩ := hbits m hm
  obtain ⟨i, -, hi⟩ := List.mem_map.mp hbit
  exact ⟨h1, h2, h3, i, hi.symm⟩

theorem and_twoPow_eq (f : Flags) (i : Nat) :
    f &&& BitVec.twoPow 32 i = if f.has (BitVec.twoPow 32 i) then BitVec.twoPow 32 i else 0 := by
  unfold has
  rw [BitVec.and_twoPow]
  split
  · split
    · rfl
    · next hzero => simpa using hzero
  · simp

/-- The letters of the flags that are set are read as these flags. -/
theorem readModifiers_filter (f : Flags) (offset : Nat) {ms : List (Char × Flags)}
    (h : ∀ m ∈ ms, isModifierBlank m.1 = false ∧ ofModifier? m.1 = some m.2 ∧
      ∃ i, m.2 = BitVec.twoPow 32 i) :
    readModifiers offset ((ms.filter fun m => f.has m.2).map (·.1)) = .ok (f &&& lettered ms) := by
  induction ms generalizing offset with
  | nil => simp [readModifiers, lettered]
  | cons m ms ih =>
      obtain ⟨hblank, hletter, i, hbit⟩ := h m (by simp)
      have ih := fun offset => ih offset fun m' hm' => h m' (List.mem_cons_of_mem _ hm')
      have hand : f &&& lettered (m :: ms) =
          (if f.has m.2 then m.2 else 0) ||| f &&& lettered ms := by
        rw [hbit, ← and_twoPow_eq, ← hbit, ← BitVec.and_or_distrib_left]
        rfl
      rw [hand]
      by_cases hf : f.has m.2 = true
      · simp [hf, readModifiers, hblank, hletter, ih]
      · simp [hf, ih]

/-- Only flags with a letter are read. -/
theorem readModifiers_and {cs : List Char} {offset : Nat} {f : Flags}
    (h : readModifiers offset cs = .ok f) : f &&& lettered modifiers = f := by
  induction cs generalizing offset f with
  | nil =>
      cases h
      exact BitVec.zero_and
  | cons c cs ih =>
      simp only [readModifiers] at h
      split at h
      · exact ih h
      · split at h
        · cases h
        · next bit hbit =>
            split at h
            · cases h
            · next g hg =>
                cases h
                rw [BitVec.and_or_distrib_right, ih hg,
                  (modifiers_spec _ (mem_modifiers hbit)).2.2.1]

/-- A word that was read from letters is read again from its own. -/
theorem readModifiers_letters {cs : List Char} {offset : Nat} {f : Flags}
    (h : readModifiers offset cs = .ok f) (offset' : Nat) :
    readModifiers offset' f.letters.toList = .ok f := by
  rw [letters, String.toList_ofList, readModifiers_filter]
  · rw [readModifiers_and h]
  · intro m hm
    obtain ⟨h1, h2, -, h4⟩ := modifiers_spec m hm
    exact ⟨h1, h2, h4⟩

end Flags

namespace Delimited

/-- Whether a body between its delimiters is found again there. -/
def encloses (delimiter : Char) (body : List Char) : Bool :=
  splitBody delimiter (closing delimiter) 0 (body ++ [closing delimiter]) == some (body, [])

/-- A body is enclosed by its delimiters if it can stand between them in a literal. -/
theorem encloses_iff {delimiter : Char} {body : List Char} (h : delimiter ≠ '\\') :
    encloses delimiter body = true ↔
      ∃ marks, unescaped body = some marks ∧ Balanced delimiter (closing delimiter) marks := by
  rw [encloses, beq_iff_eq, splitBody_eq_some_iff (closing_ne h) fun _ => rfl]
  simp only [true_and, balancedFrom_zero]

/-- A literal that can be split has its body between delimiters, and modifiers behind it. -/
theorem ofLiteral_ok {literal : String} {d : Delimited} (h : ofLiteral literal = .ok d) :
    isDelimiter d.delimiter = true ∧ isWhiteSpace d.delimiter = false ∧
      encloses d.delimiter d.body.toList = true := by
  have hspells := spells_of_ofLiteral h
  have hslash := hspells.notBackslash
  exact ⟨isDelimiter_iff.mpr ⟨hspells.notAlphanumeric, hslash, hspells.notNull⟩, hspells.notBlank,
    (encloses_iff hslash).mpr hspells.body⟩

/-- A body that its delimiters enclose is found again, with the modifiers behind it. -/
theorem ofLiteral_enclosed {literal : String} {d : Delimited} {f : Flags}
    (hdelimiter : isDelimiter d.delimiter = true) (hblank : isWhiteSpace d.delimiter = false)
    (hencloses : encloses d.delimiter d.body.toList = true)
    (hmodifiers : Flags.ofModifiers d.modifiers = .ok f)
    (hliteral : literal.toList =
      d.delimiter :: (d.body.toList ++ closing d.delimiter :: d.modifiers.toList)) :
    ofLiteral literal = .ok d := by
  obtain ⟨halphanumeric, hslash, hnull⟩ := isDelimiter_iff.mp hdelimiter
  have hspells : d.Spells literal := {
    parts := ⟨[], by simp, hliteral⟩
    notBlank := hblank
    notAlphanumeric := halphanumeric
    notBackslash := hslash
    notNull := hnull
    body := (encloses_iff hslash).mp hencloses
    modifiers := (isOk_readModifiers_iff 0).mp (congrArg Except.isOk hmodifiers) }
  exact hspells.ofLiteral

end Delimited

end PatternLint
