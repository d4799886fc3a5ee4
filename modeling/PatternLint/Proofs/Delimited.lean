import Mathlib.Data.Set.Subsingleton
import PatternLint.Delimited

/-!
# The grammar of literals

A literal is split by going through it once, with a count of brackets. What the split
accepts can be said without going through anything. Of a body only the characters matter
that no backslash stands before. Among them, in front of each closing bracket, more
brackets open than close, and in all as many close as open. A delimiter that closes
itself opens nothing, so that the same condition keeps it out of the body.

`Spells` is the grammar, and splitting is its one solution.
-/

namespace PatternLint

open Unicode

namespace Delimited

/-- The characters of a text that no backslash stands before, unless the last one is a backslash
with nothing behind it. -/
def unescaped : List Char → Option (List Char)
  | [] => some []
  | '\\' :: [] => none
  | '\\' :: _ :: rest => unescaped rest
  | c :: rest => (unescaped rest).map (c :: ·)

/-- Brackets close in order: none closes where none is open, and none is left open. -/
structure Balanced (opening closing : Char) (marks : List Char) : Prop where
  inOrder : ∀ before, before ++ [closing] <+: marks → before.count closing < before.count opening
  complete : marks.count closing = marks.count opening

/-- A literal in its parts: blanks, a delimiter, a body in which the closing delimiter stands only
escaped or for a bracket of the body, the closing delimiter and modifiers. -/
structure Spells (d : Delimited) (literal : String) : Prop where
  parts : ∃ blanks : List Char, (∀ c ∈ blanks, isWhiteSpace c = true) ∧ literal.toList =
    blanks ++ d.delimiter :: (d.body.toList ++ closing d.delimiter :: d.modifiers.toList)
  notBlank : isWhiteSpace d.delimiter = false
  notAlphanumeric : isAlphanumeric d.delimiter = false
  notBackslash : d.delimiter ≠ '\\'
  notNull : d.delimiter ≠ '\x00'
  body : ∃ marks, unescaped d.body.toList = some marks ∧
    Balanced d.delimiter (closing d.delimiter) marks
  modifiers : ∀ c ∈ d.modifiers.toList,
    c ∈ Flags.modifiers.map Prod.fst ∨ c = ' ' ∨ c = '\n' ∨ c = '\r'

/-! ### Brackets -/

section Brackets

variable {opening closing c : Char} {depth : Nat} {marks : List Char}

/-- Brackets that close in order inside `depth` others, and close these too. -/
structure BalancedFrom (opening closing : Char) (depth : Nat) (marks : List Char) : Prop where
  inOrder : ∀ before, before ++ [closing] <+: marks →
    before.count closing < depth + before.count opening
  complete : marks.count closing = depth + marks.count opening

theorem balancedFrom_zero :
    BalancedFrom opening closing 0 marks ↔ Balanced opening closing marks := by
  constructor
  · rintro ⟨h, hcount⟩
    exact ⟨fun before hb => by simpa using h before hb, by simpa using hcount⟩
  · rintro ⟨h, hcount⟩
    exact ⟨fun before hb => by simpa using h before hb, by simpa using hcount⟩

theorem balancedFrom_nil : BalancedFrom opening closing depth [] ↔ depth = 0 := by
  constructor
  · rintro ⟨-, hcount⟩
    simpa using hcount.symm
  · rintro rfl
    exact ⟨fun before hb => by simp at hb, rfl⟩

/-- A closing bracket needs one that is open. -/
theorem BalancedFrom.pos (h : BalancedFrom opening closing depth (closing :: marks)) :
    0 < depth := by
  simpa using h.inOrder [] ⟨marks, rfl⟩

/-- A character counts for what it does to the depth. -/
theorem balancedFrom_cons {depth' : Nat}
    (hdepth : depth' + [c].count closing = depth + [c].count opening)
    (hopen : c = closing → 0 < depth) :
    BalancedFrom opening closing depth (c :: marks) ↔
      BalancedFrom opening closing depth' marks := by
  have hcount : ∀ (x : Char) (l : List Char), (c :: l).count x = [c].count x + l.count x := by
    intro x l
    rw [← List.singleton_append, List.count_append]
  constructor
  · rintro ⟨h, hall⟩
    refine ⟨fun before hb => ?_, ?_⟩
    · have hlonger := h (c :: before) (List.cons_prefix_cons.mpr ⟨rfl, hb⟩)
      have hclosing := hcount closing before
      have hopening := hcount opening before
      omega
    · have hclosing := hcount closing marks
      have hopening := hcount opening marks
      omega
  · rintro ⟨h, hall⟩
    refine ⟨fun before hb => ?_, ?_⟩
    · cases before with
      | nil =>
          have hc : closing = c := by simpa using hb
          simpa using hopen hc.symm
      | cons b before =>
          obtain ⟨rfl, hprefix⟩ := List.cons_prefix_cons.mp hb
          have hshorter := h before hprefix
          have hclosing := hcount closing before
          have hopening := hcount opening before
          omega
    · have hclosing := hcount closing marks
      have hopening := hcount opening marks
      omega

end Brackets

/-! ### Splitting -/

/-- A character other than a backslash is not closed by one. -/
theorem closing_ne {delimiter : Char} (h : delimiter ≠ '\\') : closing delimiter ≠ '\\' := by
  unfold closing
  grind

theorem unescaped_cons {c : Char} (hc : c ≠ '\\') (rest : List Char) :
    unescaped (c :: rest) = (unescaped rest).map (c :: ·) := by
  rw [unescaped]
  · exact fun h => absurd h hc
  · exact fun _ _ h => absurd h hc

variable {delimiter close : Char} {depth : Nat} {cs body after : List Char}

/-- A text is split behind the body that is balanced. -/
theorem splitBody_eq_some_iff (hclose : close ≠ '\\')
    (hdepth : close = delimiter → depth = 0) :
    splitBody delimiter close depth cs = some (body, after) ↔
      cs = body ++ close :: after ∧
        ∃ marks, unescaped body = some marks ∧ BalancedFrom delimiter close depth marks := by
  fun_induction splitBody delimiter close depth cs generalizing body with
  | case1 => simp
  | case2 =>
      rw [iff_comm, iff_false_right (by simp)]
      rintro ⟨heq, -⟩
      cases body with
      | nil => exact hclose (List.cons.inj heq).1.symm
      | cons b body => simp at heq
  | case3 depth c rest ih =>
      simp only [Option.map_eq_some_iff, Prod.mk.injEq, Prod.exists]
      constructor
      · rintro ⟨inner, _, h, rfl, rfl⟩
        obtain ⟨heq, hmarks⟩ := (ih hdepth).mp h
        exact ⟨by rw [heq]; rfl, hmarks⟩
      · rintro ⟨heq, marks, hmarks, hbalanced⟩
        match body, hmarks with
        | [], _ => exact absurd (List.cons.inj heq).1.symm hclose
        | [b], hmarks =>
            obtain ⟨rfl, -⟩ := List.cons.inj heq
            cases hmarks
        | b :: d :: inner, hmarks =>
            simp only [List.cons_append, List.cons.injEq] at heq
            obtain ⟨rfl, rfl, heq⟩ := heq
            exact ⟨inner, after, (ih hdepth).mpr ⟨heq, marks, hmarks, hbalanced⟩, rfl, rfl⟩
  | case4 depth c rest hlone hpair hstop =>
      obtain ⟨rfl, rfl⟩ := hstop
      simp only [Option.some.injEq, Prod.mk.injEq]
      constructor
      · rintro ⟨rfl, rfl⟩
        exact ⟨rfl, [], rfl, balancedFrom_nil.mpr rfl⟩
      · rintro ⟨heq, marks, hmarks, hbalanced⟩
        cases body with
        | nil => exact ⟨rfl, (List.cons.inj heq).2⟩
        | cons b body =>
            obtain ⟨rfl, -⟩ := List.cons.inj heq
            rw [unescaped_cons hclose] at hmarks
            obtain ⟨inner, -, rfl⟩ := Option.map_eq_some_iff.mp hmarks
            exact absurd hbalanced.pos (Nat.lt_irrefl 0)
  | case5 depth c rest hlone hpair hstop =>
      rename_i depth' ih
      have hc : c ≠ '\\' := by
        rintro rfl
        cases rest with
        | nil => exact hlone rfl rfl
        | cons d rest => exact hpair d rest rfl rfl
      have hdepth' : close = delimiter → depth' = 0 := by
        intro h
        simp only [depth', if_pos h]
        exact hdepth h
      have hpos : c = close → 0 < depth := fun h => Nat.pos_of_ne_zero fun hzero => hstop ⟨h, hzero⟩
      have hcons : ∀ marks, BalancedFrom delimiter close depth (c :: marks) ↔
          BalancedFrom delimiter close depth' marks := by
        intro marks
        refine balancedFrom_cons ?_ hpos
        simp only [depth', List.count_singleton, beq_iff_eq]
        grind
      simp only [Option.map_eq_some_iff, Prod.mk.injEq, Prod.exists]
      constructor
      · rintro ⟨inner, _, h, rfl, rfl⟩
        obtain ⟨heq, marks, hmarks, hbalanced⟩ := (ih hdepth').mp h
        refine ⟨by rw [heq]; rfl, c :: marks, ?_, (hcons marks).mpr hbalanced⟩
        rw [unescaped_cons hc, hmarks, Option.map_some]
      · rintro ⟨heq, marks, hmarks, hbalanced⟩
        cases body with
        | nil =>
            obtain ⟨rfl, -⟩ := List.cons.inj heq
            cases hmarks
            have := hpos rfl
            exact absurd (balancedFrom_nil.mp hbalanced) (by omega)
        | cons b inner =>
            obtain ⟨rfl, hrest⟩ := List.cons.inj heq
            rw [unescaped_cons hc] at hmarks
            obtain ⟨marks, hinner, rfl⟩ := Option.map_eq_some_iff.mp hmarks
            exact ⟨inner, after, (ih hdepth').mpr
              ⟨hrest, marks, hinner, (hcons marks).mp hbalanced⟩, rfl, rfl⟩

/-! ### Modifiers -/

/-- Modifiers are read just if each character is a letter of one or a blank. -/
theorem isOk_readModifiers_iff (offset : Nat) :
    (Flags.readModifiers offset cs).isOk = true ↔
      ∀ c ∈ cs, c ∈ Flags.modifiers.map Prod.fst ∨ c = ' ' ∨ c = '\n' ∨ c = '\r' := by
  induction cs generalizing offset with
  | nil => simp [Flags.readModifiers, Except.isOk, Except.toBool]
  | cons c cs ih =>
      rw [Flags.readModifiers, List.forall_mem_cons, ← ih (offset + c.utf8Size)]
      have hletter : c ∈ Flags.modifiers.map Prod.fst ↔ (Flags.ofModifier? c).isSome = true := by
        rw [Flags.ofModifier?, List.lookup_isSome_iff]
        simp
      split
      · next hblank =>
          have : c = ' ' ∨ c = '\n' ∨ c = '\r' := by
            simpa [Flags.isModifierBlank, or_assoc] using hblank
          simp [this]
      · next hblank =>
          have hnot : ¬ (c = ' ' ∨ c = '\n' ∨ c = '\r') := by
            simpa [Flags.isModifierBlank, or_assoc] using hblank
          rw [or_iff_left hnot, hletter]
          cases Flags.ofModifier? c with
          | none => simp [Except.isOk, Except.toBool]
          | some bit =>
              cases Flags.readModifiers (offset + c.utf8Size) cs <;> simp [Except.isOk, Except.toBool]

/-! ### Literals -/

theorem isDelimiter_iff {c : Char} :
    isDelimiter c = true ↔ isAlphanumeric c = false ∧ c ≠ '\\' ∧ c ≠ '\x00' := by
  simp [isDelimiter, and_assoc]

/-- What a text is behind its blanks does not depend on what the blanks are. -/
theorem dropWhile_blanks {blanks rest : List Char} {c : Char}
    (hblanks : ∀ b ∈ blanks, isWhiteSpace b = true) (hc : isWhiteSpace c = false) :
    (blanks ++ c :: rest).dropWhile isWhiteSpace = c :: rest := by
  rw [List.dropWhile_append_of_pos hblanks, List.dropWhile_cons_of_neg (by simp [hc])]

theorem spells_of_ofLiteral {literal : String} {d : Delimited} (h : ofLiteral literal = .ok d) :
    d.Spells literal := by
  have hcut := List.takeWhile_append_dropWhile (p := isWhiteSpace) (l := literal.toList)
  have hblanks : ∀ c ∈ literal.toList.takeWhile isWhiteSpace, isWhiteSpace c = true :=
    List.all_eq_true.mp List.all_takeWhile
  have hnot := List.head?_dropWhile_not isWhiteSpace literal.toList
  unfold ofLiteral at h
  simp only at h
  split at h
  · cases h
  · next delimiter rest hdrop =>
      rw [hdrop] at hcut hnot
      split at h
      · cases h
      · next hdelimiter =>
          obtain ⟨halphanumeric, hslash, hnull⟩ := isDelimiter_iff.mp (by simpa using hdelimiter)
          split at h
          · cases h
          · next body modifiers hsplit =>
              obtain ⟨hrest, marks, hmarks, hbalanced⟩ :=
                (splitBody_eq_some_iff (closing_ne hslash) fun _ => rfl).mp hsplit
              split at h
              · cases h
              · next flags hread =>
                  cases h
                  have hletters := (isOk_readModifiers_iff 0).mp (congrArg Except.isOk hread)
                  exact {
                    parts := ⟨_, hblanks, hcut.symm.trans (by simp [hrest])⟩
                    notBlank := hnot
                    notAlphanumeric := halphanumeric
                    notBackslash := hslash
                    notNull := hnull
                    body := ⟨marks, by simpa using hmarks, balancedFrom_zero.mp hbalanced⟩
                    modifiers := by simpa using hletters }

theorem Spells.ofLiteral {literal : String} {d : Delimited} (h : d.Spells literal) :
    ofLiteral literal = .ok d := by
  obtain ⟨blanks, hblanks, hliteral⟩ := h.parts
  obtain ⟨marks, hmarks, hbalanced⟩ := h.body
  have hsplit := (splitBody_eq_some_iff (closing_ne h.notBackslash) fun _ => rfl).mpr
    ⟨Eq.refl (d.body.toList ++ closing d.delimiter :: d.modifiers.toList), marks, hmarks,
      balancedFrom_zero.mpr hbalanced⟩
  have hdelimiter := isDelimiter_iff.mpr ⟨h.notAlphanumeric, h.notBackslash, h.notNull⟩
  have hletters := (isOk_readModifiers_iff 0).mpr h.modifiers
  cases hread : Flags.readModifiers 0 d.modifiers.toList with
  | error unknown =>
      rw [hread] at hletters
      cases hletters
  | ok flags =>
      simp [Delimited.ofLiteral, hliteral, dropWhile_blanks hblanks h.notBlank, hdelimiter, hsplit,
        hread]

/-- A literal is split into the parts that spell it, and into no others. -/
theorem ofLiteral_spells (literal : String) :
    (∀ d, ofLiteral literal = .ok d ↔ d.Spells literal) ∧
      {d : Delimited | d.Spells literal}.Subsingleton := by
  have hiff : ∀ d, Delimited.ofLiteral literal = .ok d ↔ d.Spells literal :=
    fun d => ⟨spells_of_ofLiteral, Spells.ofLiteral⟩
  refine ⟨hiff, fun d hd d' hd' => ?_⟩
  have heq := ((hiff d).mpr hd).symm.trans ((hiff d').mpr hd')
  exact Except.ok.inj heq

example : Delimited.ofLiteral " (a\\)(b))i" = .ok ⟨'(', "a\\)(b)", "i"⟩ := by cbv

end Delimited

end PatternLint
