import PatternLint.Proofs.Token.Stream

/-!
# Where scanning faults are

A reader does not know where in the text it stands. When it fails, it puts the fault at
the start of the token, and only the reader of inline flags, which goes on letter by
letter, counts the bytes that it has passed. So a fault is at the start of a token or
behind some characters of it, and in either case between two characters of the text.

`FaultsAt` says where a computation can fail, and has a rule for each way in which
readers are put together. Every reader but that of flags fails only at zero, whatever
else may hold of the offsets; the statements leave open what does, so that they can be
used where more than zero is possible.
-/

namespace PatternLint.Token

open Unicode Text

/-- Every fault of a computation is at an offset for which `P` holds. -/
def FaultsAt {α : Type} (P : Nat → Prop) (x : Except ScanError α) : Prop :=
  ∀ e, x = .error e → P e.offset

section Rules

variable {P : Nat → Prop} {α β : Type}

@[simp] theorem faultsAt_ok (a : α) : FaultsAt P (.ok a) := fun _ h => nomatch h

@[simp] theorem faultsAt_pure (a : α) : FaultsAt P (pure a) := faultsAt_ok a

@[simp] theorem faultsAt_error {e : ScanError} :
    FaultsAt P (.error e : Except ScanError α) ↔ P e.offset :=
  ⟨fun h => h e rfl, fun h _ he => Except.error.inj he ▸ h⟩

@[simp] theorem faultsAt_fail {fault : ScanFault} :
    FaultsAt P (fail fault : Except ScanError α) ↔ P 0 :=
  faultsAt_error

theorem FaultsAt.bind {x : Except ScanError α} {f : α → Except ScanError β} (hx : FaultsAt P x)
    (hf : ∀ a, FaultsAt P (f a)) : FaultsAt P (x >>= f) := by
  cases x with
  | error e => exact faultsAt_error.mpr (hx e rfl)
  | ok a => exact hf a

theorem FaultsAt.ite {c : Prop} [Decidable c] {x y : Except ScanError α} (hx : c → FaultsAt P x)
    (hy : FaultsAt P y) : FaultsAt P (if c then x else y) := by
  split
  · next hc => exact hx hc
  · exact hy

end Rules

section Readers

variable {P : Nat → Prop} {dialect : Dialect} {ctx : Context} {cs : List Char}

/-! ### Pieces of tokens -/

theorem number_faults (h0 : P 0) : FaultsAt P (number cs) := by
  unfold number
  simp only
  repeat' split
  all_goals simp [h0]

theorem repeatCount_faults (h0 : P 0) : FaultsAt P (repeatCount cs) := by
  unfold repeatCount
  simp only
  repeat' split
  all_goals simp [h0]

theorem braced_faults (h0 : P 0) (escape : BracedEscape) : FaultsAt P (braced escape cs) := by
  unfold braced
  simp only
  split <;> simp [h0]

theorem checkName_faults (h0 : P 0) : FaultsAt P (checkName cs) := by
  unfold checkName
  repeat' split
  all_goals simp [h0]

theorem nameUntil_faults (h0 : P 0) (close : Char) : FaultsAt P (nameUntil close cs) := by
  unfold nameUntil
  split
  · split
    · exact (checkName_faults h0).bind fun _ => faultsAt_pure _
    · simp [h0]
  · simp [h0]

theorem interval_faults (h0 : P 0) : FaultsAt P (interval dialect cs) := by
  refine (repeatCount_faults h0).bind fun (min, afterMin) => ?_
  simp only
  split
  · split <;> simp
  · refine (repeatCount_faults h0).bind fun (max, afterMax) => ?_
    simp only
    split
    · split <;> simp
    · simp
  · simp

/-! ### Escapes -/

theorem character_faults (h0 : P 0) (value : Nat) (form : LiteralForm) :
    FaultsAt P (character ctx value form) := by
  unfold character
  repeat' split
  all_goals simp [h0]

theorem classDigit_faults (h0 : P 0) (first : Char) : FaultsAt P (classDigit ctx first cs) := by
  unfold classDigit
  split
  · exact (character_faults h0 _ _).bind fun _ => faultsAt_pure _
  · simp

theorem outsideDigit_faults (h0 : P 0) (first : Char) : FaultsAt P (outsideDigit first cs) := by
  unfold outsideDigit
  split
  · simp
  · exact (number_faults h0).bind fun _ => faultsAt_pure _

theorem bracedNumber_faults (h0 : P 0) (base : Nat) (form : LiteralForm)
    (malformed tooLarge : ScanFault) :
    FaultsAt P (bracedNumber ctx base form cs malformed tooLarge) := by
  unfold bracedNumber
  simp only
  generalize (if base = 8 then isOctalDigit else isHexDigit) = isDigit
  split
  · simp [h0]
  split
  · simp [h0]
  · exact character_faults h0 _ _

theorem octalEscape_faults (h0 : P 0) : FaultsAt P (octalEscape ctx cs) :=
  (braced_faults h0 _).bind fun _ => (bracedNumber_faults h0 _ _ _ _).bind fun _ => faultsAt_pure _

theorem hexEscape_faults (h0 : P 0) : FaultsAt P (hexEscape ctx cs) := by
  unfold hexEscape
  split
  · exact (braced_faults h0 _).bind fun _ => (bracedNumber_faults h0 _ _ _ _).bind fun _ =>
      faultsAt_pure _
  · exact (character_faults h0 _ _).bind fun _ => faultsAt_pure _

theorem controlEscape_faults (h0 : P 0) : FaultsAt P (controlEscape ctx cs) := by
  unfold controlEscape
  split
  · simp [h0]
  split
  · exact (character_faults h0 _ _).bind fun _ => faultsAt_pure _
  · simp [h0]

theorem codePointEscape_faults (h0 : P 0) : FaultsAt P (codePointEscape ctx cs) := by
  unfold codePointEscape
  split
  · exact (braced_faults h0 _).bind fun _ => (bracedNumber_faults h0 _ _ _ _).bind fun _ =>
      faultsAt_pure _
  · simp [h0]

theorem propertyText_faults (h0 : P 0) : FaultsAt P (propertyText cs) := by
  unfold propertyText
  split
  · split
    · exact braced_faults h0 _
    split <;> simp [h0]
  · simp [h0]

theorem propertyKind_faults (h0 : P 0) (upper : Bool) : FaultsAt P (propertyKind upper cs) := by
  unfold propertyKind
  split
  split <;> simp [h0]

theorem propertyEscape_faults (h0 : P 0) (upper : Bool) : FaultsAt P (propertyEscape upper cs) :=
  (propertyText_faults h0).bind fun _ => (propertyKind_faults h0 _).bind fun _ => faultsAt_pure _

theorem call_faults (h0 : P 0) (close : Char) : FaultsAt P (callEscape.call close cs) := by
  unfold callEscape.call
  repeat' split
  all_goals simp [h0]

theorem callEscape_faults (h0 : P 0) : FaultsAt P (callEscape cs) := by
  unfold callEscape
  split
  · refine (braced_faults h0 _).bind fun _ => ?_
    simp only
    split <;> simp [h0]
  · exact call_faults h0 _
  · exact call_faults h0 _
  · split
    · exact (number_faults h0).bind fun _ => faultsAt_pure _
    · simp [h0]
  · split
    · exact (number_faults h0).bind fun _ => faultsAt_pure _
    · simp [h0]
  · simp [h0]

theorem named_faults (h0 : P 0) (close : Char) : FaultsAt P (backrefEscape.named close cs) := by
  unfold backrefEscape.named
  split
  · simp [h0]
  · exact (checkName_faults h0).bind fun _ => faultsAt_pure _

theorem backrefEscape_faults (h0 : P 0) : FaultsAt P (backrefEscape cs) := by
  unfold backrefEscape
  split
  · exact named_faults h0 _
  · exact named_faults h0 _
  · exact named_faults h0 _
  · simp [h0]

theorem escapeToken_faults (h0 : P 0) (inClass : Bool) (c : Char) :
    FaultsAt P (escapeToken ctx inClass c cs) := by
  unfold escapeToken
  split
  · simp
  · simp
  -- The readers are tried in turn. `split` would go through all that are left at each of them.
  · refine .ite (fun _ => .ite (fun _ => classDigit_faults h0 _) (outsideDigit_faults h0 _)) ?_
    refine .ite (fun _ => octalEscape_faults h0) ?_
    refine .ite (fun _ => hexEscape_faults h0) ?_
    refine .ite (fun _ => controlEscape_faults h0) ?_
    refine .ite (fun _ => propertyEscape_faults h0 _) ?_
    refine .ite (fun _ => codePointEscape_faults h0) ?_
    refine .ite (fun _ => faultsAt_fail.mpr h0) ?_
    refine .ite (fun _ => callEscape_faults h0) ?_
    refine .ite (fun _ => backrefEscape_faults h0) ?_
    split
    · simp
    · split <;> simp [h0]

theorem escape_faults (h0 : P 0) (inClass : Bool) : FaultsAt P (escape ctx inClass cs) := by
  unfold escape
  split
  · simp [h0]
  split
  · simp
  split
  · simp
  · exact (escapeToken_faults h0 _ _).bind fun _ => faultsAt_pure _

/-! ### Parentheses -/

theorem numberedCall_faults (h0 : P 0) : FaultsAt P (numberedCall cs) := by
  refine (number_faults h0).bind fun _ => ?_
  simp only
  split <;> simp [h0]

theorem plainTest_faults (h0 : P 0) : FaultsAt P (plainTest cs) := by
  unfold plainTest
  split
  · exact (nameUntil_faults h0 _).bind fun _ => faultsAt_pure _
  · exact (nameUntil_faults h0 _).bind fun _ => faultsAt_pure _
  · exact (checkName_faults h0).bind fun _ => faultsAt_pure _
  · simp
  · split
    · exact (number_faults h0).bind fun _ => faultsAt_pure _
    split
    · refine (number_faults h0).bind fun _ => ?_
      simp only
      split <;> simp [h0]
    split
    · simp
    split
    · exact (checkName_faults h0).bind fun _ => faultsAt_pure _
    · simp [h0]
  · simp [h0]

theorem condition_faults (h0 : P 0) : FaultsAt P (condition cs) := by
  unfold condition
  split
  · split <;> simp [h0]
  · refine (plainTest_faults h0).bind fun _ => ?_
    simp only
    split <;> simp [h0]

theorem calloutArg_faults (h0 : P 0) : FaultsAt P (calloutArg cs) := by
  unfold calloutArg
  split
  · simp [h0]
  split
  · simp
  split
  · refine (number_faults h0).bind fun _ => ?_
    simp only
    split <;> simp [h0]
  split
  · simp [h0]
  · split <;> simp [h0]

theorem callout_faults (h0 : P 0) : FaultsAt P (callout cs) := by
  refine (calloutArg_faults h0).bind fun _ => ?_
  simp only
  split <;> simp [h0]

theorem notFlag_faults {α : Type} {s : FlagState} (h0 : P 0) (hs : P s.offset) (c : Char) :
    FaultsAt P (notFlag s c : Except ScanError α) := by
  unfold notFlag
  split <;> simp [h0, hs]

theorem flag_faults {s : FlagState} (h0 : P 0) (hs : P s.offset) (c : Char) :
    FaultsAt P (flag dialect s c) := by
  unfold flag
  repeat' split
  all_goals first
    | exact notFlag_faults h0 hs _
    | simp

theorem FlagState.note_offset (s : FlagState) (bits : Flags) : (s.note bits).offset = s.offset := by
  unfold note
  split <;> rfl

/-- A flag is a letter or a mark of one byte, and the count of bytes goes on behind it. -/
theorem flag_offset {s s' : FlagState} {c : Char} (h : flag dialect s c = .ok s') :
    s'.offset = s.offset + c.utf8Size := by
  have hnot : (notFlag s c : Except ScanError FlagState) ≠ .ok s' := by
    unfold notFlag
    split <;> simp [fail]
  unfold flag at h
  split at h
  · next hc =>
      obtain ⟨⟨rfl, -⟩, -⟩ : (c = '^' ∧ s.first = true) ∧ _ := by simpa using hc
      exact Except.ok.inj h ▸ rfl
  split at h
  · next hc =>
      obtain ⟨⟨rfl, -⟩, -⟩ : (c = '-' ∧ s.negate = false) ∧ _ := by simpa using hc
      exact Except.ok.inj h ▸ rfl
  split at h
  · next bit hbit =>
      have hsize : c.utf8Size = 1 := by
        unfold Flags.ofInline? at hbit
        split at hbit <;> first | rfl | cases hbit
      split at h
      · exact absurd h hnot
      · rw [← Except.ok.inj h, hsize]
        exact congrArg (· + 1) (s.note_offset _)
  · exact absurd h hnot

/-- The reader of flags fails at the start of the token or at the flag that it has come to. -/
theorem flagGroup_faults {s : FlagState} (h0 : P 0)
    (h : ∀ pre post, cs = pre ++ post → P (s.offset + size pre)) :
    FaultsAt P (flagGroup dialect s cs) := by
  have hstart : P s.offset := by simpa using h [] cs rfl
  fun_induction flagGroup dialect s cs with
  | case1 s => simp [h0]
  | case2 s rest ih =>
      have hrest : ∀ pre post, rest = pre ++ post →
          P (((s.note Flags.spacing).advance 2).offset + size pre) := by
        intro pre post hsplit
        have hsize : size ('x' :: 'x' :: pre) = 2 + size pre := by
          rw [size_cons, size_cons, ← Nat.add_assoc]
          rfl
        rw [FlagState.advance, s.note_offset, Nat.add_assoc, ← hsize]
        exact h ('x' :: 'x' :: pre) post (by rw [hsplit]; rfl)
      exact ih hrest (by simpa using hrest [] rest rfl)
  | case3 s rest => simp
  | case4 s rest => simp
  | case5 s c rest hx hparen hcolon e he => exact faultsAt_error.mpr (flag_faults h0 hstart c e he)
  | case6 s c rest hx hparen hcolon s' hs ih =>
      have hrest : ∀ pre post, rest = pre ++ post → P (s'.offset + size pre) := by
        intro pre post hsplit
        rw [flag_offset hs, Nat.add_assoc, ← size_cons]
        exact h (c :: pre) post (by rw [hsplit, List.cons_append])
      exact ih hrest (by simpa using hrest [] rest rfl)

theorem verb_faults (h0 : P 0) (name : List Char) : FaultsAt P (verb name cs) := by
  unfold verb
  simp only
  repeat' split
  all_goals simp [h0]

theorem starConstruct_faults (h0 : P 0) {x : Except ScanError (TokenKind × List Char)}
    (hx : starConstruct dialect cs = some x) : FaultsAt P x := by
  unfold starConstruct at hx
  split at hx
  · cases hx
  split at hx
  · obtain rfl := Option.some.inj hx
    split
    · split <;> simp [h0]
    · exact verb_faults h0 _
  · cases hx

theorem namedConstruct_faults (h0 : P 0) : FaultsAt P (namedConstruct cs) := by
  unfold namedConstruct
  split
  · exact (nameUntil_faults h0 _).bind fun _ => faultsAt_pure _
  · exact (nameUntil_faults h0 _).bind fun _ => faultsAt_pure _
  · exact (nameUntil_faults h0 _).bind fun _ => faultsAt_pure _
  · simp [h0]

theorem comment_faults (h0 : P 0) : FaultsAt P (comment cs) := by
  unfold comment
  split <;> simp [h0]

theorem questionConstruct_faults (h0 : P 0) (h : ∀ pre post, cs = pre ++ post → P (2 + size pre)) :
    FaultsAt P (questionConstruct dialect cs) := by
  unfold questionConstruct
  split
  all_goals first
    | exact faultsAt_ok _
    | exact comment_faults h0
    | exact (nameUntil_faults h0 _).bind fun _ => faultsAt_pure _
    | exact namedConstruct_faults h0
    | exact (condition_faults h0).bind fun _ => faultsAt_pure _
    | exact callout_faults h0
    | simp only [faultsAt_fail, h0]
    | skip
  split
  · exact numberedCall_faults h0
  split
  · exact numberedCall_faults h0
  · exact flagGroup_faults h0 h

theorem paren_faults (h0 : P 0) (h : ∀ pre post, cs = pre ++ post → P (1 + size pre)) :
    FaultsAt P (paren dialect cs) := by
  unfold paren
  split
  · next body =>
      cases hx : starConstruct dialect body with
      | none => simp
      | some x => simpa [hx] using starConstruct_faults h0 hx
  · next body =>
      refine questionConstruct_faults h0 fun pre post hsplit => ?_
      have hafter := h ('?' :: pre) post (by rw [hsplit, List.cons_append])
      rwa [size_cons, ← Nat.add_assoc] at hafter
  · simp

/-! ### Texts -/

theorem escapePiece_faults (h0 : P 0) (m : Mode) (inClass : Bool) :
    FaultsAt P (escapePiece m inClass ctx cs) := by
  unfold escapePiece
  split
  · next e he => exact faultsAt_error.mpr (escape_faults h0 inClass e he)
  all_goals simp

theorem classPiece_faults (h0 : P 0) (m : Mode) (fresh : Bool) (c : Char) :
    FaultsAt P (classPiece ctx m fresh c cs) := by
  unfold classPiece
  split
  · simp
  simp only
  split
  · split <;> simp
  split
  · exact escapePiece_faults h0 _ _
  repeat' split
  all_goals simp

theorem outsideToken_faults {c : Char} (h0 : P 0)
    (h : ∀ pre post, cs = pre ++ post → P (c.utf8Size + size pre)) :
    FaultsAt P (outsideToken ctx c cs) := by
  unfold outsideToken
  refine .ite (fun hc => ?_) ?_
  · subst hc
    exact paren_faults h0 h
  iterate 8 refine .ite (fun _ => faultsAt_ok _) ?_
  refine .ite (fun _ => ?_) (faultsAt_ok _)
  split
  · next e he => exact faultsAt_error.mpr (interval_faults h0 e he)
  all_goals simp

theorem outsidePiece_faults {m : Mode} {c : Char} (h0 : P 0)
    (h : ∀ pre post, cs = pre ++ post → P (c.utf8Size + size pre)) :
    FaultsAt P (outsidePiece ctx m c cs) := by
  unfold outsidePiece
  split
  · simp
  split
  · simp
  split
  · exact escapePiece_faults h0 _ _
  split
  · simp only
    split <;> simp
  · split
    · next e he => exact faultsAt_error.mpr (outsideToken_faults h0 h e he)
    · simp

end Readers

variable {ctx : Context} {m : Mode} {offset : Nat} {cs : List Char} {e : ScanError}

/-- A piece that cannot be read has its fault between two characters of the text, or at one of its
ends. -/
theorem scan_faults (ctx : Context) (m : Mode) (c : Char) (cs : List Char) :
    FaultsAt (Boundary (c :: cs)) (scan ctx m c cs) := by
  have h0 : Boundary (c :: cs) 0 := ⟨[], c :: cs, rfl, rfl⟩
  have h : ∀ pre post, cs = pre ++ post → Boundary (c :: cs) (c.utf8Size + size pre) := by
    rintro pre post rfl
    exact ⟨c :: pre, post, rfl, size_cons c pre⟩
  unfold scan
  split
  · simp
  split
  · exact classPiece_faults h0 _ _ _
  · exact outsidePiece_faults h0 h

/-- A text that cannot be divided into tokens has the fault at one of its places. -/
theorem tokens_fault (h : tokens ctx m offset cs = .error e) :
    ∃ place, Boundary cs place ∧ e.offset = offset + place := by
  induction hn : cs.length using Nat.strongRecOn generalizing m offset cs with
  | _ n ih =>
  cases cs with
  | nil => simp [tokens] at h
  | cons c cs =>
      cases hp : scan ctx m c cs with
      | error fault =>
          rw [tokens] at h
          split at h
          · next fault' he =>
              obtain rfl : fault = fault' := Except.error.inj (hp ▸ he)
              obtain rfl := Except.error.inj h
              exact ⟨fault.offset, scan_faults ctx m c cs fault hp, rfl⟩
          · next he => simp [hp] at he
      | ok p =>
          obtain ⟨k, m', rest⟩ := p
          obtain ⟨pre, rfl⟩ : rest <:+ cs := scan_suffix hp
          have hlt : rest.length < n := by simp at hn; omega
          rw [tokens_cons hp] at h
          cases ht : tokens ctx m' (offset + size (c :: pre)) rest with
          | ok ts =>
              rw [ht] at h
              cases h
          | error fault =>
              rw [ht] at h
              obtain rfl : fault = e := Except.error.inj h
              obtain ⟨place, ⟨before, after, rfl, rfl⟩, hplace⟩ := ih _ hlt ht rfl
              refine ⟨_, ⟨c :: pre ++ before, after, by simp, rfl⟩, ?_⟩
              rw [hplace, size_append, Nat.add_assoc]

end PatternLint.Token

namespace PatternLint

/-- A body that cannot be divided into tokens has the fault at one of its places. -/
theorem tokenize_fault {body : String} {flags : Flags} {dialect : Dialect} {e : ScanError}
    (h : tokenize body flags dialect = .error e) : Token.Boundary body.toList e.offset := by
  obtain ⟨place, hplace, hoffset⟩ := Token.tokens_fault h
  rwa [hoffset, Nat.zero_add]

end PatternLint
