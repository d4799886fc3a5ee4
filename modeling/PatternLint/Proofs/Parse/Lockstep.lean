import Mathlib
import PatternLint.Proofs.Parse.Sound

/-!
# The scanner and the parser, token by token

Which blanks are skipped is tracked twice. The scanner keeps a stack of its own, since it
has to know what a blank is before there is a tree; the parser keeps the flags in force
and puts them back as its constructs end. Neither asks the other.

Here both are laid open: the modes in which the scanner reads its tokens, and the states
in which the parser takes them. They come in pairs that fit, from the first token to the
one that ends the text, because every move of the parser does to its flags what the
token did to the mode.
-/

namespace PatternLint

open Token Parse

/-! ### What the scanner reads -/

/-- The tokens of a text, each with the mode in which the scanner is before it reads the token; up
to where the text cannot be read any more. -/
def Token.readings (ctx : Context) (m : Mode) (offset : Nat) : List Char → List (Mode × Token)
  | [] => [(m, eof offset)]
  | c :: cs =>
    match _hp : scan ctx m c cs with
    | .error _ => []
    | .ok p =>
      let text := textBefore (c :: cs) p.rest
      let next := offset + Text.size text
      let later := readings ctx p.mode next p.rest
      match p.kind with
      | none => later
      | some kind => (m, ⟨kind, text, offset, next⟩) :: later
termination_by cs => cs.length
decreasing_by
  have := (scan_suffix _hp).length_le
  simp
  omega

section Readings

variable {ctx : Context} {m m' : Mode} {offset : Nat} {c : Char} {cs pre rest : List Char}
  {ts : List Token}

/-- One round of `readings` when its piece is known. -/
theorem readings_cons {k : Option TokenKind} (hp : scan ctx m c (pre ++ rest) = .ok ⟨k, m', rest⟩) :
    readings ctx m offset (c :: (pre ++ rest)) =
      (k.map fun k => (m, ⟨k, c :: pre, offset, offset + Text.size (c :: pre)⟩)).toList ++
        readings ctx m' (offset + Text.size (c :: pre)) rest := by
  have ht : textBefore (c :: (pre ++ rest)) rest = c :: pre := textBefore_append (c :: pre) rest
  rw [readings]
  split
  · next e he => simp [hp] at he
  · next p he =>
      obtain rfl : ⟨k, m', rest⟩ = p := Except.ok.inj (hp ▸ he)
      simp only [ht]
      cases k <;> rfl

/-- What is read are the tokens of the text. -/
theorem Token.Scanned.map_readings (h : Scanned ctx m offset cs ts) :
    (readings ctx m offset cs).map Prod.snd = ts := by
  induction h with
  | done m offset =>
      rw [readings]
      rfl
  | skip hp _ ih =>
      rw [readings_cons hp]
      exact ih
  | token hp _ ih =>
      rw [readings_cons hp]
      exact congrArg (List.cons _) ih

end Readings

/-! ### What the parser goes through -/

namespace Parse

/-- The states in which the parser takes one token after another, up to the first token that it
does not take. -/
def states (s : ParserSettings) (st : State) : List Token → List State
  | [] => []
  | t :: ts =>
    st :: match step s st t (ts.head?.map Token.start |>.getD t.stop) with
      | .error _ => []
      | .ok st' => states s st' ts

variable {s : ParserSettings} {ctx : Context} {initial : Env} {m : Mode} {offset : Nat}
  {cs : List Char} {ts : List Token} {st st' : State}

theorem states_cons {t : Token} {mid : State}
    (hs : step s st t (ts.head?.map Token.start |>.getD t.stop) = .ok mid) :
    states s st (t :: ts) = st :: states s mid ts := by
  rw [states, hs]

/-- What every step preserves holds in every state that is gone through, also where a token is
refused in the end. -/
theorem states_invariant {Inv : State → Prop}
    (hstep : ∀ {st st' : State} {t : Token} {next : Nat}, Inv st → step s st t next = .ok st' →
      Inv st') (hi : Inv st) : ∀ mid ∈ states s st ts, Inv mid := by
  induction ts generalizing st with
  | nil => simp [states]
  | cons t ts ih =>
      rw [states, List.forall_mem_cons]
      refine ⟨hi, ?_⟩
      split
      · simp
      · next st' hs => exact ih (hstep hi hs)

/-- The mode in which a token is read and the state in which it is taken fit each other. -/
theorem states_readings (hts : Scanned ctx m offset cs ts)
    (h : st.Formed ctx s.nestLimit initial m) (hr : run s st ts = .ok st') :
    List.Forall₂ (fun st r => State.Formed ctx s.nestLimit initial r.1 st) (states s st ts)
      (readings ctx m offset cs) := by
  induction hts generalizing st with
  | done m offset =>
      obtain ⟨mid, hs, -⟩ := run_cons.mp hr
      rw [readings, states_cons hs]
      exact .cons h .nil
  | skip hp _ ih =>
      rw [readings_cons hp]
      obtain ⟨hspacing, hsaved, hplace⟩ := scan_skip hp
      exact ih ⟨hspacing.trans h.spacing, hsaved.trans h.saved, hplace.trans h.place, h.level,
        h.members, h.utf⟩ hr
  | token hp _ ih =>
      obtain ⟨hl, rfl⟩ := scan_lexeme hp
      obtain ⟨mid, hs, hrest⟩ := run_cons.mp hr
      rw [readings_cons hp, states_cons hs]
      exact .cons h (ih (step_formed h hl hs) hrest)

end Parse

/-! ### Patterns -/

/-- The parser takes every token of a pattern under the spacing under which the scanner read it. -/
theorem Pattern.parseBody_spacing {s : ParserSettings} {body modifiers : String}
    {delimiter : Char} {p : Pattern} (h : Pattern.parseBody s body modifiers delimiter = .ok p) :
    Flags.ofModifiers modifiers = .ok p.flags ∧
    ∃ ts, tokenize body p.flags s.dialect = .ok ts ∧
      (readings (contextOf body p.flags s.dialect) (Mode.initial p.flags) 0 body.toList).map
        Prod.snd = ts ∧
      (states s (Parse.initial p.flags ts) ts).map (fun st => st.flags &&& Flags.spacing) =
        (readings (contextOf body p.flags s.dialect) (Mode.initial p.flags) 0 body.toList).map
          fun r => r.1.spacing := by
  obtain ⟨-, rfl, hmodifiers, hp⟩ := parseBody_fields h
  obtain ⟨ts, st, ht, hr, -, -⟩ := parseWith_ok hp
  have hts := tokens_eq_ok_iff.mp ht
  refine ⟨hmodifiers, ts, ht, hts.map_readings, ?_⟩
  have hfit := states_readings hts (formed_initial s p.source p.flags ts) hr
  have hspacing : List.Forall₂ (· = ·)
      ((states s (initial p.flags ts) ts).map fun st => st.flags &&& Flags.spacing)
      ((readings (contextOf p.source p.flags s.dialect) (Mode.initial p.flags) 0
        p.source.toList).map fun r => r.1.spacing) := by
    rw [List.forall₂_map_left_iff, List.forall₂_map_right_iff]
    exact hfit.imp fun st r h => h.spacing.symm
  rwa [List.forall₂_eq_eq_eq] at hspacing

/-- Blanks are skipped in the group that asks for it and, from the inner setting on, in the
assertion; not in the branch behind the assertion, where the blank is a literal. -/
theorem Pattern.parseBody_spacing_assertion :
    ∃ p ts, Pattern.parseBody {} "(?x: a)(?(?=(?x)b) c)" "" '/' = .ok p ∧
      tokenize "(?x: a)(?(?=(?x)b) c)" p.flags .pcre43 = .ok ts ∧
      (states {} (Parse.initial p.flags ts) ts).map (fun st => st.flags &&& Flags.spacing) =
        [0, Flags.extended, Flags.extended, 0, 0, Flags.extended, Flags.extended, 0, 0, 0, 0] := by
  obtain ⟨p, hp⟩ := exists_of_isOk
    (x := Pattern.parseBody {} "(?x: a)(?(?=(?x)b) c)" "" '/') (by cbv)
  obtain ⟨hmodifiers, ts, ht, -, hspacing⟩ := parseBody_spacing hp
  refine ⟨p, ts, hp, ht, hspacing.trans ?_⟩
  have hflags : 0 = p.flags := Except.ok.inj hmodifiers
  rw [← hflags]
  cbv

end PatternLint
