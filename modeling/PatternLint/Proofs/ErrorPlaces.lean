import Mathlib
import PatternLint.Proofs.Depth
import PatternLint.Proofs.Parse.Refusal
import PatternLint.Proofs.Positions
import PatternLint.Proofs.Token.Faults

/-!
# Where errors are

An error that a body is refused with names an offset, and shows the line of the body
around it. The offsets come from everywhere: the scanner counts bytes from the start of
a token, the parser takes them from tokens, from what is open and from nodes, and the
checks of the finished tree from nodes again. None of them can fall inside a character
or behind the text: tokens and nodes start and stop at places of the text, and so does
all that a state of the parser remembers.
-/

namespace PatternLint

open Token (Boundary)

/-! ### Tokens that are refused -/

namespace Parse

variable {s : ParserSettings} {ctx : Token.Context} {cs : List Char} {limit : Nat} {st : State}
  {t : Token} {l : Located} {next : Nat} {ts : List Token}

/-- In a state that is placed, a token that starts at a place of the text is refused with a fault at
a place of the text. -/
theorem Refusal.boundary (h : Refusal limit st t l) (hst : st.Placed cs t.start)
    (hstart : Boundary cs t.start)
    (htest : ∀ test, t.kind = .conditionOpen test → Boundary cs (t.start + 2)) :
    Boundary cs l.offset := by
  cases h with
  | plain hl =>
      cases hl
      exact hstart
  | nested hk hd => exact hstart
  | test hk hd => exact htest _ hk
  | branches hd => exact hst.level.start
  | @unclosedGroup f frames hk hf =>
      have hframes : FramesPlaced cs (f :: frames) st.level.start := hf ▸ hst.frames
      exact hframes.1
  | unclosedClass hk ho => exact (hst.members _ ho).offset
  | @range c first hyphen l ho hp hl =>
      -- The first end of the range is among the members, with the hyphen behind it.
      have hrow := (hst.members c ho).row
      rw [OpenClass.settled_of_hyphen hp] at hrow
      have hfirst : Boundary cs first.start := (hrow.allPlaced (m := first) (by simp)).root.start
      cases hl
      rcases min_choice first.start t.start with hmin | hmin <;> rw [hmin]
      · exact hfirst
      · exact hstart

/-- A run that is refused has its fault at a place of the text. -/
theorem run_fault (hl : Token.Laid ctx cs next ts) (hst : st.Placed cs next)
    (h : run s st ts = .error l) : Boundary cs l.offset := by
  induction hl generalizing st with
  | done =>
      rcases run_cons_error.mp h with hs | ⟨mid, -, hrest⟩
      · exact (step_refusal hs).boundary hst (Token.boundary_size cs) (by simp [Token.eof])
      · cases hrest
  | @token t next ts ht hle hl ih =>
      rcases run_cons_error.mp h with hs | ⟨mid, hs, hrest⟩
      · exact (step_refusal hs).boundary hst ht.boundary_start
          fun test hk => (State.boundary_assertion ht hk).1
      · rw [hl.head, Option.getD_some] at hs
        exact ih (step_placed ht hle hl.boundary hst hs) hrest

end Parse

/-! ### Trees that are refused -/

namespace Node

/-- A place that is too deep is the start of a node. -/
theorem exists_start_of_firstBelow {n : Node} {limit offset : Nat}
    (h : n.firstBelow limit = some offset) : ∃ m ∈ n.preorder, m.start = offset := by
  induction n using children_induction generalizing limit with
  | h n ih =>
      rw [firstBelow_eq] at h
      split at h
      · exact ⟨n, n.self_mem_preorder, Option.some.inj h⟩
      · obtain ⟨c, hc, hbelow⟩ := List.exists_of_findSome?_eq_some h
        obtain ⟨m, hm, hstart⟩ := ih c hc hbelow
        exact ⟨m, mem_preorder.mpr (.inr ⟨c, hc, hm⟩), hstart⟩

/-- The first fault of a tree is at the start of a node. -/
theorem exists_start_of_firstFault {s : ParserSettings} {t : GroupTable} {root : Node}
    {l : Located} (h : root.firstFault? s t = some l) : ∃ m ∈ root.preorder, m.start = l.offset := by
  unfold firstFault? at h
  split at h
  · next offset hbelow =>
      obtain ⟨m, hm, hstart⟩ := exists_start_of_firstBelow hbelow
      exact ⟨m, hm, hstart.trans (congrArg Located.offset (Option.some.inj h))⟩
  · obtain ⟨m, hm, hfault⟩ := List.exists_of_findSome?_eq_some h
    obtain ⟨fault, -, rfl⟩ := Option.map_eq_some_iff.mp hfault
    exact ⟨m, hm, rfl⟩

end Node

/-! ### Bodies that are refused -/

namespace Pattern

variable {s : ParserSettings} {delimiter : Char} {flags : Flags} {body modifiers : String}
  {e : PatternError}

/-- An error is made from a fault at a place of the body. -/
theorem parseWith_error (h : parseWith s delimiter flags body = .error e) :
    Boundary body.toList e.offset ∧ e = .inText body e.offset e.fault := by
  rcases parseWith_error_cases h with ⟨fault, ht, rfl⟩ | ⟨ts, ht, ⟨l, hr, rfl⟩ | ⟨st, l, hr, hl, rfl⟩⟩
  · exact ⟨tokenize_fault ht, rfl⟩
  · obtain ⟨next, hl⟩ := tokenize_laid ht
    have hinitial : Parse.initial flags ts = { flags, level := .new next 0 } := by
      simp [Parse.initial, hl.head]
    rw [hinitial] at hr
    exact ⟨Parse.run_fault hl (Parse.State.placed_initial flags hl.boundary) hr, rfl⟩
  · obtain ⟨m, hm, hstart⟩ := Node.exists_start_of_firstFault hl
    have hplace : Boundary body.toList m.start := (tokenized_placed ht hr m hm).start
    rw [hstart] at hplace
    exact ⟨hplace, rfl⟩

/-- Every error that a body is refused with, whatever the modifiers, the delimiter and the settings,
is within the body and between two of its characters, and shows the body there. -/
theorem parseBody_error_place (h : parseBody s body modifiers delimiter = .error e) :
    e.offset ≤ body.utf8ByteSize ∧ (String.Pos.Raw.mk e.offset).IsValid body ∧
      e.snippet = Text.snippet body e.offset := by
  have hsize := Text.utf8ByteSize_eq body
  have hplace : Boundary body.toList e.offset ∧ e = .inText body e.offset e.fault := by
    unfold parseBody at h
    split at h
    · -- Modifiers stand behind the body.
      cases Except.error.inj h
      exact ⟨hsize ▸ Token.boundary_size body.toList, rfl⟩
    · exact parseWith_error h
  obtain ⟨hboundary, he⟩ := hplace
  have hsnippet : e.snippet = (PatternError.inText body e.offset e.fault).snippet :=
    congrArg PatternError.snippet he
  exact ⟨hsize ▸ hboundary.le_size, isValid_of_boundary hboundary, hsnippet⟩

/-- A range that is out of order is shown where it starts: three bytes into the body, behind two
characters. -/
theorem parseBody_error_place_range :
    ∃ e, parseBody {} "é[z-a]" "" '/' = .error e ∧ e.fault = .rangeOutOfOrder ∧ e.offset = 3 ∧
      (String.Pos.Raw.mk 3).IsValid "é[z-a]" ∧ e.snippet = "é[z-a]\n  ^" := by
  have h : parseBody {} "é[z-a]" "" '/' = .error (.inText "é[z-a]" 3 .rangeOutOfOrder) := by cbv
  obtain ⟨-, hvalid, hsnippet⟩ := parseBody_error_place h
  have hshown : Text.snippet "é[z-a]" 3 = "é[z-a]\n  ^" := by cbv
  exact ⟨.inText "é[z-a]" 3 .rangeOutOfOrder, h, rfl, rfl, hvalid, hsnippet.trans hshown⟩

end Pattern

end PatternLint
