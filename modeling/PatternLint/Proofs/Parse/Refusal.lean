import PatternLint.Proofs.Parse.Move

/-!
# What a step of the parser can refuse

A token is refused for what it is, and the fault is at its start; but not always. Where
a second parenthesis is one too many, the fault is at the second. What is missing at the
end of the text is put where it was opened, a branch too many in a definition where its
body starts, and a range that is no range where it starts.

`Refusal` lists these with the place and the kind of each fault, and `step_refusal` says
that there are no others. What is to be shown of all errors of the parser is then shown
once for each entry, as `Move` does it for the steps that succeed.
-/

namespace PatternLint

/-! ### Kinds of faults -/

namespace Fault

/-- Whether a fault is one of nesting. -/
def isNesting (f : Fault) : Bool := f.kind == .nestingTooDeep

/-- Whether a fault is neither one of nesting nor that of a class without an end. -/
def isPlain (f : Fault) : Bool := !f.isNesting && f.kind != .unclosedClass

theorem isNesting_of_isPlain {f : Fault} (h : f.isPlain = true) : f.isNesting = false := by
  simpa using (Bool.and_eq_true_iff.mp h).1

theorem kind_ne_of_isPlain {f : Fault} (h : f.isPlain = true) : f.kind ≠ .unclosedClass :=
  bne_iff_ne.mp (Bool.and_eq_true_iff.mp h).2

theorem isPlain_scan (f : ScanFault) : (scan f).isPlain = true := by
  show (!(ErrorKind.ofScan f.kind == .nestingTooDeep) &&
    ErrorKind.ofScan f.kind != .unclosedClass) = true
  cases f.kind <;> rfl

theorem isPlain_of_use {use : ReferenceUse} {f : Fault} (h : f.kind = use.kind) :
    f.isPlain = true := by
  rw [isPlain, isNesting, h]
  cases use <;> rfl

end Fault

namespace Parse

/-- A fault at an offset that is neither one of nesting nor that of a class without an end. -/
inductive PlainAt (offset : Nat) : Located → Prop where
  | intro {fault : Fault} (h : fault.isPlain = true) : PlainAt offset ⟨fault, offset⟩

/-- Why a token is refused where `limit` parentheses may be open, with the place of the fault. -/
inductive Refusal (limit : Nat) (st : State) (t : Token) : Located → Prop where
  /-- The token is not allowed where it stands. -/
  | plain {l : Located} (h : PlainAt t.start l) : Refusal limit st t l
  /-- It opens a parenthesis too many. -/
  | nested (hk : (∃ opener, t.kind = .groupOpen opener) ∨ ∃ test, t.kind = .conditionOpen test)
      (hd : limit < st.depth + 1) : Refusal limit st t ⟨.nestingLimit limit, t.start⟩
  /-- It opens two, of which the second is too many. -/
  | test {look : Lookaround} (hk : t.kind = .conditionOpen (.assertion look))
      (hd : limit < st.depth + 2) : Refusal limit st t ⟨.nestingLimit limit, t.start + 2⟩
  /-- It ends a definition that has branches. -/
  | branches (hd : st.level.done ≠ []) : Refusal limit st t ⟨.branchesInDefine, st.level.start⟩
  /-- It ends the text, and a parenthesis is open. -/
  | unclosedGroup {f : Frame} {frames : List Frame} (hk : t.kind = .eof)
      (hf : st.frames = f :: frames) : Refusal limit st t ⟨.unclosedGroup, f.offset⟩
  /-- It ends the text, and a class is open. -/
  | unclosedClass {c : OpenClass} (hk : t.kind = .eof) (ho : st.openClass = some c) :
      Refusal limit st t ⟨.unclosedClass, c.offset⟩
  /-- It is to end a range that it cannot end. -/
  | range {c : OpenClass} {first hyphen : Node} {l : Located} (ho : st.openClass = some c)
      (hp : c.pending = .hyphen first hyphen) (h : PlainAt (min first.start t.start) l) :
      Refusal limit st t l

namespace State

variable {s : ParserSettings} {st : State} {t : Token} {l : Located} {next offset : Nat}

/-! ### Tokens outside a class -/

theorem relativeNumber_refused {use : ReferenceUse} {i : Int}
    (h : st.relativeNumber use i offset = .error l) : PlainAt offset l := by
  simp only [relativeNumber] at h
  generalize (if i < 0 then (st.captures : Int) + 1 + i else st.captures + i) = v at h
  split at h
  · exact Except.error.inj h ▸ .intro (Fault.isPlain_of_use rfl)
  · cases h

theorem groupRef_refused {use : ReferenceUse} {ref : Reference}
    (h : st.groupRef use ref offset = .error l) : PlainAt offset l := by
  unfold groupRef at h
  split at h
  · cases h
  · cases h
  · split at h
    next hr => exact Except.error.inj h ▸ relativeNumber_refused hr
    next => cases h

theorem callTarget_refused {ref : Reference} (h : st.callTarget ref offset = .error l) :
    PlainAt offset l := by
  unfold callTarget at h
  split at h
  · cases h
  · split at h
    next hr => exact Except.error.inj h ▸ groupRef_refused hr
    next => cases h

theorem registerName_refused {name : String} {number : Nat}
    (h : st.registerName name number offset = .error l) : PlainAt offset l := by
  simp only [registerName] at h
  split at h
  · split at h
    · cases h
    · split at h
      · split at h
        · exact Except.error.inj h ▸ .intro rfl
        · cases h
      · exact Except.error.inj h ▸ .intro rfl
  · split at h
    · exact Except.error.inj h ▸ .intro rfl
    · cases h

theorem openGroup_refused {opener : Opener} (h : st.openGroup t opener next = .error l) :
    PlainAt t.start l := by
  unfold openGroup at h
  simp only at h
  split at h
  · split at h <;> cases h
  · split at h
    next hr => exact Except.error.inj h ▸ registerName_refused hr
    next => cases h
  all_goals cases h

theorem openCondition_refused {test : ConditionToken}
    (h : st.openCondition t test next = .error l) : PlainAt t.start l := by
  unfold openCondition at h
  simp only at h
  split at h
  next hc =>
    split at hc
    all_goals try cases hc
    split at hc
    next hr =>
      cases Except.error.inj hc
      exact Except.error.inj h ▸ groupRef_refused hr
    next => cases hc
  next => cases h

theorem close_refused {limit : Nat} (h : st.close t next = .error l) : Refusal limit st t l := by
  unfold close at h
  split at h
  · exact Except.error.inj h ▸ .plain (.intro rfl)
  · simp only at h
    split at h
    · cases h
    · split at h
      · cases h
      · next hd => exact Except.error.inj h ▸ .branches (by simp [hd])
    · cases h
    · cases h

theorem nextBranch_refused (h : st.nextBranch t next = .error l) : PlainAt t.start l := by
  unfold nextBranch at h
  simp only at h
  split at h
  · cases h
  · split at h
    · split at h <;> cases h
    · split at h
      · cases h
      · exact Except.error.inj h ▸ .intro rfl
    · cases h
    · cases h

theorem finish_refused {limit : Nat} (hk : t.kind = .eof) (h : st.finish = .error l) :
    Refusal limit st t l := by
  unfold finish at h
  split at h
  · cases h
  · next hf =>
      split at h
      · next hd => exact Except.error.inj h ▸ .branches (by simp [hd])
      · exact Except.error.inj h ▸ .unclosedGroup hk hf

theorem quantify_refused {count : Repeat} (h : st.quantify t count = .error l) :
    PlainAt t.start l := by
  unfold quantify at h
  split at h
  · exact Except.error.inj h ▸ .intro rfl
  · split at h
    · exact Except.error.inj h ▸ .intro rfl
    · split at h
      · exact Except.error.inj h ▸ .intro rfl
      · cases h

theorem numericEscape_refused {n : Nat} (h : st.numericEscape t n = .error l) :
    PlainAt t.start l := by
  unfold numericEscape at h
  split at h
  · exact Except.error.inj h ▸ .intro rfl
  · simp only at h
    split at h
    · cases h
    · split at h
      · exact Except.error.inj h ▸ .intro rfl
      · cases h

/-- A second parenthesis is checked only where the first may be open. -/
theorem checkNesting_refused {parens : Nat} (h : st.checkNesting s parens offset = .error l) :
    s.nestLimit < st.depth + 1 ∧ l = ⟨.nestingLimit s.nestLimit, offset⟩ ∨
      s.nestLimit < st.depth + parens ∧ ¬ s.nestLimit < st.depth + 1 ∧
        l = ⟨.nestingLimit s.nestLimit, offset + 2⟩ := by
  unfold checkNesting at h
  split at h
  · next hd => exact .inl ⟨hd, (Except.error.inj h).symm⟩
  · next hd =>
      split at h
      · next hd' => exact .inr ⟨hd', hd, (Except.error.inj h).symm⟩
      · cases h

theorem takeAtom_refused (h : st.takeAtom s t next = .error l) :
    Refusal s.nestLimit st t l := by
  unfold takeAtom at h
  simp only at h
  split at h
  case h_3 => exact .plain (numericEscape_refused h)
  case h_7 => exact .plain (quantify_refused h)
  case h_8 opener hk =>
    split at h
    next hc =>
      cases Except.error.inj h
      rcases checkNesting_refused hc with ⟨hd, rfl⟩ | ⟨hd, hnot, -⟩
      · exact .nested (.inl ⟨opener, hk⟩) hd
      · exact absurd hd hnot
    next => exact .plain (openGroup_refused h)
  case h_13 =>
    split at h
    next hr => exact Except.error.inj h ▸ .plain (groupRef_refused hr)
    next => cases h
  case h_14 =>
    split at h
    next hr => exact Except.error.inj h ▸ .plain (callTarget_refused hr)
    next => cases h
  case h_15 test hk =>
    split at h
    next hc =>
      cases Except.error.inj h
      rcases checkNesting_refused hc with ⟨hd, rfl⟩ | ⟨hd, hnot, rfl⟩
      · exact .nested (.inr ⟨test, hk⟩) hd
      · cases test with
        | assertion look => exact .test hk hd
        | _ => exact absurd hd hnot
    next => exact .plain (openCondition_refused h)
  all_goals first | exact Except.error.inj h ▸ .plain (.intro rfl) | cases h

theorem takeToken_refused (h : st.takeToken s t next = .error l) :
    Refusal s.nestLimit st t l := by
  unfold takeToken takeVia at h
  split at h
  · exact .plain (nextBranch_refused h)
  · exact close_refused h
  · next hk => exact finish_refused hk h
  · exact takeAtom_refused h

end State

/-! ### Tokens inside a class -/

namespace OpenClass

variable {c : OpenClass} {t : Token} {l : Located}

theorem member_refused {caseless : Bool} (hclose : t.kind ≠ .classClose) (heof : t.kind ≠ .eof)
    (h : member caseless t = .error l) : PlainAt t.start l := by
  unfold member at h
  simp only at h
  split at h
  case h_5 =>
    split at h
    · cases h
    · exact Except.error.inj h ▸ .intro rfl
  case h_6 hk => exact absurd hk hclose
  case h_7 hk => exact absurd hk heof
  all_goals first | exact Except.error.inj h ▸ .intro rfl | cases h

theorem take_refused (h : c.take t = .error l) :
    PlainAt t.start l ∨ t.kind = .eof ∧ l = ⟨.unclosedClass, c.offset⟩ := by
  unfold take takeVia at h
  split at h
  case h_2 hk => exact .inr ⟨hk, (Except.error.inj h).symm⟩
  case h_5 hclose heof _ _ =>
    split at h
    next hm => exact .inl (Except.error.inj h ▸ member_refused hclose heof hm)
    next => cases h
  all_goals cases h

theorem rangeOf_refused {first last : Node} (h : rangeOf first last = .error l) :
    PlainAt (min first.start last.start) l := by
  unfold rangeOf at h
  simp only at h
  split at h
  · split at h
    · cases h
    · exact Except.error.inj h ▸ .intro rfl
  · exact Except.error.inj h ▸ .intro rfl

theorem feed_refused {limit : Nat} {st : State} (ho : st.openClass = some c)
    (h : c.feed t = .error l) : Refusal limit st t l := by
  have htake : ∀ {d : OpenClass}, d.take t = .error l → d.offset = c.offset →
      Refusal limit st t l := by
    intro d h hoffset
    rcases take_refused h with h | ⟨hk, rfl⟩
    · exact .plain h
    · exact hoffset ▸ .unclosedClass hk ho
  unfold feed feedVia at h
  split at h
  · exact htake h rfl
  · split at h
    · cases h
    · exact htake h rfl
  · next first hyphen hp =>
      split at h
      · cases h
      · next hk => exact Except.error.inj h ▸ .unclosedClass hk ho
      · next hclose heof =>
          split at h
          next hm => exact Except.error.inj h ▸ .plain (member_refused hclose heof hm)
          next last hm =>
            obtain ⟨a, rfl, -⟩ := member_ok hm
            split at h
            next hr => exact Except.error.inj h ▸ .range ho hp (rangeOf_refused hr)
            next => cases h

end OpenClass

/-! ### Steps and runs -/

variable {s : ParserSettings} {st : State} {t : Token} {l : Located} {next : Nat}

/-- There is no other reason to refuse a token. -/
theorem step_refusal (h : step s st t next = .error l) : Refusal s.nestLimit st t l := by
  cases ho : st.openClass with
  | none =>
      rw [step_outside ho] at h
      exact State.takeToken_refused h
  | some c =>
      rw [step_inside ho] at h
      split at h
      next hf => exact Except.error.inj h ▸ OpenClass.feed_refused ho hf
      all_goals cases h

/-- What is refused for a class without an end is refused where that class was opened. -/
theorem step_unclosedClass (h : step s st t next = .error l) (hkind : l.fault.kind = .unclosedClass) :
    ∃ c, st.openClass = some c ∧ l.offset = c.offset := by
  have hplain : ∀ {offset : Nat}, ¬ PlainAt offset l := by
    rintro offset ⟨hfault⟩
    exact Fault.kind_ne_of_isPlain hfault hkind
  cases step_refusal h with
  | plain hl => exact absurd hl hplain
  | unclosedClass hk ho => exact ⟨_, ho, rfl⟩
  | range ho hp hl => exact absurd hl hplain
  | _ => cases hkind

/-- A run is refused at its first token or goes on from there and is refused later. -/
theorem run_cons_error {ts : List Token} :
    run s st (t :: ts) = .error l ↔
      step s st t (ts.head?.map Token.start |>.getD t.stop) = .error l ∨
        ∃ mid, step s st t (ts.head?.map Token.start |>.getD t.stop) = .ok mid ∧
          run s mid ts = .error l := by
  rw [run_cons_eq]
  cases step s st t (ts.head?.map Token.start |>.getD t.stop) with
  | error e => simp
  | ok mid => simp

end Parse

/-! ### Trees -/

namespace Node

theorem isPlain_referenceFault {t : GroupTable} {use : ReferenceUse} {ref : GroupRef} {f : Fault}
    (h : t.referenceFault? use ref = some f) : f.isPlain = true := by
  unfold GroupTable.referenceFault? at h
  split at h
  case h_1 => exact Option.some.inj h ▸ Fault.isPlain_of_use rfl
  all_goals
    split at h
    · cases h
    · exact Option.some.inj h ▸ Fault.isPlain_of_use rfl

theorem isPlain_lookbehindFault {s : ParserSettings} {scope : Scope} {body : Node} {f : Fault}
    (h : lookbehindFault? s scope body = some f) : f.isPlain = true := by
  simp only [lookbehindFault?] at h
  split at h
  · split at h
    · cases h
    · exact Option.some.inj h ▸ rfl
  · split at h
    · split at h
      · exact Option.some.inj h ▸ rfl
      · cases h
    · split at h
      · cases h
      · exact Option.some.inj h ▸ rfl

theorem isPlain_ownFault {s : ParserSettings} {t : GroupTable} {scope : Scope} {n : Node}
    {f : Fault} (h : n.ownFault? s t scope = some f) : f.isPlain = true := by
  unfold ownFault? at h
  split at h
  · exact isPlain_referenceFault h
  · exact isPlain_referenceFault h
  · split at h
    · exact isPlain_lookbehindFault h
    · cases h
  · unfold GroupTable.conditionFault? at h
    split at h
    · exact isPlain_referenceFault h
    · exact isPlain_referenceFault h
    · exact isPlain_referenceFault h
    all_goals cases h
  · cases h

/-- A tree is refused for being too deep or for what is wrong with one of its nodes. -/
theorem firstFault_plain {s : ParserSettings} {t : GroupTable} {root : Node} {l : Located}
    (h : root.firstFault? s t = some l) :
    l.fault = .treeTooDeep s.treeLimit ∨ l.fault.isPlain = true := by
  unfold firstFault? at h
  split at h
  · exact .inl (congrArg Located.fault (Option.some.inj h)).symm
  · obtain ⟨n, -, hn⟩ := List.exists_of_findSome?_eq_some h
    obtain ⟨f, hf, rfl⟩ := Option.map_eq_some_iff.mp hn
    exact .inr (isPlain_ownFault hf)

end Node

/-! ### Patterns -/

/-- A body is refused by the scanner, by the parser or for what is wrong with its tree. -/
theorem Pattern.parseWith_error_cases {s : ParserSettings} {delimiter : Char} {flags : Flags}
    {body : String} {e : PatternError} (h : parseWith s delimiter flags body = .error e) :
    (∃ fault, tokenize body flags s.dialect = .error fault ∧
      e = .inText body fault.offset (.scan fault.fault)) ∨
    ∃ ts, tokenize body flags s.dialect = .ok ts ∧
      ((∃ l, Parse.run s (Parse.initial flags ts) ts = .error l ∧ e = .ofLocated body l) ∨
        ∃ st l, Parse.run s (Parse.initial flags ts) ts = .ok st ∧
          st.level.node.firstFault? s ⟨st.captures, st.names⟩ = some l ∧ e = .ofLocated body l) := by
  unfold parseWith at h
  split at h
  next fault ht => exact .inl ⟨fault, ht, (Except.error.inj h).symm⟩
  next ts ht =>
    refine .inr ⟨ts, ht, ?_⟩
    split at h
    next l hr => exact .inl ⟨l, hr, (Except.error.inj h).symm⟩
    next st hr =>
      simp only at h
      split at h
      next e' hf =>
        rw [Pattern.resolve?_eq] at hf
        obtain ⟨l, hl, rfl⟩ := Option.map_eq_some_iff.mp hf
        exact .inr ⟨st, l, hr, hl, (Except.error.inj h).symm⟩
      next => cases h

end PatternLint
