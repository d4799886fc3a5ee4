import PatternLint.Token.Reader

/-!
# Parentheses

What follows an opening parenthesis: the kind of a group, a condition, inline
flags, a comment, a callout, a verb or a subroutine call.
-/

namespace PatternLint.Token

open Unicode Text

/-- A call by number after `(?`, with an optional sign. -/
def numberedCall (cs : List Char) : Except ScanError (TokenKind × List Char) := do
  let (sign, digits) := takeSign cs
  let (n, rest) ← number digits
  match n, rest with
  | some n, ')' :: rest => return (.subroutine (signed sign n), rest)
  | _, _ => fail .unclosedRecursion

/-- The assertions that can be the test of a conditional. -/
def assertionTest? : List Char → Option (Lookaround × List Char)
  | '=' :: rest => some (.ahead, rest)
  | '!' :: rest => some (.negativeAhead, rest)
  | '<' :: '=' :: rest => some (.behind, rest)
  | '<' :: '!' :: rest => some (.negativeBehind, rest)
  | _ => none

/-- The test of a conditional that is not an assertion, up to its closing parenthesis. -/
def plainTest (cs : List Char) : Except ScanError (ConditionToken × List Char) :=
  match cs with
  | '<' :: body => do
    let (name, rest) ← nameUntil '>' body
    return (.reference (.name name), rest)
  | '\'' :: body => do
    let (name, rest) ← nameUntil '\'' body
    return (.reference (.name name), rest)
  | 'R' :: '&' :: body => do
    let name := body.takeWhile (· != ')')
    checkName name
    return (.recursionName (String.ofList name), body.dropWhile (· != ')'))
  | 'R' :: ')' :: _ => return (.recursion, cs.drop 1)
  | c :: body =>
    if c = 'R' && (body.head?.map isAsciiDigit).getD false then do
      let (n, rest) ← number body
      return (.recursionGroup (n.getD 0), rest)
    else if c = '+' || c = '-' || isAsciiDigit c then do
      let (sign, digits) := takeSign cs
      let (n, rest) ← number digits
      match n with
      | some n => return (.reference (signed sign n), rest)
      | none => fail .malformedCondition
    else if ['D', 'E', 'F', 'I', 'N', 'E', ')'].isPrefixOf cs then return (.define, cs.drop 6)
    else if isNameStart c then do
      let name := cs.takeWhile isNameChar
      checkName name
      return (.reference (.name (String.ofList name)), cs.dropWhile isNameChar)
    else fail .malformedCondition
  | [] => fail .malformedCondition

/-- The test of a conditional, after `(?(`. -/
def condition (cs : List Char) : Except ScanError (ConditionToken × List Char) :=
  match cs with
  | '?' :: body =>
    match assertionTest? body with
    | some (look, rest) => .ok (.assertion look, rest)
    | none => fail .notAssertion
  | _ => do
    let (test, rest) ← plainTest cs
    match rest with
    | ')' :: rest => return (test, rest)
    | _ => fail .malformedCondition

/-- Reads text up to `close`, where a doubled `close` stands for itself. -/
def doubledUntil (close : Char) : List Char → Option (List Char × List Char)
  | [] => none
  | [c] => if c = close then some ([], []) else none
  | c :: d :: rest =>
    if c = close then
      if d = close then (doubledUntil close rest).map fun (text, r) => (close :: text, r)
      else some ([], d :: rest)
    else (doubledUntil close (d :: rest)).map fun (text, r) => (c :: text, r)

/-- The marks that can enclose the text of a callout. -/
def calloutClose? : Char → Option Char
  | '\x7b' => some '\x7d'
  | c => if ['\x60', '\'', '"', '^', '%', '#', '$'].contains c then some c else none

/-- The argument of a callout, up to its closing parenthesis. -/
def calloutArg (cs : List Char) : Except ScanError (CalloutArg × List Char) :=
  match cs with
  | [] => fail .malformedCallout
  | c :: body =>
    if c = ')' then .ok (.number 0, cs)
    else if isAsciiDigit c then do
      let (n, rest) ← number cs
      if n.getD 0 ≤ 255 then return (.number (n.getD 0), rest) else fail .malformedCallout
    else
      match calloutClose? c with
      | none => fail .malformedCallout
      | some close =>
        match doubledUntil close body with
        | some (text, rest) => .ok (.text (String.ofList text), rest)
        | none => fail .malformedCallout

/-- A callout, after `(?C`. -/
def callout (cs : List Char) : Except ScanError (TokenKind × List Char) := do
  let (arg, rest) ← calloutArg cs
  match rest with
  | ')' :: rest => return (.callout arg, rest)
  | _ => fail .malformedCallout

/-- Where the reading of inline flags stands: what has been read, whether a hyphen came, whether
this is the first character, and its byte offset in the token. -/
structure FlagState where
  change : FlagChange := {}
  negate : Bool := false
  first : Bool := true
  offset : Nat := 2

namespace FlagState

/-- Notes a flag, to be set or cleared. -/
def note (s : FlagState) (bits : Flags) : FlagState :=
  if s.negate then { s with change := { s.change with off := s.change.off ||| bits } }
  else { s with change := { s.change with on := s.change.on ||| bits } }

/-- Moves on over `size` bytes. -/
def advance (s : FlagState) (size : Nat) : FlagState :=
  { s with first := false, offset := s.offset + size }

end FlagState

/-- A character that is no flag: at the start it is an unknown kind of group. -/
def notFlag {α : Type} (s : FlagState) (c : Char) : Except ScanError α :=
  if s.first then fail (.unknownGroup c) else .error ⟨.unknownFlag c, s.offset⟩

/-- One character of the flags, other than the marks that end them. -/
def flag (dialect : Dialect) (s : FlagState) (c : Char) : Except ScanError FlagState :=
  if c = '^' && s.first && dialect.supports .caretReset then
    .ok ({ s with change := { s.change with reset := true } }.advance 1)
  else if c = '-' && !s.negate && !s.change.reset then .ok ({ s with negate := true }.advance 1)
  else
    match Flags.ofInline? c with
    | some bit =>
      if c = 'n' && !dialect.supports .noAutoCapture then notFlag s c
      else .ok ((s.note (if c = 'x' && s.negate then Flags.spacing else bit)).advance 1)
    | none => notFlag s c

/-- Inline flags: letters to set and, after a hyphen, letters to clear. A parenthesis ends a
setting of its own, a colon opens a group. A doubled `x` also skips blanks in classes, and clearing
`x` clears that too. -/
def flagGroup (dialect : Dialect) (s : FlagState) :
    List Char → Except ScanError (TokenKind × List Char)
  | [] => fail .unclosedFlags
  | 'x' :: 'x' :: rest => flagGroup dialect ((s.note Flags.spacing).advance 2) rest
  | c :: rest =>
    if c = ')' then .ok (.inlineFlags s.change, rest)
    else if c = ':' then .ok (.groupOpen (.modifiers s.change), rest)
    else
      match flag dialect s c with
      | .error e => .error e
      | .ok s => flagGroup dialect s rest

/-- The assertions and groups that have a name in letters. -/
def alphaAssertion? : String → Option Opener
  | "pla" | "positive_lookahead" => some (.look .ahead)
  | "nla" | "negative_lookahead" => some (.look .negativeAhead)
  | "plb" | "positive_lookbehind" => some (.look .behind)
  | "nlb" | "negative_lookbehind" => some (.look .negativeBehind)
  | "napla" | "non_atomic_positive_lookahead" => some (.look .nonAtomicAhead)
  | "naplb" | "non_atomic_positive_lookbehind" => some (.look .nonAtomicBehind)
  | "atomic" | "asr" | "atomic_script_run" => some .atomic
  | "sr" | "script_run" => some .nonCapturing
  | _ => none

/-- The backtracking verbs. -/
def verbs : List String := ["ACCEPT", "FAIL", "F", "COMMIT", "PRUNE", "SKIP", "THEN", "MARK"]

/-- Whether a name starts like that of a limit. -/
def isLimit (name : List Char) : Bool := ['L', 'I', 'M', 'I', 'T', '_'].isPrefixOf name

/-- Whether a verb or setting is known with the argument that it has. A mark needs a text, a limit
a number, and a setting takes nothing. -/
def isKnownVerb (name : List Char) (arg : Option (List Char)) : Bool :=
  if name.isEmpty || name == ['M', 'A', 'R', 'K'] then
    match arg with
    | some text => !text.isEmpty
    | none => false
  else if isLimit name then
    isStartSetting (String.ofList name) &&
      match arg with
      | some text => (unsigned? text).isSome
      | none => false
  else if isStartSetting (String.ofList name) then arg.isNone
  else verbs.contains (String.ofList name)

/-- Whether a character may stand in the name of a verb. -/
def isVerbChar (c : Char) : Bool := isAsciiLetter c || isAsciiDigit c || c == '_'

/-- The argument of a verb: after a colon or, for a limit, after an equals sign. -/
def verbArg (name cs : List Char) : Option (List Char) × List Char :=
  match cs with
  | ':' :: body => (some (body.takeWhile (· != ')')), body.dropWhile (· != ')'))
  | '=' :: body =>
    if isLimit name then (some (body.takeWhile (· != ')')), body.dropWhile (· != ')'))
    else (none, cs)
  | _ => (none, cs)

/-- A verb or setting whose name has been read. -/
def verb (name cs : List Char) : Except ScanError (TokenKind × List Char) :=
  let (arg, rest) := verbArg name cs
  match rest with
  | ')' :: rest =>
    if isKnownVerb name arg then
      .ok (.verb (String.ofList name) (arg.map String.ofList), rest)
    else fail (.unknownVerb (String.ofList name))
  | _ => fail .unclosedVerb

/-- The group that a name before a colon opens, if it is written in small letters. -/
def alphaOpener? (name cs : List Char) : Option (Opener × List Char) :=
  match cs with
  | ':' :: rest =>
    if name.all (fun c => !decide ('A' ≤ c ∧ c ≤ 'Z')) then
      (alphaAssertion? (String.ofList name)).map fun o => (o, rest)
    else none
  | _ => none

/-- What follows `(*`, if it is more than a group that starts with a star. -/
def starConstruct (dialect : Dialect) (cs : List Char) :
    Option (Except ScanError (TokenKind × List Char)) :=
  match cs with
  | [] => none
  | c :: _ =>
    if isAsciiLetter c || c == ':' then
      let name := cs.takeWhile isVerbChar
      let rest := cs.dropWhile isVerbChar
      some <|
        match alphaOpener? name rest with
        | some (opener, rest) =>
          if dialect.supports .alphaAssertions then .ok (.groupOpen opener, rest)
          else fail (.unsupportedAssertion (String.ofList name))
        | none => verb name rest
    else none

/-- What follows `(?P`. -/
def namedConstruct : List Char → Except ScanError (TokenKind × List Char)
  | '<' :: body => do
    let (name, rest) ← nameUntil '>' body
    return (.groupOpen (.named name), rest)
  | '=' :: body => do
    let (name, rest) ← nameUntil ')' body
    return (.backref (.name name), rest)
  | '>' :: body => do
    let (name, rest) ← nameUntil ')' body
    return (.subroutine (.name name), rest)
  | _ => fail .unknownAfterP

/-- A comment, after `(?#`. -/
def comment (cs : List Char) : Except ScanError (TokenKind × List Char) :=
  match cs.dropWhile (· != ')') with
  | [] => fail .unclosedComment
  | _ :: rest => .ok (.comment (String.ofList (cs.takeWhile (· != ')'))), rest)

/-- What follows `(?`. -/
def questionConstruct (dialect : Dialect) (cs : List Char) :
    Except ScanError (TokenKind × List Char) :=
  match cs with
  | [] => fail .nothingAfterQuestion
  | '#' :: body => comment body
  | ':' :: rest => .ok (.groupOpen .nonCapturing, rest)
  | '>' :: rest => .ok (.groupOpen .atomic, rest)
  | '=' :: rest => .ok (.groupOpen (.look .ahead), rest)
  | '!' :: rest => .ok (.groupOpen (.look .negativeAhead), rest)
  | '|' :: rest => .ok (.groupOpen .branchReset, rest)
  | '<' :: '=' :: rest => .ok (.groupOpen (.look .behind), rest)
  | '<' :: '!' :: rest => .ok (.groupOpen (.look .negativeBehind), rest)
  | '<' :: body => do
    let (name, rest) ← nameUntil '>' body
    return (.groupOpen (.named name), rest)
  | '\'' :: body => do
    let (name, rest) ← nameUntil '\'' body
    return (.groupOpen (.named name), rest)
  | 'P' :: body => namedConstruct body
  | '&' :: body => do
    let (name, rest) ← nameUntil ')' body
    return (.subroutine (.name name), rest)
  | 'R' :: ')' :: rest => .ok (.subroutine (.number 0), rest)
  | '(' :: body => do
    let (test, rest) ← condition body
    return (.conditionOpen test, rest)
  | 'C' :: body => callout body
  | c :: body =>
    if c = '+' || isAsciiDigit c then numberedCall cs
    else if c = '-' && (body.head?.map isAsciiDigit).getD false then numberedCall cs
    else flagGroup dialect {} cs

/-- What follows an opening parenthesis. -/
def paren (dialect : Dialect) (cs : List Char) : Except ScanError (TokenKind × List Char) :=
  match cs with
  | '*' :: body => (starConstruct dialect body).getD (.ok (.groupOpen .capturing, cs))
  | '?' :: body => questionConstruct dialect body
  | _ => .ok (.groupOpen .capturing, cs)

/-! ### What is left is a suffix -/

theorem numberedCall_suffix {cs rest : List Char} {k : TokenKind}
    (h : numberedCall cs = .ok (k, rest)) : rest <:+ cs := by
  unfold numberedCall at h
  obtain ⟨⟨n, r⟩, hn, h⟩ := ok_bind h
  simp only at h
  split at h
  · replace h := ok_inj h
    exact tail_suffix (h.2 ▸ (number_suffix hn).trans (takeSign_suffix cs))
  · simp [fail] at h

theorem assertionTest?_suffix {cs rest : List Char} {l : Lookaround}
    (h : assertionTest? cs = some (l, rest)) : rest <:+ cs := by
  unfold assertionTest? at h
  split at h <;> simp_all
  · exact (List.suffix_cons _ _).trans (List.suffix_cons _ _)
  · exact (List.suffix_cons _ _).trans (List.suffix_cons _ _)

theorem plainTest_suffix {cs rest : List Char} {t : ConditionToken}
    (h : plainTest cs = .ok (t, rest)) : rest <:+ cs := by
  unfold plainTest at h
  split at h
  · obtain ⟨⟨_, r⟩, hn, h⟩ := ok_bind h
    replace h := ok_inj h
    exact (h.2 ▸ nameUntil_suffix hn).trans (List.suffix_cons _ _)
  · obtain ⟨⟨_, r⟩, hn, h⟩ := ok_bind h
    replace h := ok_inj h
    exact (h.2 ▸ nameUntil_suffix hn).trans (List.suffix_cons _ _)
  · obtain ⟨_, _, h⟩ := ok_bind h
    replace h := ok_inj h
    exact (h.2 ▸ List.dropWhile_suffix _).trans
      ((List.suffix_cons _ _).trans (List.suffix_cons _ _))
  · replace h := ok_inj h
    exact h.2 ▸ List.drop_suffix _ _
  · split at h
    · obtain ⟨⟨_, r⟩, hn, h⟩ := ok_bind h
      replace h := ok_inj h
      exact (h.2 ▸ number_suffix hn).trans (List.suffix_cons _ _)
    split at h
    · obtain ⟨⟨_, r⟩, hn, h⟩ := ok_bind h
      simp only at h
      split at h
      · replace h := ok_inj h
        exact h.2 ▸ (number_suffix hn).trans (takeSign_suffix _)
      · simp [fail] at h
    split at h
    · replace h := ok_inj h
      exact h.2 ▸ List.drop_suffix _ _
    split at h
    · obtain ⟨_, _, h⟩ := ok_bind h
      replace h := ok_inj h
      exact h.2 ▸ List.dropWhile_suffix _
    · simp [fail] at h
  · simp [fail] at h

theorem condition_suffix {cs rest : List Char} {t : ConditionToken}
    (h : condition cs = .ok (t, rest)) : rest <:+ cs := by
  unfold condition at h
  split at h
  · split at h
    · rename_i ha
      replace h := ok_inj h
      exact (h.2 ▸ assertionTest?_suffix ha).trans (List.suffix_cons _ _)
    · simp [fail] at h
  · obtain ⟨⟨_, r⟩, hp, h⟩ := ok_bind h
    simp only at h
    split at h
    · replace h := ok_inj h
      exact tail_suffix (h.2 ▸ plainTest_suffix hp)
    · simp [fail] at h

theorem doubledUntil_suffix {close : Char} {cs text rest : List Char}
    (h : doubledUntil close cs = some (text, rest)) : rest <:+ cs := by
  fun_induction doubledUntil close cs generalizing text rest with
  | case1 => simp at h
  | case2 => simp_all
  | case3 => simp at h
  | case4 rest' ih =>
    simp only [Option.map_eq_some_iff, Prod.mk.injEq, Prod.exists] at h
    obtain ⟨t, r, hr, _, rfl⟩ := h
    exact (ih hr).trans ((List.suffix_cons _ _).trans (List.suffix_cons _ _))
  | case5 => simp_all
  | case6 c d rest' hc ih =>
    simp only [Option.map_eq_some_iff, Prod.mk.injEq, Prod.exists] at h
    obtain ⟨t, r, hr, _, rfl⟩ := h
    exact (ih hr).trans (List.suffix_cons _ _)

theorem calloutArg_suffix {cs rest : List Char} {a : CalloutArg}
    (h : calloutArg cs = .ok (a, rest)) : rest <:+ cs := by
  unfold calloutArg at h
  split at h
  · simp [fail] at h
  · split at h
    · simp_all
    split at h
    · obtain ⟨⟨_, r⟩, hn, h⟩ := ok_bind h
      simp only at h
      split at h
      · replace h := ok_inj h
        exact h.2 ▸ number_suffix hn
      · simp [fail] at h
    split at h
    · simp [fail] at h
    · split at h
      · rename_i hd
        replace h := ok_inj h
        exact (h.2 ▸ doubledUntil_suffix hd).trans (List.suffix_cons _ _)
      · simp [fail] at h

theorem callout_suffix {cs rest : List Char} {k : TokenKind}
    (h : callout cs = .ok (k, rest)) : rest <:+ cs := by
  unfold callout at h
  obtain ⟨⟨_, r⟩, ha, h⟩ := ok_bind h
  simp only at h
  split at h
  · replace h := ok_inj h
    exact tail_suffix (h.2 ▸ calloutArg_suffix ha)
  · simp [fail] at h

theorem flagGroup_suffix {dialect : Dialect} {s : FlagState} {cs rest : List Char}
    {k : TokenKind} (h : flagGroup dialect s cs = .ok (k, rest)) : rest <:+ cs := by
  fun_induction flagGroup dialect s cs with
  | case1 => simp [fail] at h
  | case2 s rest' ih => exact (ih h).trans ((List.suffix_cons _ _).trans (List.suffix_cons _ _))
  | case3 => simp_all
  | case4 => simp_all
  | case5 => simp_all
  | case6 s c rest' _ _ _ s' hs ih => exact (ih h).trans (List.suffix_cons _ _)

theorem verbArg_suffix (name cs : List Char) : (verbArg name cs).2 <:+ cs := by
  unfold verbArg
  split
  · exact (List.dropWhile_suffix _).trans (List.suffix_cons _ _)
  · split
    · exact (List.dropWhile_suffix _).trans (List.suffix_cons _ _)
    · exact List.suffix_refl _
  · exact List.suffix_refl _

theorem verb_suffix {name cs rest : List Char} {k : TokenKind}
    (h : verb name cs = .ok (k, rest)) : rest <:+ cs := by
  unfold verb at h
  simp only at h
  split at h
  · rename_i hr
    split at h
    · replace h := ok_inj h
      exact tail_suffix (h.2 ▸ hr ▸ verbArg_suffix name cs)
    · simp [fail] at h
  · simp [fail] at h

theorem alphaOpener?_suffix {name cs rest : List Char} {o : Opener}
    (h : alphaOpener? name cs = some (o, rest)) : rest <:+ cs := by
  unfold alphaOpener? at h
  split at h
  · split at h
    · simp only [Option.map_eq_some_iff, Prod.mk.injEq] at h
      obtain ⟨_, _, _, rfl⟩ := h
      exact List.suffix_cons _ _
    · simp at h
  · simp at h

theorem starConstruct_suffix {dialect : Dialect} {cs rest : List Char} {k : TokenKind}
    (h : starConstruct dialect cs = some (.ok (k, rest))) : rest <:+ cs := by
  unfold starConstruct at h
  split at h
  · simp at h
  · split at h
    · simp only [Option.some.injEq] at h
      split at h
      · rename_i ho
        split at h
        · replace h := ok_inj h
          exact (h.2 ▸ alphaOpener?_suffix ho).trans (List.dropWhile_suffix _)
        · simp [fail] at h
      · exact (verb_suffix h).trans (List.dropWhile_suffix _)
    · simp at h

theorem namedConstruct_suffix {cs rest : List Char} {k : TokenKind}
    (h : namedConstruct cs = .ok (k, rest)) : rest <:+ cs := by
  unfold namedConstruct at h
  split at h
  case h_4 => simp [fail] at h
  all_goals
    obtain ⟨⟨_, r⟩, hn, h⟩ := ok_bind h
    replace h := ok_inj h
    exact (h.2 ▸ nameUntil_suffix hn).trans (List.suffix_cons _ _)

theorem comment_suffix {cs rest : List Char} {k : TokenKind}
    (h : comment cs = .ok (k, rest)) : rest <:+ cs := by
  unfold comment at h
  split at h
  · simp [fail] at h
  · rename_i hd
    replace h := ok_inj h
    exact tail_suffix (h.2 ▸ hd ▸ List.dropWhile_suffix _)

theorem questionConstruct_suffix {dialect : Dialect} {cs rest : List Char} {k : TokenKind}
    (h : questionConstruct dialect cs = .ok (k, rest)) : rest <:+ cs := by
  unfold questionConstruct at h
  split at h
  · simp [fail] at h
  · exact (comment_suffix h).trans (List.suffix_cons _ _)
  · simp_all
  · simp_all
  · simp_all
  · simp_all
  · simp_all
  · replace h := ok_inj h
    exact h.2 ▸ (List.suffix_cons _ _).trans (List.suffix_cons _ _)
  · replace h := ok_inj h
    exact h.2 ▸ (List.suffix_cons _ _).trans (List.suffix_cons _ _)
  · obtain ⟨⟨_, r⟩, hn, h⟩ := ok_bind h
    replace h := ok_inj h
    exact (h.2 ▸ nameUntil_suffix hn).trans (List.suffix_cons _ _)
  · obtain ⟨⟨_, r⟩, hn, h⟩ := ok_bind h
    replace h := ok_inj h
    exact (h.2 ▸ nameUntil_suffix hn).trans (List.suffix_cons _ _)
  · exact (namedConstruct_suffix h).trans (List.suffix_cons _ _)
  · obtain ⟨⟨_, r⟩, hn, h⟩ := ok_bind h
    replace h := ok_inj h
    exact (h.2 ▸ nameUntil_suffix hn).trans (List.suffix_cons _ _)
  · replace h := ok_inj h
    exact h.2 ▸ (List.suffix_cons _ _).trans (List.suffix_cons _ _)
  · obtain ⟨⟨_, r⟩, hc, h⟩ := ok_bind h
    replace h := ok_inj h
    exact (h.2 ▸ condition_suffix hc).trans (List.suffix_cons _ _)
  · exact (callout_suffix h).trans (List.suffix_cons _ _)
  · split at h
    · exact numberedCall_suffix h
    split at h
    · exact numberedCall_suffix h
    · exact flagGroup_suffix h

theorem paren_suffix {dialect : Dialect} {cs rest : List Char} {k : TokenKind}
    (h : paren dialect cs = .ok (k, rest)) : rest <:+ cs := by
  unfold paren at h
  split at h
  · rename_i body
    cases hs : starConstruct dialect body with
    | none => simp_all
    | some r =>
      rw [hs, Option.getD_some] at h
      exact (starConstruct_suffix (h ▸ hs)).trans (List.suffix_cons _ _)
  · exact (questionConstruct_suffix h).trans (List.suffix_cons _ _)
  · simp_all

end PatternLint.Token
