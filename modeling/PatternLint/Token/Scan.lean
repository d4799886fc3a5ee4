import PatternLint.Token.Escape
import PatternLint.Token.Paren

/-!
# Dividing a pattern into tokens

The scanner goes through a pattern from left to right. What a character means
depends on the mode: whether it stands in a class, between `\Q` and `\E`, or where
blanks are skipped. `scan` reads one piece of text, which is a token or is
skipped, and `tokens` does so until the text ends. A piece is read from the text
that is left and the mode alone, so that offsets play no part in what is read.
-/

namespace PatternLint

namespace Token

open Unicode Text

/-- Where in a pattern the scanner is. A class is fresh until its first member, since a bracket
does not close it before that. -/
inductive Place where
  | outside
  | inClass (fresh : Bool)
deriving DecidableEq, Repr, Inhabited

/-- The state of the scanner: its place, whether it is in quoted text, which blanks are skipped,
and which were skipped around each of the open groups. -/
structure Mode where
  place : Place := .outside
  quoting : Bool := false
  spacing : Flags := 0
  saved : List Flags := []
deriving DecidableEq, Repr

namespace Mode

/-- The mode at the start of a pattern. -/
def initial (flags : Flags) : Mode := { spacing := flags &&& Flags.spacing }

/-- The spacing after an inline setting. -/
def respaced (m : Mode) (change : FlagChange) : Mode :=
  { m with spacing := change.apply m.spacing &&& Flags.spacing }

/-- Notes the spacing so that a closing parenthesis can restore it. -/
def save (m : Mode) : Mode := { m with saved := m.spacing :: m.saved }

/-- The spacing as it was before the last open group; without one nothing changes. -/
def restore (m : Mode) : Mode :=
  match m.saved with
  | [] => m
  | spacing :: saved => { m with spacing, saved }

/-- The mode after a token. A condition that is an assertion opens two groups at once. -/
def after (m : Mode) : TokenKind → Mode
  | .groupOpen (.modifiers change) => m.save.respaced change
  | .groupOpen _ => m.save
  | .conditionOpen (.assertion _) => m.save.save
  | .conditionOpen _ => m.save
  | .groupClose => m.restore
  | .inlineFlags change => m.respaced change
  | _ => m

end Mode

/-- A piece of text that has been read: its token, if it has one, the mode after it and the text
after it. -/
structure Piece where
  kind : Option TokenKind
  mode : Mode
  rest : List Char

/-- The blanks that extended patterns skip. -/
def isPatternBlank (c : Char) : Bool :=
  [0x20, 0x9, 0xa, 0xb, 0xc, 0xd, 0x85, 0x200e, 0x200f, 0x2028, 0x2029].contains c.toNat

/-- The piece of an escape. -/
def escapePiece (m : Mode) (inClass : Bool) (ctx : Context) (cs : List Char) :
    Except ScanError Piece :=
  match escape ctx inClass cs with
  | .error e => .error e
  | .ok (.token kind, rest) => .ok ⟨some kind, m, rest⟩
  | .ok (.openQuote, rest) => .ok ⟨none, { m with quoting := true }, rest⟩
  | .ok (.closeQuote, rest) => .ok ⟨none, m, rest⟩

/-- Quoted text: every character stands for itself, up to `\E`. -/
def quotedPiece (m : Mode) (c : Char) (cs : List Char) : Piece :=
  let literal : Piece :=
    let place := match m.place with
      | .outside => Place.outside
      | .inClass _ => .inClass false
    ⟨some (.escaped c .quoted), { m with place }, cs⟩
  match cs with
  | 'E' :: rest => if c = '\\' then ⟨none, { m with quoting := false }, rest⟩ else literal
  | _ => literal

/-- Whether a character may stand in the name of a POSIX class. -/
def isPosixChar (c : Char) : Bool := 'a' ≤ c ∧ c ≤ 'z'

/-- The name of a POSIX class, with what closes it. -/
def posixName? (negated : Bool) (text : List Char) : Option (TokenKind × List Char) :=
  match text.dropWhile isPosixChar with
  | ':' :: ']' :: rest =>
    let name := text.takeWhile isPosixChar
    if name.isEmpty then none else some (.posixClass (String.ofList name) negated, rest)
  | _ => none

/-- A POSIX class after the bracket that opens it: a name of small letters between colons. -/
def posixClass? : List Char → Option (TokenKind × List Char)
  | ':' :: '^' :: text => posixName? true text
  | ':' :: text => posixName? false text
  | _ => none

/-- A token that is not a set operation, or a set operation where the dialect has them and the
character is doubled. -/
def doubled (ctx : Context) (c : Char) (operation alone : TokenKind) (cs : List Char) :
    TokenKind × List Char :=
  match cs with
  | d :: rest =>
    if ctx.dialect.supports .classSetOperations && d == c then (operation, rest) else (alone, cs)
  | [] => (alone, cs)

/-- A piece inside a class. -/
def classPiece (ctx : Context) (m : Mode) (fresh : Bool) (c : Char) (cs : List Char) :
    Except ScanError Piece :=
  if m.spacing.has Flags.extendedMore && (c == ' ' || c == '\t') then .ok ⟨none, m, cs⟩
  else
    let m := { m with place := .inClass false }
    let piece : TokenKind × List Char → Except ScanError Piece := fun (k, rest) =>
      .ok ⟨some k, m, rest⟩
    if c = ']' then
      if fresh then piece (.literal ']', cs)
      else .ok ⟨some .classClose, { m with place := .outside }, cs⟩
    else if c = '\\' then escapePiece m true ctx cs
    else if c = '[' then piece ((posixClass? cs).getD (.literal '[', cs))
    else if c = '&' then piece (doubled ctx c .classIntersection (.literal '&') cs)
    else if c = '-' then piece (doubled ctx c .classSubtraction .classHyphen cs)
    else piece (.literal c, cs)

/-- A repetition with the mark after it. -/
def quantifierKind (min : Nat) (max : Option Nat) (cs : List Char) : TokenKind × List Char :=
  let (greed, rest) := greed cs
  (.quantifier ⟨min, max, greed⟩, rest)

/-- The token of a character outside a class, other than a backslash or a bracket. -/
def outsideToken (ctx : Context) (c : Char) (cs : List Char) :
    Except ScanError (TokenKind × List Char) :=
  if c = '(' then paren ctx.dialect cs
  else if c = ')' then .ok (.groupClose, cs)
  else if c = '|' then .ok (.alternation, cs)
  else if c = '.' then .ok (.dot, cs)
  else if c = '^' then .ok (.anchor .start, cs)
  else if c = '$' then .ok (.anchor .stop, cs)
  else if c = '*' then .ok (quantifierKind 0 none cs)
  else if c = '+' then .ok (quantifierKind 1 none cs)
  else if c = '?' then .ok (quantifierKind 0 (some 1) cs)
  else if c = '\x7b' then
    match interval ctx.dialect cs with
    | .error e => .error e
    | .ok (some (min, max), rest) => .ok (quantifierKind min max rest)
    | .ok (none, _) => .ok (.literal c, cs)
  else .ok (.literal c, cs)

/-- A piece outside a class. -/
def outsidePiece (ctx : Context) (m : Mode) (c : Char) (cs : List Char) : Except ScanError Piece :=
  if m.spacing != 0 && isPatternBlank c then .ok ⟨none, m, cs⟩
  else if m.spacing != 0 && c == '#' then
    .ok ⟨none, m, (cs.dropWhile (· != '\n')).drop 1⟩
  else if c = '\\' then escapePiece m false ctx cs
  else if c = '[' then
    let m := { m with place := .inClass true }
    match cs with
    | '^' :: rest => .ok ⟨some (.classOpen true), m, rest⟩
    | _ => .ok ⟨some (.classOpen false), m, cs⟩
  else
    match outsideToken ctx c cs with
    | .error e => .error e
    | .ok (kind, rest) => .ok ⟨some kind, m.after kind, rest⟩

/-- Reads the piece that starts with `c`. -/
def scan (ctx : Context) (m : Mode) (c : Char) (cs : List Char) : Except ScanError Piece :=
  if m.quoting then .ok (quotedPiece m c cs)
  else
    match m.place with
    | .inClass fresh => classPiece ctx m fresh c cs
    | .outside => outsidePiece ctx m c cs

/-! ### Every piece leaves a suffix -/

theorem escapePiece_suffix {m : Mode} {inClass : Bool} {ctx : Context} {cs : List Char} {p : Piece}
    (h : escapePiece m inClass ctx cs = .ok p) : p.rest <:+ cs := by
  unfold escapePiece at h
  split at h
  · simp at h
  all_goals
    rename_i he
    simp only [Except.ok.injEq] at h
    exact h ▸ escape_suffix he

theorem quotedPiece_suffix (m : Mode) (c : Char) (cs : List Char) :
    (quotedPiece m c cs).rest <:+ cs := by
  unfold quotedPiece
  simp only
  split
  · split
    · exact List.suffix_cons _ _
    · exact List.suffix_refl _
  · exact List.suffix_refl _

theorem posixName?_suffix {negated : Bool} {cs rest : List Char} {k : TokenKind}
    (h : posixName? negated cs = some (k, rest)) : rest <:+ cs := by
  unfold posixName? at h
  split at h
  · rename_i r hd
    simp only at h
    split at h
    · simp at h
    · simp only [Option.some.injEq, Prod.mk.injEq] at h
      exact h.2 ▸ tail_suffix (tail_suffix (hd ▸ List.dropWhile_suffix _))
  · simp at h

theorem posixClass?_suffix {cs rest : List Char} {k : TokenKind}
    (h : posixClass? cs = some (k, rest)) : rest <:+ cs := by
  unfold posixClass? at h
  split at h
  · exact (posixName?_suffix h).trans ((List.suffix_cons _ _).trans (List.suffix_cons _ _))
  · exact (posixName?_suffix h).trans (List.suffix_cons _ _)
  · simp at h

theorem doubled_suffix (ctx : Context) (c : Char) (a b : TokenKind) (cs : List Char) :
    (doubled ctx c a b cs).2 <:+ cs := by
  unfold doubled
  split
  · split
    · exact List.suffix_cons _ _
    · exact List.suffix_refl _
  · exact List.suffix_refl _

theorem classPiece_suffix {ctx : Context} {m : Mode} {fresh : Bool} {c : Char} {cs : List Char}
    {p : Piece} (h : classPiece ctx m fresh c cs = .ok p) : p.rest <:+ cs := by
  unfold classPiece at h
  split at h
  · simp only [Except.ok.injEq] at h
    exact h ▸ List.suffix_refl _
  simp only at h
  split at h
  · split at h <;> simp only [Except.ok.injEq] at h <;> exact h ▸ List.suffix_refl _
  split at h
  · exact escapePiece_suffix h
  split at h
  · simp only [Except.ok.injEq] at h
    subst h
    cases hp : posixClass? cs with
    | none => simp
    | some r => simpa using posixClass?_suffix hp
  split at h
  · simp only [Except.ok.injEq] at h
    exact h ▸ doubled_suffix _ _ _ _ _
  split at h
  · simp only [Except.ok.injEq] at h
    exact h ▸ doubled_suffix _ _ _ _ _
  · simp only [Except.ok.injEq] at h
    exact h ▸ List.suffix_refl _

theorem outsideToken_suffix {ctx : Context} {c : Char} {cs rest : List Char} {k : TokenKind}
    (h : outsideToken ctx c cs = .ok (k, rest)) : rest <:+ cs := by
  have hmark : ∀ {kind : TokenKind}, (.ok (kind, cs) : Except ScanError _) = .ok (k, rest) →
      rest <:+ cs := by
    rintro kind ⟨⟩
    exact List.suffix_refl cs
  unfold outsideToken at h
  -- Splitting `h` goes through all choices that are left, so the first ones are taken out of it.
  by_cases h1 : c = '('
  · rw [if_pos h1] at h
    exact paren_suffix h
  rw [if_neg h1] at h
  by_cases h2 : c = ')'
  · rw [if_pos h2] at h
    exact hmark h
  rw [if_neg h2] at h
  by_cases h3 : c = '|'
  · rw [if_pos h3] at h
    exact hmark h
  rw [if_neg h3] at h
  by_cases h4 : c = '.'
  · rw [if_pos h4] at h
    exact hmark h
  rw [if_neg h4] at h
  by_cases h5 : c = '^'
  · rw [if_pos h5] at h
    exact hmark h
  rw [if_neg h5] at h
  by_cases h6 : c = '$'
  · rw [if_pos h6] at h
    exact hmark h
  rw [if_neg h6] at h
  iterate 3
    split at h
    · simp only [quantifierKind, Except.ok.injEq, Prod.mk.injEq] at h
      exact h.2 ▸ greed_suffix cs
  split at h
  · split at h
    · simp at h
    · rename_i hi
      simp only [quantifierKind, Except.ok.injEq, Prod.mk.injEq] at h
      exact (h.2 ▸ greed_suffix _).trans (interval_suffix hi)
    · simp_all
  · simp_all

theorem outsidePiece_suffix {ctx : Context} {m : Mode} {c : Char} {cs : List Char} {p : Piece}
    (h : outsidePiece ctx m c cs = .ok p) : p.rest <:+ cs := by
  unfold outsidePiece at h
  split at h
  · simp only [Except.ok.injEq] at h
    exact h ▸ List.suffix_refl _
  split at h
  · simp only [Except.ok.injEq] at h
    exact h ▸ (List.drop_suffix _ _).trans (List.dropWhile_suffix _)
  split at h
  · exact escapePiece_suffix h
  split at h
  · simp only at h
    split at h <;> simp only [Except.ok.injEq] at h
    · exact h ▸ List.suffix_cons _ _
    · exact h ▸ List.suffix_refl _
  split at h
  · simp at h
  · rename_i ht
    simp only [Except.ok.injEq] at h
    exact h ▸ outsideToken_suffix ht

/-- What a piece leaves is a suffix of what came after its first character. -/
theorem scan_suffix {ctx : Context} {m : Mode} {c : Char} {cs : List Char} {p : Piece}
    (h : scan ctx m c cs = .ok p) : p.rest <:+ cs := by
  unfold scan at h
  split at h
  · simp only [Except.ok.injEq] at h
    exact h ▸ quotedPiece_suffix m c cs
  split at h
  · exact classPiece_suffix h
  · exact outsidePiece_suffix h

/-- The text of the piece that was read from `cs` up to `rest`. -/
def textBefore (cs rest : List Char) : List Char := cs.take (cs.length - rest.length)

/-- The tokens of a text that starts at byte `offset`, with the token that ends it. -/
def tokens (ctx : Context) (m : Mode) (offset : Nat) :
    List Char → Except ScanError (List Token)
  | [] => .ok [eof offset]
  | c :: cs =>
    match _hp : scan ctx m c cs with
    | .error e => .error { e with offset := offset + e.offset }
    | .ok p =>
      let text := textBefore (c :: cs) p.rest
      let next := offset + Text.size text
      match tokens ctx p.mode next p.rest with
      | .error e => .error e
      | .ok rest =>
        match p.kind with
        | none => .ok rest
        | some kind => .ok (⟨kind, text, offset, next⟩ :: rest)
termination_by cs => cs.length
decreasing_by
  have := (scan_suffix _hp).length_le
  simp
  omega

/-- Whether a pattern asks for UTF mode in its first words. -/
def asksForUtf (cs : List Char) : Bool :=
  "(*UTF)".toList.isPrefixOf cs || "(*UTF8)".toList.isPrefixOf cs

end Token

/-- Divides the body of a pattern into tokens, under the flags of its modifiers. -/
def tokenize (body : String) (flags : Flags) (dialect : Dialect) :
    Except ScanError (List Token) :=
  let cs := body.toList
  let ctx : Token.Context := ⟨dialect, flags.has Flags.unicode || Token.asksForUtf cs⟩
  Token.tokens ctx (Token.Mode.initial flags) 0 cs

end PatternLint
