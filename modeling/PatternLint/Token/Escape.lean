import PatternLint.Token.Reader

/-!
# Escapes

What follows a backslash. The same letter can mean different things inside and
outside a character class, and some letters have no meaning inside one.
-/

namespace PatternLint.Token

open Unicode Text

/-- The character with a given number. Outside UTF mode only one byte is allowed. -/
def character (ctx : Context) (value : Nat) (form : LiteralForm) : Except ScanError TokenKind :=
  if !ctx.utf && decide (0xff < value) then fail .tooLargeOutsideUtf
  else if value.isValidChar then .ok (.escaped (Char.ofNat value) form)
  else fail (.notCharacter value)

/-- The characters that have a letter of their own; `b` is the backspace only inside a class. -/
def specialValue? (inClass : Bool) : Char → Option Char
  | 'a' => some '\x07'
  | 'e' => some '\x1b'
  | 'f' => some '\x0c'
  | 'n' => some '\n'
  | 'r' => some '\r'
  | 't' => some '\t'
  | 'b' => if inClass then some '\x08' else none
  | _ => none

/-- The shorthands that have a meaning everywhere, with whether the letter negates them. -/
def shorthand? : Char → Option (ShorthandKind × Bool)
  | 'd' => some (.digit, false)
  | 'D' => some (.digit, true)
  | 'w' => some (.word, false)
  | 'W' => some (.word, true)
  | 's' => some (.space, false)
  | 'S' => some (.space, true)
  | 'h' => some (.horizontalSpace, false)
  | 'H' => some (.horizontalSpace, true)
  | 'v' => some (.verticalSpace, false)
  | 'V' => some (.verticalSpace, true)
  | _ => none

/-- The escapes that have a meaning only outside a class and take no text after their letter. -/
def outsideEscape? : Char → Option TokenKind
  | 'N' => some (.shorthand .notNewline false)
  | 'R' => some (.shorthand .newline false)
  | 'X' => some (.shorthand .grapheme false)
  | 'C' => some (.shorthand .codeUnit false)
  | 'b' => some (.anchor .wordBoundary)
  | 'B' => some (.anchor .notWordBoundary)
  | 'A' => some (.anchor .startText)
  | 'z' => some (.anchor .endText)
  | 'Z' => some (.anchor .endTextOptionalNewline)
  | 'G' => some (.anchor .previousMatchEnd)
  | 'K' => some (.anchor .keepOut)
  | _ => none

/-- Reads up to `limit` digits that pass a test. -/
def digitsUpTo (limit : Nat) (isDigit : Char → Bool) (cs : List Char) : List Char × List Char :=
  let digits := (cs.take limit).takeWhile isDigit
  (digits, cs.drop digits.length)

/-- An escape with a digit inside a class: an octal number of up to three digits. The digits 8 and
9 stand for themselves. -/
def classDigit (ctx : Context) (first : Char) (cs : List Char) :
    Except ScanError (TokenKind × List Char) :=
  if isOctalDigit first then do
    let (more, rest) := digitsUpTo 2 isOctalDigit cs
    let kind ← character ctx (ofDigits 8 (first :: more)) .octal
    return (kind, rest)
  else .ok (.escaped first .punctuation, cs)

/-- An escape with a digit outside a class: all digits that follow, but a zero stands alone. -/
def outsideDigit (first : Char) (cs : List Char) : Except ScanError (TokenKind × List Char) :=
  if first = '0' then .ok (.numericEscape 0, cs)
  else do
    let (n, rest) ← number (first :: cs)
    return (.numericEscape (n.getD 0), rest)

/-- A number in braces, in octal or hexadecimal. -/
def bracedNumber (ctx : Context) (base : Nat) (form : LiteralForm) (digits : List Char)
    (malformed tooLarge : ScanFault) : Except ScanError TokenKind :=
  let isDigit := if base = 8 then isOctalDigit else isHexDigit
  if digits.isEmpty || !digits.all isDigit then fail malformed
  else if maxNumber < ofDigits base digits then fail tooLarge
  else character ctx (ofDigits base digits) form

/-- An octal number in braces. -/
def octalEscape (ctx : Context) (cs : List Char) : Except ScanError (TokenKind × List Char) := do
  let (digits, rest) ← braced .octal cs
  let kind ← bracedNumber ctx 8 .octal digits .notOctal .octalTooLarge
  return (kind, rest)

/-- A hexadecimal number: in braces, or up to two digits. -/
def hexEscape (ctx : Context) (cs : List Char) : Except ScanError (TokenKind × List Char) :=
  if cs.head? = some '\x7b' then do
    let (digits, rest) ← braced .hex cs
    let kind ← bracedNumber ctx 16 .hex digits .notHex .hexTooLarge
    return (kind, rest)
  else do
    let (digits, rest) := digitsUpTo 2 isHexDigit cs
    let kind ← character ctx (ofDigits 16 digits) .hex
    return (kind, rest)

/-- A control character: the letter's number with one bit flipped. -/
def controlEscape (ctx : Context) : List Char → Except ScanError (TokenKind × List Char)
  | [] => fail .controlAtEnd
  | c :: rest =>
    if 0x20 ≤ c.toNat ∧ c.toNat ≤ 0x7e then do
      let kind ← character ctx (c.toUpper.toNat ^^^ 0x40) .control
      return (kind, rest)
    else fail .notControl

/-- Whether an escape of `N` goes on with a code point. -/
def startsCodePoint (cs : List Char) : Bool := ['\x7b', 'U', '+'].isPrefixOf cs

/-- A code point after `N`; the text starts with `U+` in braces. -/
def codePointEscape (ctx : Context) (cs : List Char) :
    Except ScanError (TokenKind × List Char) :=
  if ctx.dialect.supports .codePointEscape && ctx.utf then do
    let (text, rest) ← braced .codePoint cs
    let kind ← bracedNumber ctx 16 .codePoint (text.drop 2) .notHexCodePoint .codePointTooLarge
    return (kind, rest)
  else fail .codePointOutsideUtf

/-- Whether a character may stand in the name of a property. -/
def isPropertyChar (c : Char) : Bool :=
  isAsciiLetter c || isAsciiDigit c || ['_', '&', ':', '=', ' ', '-'].contains c

/-- The text of a property: in braces, or one letter. -/
def propertyText (cs : List Char) : Except ScanError (List Char × List Char) :=
  match cs with
  | c :: rest =>
    if c = '\x7b' then braced .property cs
    else if isAsciiLetter c then .ok ([c], rest)
    else fail .malformedProperty
  | [] => fail .malformedProperty

/-- The property that a text names. A caret negates it, as a capital `P` does, and both together do
not. -/
def propertyKind (upper : Bool) (text : List Char) : Except ScanError TokenKind :=
  let (caret, name) := match text with
    | '^' :: name => (true, name)
    | _ => (false, text)
  if name.isEmpty || !name.all isPropertyChar then fail (.unknownProperty (String.ofList name))
  else .ok (.shorthand (.property (String.ofList name)) (upper != caret))

/-- A property escape. -/
def propertyEscape (upper : Bool) (cs : List Char) : Except ScanError (TokenKind × List Char) := do
  let (text, rest) ← propertyText cs
  let kind ← propertyKind upper text
  return (kind, rest)

/-- A reference or call after `g`. In braces or without them it is a reference, in angle brackets
or quotes a call. -/
def callEscape (cs : List Char) : Except ScanError (TokenKind × List Char) :=
  match cs with
  | '\x7b' :: _ => do
    let (text, rest) ← braced .reference cs
    match reference? text false with
    | some ref => return (.backref ref, rest)
    | none => fail .malformedCall
  | '<' :: body => call '>' body
  | '\'' :: body => call '\'' body
  | '-' :: d :: rest =>
    if isAsciiDigit d then do
      let (n, rest) ← number (d :: rest)
      return (.backref (signed (some false) (n.getD 0)), rest)
    else fail .malformedCall
  | d :: rest =>
    if isAsciiDigit d then do
      let (n, rest) ← number (d :: rest)
      return (.backref (.number (n.getD 0)), rest)
    else fail .malformedCall
  | [] => fail .malformedCall
where
  /-- A call that ends with `close`. -/
  call (close : Char) (body : List Char) : Except ScanError (TokenKind × List Char) :=
    match body.dropWhile (· != close) with
    | [] => fail (.unclosedCall close)
    | _ :: rest =>
      match reference? (body.takeWhile (· != close)) true with
      | some ref => .ok (.subroutine ref, rest)
      | none => fail .malformedCall

/-- A reference by name after `k`. -/
def backrefEscape : List Char → Except ScanError (TokenKind × List Char)
  | '<' :: body => named '>' body
  | '\'' :: body => named '\'' body
  | '\x7b' :: body => named '\x7d' body
  | _ => fail .malformedBackref
where
  /-- A name that ends with `close`. -/
  named (close : Char) (body : List Char) : Except ScanError (TokenKind × List Char) :=
    match body.dropWhile (· != close) with
    | [] => fail (.unclosedBackref close)
    | _ :: rest => do
      let name := body.takeWhile (· != close)
      checkName name
      return (.backref (.name (String.ofList name)), rest)

/-- The letters that mean something outside a class and are a fault inside one. -/
def isOutsideOnly (c : Char) : Bool :=
  ['N', 'B', 'A', 'z', 'Z', 'G', 'K', 'R', 'X', 'C', 'g', 'k'].contains c

/-- The token of an escape with `c` after the backslash. -/
def escapeToken (ctx : Context) (inClass : Bool) (c : Char) (cs : List Char) :
    Except ScanError (TokenKind × List Char) :=
  match specialValue? inClass c, shorthand? c with
  | some value, _ => .ok (.escaped value .special, cs)
  | none, some (kind, negated) => .ok (.shorthand kind negated, cs)
  | none, none =>
    if isAsciiDigit c then if inClass then classDigit ctx c cs else outsideDigit c cs
    else if c = 'o' then octalEscape ctx cs
    else if c = 'x' then hexEscape ctx cs
    else if c = 'c' then controlEscape ctx cs
    else if c = 'p' || c = 'P' then propertyEscape (c == 'P') cs
    else if c = 'N' && startsCodePoint cs then codePointEscape ctx cs
    else if inClass && isOutsideOnly c then fail (.notInClass c)
    else if c = 'g' then callEscape cs
    else if c = 'k' then backrefEscape cs
    else
      match outsideEscape? c with
      | some kind => .ok (kind, cs)
      | none =>
        if isAsciiLetter c then fail (.unknownEscape c) else .ok (.escaped c .punctuation, cs)

/-- What an escape is: a token, or the start or end of quoted text. -/
inductive Escape where
  | token (kind : TokenKind)
  | openQuote
  | closeQuote

/-- Reads what follows a backslash. -/
def escape (ctx : Context) (inClass : Bool) : List Char → Except ScanError (Escape × List Char)
  | [] => fail .backslashAtEnd
  | c :: cs =>
    if c = 'Q' then .ok (.openQuote, cs)
    else if c = 'E' then .ok (.closeQuote, cs)
    else do
      let (kind, rest) ← escapeToken ctx inClass c cs
      return (.token kind, rest)

/-! ### What is left is a suffix -/

theorem digitsUpTo_suffix (limit : Nat) (p : Char → Bool) (cs : List Char) :
    (digitsUpTo limit p cs).2 <:+ cs := List.drop_suffix _ _

theorem classDigit_suffix {ctx : Context} {c : Char} {cs rest : List Char} {k : TokenKind}
    (h : classDigit ctx c cs = .ok (k, rest)) : rest <:+ cs := by
  unfold classDigit at h
  split at h
  · obtain ⟨_, _, h⟩ := ok_bind h
    replace h := ok_inj h
    exact h.2 ▸ digitsUpTo_suffix _ _ _
  · simp_all

/-- Reading a number that starts with a given digit takes at least that digit. -/
theorem number_cons_suffix {c : Char} {cs rest : List Char} {n : Option Nat}
    (hc : isAsciiDigit c) (h : number (c :: cs) = .ok (n, rest)) : rest <:+ cs := by
  unfold number at h
  simp only [fail, List.takeWhile_cons, List.dropWhile_cons, hc, ↓reduceIte, List.isEmpty_cons,
    Bool.false_eq_true] at h
  split at h <;> simp_all
  exact h.2 ▸ List.dropWhile_suffix _

theorem outsideDigit_suffix {c : Char} {cs rest : List Char} {k : TokenKind}
    (hc : isAsciiDigit c) (h : outsideDigit c cs = .ok (k, rest)) : rest <:+ cs := by
  unfold outsideDigit at h
  split at h
  · simp_all
  · obtain ⟨⟨n, r⟩, hn, h⟩ := ok_bind h
    replace h := ok_inj h
    exact h.2 ▸ number_cons_suffix hc hn

theorem octalEscape_suffix {ctx : Context} {cs rest : List Char} {k : TokenKind}
    (h : octalEscape ctx cs = .ok (k, rest)) : rest <:+ cs := by
  unfold octalEscape at h
  obtain ⟨⟨d, r⟩, hb, h⟩ := ok_bind h
  obtain ⟨_, _, h⟩ := ok_bind h
  replace h := ok_inj h
  exact h.2 ▸ braced_suffix hb

theorem hexEscape_suffix {ctx : Context} {cs rest : List Char} {k : TokenKind}
    (h : hexEscape ctx cs = .ok (k, rest)) : rest <:+ cs := by
  unfold hexEscape at h
  split at h
  · obtain ⟨⟨d, r⟩, hb, h⟩ := ok_bind h
    obtain ⟨_, _, h⟩ := ok_bind h
    replace h := ok_inj h
    exact h.2 ▸ braced_suffix hb
  · obtain ⟨_, _, h⟩ := ok_bind h
    replace h := ok_inj h
    exact h.2 ▸ digitsUpTo_suffix _ _ _

theorem controlEscape_suffix {ctx : Context} {cs rest : List Char} {k : TokenKind}
    (h : controlEscape ctx cs = .ok (k, rest)) : rest <:+ cs := by
  unfold controlEscape at h
  split at h
  · simp [fail] at h
  · split at h
    · obtain ⟨_, _, h⟩ := ok_bind h
      replace h := ok_inj h
      exact h.2 ▸ List.suffix_cons _ _
    · simp [fail] at h

theorem codePointEscape_suffix {ctx : Context} {cs rest : List Char} {k : TokenKind}
    (h : codePointEscape ctx cs = .ok (k, rest)) : rest <:+ cs := by
  unfold codePointEscape at h
  split at h
  · obtain ⟨⟨d, r⟩, hb, h⟩ := ok_bind h
    obtain ⟨_, _, h⟩ := ok_bind h
    replace h := ok_inj h
    exact h.2 ▸ braced_suffix hb
  · simp [fail] at h

theorem propertyText_suffix {cs text rest : List Char} (h : propertyText cs = .ok (text, rest)) :
    rest <:+ cs := by
  unfold propertyText at h
  split at h
  · split at h
    · exact braced_suffix h
    · split at h
      · replace h := ok_inj h
        exact h.2 ▸ List.suffix_cons _ _
      · simp [fail] at h
  · simp [fail] at h

theorem propertyEscape_suffix {upper : Bool} {cs rest : List Char} {k : TokenKind}
    (h : propertyEscape upper cs = .ok (k, rest)) : rest <:+ cs := by
  unfold propertyEscape at h
  obtain ⟨⟨text, r⟩, hb, h⟩ := ok_bind h
  obtain ⟨_, _, h⟩ := ok_bind h
  replace h := ok_inj h
  exact h.2 ▸ propertyText_suffix hb

theorem call_suffix {close : Char} {cs rest : List Char} {k : TokenKind}
    (h : callEscape.call close cs = .ok (k, rest)) : rest <:+ cs := by
  unfold callEscape.call at h
  split at h
  · simp [fail] at h
  · rename_i c r hd
    split at h
    · replace h := ok_inj h
      exact h.2 ▸ tail_suffix (hd ▸ List.dropWhile_suffix _)
    · simp [fail] at h

theorem callEscape_suffix {cs rest : List Char} {k : TokenKind}
    (h : callEscape cs = .ok (k, rest)) : rest <:+ cs := by
  unfold callEscape at h
  split at h
  · obtain ⟨⟨d, r⟩, hb, h⟩ := ok_bind h
    simp only at h
    split at h
    · replace h := ok_inj h
      exact h.2 ▸ braced_suffix hb
    · simp [fail] at h
  · exact (call_suffix h).trans (List.suffix_cons _ _)
  · exact (call_suffix h).trans (List.suffix_cons _ _)
  · split at h
    · obtain ⟨⟨n, r⟩, hn, h⟩ := ok_bind h
      replace h := ok_inj h
      exact (h.2 ▸ number_suffix hn).trans (List.suffix_cons _ _)
    · simp [fail] at h
  · split at h
    · obtain ⟨⟨n, r⟩, hn, h⟩ := ok_bind h
      replace h := ok_inj h
      exact h.2 ▸ number_suffix hn
    · simp [fail] at h
  · simp [fail] at h

theorem named_suffix {close : Char} {cs rest : List Char} {k : TokenKind}
    (h : backrefEscape.named close cs = .ok (k, rest)) : rest <:+ cs := by
  unfold backrefEscape.named at h
  split at h
  · simp [fail] at h
  · rename_i c r hd
    obtain ⟨_, _, h⟩ := ok_bind h
    replace h := ok_inj h
    exact h.2 ▸ tail_suffix (hd ▸ List.dropWhile_suffix _)

theorem backrefEscape_suffix {cs rest : List Char} {k : TokenKind}
    (h : backrefEscape cs = .ok (k, rest)) : rest <:+ cs := by
  unfold backrefEscape at h
  split at h
  · exact (named_suffix h).trans (List.suffix_cons _ _)
  · exact (named_suffix h).trans (List.suffix_cons _ _)
  · exact (named_suffix h).trans (List.suffix_cons _ _)
  · simp [fail] at h

theorem escapeToken_suffix {ctx : Context} {inClass : Bool} {c : Char} {cs rest : List Char}
    {k : TokenKind} (h : escapeToken ctx inClass c cs = .ok (k, rest)) : rest <:+ cs := by
  unfold escapeToken at h
  split at h
  · simp_all
  · simp_all
  -- Splitting `h` goes through all choices that are left, so the first ones are taken out of it.
  · by_cases hd : isAsciiDigit c = true
    · rw [if_pos hd] at h
      split at h
      · exact classDigit_suffix h
      · exact outsideDigit_suffix hd h
    rw [if_neg hd] at h
    by_cases ho : c = 'o'
    · rw [if_pos ho] at h
      exact octalEscape_suffix h
    rw [if_neg ho] at h
    by_cases hx : c = 'x'
    · rw [if_pos hx] at h
      exact hexEscape_suffix h
    rw [if_neg hx] at h
    by_cases hc : c = 'c'
    · rw [if_pos hc] at h
      exact controlEscape_suffix h
    rw [if_neg hc] at h
    split at h
    · exact propertyEscape_suffix h
    split at h
    · exact codePointEscape_suffix h
    split at h
    · simp [fail] at h
    split at h
    · exact callEscape_suffix h
    split at h
    · exact backrefEscape_suffix h
    split at h
    · simp_all
    · split at h
      · simp [fail] at h
      · simp_all

theorem escape_suffix {ctx : Context} {inClass : Bool} {cs rest : List Char} {e : Escape}
    (h : escape ctx inClass cs = .ok (e, rest)) : rest <:+ cs := by
  unfold escape at h
  split at h
  · simp [fail] at h
  · split at h
    · replace h := ok_inj h
      exact h.2 ▸ List.suffix_cons _ _
    · split at h
      · replace h := ok_inj h
        exact h.2 ▸ List.suffix_cons _ _
      · obtain ⟨⟨k, r⟩, hk, h⟩ := ok_bind h
        replace h := ok_inj h
        exact (h.2 ▸ escapeToken_suffix hk).trans (List.suffix_cons _ _)

end PatternLint.Token
