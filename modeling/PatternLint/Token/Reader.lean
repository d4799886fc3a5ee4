import PatternLint.Dialect
import PatternLint.Text.Digits
import PatternLint.Token
import PatternLint.Token.Fault

/-!
# Reading pieces of tokens

Readers take the text from where they stand and give back what they read with
the rest of the text. A reader that fails says why; the fault is at the start of
the token unless the reader counts bytes itself. What a reader leaves is always
a suffix of what it was given, which is stated beside each of them.
-/

namespace PatternLint.Token

open Unicode Text

/-- What the reading of tokens depends on besides the text: the dialect, and whether the text is
Unicode, so that any character may be given by number. -/
structure Context where
  dialect : Dialect
  utf : Bool
deriving DecidableEq, Repr

/-- Fails with a fault at the start of the token. -/
def fail {α : Type} (fault : ScanFault) : Except ScanError α := .error ⟨fault, 0⟩

/-- The largest distance of a relative reference. -/
def maxDistance : Nat := 0x7fffffff

/-- Reads a decimal number, if there is a digit. -/
def number (cs : List Char) : Except ScanError (Option Nat × List Char) :=
  let digits := cs.takeWhile isAsciiDigit
  if digits.isEmpty then .ok (none, cs)
  else if ofDigits 10 digits ≤ maxNumber then
    .ok (some (ofDigits 10 digits), cs.dropWhile isAsciiDigit)
  else fail .numberTooLarge

/-- Reads a count of a repetition, if there is a digit. -/
def repeatCount (cs : List Char) : Except ScanError (Option Nat × List Char) :=
  let digits := cs.takeWhile isAsciiDigit
  if digits.isEmpty then .ok (none, cs)
  else if ofDigits 10 digits ≤ Repeat.maxWritten then
    .ok (some (ofDigits 10 digits), cs.dropWhile isAsciiDigit)
  else fail .countTooLarge

/-- A whole text as a number of 32 bits; it may start with a plus sign. -/
def unsigned? (cs : List Char) : Option Nat :=
  let digits := match cs with
    | '+' :: rest => rest
    | _ => cs
  if !digits.isEmpty && digits.all isAsciiDigit && decide (ofDigits 10 digits ≤ maxNumber) then
    some (ofDigits 10 digits)
  else none

/-- Reads the text in braces after an escape. The opening brace may be missing. -/
def braced (escape : BracedEscape) (cs : List Char) : Except ScanError (List Char × List Char) :=
  let body := match cs with
    | '\x7b' :: rest => rest
    | _ => cs
  match body.dropWhile (· != '\x7d') with
  | [] => fail (.unclosedBrace escape)
  | _ :: rest => .ok (body.takeWhile (· != '\x7d'), rest)

/-- Whether a character may start a name. -/
def isNameStart (c : Char) : Bool := c == '_' || isAlphabetic c

/-- Whether a character may stand in a name. -/
def isNameChar (c : Char) : Bool := c == '_' || isAlphanumeric c

/-- Whether a text has the form of a name, of any length. -/
def isName : List Char → Bool
  | [] => false
  | c :: cs => isNameStart c && cs.all isNameChar

/-- Checks a name: its form first, then its length. -/
def checkName (name : List Char) : Except ScanError Unit :=
  if !isName name then fail (.invalidName (String.ofList name))
  else if maxNameLength < name.length then fail (.nameTooLong (String.ofList name))
  else .ok ()

/-- Reads a name that ends with `close`. A parenthesis ends it too, but wrongly. -/
def nameUntil (close : Char) (cs : List Char) : Except ScanError (String × List Char) :=
  let name := cs.takeWhile fun c => c != close && c != ')'
  match cs.dropWhile fun c => c != close && c != ')' with
  | c :: rest =>
    if c = close then do
      checkName name
      return (String.ofList name, rest)
    else fail (.unclosedName close)
  | [] => fail (.unclosedName close)

/-- A whole text as a reference: a distance back, a distance ahead where that is allowed, a number
or a name. -/
def reference? (text : List Char) (allowPlus : Bool) : Option Reference :=
  match text with
  | '-' :: digits => (unsigned? digits).map fun n => .relative (-(min n maxDistance : Nat))
  | '+' :: digits =>
    if allowPlus then (unsigned? digits).map fun n => .relative (min n maxDistance : Nat) else none
  | c :: _ =>
    if isAsciiDigit c then (unsigned? text).map .number
    else if isName text then some (.name (String.ofList text))
    else none
  | [] => none

/-- A reference by an optional sign and a number. -/
def signed (sign : Option Bool) (n : Nat) : Reference :=
  match sign with
  | none => .number n
  | some true => .relative (min n maxDistance : Nat)
  | some false => .relative (-(min n maxDistance : Nat))

/-- Reads the sign of a relative number. -/
def takeSign : List Char → Option Bool × List Char
  | '+' :: rest => (some true, rest)
  | '-' :: rest => (some false, rest)
  | cs => (none, cs)

/-- Skips blanks inside the braces of a repetition, where the dialect allows them. -/
def skipBlanks (allowed : Bool) (cs : List Char) : List Char :=
  if allowed then cs.dropWhile fun c => c == ' ' || c == '\t' else cs

/-- Reads the counts of a repetition after its opening brace. Text of another form is no
repetition, but a count that is too large is a fault in any case. -/
def interval (dialect : Dialect) (cs : List Char) :
    Except ScanError (Option (Nat × Option Nat) × List Char) := do
  let openLower := dialect.supports .openLowerBound
  let (min, afterMin) ← repeatCount (skipBlanks openLower cs)
  match skipBlanks openLower afterMin with
  | '\x7d' :: rest =>
    match min with
    | some n => return (some (n, some n), rest)
    | none => return (none, cs)
  | ',' :: afterComma =>
    let (max, afterMax) ← repeatCount (skipBlanks openLower afterComma)
    match skipBlanks openLower afterMax with
    | '\x7d' :: rest =>
      match min, max with
      | some min, max => return (some (min, max), rest)
      | none, some max => return if openLower then (some (0, some max), rest) else (none, cs)
      | none, none => return (none, cs)
    | _ => return (none, cs)
  | _ => return (none, cs)

/-- Reads the mark after a repetition that says how it backtracks. -/
def greed : List Char → Greed × List Char
  | '?' :: rest => (.lazy, rest)
  | '+' :: rest => (.possessive, rest)
  | cs => (.greedy, cs)

/-! ### What is left is a suffix -/

theorem ok_bind {ε α β : Type} {x : Except ε α} {f : α → Except ε β} {b : β}
    (h : (x >>= f) = .ok b) : ∃ a, x = .ok a ∧ f a = .ok b := by
  cases x with
  | error e => simp [bind, Except.bind] at h
  | ok a => exact ⟨a, rfl, h⟩

/-- A reader that ends here gives what it read and what it left. -/
theorem ok_inj {ε α β : Type} {a a' : α} {b b' : β}
    (h : (.ok (a, b) : Except ε (α × β)) = .ok (a', b')) : a = a' ∧ b = b' :=
  Prod.mk.inj (Except.ok.inj h)

theorem number_suffix {cs rest : List Char} {n : Option Nat} (h : number cs = .ok (n, rest)) :
    rest <:+ cs := by
  unfold number at h
  dsimp only at h
  split at h
  · exact (ok_inj h).2 ▸ List.suffix_refl cs
  · split at h
    · exact (ok_inj h).2 ▸ List.dropWhile_suffix _
    · simp [fail] at h

theorem repeatCount_suffix {cs rest : List Char} {n : Option Nat}
    (h : repeatCount cs = .ok (n, rest)) : rest <:+ cs := by
  unfold repeatCount at h
  dsimp only at h
  split at h
  · exact (ok_inj h).2 ▸ List.suffix_refl cs
  · split at h
    · exact (ok_inj h).2 ▸ List.dropWhile_suffix _
    · simp [fail] at h

theorem skipBlanks_suffix (allowed : Bool) (cs : List Char) : skipBlanks allowed cs <:+ cs := by
  unfold skipBlanks
  split
  · exact List.dropWhile_suffix _
  · exact List.suffix_refl _

/-- One character less is still a suffix. -/
theorem tail_suffix {c : Char} {cs rest : List Char} (h : c :: rest <:+ cs) : rest <:+ cs :=
  (List.suffix_cons c rest).trans h

theorem braced_suffix {escape : BracedEscape} {cs text rest : List Char}
    (h : braced escape cs = .ok (text, rest)) : rest <:+ cs := by
  unfold braced at h
  simp only [fail] at h
  split at h
  · simp at h
  · rename_i c r hd
    replace h := ok_inj h
    obtain ⟨_, rfl⟩ := h
    have hs := tail_suffix (hd ▸ List.dropWhile_suffix (· != '\x7d'))
    split at hs
    · exact hs.trans (List.suffix_cons _ _)
    · exact hs

theorem nameUntil_suffix {close : Char} {cs rest : List Char} {name : String}
    (h : nameUntil close cs = .ok (name, rest)) : rest <:+ cs := by
  unfold nameUntil at h
  simp only [fail] at h
  split at h
  · rename_i c r hd
    split at h
    · obtain ⟨_, _, h⟩ := ok_bind h
      replace h := ok_inj h
      exact h.2 ▸ tail_suffix (hd ▸ List.dropWhile_suffix _)
    · simp at h
  · simp at h

theorem takeSign_suffix (cs : List Char) : (takeSign cs).2 <:+ cs := by
  unfold takeSign
  split <;> simp

theorem greed_suffix (cs : List Char) : (greed cs).2 <:+ cs := by
  unfold greed
  split <;> simp

/-- Text that is no repetition is left as it is. -/
theorem interval_suffix {dialect : Dialect} {cs rest : List Char} {n : Option (Nat × Option Nat)}
    (h : interval dialect cs = .ok (n, rest)) : rest <:+ cs := by
  unfold interval at h
  obtain ⟨⟨min, afterMin⟩, hmin, h⟩ := ok_bind h
  have hmin := (repeatCount_suffix hmin).trans (skipBlanks_suffix _ _)
  dsimp only at h
  split at h
  · rename_i r hr
    have hr : r <:+ cs := tail_suffix (hr ▸ (skipBlanks_suffix _ _).trans hmin)
    split at h
    · exact (ok_inj h).2 ▸ hr
    · exact (ok_inj h).2 ▸ List.suffix_refl cs
  · rename_i afterComma hr
    have hcomma : afterComma <:+ cs := tail_suffix (hr ▸ (skipBlanks_suffix _ _).trans hmin)
    obtain ⟨⟨max, afterMax⟩, hmax, h⟩ := ok_bind h
    have hmax := ((repeatCount_suffix hmax).trans (skipBlanks_suffix _ _)).trans hcomma
    dsimp only at h
    split at h
    · rename_i r hr
      have hr : r <:+ cs := tail_suffix (hr ▸ (skipBlanks_suffix _ _).trans hmax)
      split at h
      · exact (ok_inj h).2 ▸ hr
      · split at h
        · exact (ok_inj h).2 ▸ hr
        · exact (ok_inj h).2 ▸ List.suffix_refl cs
      · exact (ok_inj h).2 ▸ List.suffix_refl cs
    · exact (ok_inj h).2 ▸ List.suffix_refl cs
  · exact (ok_inj h).2 ▸ List.suffix_refl cs

end PatternLint.Token
