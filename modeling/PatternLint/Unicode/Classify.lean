import PatternLint.Unicode.DerivedProperty

/-!
# Kinds of characters

The few questions about single characters that reading and writing patterns asks.
ASCII characters are decided directly and only the others by the tables. Names
may have the letters and numbers of Unicode 17, so what that version added to
the property tables is listed here.

There are so many characters that what is said of all of them is not decided by
trying each. What is said of the characters of a list is.
-/

namespace PatternLint.Unicode

noncomputable instance decidableForall (p : Char → Prop) : Decidable (∀ c, p c) :=
  Classical.propDecidable _

instance decidableForallMem (p : Char → Prop) [DecidablePred p] (cs : List Char) :
    Decidable (∀ c ∈ cs, p c) :=
  List.decidableBAll p cs

/-- The alphabetic characters that Unicode 17 added. -/
def addedLetters : Ranges := readRows
  ["88f c5c cdc a7ce-a7cf a7d2 a7d4 a7f1 10940-10959 10ec5-10ec7 10efa-10efb 11b60-11b67",
   "11db0-11ddb 16ea0-16eb8 16ebb-16ed3 16ff2-16ff6 187f8-187ff 18d09-18d1e 18d80-18df2",
   "1e6c0-1e6de 1e6e0-1e6f5 1e6fe-1e6ff 2b73a-2b73f 2cea2-2cead 323b0-33479"]

/-- The numbers that Unicode 17 added. -/
def addedNumbers : Ranges := readRows ["11de0-11de9 16ff4-16ff6"]

/-- The ranges of the alphabetic characters. -/
def alphabeticRanges : Ranges := (propertyQuery? "alphabetic").getD [] ++ addedLetters

/-- The ranges of the characters that are numbers: digits, letter-like numbers and others. -/
def numericRanges : Ranges := rangesOf categories ["nd", "nl", "no"] ++ addedNumbers

/-- The ranges of the blank characters. -/
def whiteSpaceRanges : Ranges := rangesOf listedProperties ["whitespace"]

/-- Whether a character is an ASCII letter. -/
def isAsciiLetter (c : Char) : Bool := ('a' ≤ c ∧ c ≤ 'z') ∨ ('A' ≤ c ∧ c ≤ 'Z')

/-- Whether a character is an ASCII digit. -/
def isAsciiDigit (c : Char) : Bool := '0' ≤ c ∧ c ≤ '9'

/-- Whether a character is alphabetic. -/
def isAlphabetic (c : Char) : Bool :=
  if c.toNat < 0x80 then isAsciiLetter c else alphabeticRanges.has c.toNat

/-- Whether a character is alphabetic or a number. -/
def isAlphanumeric (c : Char) : Bool :=
  if c.toNat < 0x80 then isAsciiLetter c || isAsciiDigit c
  else alphabeticRanges.has c.toNat || numericRanges.has c.toNat

/-- Whether a character is blank. -/
def isWhiteSpace (c : Char) : Bool :=
  if c.toNat < 0x80 then c == ' ' || decide (9 ≤ c.toNat ∧ c.toNat ≤ 13)
  else whiteSpaceRanges.has c.toNat

/-- Whether a character is a control character. -/
def isControl (c : Char) : Bool := c.toNat < 0x20 || decide (0x7f ≤ c.toNat ∧ c.toNat ≤ 0x9f)

/-- Whether a character is one of the ASCII punctuation marks and symbols. -/
def isAsciiPunctuation (c : Char) : Bool :=
  decide (0x21 ≤ c.toNat ∧ c.toNat ≤ 0x7e) && !isAsciiLetter c && !isAsciiDigit c

end PatternLint.Unicode
