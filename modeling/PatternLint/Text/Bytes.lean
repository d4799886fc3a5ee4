/-!
# Texts measured in bytes

Offsets count the bytes of the UTF-8 form of a text, while the text itself is
read as a list of characters. The functions here go from one to the other: the
size of a text, the characters before an offset, and the text between two
offsets. An offset that falls inside a character is not a boundary.
-/

namespace PatternLint.Text

/-- The number of bytes that a text takes in UTF-8. -/
def size : List Char → Nat
  | [] => 0
  | c :: cs => c.utf8Size + size cs

@[simp] theorem size_nil : size [] = 0 := rfl

@[simp] theorem size_cons (c : Char) (cs : List Char) : size (c :: cs) = c.utf8Size + size cs := rfl

@[simp] theorem size_append (as bs : List Char) : size (as ++ bs) = size as + size bs := by
  induction as with
  | nil => simp
  | cons c cs ih => simp [ih, Nat.add_assoc]

/-- Splits a text at the last character boundary that is at most `offset`. -/
def splitFloor : Nat → List Char → List Char × List Char
  | _, [] => ([], [])
  | offset, c :: cs =>
    if c.utf8Size ≤ offset then
      let (before, after) := splitFloor (offset - c.utf8Size) cs
      (c :: before, after)
    else ([], c :: cs)

/-- Nothing is lost by splitting. -/
theorem splitFloor_append (offset : Nat) (cs : List Char) :
    (splitFloor offset cs).1 ++ (splitFloor offset cs).2 = cs := by
  induction cs generalizing offset with
  | nil => simp [splitFloor]
  | cons c cs ih => by_cases h : c.utf8Size ≤ offset <;> simp [splitFloor, h, ih]

/-- Splits a text at `offset`, if that is a character boundary of it. -/
def splitAt? (offset : Nat) (cs : List Char) : Option (List Char × List Char) :=
  let (before, after) := splitFloor offset cs
  if size before = offset then some (before, after) else none

/-- The text between two offsets, if both are boundaries and in order. -/
def slice? (start stop : Nat) (cs : List Char) : Option (List Char) := do
  guard (start ≤ stop)
  let (_, rest) ← splitAt? start cs
  let (piece, _) ← splitAt? (stop - start) rest
  return piece

/-- A text splits where its first part ends. -/
theorem splitFloor_size (pre post : List Char) :
    splitFloor (size pre) (pre ++ post) = (pre, post) := by
  induction pre with
  | nil =>
      cases post with
      | nil => rfl
      | cons c cs =>
          have hc : ¬ c.utf8Size ≤ 0 := Nat.not_le.mpr c.utf8Size_pos
          simp [splitFloor, hc]
  | cons c pre ih => simp [splitFloor, ih]

theorem splitAt?_size (pre post : List Char) :
    splitAt? (size pre) (pre ++ post) = some (pre, post) := by
  simp [splitAt?, splitFloor_size]

/-- Where a text is split is said by the size of its first part. -/
theorem append_inj_of_size {pre pre' post post' : List Char} (h : pre ++ post = pre' ++ post')
    (hsize : size pre = size pre') : pre = pre' ∧ post = post' := by
  have hsplit := splitAt?_size pre post
  rw [h, hsize, splitAt?_size, Option.some.injEq, Prod.mk.injEq] at hsplit
  exact ⟨hsplit.1.symm, hsplit.2.symm⟩

/-- The text between two offsets is the part of which they are the ends. -/
theorem slice?_eq_some {start stop : Nat} {cs piece : List Char} (pre post : List Char)
    (hcs : cs = pre ++ (piece ++ post)) (hstart : start = size pre)
    (hstop : stop = start + size piece) : slice? start stop cs = some piece := by
  subst hcs hstart hstop
  have hle : size pre ≤ size pre + size piece := Nat.le_add_right _ _
  show ((if size pre ≤ size pre + size piece then some () else none).bind fun _ =>
    (splitAt? (size pre) (pre ++ (piece ++ post))).bind fun parts =>
      (splitAt? (size pre + size piece - size pre) parts.2).bind fun parts => some parts.1) = _
  rw [if_pos hle, Option.bind_some, splitAt?_size, Option.bind_some, Nat.add_sub_cancel_left,
    splitAt?_size, Option.bind_some]

/-- The rest of `cs` after a leading `word`, if it has one. -/
def stripWord : List Char → List Char → Option (List Char)
  | [], cs => some cs
  | w :: ws, c :: cs => if w = c then stripWord ws cs else none
  | _ :: _, [] => none

end PatternLint.Text
