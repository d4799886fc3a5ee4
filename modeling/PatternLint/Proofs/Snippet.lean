import Mathlib.Order.Bounds.Basic
import PatternLint.Proofs.Positions

/-!
# The line that an error shows

A snippet is made of the text before an offset and of the text behind it, each cut at the
newline that is nearest to the offset. So it falls into two questions that have nothing to do
with each other: at which place a text is split for an offset, and what is left of the two parts.

For the first, the split is at the greatest place that is not beyond the offset, whether the
offset is within the text or not, and within a character or not. For the second, `LineAt` says
what the line around a place is without a search for newlines, and there is one such line.
-/

namespace PatternLint

open Token (Boundary)

/-- The valid positions of a string are the places of its text. -/
theorem isValid_iff_boundary {body : String} {offset : Nat} :
    (String.Pos.Raw.mk offset).IsValid body ↔ Boundary body.toList offset := by
  refine ⟨fun h => ?_, isValid_of_boundary⟩
  obtain ⟨pre, post, rfl, hoffset⟩ := String.Pos.Raw.isValid_iff_exists_append.mp h
  refine ⟨pre.toList, post.toList, String.toList_append, ?_⟩
  rw [← Text.utf8ByteSize_eq]
  exact (congrArg String.Pos.Raw.byteIdx hoffset).symm

namespace Text

/-! ### Where a text is split -/

/-- A place of a text is its start or one behind its first character. -/
theorem boundary_cons_iff {c : Char} {cs : List Char} {o : Nat} :
    Boundary (c :: cs) o ↔ o = 0 ∨ ∃ p, Boundary cs p ∧ o = c.utf8Size + p := by
  constructor
  · rintro ⟨pre, post, hcs, rfl⟩
    cases pre with
    | nil => exact .inl rfl
    | cons d pre =>
        obtain ⟨rfl, rfl⟩ := List.cons.inj hcs
        exact .inr ⟨size pre, ⟨pre, post, rfl, rfl⟩, rfl⟩
  · rintro (rfl | ⟨p, ⟨pre, post, rfl, rfl⟩, rfl⟩)
    · exact ⟨[], c :: cs, rfl, rfl⟩
    · exact ⟨c :: pre, post, rfl, rfl⟩

/-- A text is split at the greatest of its places that are not beyond the offset. -/
theorem splitFloor_isGreatest (offset : Nat) (cs : List Char) :
    IsGreatest {o | Boundary cs o ∧ o ≤ offset} (size (splitFloor offset cs).1) := by
  induction cs generalizing offset with
  | nil =>
      refine ⟨⟨⟨[], [], rfl, rfl⟩, Nat.zero_le _⟩, ?_⟩
      rintro o ⟨ho, -⟩
      exact ho.le_size
  | cons c cs ih =>
      by_cases hc : c.utf8Size ≤ offset
      · obtain ⟨⟨hplace, hle⟩, hgreatest⟩ := ih (offset - c.utf8Size)
        simp only [splitFloor, if_pos hc, size_cons]
        refine ⟨⟨boundary_cons_iff.mpr (.inr ⟨_, hplace, rfl⟩), by omega⟩, ?_⟩
        rintro o ⟨ho, hoffset⟩
        rcases boundary_cons_iff.mp ho with rfl | ⟨p, hp, rfl⟩
        · exact Nat.zero_le _
        · have hpoffset : p ≤ offset - c.utf8Size := by omega
          exact Nat.add_le_add_left (hgreatest ⟨hp, hpoffset⟩) _
      · simp only [splitFloor, if_neg hc, size_nil]
        refine ⟨⟨boundary_cons_iff.mpr (.inl rfl), Nat.zero_le _⟩, ?_⟩
        rintro o ⟨ho, hoffset⟩
        rcases boundary_cons_iff.mp ho with rfl | ⟨p, -, rfl⟩
        · exact Nat.le_refl _
        · omega

/-! ### Lines -/

/-- The line around a place of a text, in front of the place and behind it. On both sides it goes
up to a newline or to the end of the text. -/
structure LineAt (cs : List Char) (place : Nat) (lead tail : List Char) : Prop where
  lead_line : '\n' ∉ lead
  tail_line : '\n' ∉ tail
  around : ∃ above below, cs = (above ++ lead) ++ (tail ++ below) ∧ size (above ++ lead) = place ∧
    (above = [] ∨ above.getLast? = some '\n') ∧ (below = [] ∨ below.head? = some '\n')

section Line

variable {cs above lead tail below : List Char}

theorem bne_newline_of_not_mem (h : '\n' ∉ cs) : ∀ c ∈ cs, (c != '\n') = true := by
  intro c hc
  rw [bne_iff_ne]
  rintro rfl
  exact h hc

theorem takeWhile_newline (h : below = [] ∨ below.head? = some '\n') :
    below.takeWhile (· != '\n') = [] := by
  rcases h with rfl | h
  · rfl
  · obtain ⟨rest, rfl⟩ := List.head?_eq_some_iff.mp h
    rfl

/-- A text with a line behind its last newline ends in that line. -/
theorem lastLine_append (hlead : '\n' ∉ lead) (habove : above = [] ∨ above.getLast? = some '\n') :
    lastLine (above ++ lead) = lead := by
  have hreverse : above.reverse = [] ∨ above.reverse.head? = some '\n' := by
    simpa only [List.reverse_eq_nil_iff, List.head?_reverse] using habove
  rw [lastLine, List.reverse_append, List.takeWhile_append_of_pos, takeWhile_newline hreverse,
    List.append_nil, List.reverse_reverse]
  exact bne_newline_of_not_mem (by simpa using hlead)

/-- A text with a line before its first newline begins with that line. -/
theorem firstLine_append (htail : '\n' ∉ tail) (hbelow : below = [] ∨ below.head? = some '\n') :
    firstLine (tail ++ below) = tail := by
  rw [firstLine, List.takeWhile_append_of_pos (bne_newline_of_not_mem htail),
    takeWhile_newline hbelow, List.append_nil]

/-- Every text begins with a line. -/
theorem exists_firstLine (cs : List Char) :
    ∃ below, cs = firstLine cs ++ below ∧ '\n' ∉ firstLine cs ∧
      (below = [] ∨ below.head? = some '\n') := by
  refine ⟨cs.dropWhile (· != '\n'), List.takeWhile_append_dropWhile.symm,
    Token.not_mem_takeWhile_ne '\n' cs, ?_⟩
  have hhead := List.head?_dropWhile_not (· != '\n') cs
  cases hd : cs.dropWhile (· != '\n') with
  | nil => exact .inl rfl
  | cons c rest =>
      rw [hd] at hhead
      exact .inr (by simpa using hhead)

/-- Every text ends in a line. -/
theorem exists_lastLine (cs : List Char) :
    ∃ above, cs = above ++ lastLine cs ∧ '\n' ∉ lastLine cs ∧
      (above = [] ∨ above.getLast? = some '\n') := by
  obtain ⟨above, hcs, hline, habove⟩ := exists_firstLine cs.reverse
  refine ⟨above.reverse, ?_, by simpa [lastLine, firstLine] using hline, ?_⟩
  · have hreverse := congrArg List.reverse hcs
    rw [List.reverse_append, List.reverse_reverse] at hreverse
    exact hreverse
  · simpa only [List.reverse_eq_nil_iff, List.getLast?_reverse] using habove

/-- The line around a place is what stands before the first newline behind it and behind the last
newline before it. -/
theorem lineAt_iff {before after : List Char} :
    LineAt (before ++ after) (size before) lead tail ↔
      lead = lastLine before ∧ tail = firstLine after := by
  constructor
  · rintro ⟨hlead, htail, above, below, hcs, hsize, habove, hbelow⟩
    obtain ⟨rfl, rfl⟩ := append_inj_of_size hcs hsize.symm
    exact ⟨(lastLine_append hlead habove).symm, (firstLine_append htail hbelow).symm⟩
  · rintro ⟨rfl, rfl⟩
    obtain ⟨above, hbefore, hlead, habove⟩ := exists_lastLine before
    obtain ⟨below, hafter, htail, hbelow⟩ := exists_firstLine after
    refine ⟨hlead, htail, above, below, ?_, ?_, habove, hbelow⟩
    · rw [← hbefore, ← hafter]
    · rw [← hbefore]

end Line

/-- A snippet shows the line around the greatest place of the text that is not beyond the offset,
and a caret below it, behind as many blanks as the line has characters before the place. The offset
may be any number: one beyond the text stands for the end of the text, and one within a character
for the start of the character. -/
theorem snippet_shows_line (body : String) (offset : Nat) :
    ∃ place lead tail,
      IsGreatest {o | (String.Pos.Raw.mk o).IsValid body ∧ o ≤ min offset body.utf8ByteSize}
        place ∧
      (∀ lead' tail', LineAt body.toList place lead' tail' ↔ lead' = lead ∧ tail' = tail) ∧
      snippet body offset =
        String.ofList (lead ++ tail ++ ['\n'] ++ List.replicate lead.length ' ' ++ ['^']) := by
  obtain ⟨before, after, hsplit⟩ : ∃ before after,
      splitFloor offset body.toList = (before, after) := ⟨_, _, rfl⟩
  have hbody := splitFloor_append offset body.toList
  have hgreatest := splitFloor_isGreatest offset body.toList
  rw [hsplit] at hbody hgreatest
  refine ⟨size before, lastLine before, firstLine after, ?_, fun lead tail => ?_, ?_⟩
  · have hplaces : {o | (String.Pos.Raw.mk o).IsValid body ∧ o ≤ min offset body.utf8ByteSize} =
        {o | Boundary body.toList o ∧ o ≤ offset} := by
      ext o
      simp only [Set.mem_ofPred_eq, isValid_iff_boundary, Nat.le_min, utf8ByteSize_eq]
      exact ⟨fun h => ⟨h.1, h.2.1⟩, fun h => ⟨h.1, h.2, h.1.le_size⟩⟩
    rw [hplaces]
    exact hgreatest
  · rw [← hbody]
    exact lineAt_iff
  · simp [snippet, hsplit]

/-- The offset is in the middle of a character of two bytes, in the second line. -/
example : snippet "a\nb\u00e9c\nd" 4 = "b\u00e9c\n ^" := by cbv

end Text

end PatternLint
