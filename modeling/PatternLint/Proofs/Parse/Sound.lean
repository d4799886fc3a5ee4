import PatternLint.Proofs.Parse.Formed
import PatternLint.Proofs.Text.Characters

/-!
# What the parser accepts is formed

The scanner and the parser run side by side. The scanner knows which blanks are
skipped and remembers it for every open group; the parser knows the flags. That
the two never differ is the first part of the invariant here, and it is what makes
the flags of the parser decide how a literal can have been written. The second
part is that all that has been read at every level is formed, from the environment
that the level was entered in to the one that it has come to.
-/

namespace PatternLint

open Token Unicode Text

/-! ### Flags -/

namespace Flags

/-- Two words have a flag in common if they have a bit in common. -/
theorem has_iff {f bits : Flags} :
    f.has bits = true ↔ ∃ i, f.getLsbD i = true ∧ bits.getLsbD i = true := by
  simp only [has, bne_iff_ne, ne_eq]
  constructor
  · intro h
    apply Classical.byContradiction
    intro hnone
    refine h (BitVec.eq_of_getLsbD_eq fun i _ => ?_)
    simp only [BitVec.getLsbD_and, BitVec.getLsbD_zero, Bool.and_eq_false_iff]
    cases hf : f.getLsbD i with
    | false => exact .inl rfl
    | true => exact .inr (by simpa [hf] using fun h => hnone ⟨i, hf, h⟩)
  · rintro ⟨i, hf, hb⟩ h
    have hbit := congrArg (BitVec.getLsbD · i) h
    simp [hf, hb] at hbit

variable {g bits : Flags}

/-- Taking away flags that are none of `bits` leaves `bits` as they are. -/
theorem without_and (h : g &&& bits = 0#32) (f : Flags) : (f &&& ~~~g) &&& bits = f &&& bits := by
  ext i hi
  have hbit : (g[i] && bits[i]) = false := by
    rw [← BitVec.getElem_and, h, BitVec.getElem_zero]
  simp only [BitVec.getElem_and, BitVec.getElem_not]
  cases hb : bits[i] with
  | false => simp only [Bool.and_false]
  | true =>
    rw [hb, Bool.and_true] at hbit
    rw [hbit, Bool.not_false, Bool.and_true]

/-- So does adding them. -/
theorem or_and (h : g &&& bits = 0#32) (f : Flags) : (f ||| g) &&& bits = f &&& bits := by
  ext i hi
  have hbit : (g[i] && bits[i]) = false := by
    rw [← BitVec.getElem_and, h, BitVec.getElem_zero]
  simp only [BitVec.getElem_and, BitVec.getElem_or, Bool.and_or_distrib_right, hbit, Bool.or_false]

end Flags

namespace FlagChange

/-- A change can be applied to the spacing alone. -/
theorem apply_spacing (change : FlagChange) (f : Flags) :
    change.apply (f &&& Flags.spacing) &&& Flags.spacing = change.apply f &&& Flags.spacing := by
  simp only [apply]
  ext i hi
  cases hs : Flags.spacing[i] with
  | false => simp only [BitVec.getElem_and, hs, Bool.and_false]
  | true =>
    split <;> simp only [BitVec.getElem_and, BitVec.getElem_or, BitVec.getElem_not, hs, Bool.and_true]

/-- Whether a pattern is Unicode text is not for an inline setting to change. -/
theorem has_unicode_apply {change : FlagChange} {dialect : Dialect}
    (h : ChangeWritten dialect change) (f : Flags) :
    (change.apply f).has Flags.unicode = f.has Flags.unicode := by
  have hinline : ∀ g : Flags,
      g &&& ~~~(Flags.resettable ||| Flags.duplicateNames ||| Flags.swapGreed) = 0#32 →
      g &&& Flags.unicode = 0#32 := by
    intro g hg
    have hpart : Flags.unicode = Flags.unicode &&&
        ~~~(Flags.resettable ||| Flags.duplicateNames ||| Flags.swapGreed) := by decide
    rw [hpart, BitVec.and_comm Flags.unicode, ← BitVec.and_assoc, hg, BitVec.zero_and]
  have hreset : Flags.resettable &&& Flags.unicode = 0#32 := by decide
  have hsame : change.apply f &&& Flags.unicode = f &&& Flags.unicode := by
    rw [apply, Flags.without_and (hinline _ h.off.inline), Flags.or_and (hinline _ h.on.inline)]
    split
    · exact Flags.without_and hreset f
    · rfl
  rw [Flags.has, Flags.has, hsame]

end FlagChange

namespace Parse

/-! ### Levels -/

/-- The environment that the current branch of a level starts in. -/
def Level.StartsFrom (ctx : Context) (limit depth : Nat) (alike : Bool) (l : Level)
    (entry start : Env) : Prop :=
  if alike then ∃ last, FormedAlike ctx limit l.done.reverse depth l.base l.base l.highest entry last ∧
    start = { last with captures := l.base }
  else FormedAll ctx limit l.done.reverse depth .branch entry start

/-- A level whose branches and items are formed, from the environment it was entered in to another
one. -/
structure Level.Formed (ctx : Context) (limit depth : Nat) (alike : Bool) (l : Level)
    (entry e : Env) : Prop where
  base : l.base = entry.captures
  items : ∃ start, l.StartsFrom ctx limit depth alike entry start ∧
    FormedAll ctx limit l.items.reverse depth .item start e

namespace Level

variable {ctx : Context} {limit depth : Nat} {alike : Bool} {l : Level} {entry start e e' : Env}
  {n : Node}

theorem formed_new (ctx : Context) (limit depth : Nat) (alike : Bool) (next : Nat) (e : Env) :
    (Level.new next e.captures).Formed ctx limit depth alike e e := by
  refine ⟨rfl, e, ?_, rfl⟩
  unfold StartsFrom
  split
  · exact ⟨e, ⟨rfl, rfl⟩, rfl⟩
  · rfl

theorem Formed.push (h : l.Formed ctx limit depth alike entry e)
    (hn : PatternLint.Formed ctx limit n depth .item e e') :
    (l.push n).Formed ctx limit depth alike entry e' := by
  obtain ⟨hbase, start, hstart, hitems⟩ := h
  refine ⟨hbase, start, hstart, ?_⟩
  simp only [Level.push, List.reverse_cons]
  exact formedAll_append.mpr ⟨e, hitems, formedAll_singleton.mpr hn⟩

/-- The items of a branch are formed as a branch. -/
theorem formed_branch (h : FormedAll ctx limit l.items.reverse depth .item start e) :
    PatternLint.Formed ctx limit l.branch depth .branch start e := by
  unfold Level.branch
  split
  · next hi =>
      rw [hi] at h
      exact .inl ⟨rfl, by simp, h⟩
  · next n hi =>
      rw [hi] at h
      exact (formedAll_singleton.mp h).of_item .branch
  · next last rest hne hi =>
      refine ⟨by simp, ?_, h⟩
      have hpos : rest.length ≠ 0 := fun h => hne (List.eq_nil_of_length_eq_zero h)
      rw [hi, List.length_reverse, List.length_cons]
      omega

/-- All that has been read at a level, as the body of a parenthesis. -/
theorem Formed.node (h : l.Formed ctx limit depth false entry e) :
    PatternLint.Formed ctx limit l.node depth (.body false) entry e := by
  obtain ⟨-, start, hstart, hitems⟩ := h
  have hdone : FormedAll ctx limit l.done.reverse depth .branch entry start := hstart
  have hbranch := formed_branch hitems
  unfold Level.node
  split
  · next hd =>
      rw [hd] at hdone
      obtain rfl : start = entry := hdone
      exact hbranch.of_branch false
  · next hd =>
      refine ⟨by simp [hd], .inl ⟨rfl, ?_⟩⟩
      exact formedAll_append.mpr ⟨start, hdone, formedAll_singleton.mpr hbranch⟩

/-- The same where branches are numbered alike: the count goes on from the highest. -/
theorem Formed.node_alike (h : l.Formed ctx limit depth true entry e) :
    PatternLint.Formed ctx limit l.node depth (.body true) entry
      { e with captures := max l.highest e.captures } := by
  obtain ⟨hbase, start, hstart, hitems⟩ := h
  obtain ⟨last, hdone, rfl⟩ : ∃ last,
      FormedAlike ctx limit l.done.reverse depth l.base l.base l.highest entry last ∧
        start = { last with captures := l.base } := hstart
  have hbranch := formed_branch hitems
  unfold Level.node
  split
  · next hd =>
      rw [hd] at hdone
      obtain ⟨hhigh, rfl⟩ : l.highest = l.base ∧ last = entry := hdone
      have hle : l.base ≤ e.captures := hbranch.captures_le
      have he : ({ e with captures := max l.highest e.captures } : Env) = e := by
        rw [hhigh, Nat.max_eq_right hle]
      rw [he]
      have hstart : ({ last with captures := l.base } : Env) = last := by rw [hbase]
      exact (hstart ▸ hbranch).of_branch true
  · next hd =>
      refine ⟨by simp [hd], .inr ⟨rfl, max l.highest e.captures, e, ?_, rfl⟩⟩
      rw [← hbase]
      exact formedAlike_snoc hdone hbranch

/-- The only branch of a level. -/
theorem Formed.single (h : l.Formed ctx limit depth false entry e) (hd : l.done = []) :
    PatternLint.Formed ctx limit l.branch depth .branch entry e := by
  obtain ⟨-, start, hstart, hitems⟩ := h
  have hdone : FormedAll ctx limit l.done.reverse depth .branch entry start := hstart
  rw [hd] at hdone
  obtain rfl : start = entry := hdone
  exact formed_branch hitems

/-- The two branches of a level. -/
theorem Formed.double (h : l.Formed ctx limit depth false entry e) (hd : l.done = [n]) :
    ∃ mid, PatternLint.Formed ctx limit n depth .branch entry mid ∧
      PatternLint.Formed ctx limit l.branch depth .branch mid e := by
  obtain ⟨-, start, hstart, hitems⟩ := h
  have hdone : FormedAll ctx limit l.done.reverse depth .branch entry start := hstart
  rw [hd] at hdone
  exact ⟨start, formedAll_singleton.mp hdone, formed_branch hitems⟩

theorem Formed.nextBranch (h : l.Formed ctx limit depth false entry e) (next highest : Nat) :
    Level.Formed ctx limit depth false { l.nextBranch next with highest } entry e := by
  obtain ⟨hbase, start, hstart, hitems⟩ := h
  refine ⟨hbase, e, ?_, rfl⟩
  show FormedAll ctx limit (l.branch :: l.done).reverse depth .branch entry e
  rw [List.reverse_cons]
  exact formedAll_append.mpr ⟨start, hstart, formedAll_singleton.mpr (formed_branch hitems)⟩

theorem Formed.nextBranch_alike (h : l.Formed ctx limit depth true entry e) (next : Nat) :
    Level.Formed ctx limit depth true
      { l.nextBranch next with highest := max l.highest e.captures } entry
      { e with captures := l.base } := by
  obtain ⟨hbase, start, hstart, hitems⟩ := h
  obtain ⟨last, hdone, rfl⟩ : ∃ last,
      FormedAlike ctx limit l.done.reverse depth l.base l.base l.highest entry last ∧
        start = { last with captures := l.base } := hstart
  refine ⟨hbase, { e with captures := l.base }, ⟨e, ?_, rfl⟩, rfl⟩
  show FormedAlike ctx limit (l.branch :: l.done).reverse depth l.base l.base
    (max l.highest e.captures) entry e
  rw [List.reverse_cons]
  exact formedAlike_snoc hdone (formed_branch hitems)

end Level

/-! ### Open parentheses -/

/-- The number of open parentheses. -/
def depthOf (frames : List Frame) : Nat := frames.foldr (fun f n => f.construct.parens + n) 0

/-- The spacings that the scanner restores as the parentheses close. -/
def savedBy (frames : List Frame) : List Flags :=
  frames.flatMap fun f => List.replicate f.construct.parens (f.flags &&& Flags.spacing)

/-- A construct that was opened in one environment and whose level was entered in another. -/
def Construct.Formed (ctx : Context) (limit depth : Nat) (inner : Level) (e entry : Env) :
    Construct → Prop
  | .group head => depth + 1 ≤ limit ∧ HeadFormed ctx e head entry
  | .define => depth + 1 ≤ limit ∧ entry = e
  | .assertion look => depth + 2 ≤ limit ∧ look.isAtomic = true ∧ entry = e
  | .conditional test => depth + 1 ≤ limit ∧ FormedTest ctx limit test (depth + 1) e entry ∧
      inner.done.length ≤ 1

/-- Open parentheses around a level that was entered in some environment. Outside of them all is
the environment that the pattern starts in. -/
def FramesFormed (ctx : Context) (limit : Nat) (initial : Env) :
    List Frame → Level → Env → Prop
  | [], _, entry => entry = initial
  | f :: fs, inner, entry => ∃ outer e,
      f.outer.Formed ctx limit (depthOf fs) (resets fs) outer e ∧ f.flags = e.flags ∧
      f.construct.Formed ctx limit (depthOf fs) inner e entry ∧
      FramesFormed ctx limit initial fs f.outer outer

theorem FramesFormed.of_eq {ctx : Context} {limit : Nat} {initial : Env} {frames : List Frame}
    {l l' : Level} {entry : Env} (h : FramesFormed ctx limit initial frames l entry)
    (hdone : l'.done = l.done) : FramesFormed ctx limit initial frames l' entry := by
  cases frames with
  | nil => exact h
  | cons f fs =>
      obtain ⟨outer, e, houter, hflags, hconstruct, hrest⟩ := h
      refine ⟨outer, e, houter, hflags, ?_, hrest⟩
      unfold Construct.Formed at hconstruct ⊢
      split at hconstruct <;> simpa only [hdone] using hconstruct

/-! ### Classes -/

namespace OpenClass

/-- An open class whose members can have been read under a spacing. -/
structure Formed (ctx : Context) (spacing : Flags) (c : OpenClass) : Prop where
  members : MembersFormed ctx spacing c.caseless c.settled.members
  left : ∀ l ∈ c.left, ClassFormed ctx spacing c.caseless l.1 ∧ l.2 ≠ .union ∧
    ctx.dialect.supports .classSetOperations = true

variable {ctx : Context} {spacing : Flags} {caseless : Bool} {c c' : OpenClass} {t : Token}
  {ns : List Node} {n : Node}

theorem membersFormed_cons {span : Span} {a : Atom} (ha : a.MemberFormed ctx spacing caseless)
    (h : MembersFormed ctx spacing caseless ns) :
    MembersFormed ctx spacing caseless (.atom span a :: ns) := by
  intro n hn
  rcases List.mem_cons.mp hn with rfl | hn
  · exact ⟨span, a, rfl, ha⟩
  · exact h n hn

theorem unionOf_formed (h : MembersFormed ctx spacing caseless ns) (offset : Nat) :
    OperandFormed ctx spacing caseless (unionOf ns offset) := by
  unfold unionOf
  split
  · exact .inl rfl
  · next m =>
      obtain ⟨span, a, rfl, ha⟩ := h m (by simp)
      exact .inr h
  · next m rest hne =>
      refine ⟨?_, h⟩
      have hpos : rest.length ≠ 0 := fun h => hne (List.eq_nil_of_length_eq_zero h)
      rw [List.length_cons]
      omega

theorem OperandFormed.classFormed (h : OperandFormed ctx spacing caseless n) :
    ClassFormed ctx spacing caseless n := by
  unfold OperandFormed at h
  split at h
  · unfold ClassFormed
    exact h
  · unfold ClassFormed
    exact h
  · exact h.elim

theorem setOperation_formed {pending : Option (Node × ClassOp)}
    (hl : ∀ l ∈ pending, ClassFormed ctx spacing caseless l.1 ∧ l.2 ≠ .union ∧
      ctx.dialect.supports .classSetOperations = true)
    (hr : OperandFormed ctx spacing caseless n) :
    ClassFormed ctx spacing caseless (setOperation pending n) := by
  unfold setOperation
  split
  · exact OperandFormed.classFormed hr
  · next l op =>
      obtain ⟨hleft, hop, hsupports⟩ := hl (l, op) rfl
      cases op with
      | union => exact absurd rfl hop
      | intersection =>
          unfold ClassFormed
          exact ⟨hsupports, hleft, hr⟩
      | subtraction =>
          unfold ClassFormed
          exact ⟨hsupports, hleft, hr⟩

theorem Formed.expr (h : c.Formed ctx spacing) (offset : Nat) :
    ClassFormed ctx spacing c.caseless
      (setOperation c.settled.left (unionOf c.settled.members.reverse offset)) := by
  rw [settled_left]
  exact setOperation_formed h.left
    (unionOf_formed (fun n hn => h.members n (List.mem_reverse.mp hn)) offset)

/-- The atom of a token inside a class is a member of it. -/
theorem MemberOf.formed {k : TokenKind} {a : Atom} (h : MemberOf caseless k a)
    (hk : (∃ v, k = .escaped v .quoted) ∨ ∃ fresh, ClassLexeme ctx spacing fresh k) :
    a.MemberFormed ctx spacing caseless := by
  cases h with
  | literal v =>
      rcases hk with ⟨v, hv⟩ | ⟨fresh, hk⟩
      · cases hv
      · exact ⟨rfl, hk.1, hk.2.2.2⟩
  | escaped v form =>
      refine ⟨rfl, ?_⟩
      rcases hk with ⟨v, hv⟩ | ⟨fresh, hk⟩
      · cases hv
        trivial
      · exact FormWritten.literalFormed hk spacing
  | hyphen => exact ⟨rfl, by decide, fun _ => by decide⟩
  | shorthand kind negated =>
      rcases hk with ⟨v, hv⟩ | ⟨fresh, hk⟩
      · cases hv
      · exact hk
  | posix negated hp =>
      rcases hk with ⟨v, hv⟩ | ⟨fresh, hk⟩
      · cases hv
      · exact ⟨hp, hk⟩

theorem ClassMove.formed (hm : ClassMove c t (.more c')) (h : c.Formed ctx spacing)
    (hk : (∃ v, t.kind = .escaped v .quoted) ∨ ∃ fresh, ClassLexeme ctx spacing fresh t.kind) :
    c'.Formed ctx spacing ∧ c'.caseless = c.caseless ∧ t.kind ≠ .classClose := by
  cases hm with
  | @operate op ho =>
      have hs : (c.settled.operate op t).settled = c.settled.operate op t :=
        settled_of_none (settled_pending c)
      have hcaseless : (c.settled.operate op t).caseless = c.caseless := settled_caseless c
      have hsupports : op ≠ .union ∧ ctx.dialect.supports .classSetOperations = true ∧
          t.kind ≠ .classClose := by
        generalize t.kind = k at ho hk
        cases ho with
        | _ =>
            rcases hk with ⟨v, hv⟩ | ⟨fresh, hk⟩
            · cases hv
            · exact ⟨by simp, hk, by simp⟩
      refine ⟨⟨?_, ?_⟩, hcaseless, hsupports.2.2⟩
      · rw [hs]
        exact fun _ hn => nomatch hn
      · rw [hcaseless]
        rintro l ⟨⟩
        exact ⟨h.expr t.start, hsupports.1, hsupports.2.1⟩
  | @hold a ha =>
      have hcaseless : ({ c.settled with pending := Pending.member (.atom t.span a) } :
        OpenClass).caseless = c.caseless := settled_caseless c
      refine ⟨⟨?_, ?_⟩, hcaseless, ?_⟩
      · rw [hcaseless]
        exact membersFormed_cons (MemberOf.formed ha hk) h.members
      · rw [hcaseless, show ({ c.settled with pending := Pending.member (.atom t.span a) } :
          OpenClass).left = c.left from settled_left c]
        exact h.left
      · generalize t.kind = k at ha
        cases ha <;> simp
  | @hyphen m hp hkind =>
      have hmembers := h.members
      rw [settled_of_member hp] at hmembers
      refine ⟨⟨?_, h.left⟩, rfl, by simp [hkind]⟩
      rw [settled_of_hyphen rfl]
      exact membersFormed_cons ⟨rfl, by decide, fun _ => by decide⟩ hmembers
  | @range m hy x y form hp hb hle =>
      have hmembers := h.members
      rw [settled_of_hyphen hp] at hmembers
      refine ⟨⟨?_, h.left⟩, rfl, ?_⟩
      · rw [settled_of_none rfl]
        exact membersFormed_cons hle fun n hn => hmembers n (by simp [hn])
      · generalize t.kind = k at hb
        cases hb <;> simp

end OpenClass

/-! ### States -/

/-- A state of the parser beside a mode of the scanner: the two agree on the blanks that are
skipped now and around every open parenthesis, and on whether a class is open, and all that has
been read is formed. -/
structure State.Formed (ctx : Context) (limit : Nat) (initial : Env) (m : Mode) (st : State) :
    Prop where
  spacing : m.spacing = st.env.spacing
  saved : m.saved = savedBy st.frames
  place : m.place = .outside ↔ st.openClass = none
  level : ∃ entry, st.level.Formed ctx limit (depthOf st.frames) (resets st.frames) entry st.env ∧
    FramesFormed ctx limit initial st.frames st.level entry
  members : ∀ c ∈ st.openClass, c.Formed ctx st.env.spacing ∧ c.caseless = st.env.caseless
  utf : ∀ flags ∈ st.flags :: st.frames.map Frame.flags,
    flags.has Flags.unicode = true → ctx.utf = true

section Atoms

variable {ctx : Context} {e : Env} {m : Mode} {text : List Char} {k : TokenKind} {a : Atom}

theorem Means.formed {ref : Reference} {r : GroupRef} {count : Nat} (h : Means count ref r)
    (hw : ReferenceWritten ref) : RefFormed count r := by
  cases h with
  | number n => exact hw
  | name s => exact hw
  | relative hr hpos hle => exact ⟨hw, .relative hr hpos hle⟩

/-- The atom of a token outside a class is formed. -/
theorem AtomOf.formed (h : AtomOf e k a)
    (hk : (∃ v, k = .escaped v .quoted) ∨ OutsideLexeme ctx e.spacing text k) :
    a.Formed ctx e := by
  rcases hk with ⟨v, rfl⟩ | hk
  · cases h
    exact ⟨rfl, trivial⟩
  cases h with
  | literal c => exact ⟨rfl, hk⟩
  | escaped c form => exact ⟨rfl, FormWritten.literalFormed hk e.spacing⟩
  | number hn =>
      obtain ⟨digits, -, -, -, -, hle⟩ := hk
      exact ⟨rfl, hle, fun i n h => nomatch h⟩
  | shorthand kind negated => exact hk
  | anchor kind => rfl
  | dot => rfl
  | inlineFlags change => exact hk.2
  | @backref ref r hr =>
      refine ⟨rfl, hr.formed hk.1, ?_⟩
      rintro i n rfl
      cases hr
      exact hk.2 i rfl
  | whole => trivial
  | call hr h0 =>
      refine ⟨hr.formed hk, ?_⟩
      rintro rfl
      cases hr
      exact h0 rfl
  | verb name arg => exact hk
  | comment text => exact hk
  | callout arg => cases arg <;> exact hk
  | bracket => exact hk.elim
  | hyphen => exact hk.elim

/-- A digit stands for itself under any spacing. -/
theorem digit_formed {c : Char} (h : isAsciiDigit c = true) (spacing : Flags) :
    LiteralFormed ctx false spacing c .verbatim := by
  have hall : ∀ c : Char, c.toNat < 128 → isAsciiDigit c = true →
      isSyntax c = false ∧ isPatternBlank c = false ∧ c ≠ '#' :=
    ascii_all (by decide)
  obtain ⟨hmark, hblank⟩ := hall c (toNat_lt_of_isAsciiDigit h) h
  exact ⟨hmark, fun _ => hblank⟩

/-- Behind an atom the scanner skips what the parser's flags say. -/
theorem AtomOf.advance (h : AtomOf e k a) (hs : m.spacing = e.spacing) :
    (m.outsideAfter k).spacing = (e.after a).spacing ∧ (m.outsideAfter k).saved = m.saved ∧
      (m.outsideAfter k).place = m.place := by
  cases h with
  | inlineFlags change =>
      refine ⟨?_, rfl, rfl⟩
      show change.apply m.spacing &&& Flags.spacing = change.apply e.flags &&& Flags.spacing
      rw [hs, Env.spacing, FlagChange.apply_spacing]
  | _ => exact ⟨hs, rfl, rfl⟩

/-- Unicode is a matter of the whole pattern. -/
theorem Env.has_unicode_after (ha : a.Formed ctx e) :
    (e.after a).flags.has Flags.unicode = e.flags.has Flags.unicode := by
  cases a with
  | inlineFlags change => exact FlagChange.has_unicode_apply ha e.flags
  | _ => rfl

end Atoms

namespace State

variable {ctx : Context} {limit : Nat} {initial : Env} {m : Mode} {st st' : State} {t : Token}
  {next : Nat}

theorem env_after (e : Env) (a : Atom) :
    (⟨(e.after a).flags, e.captures, e.names⟩ : Env) = e.after a := by
  unfold Env.after
  split <;> rfl

/-- Without an open class there are no members. -/
theorem noMembers {P : OpenClass → Prop} (h : st.openClass = none) : ∀ c ∈ st.openClass, P c := by
  simp [h]

/-- Another item that leaves the environment as it is. -/
theorem Formed.push {n : Node} (h : st.Formed ctx limit initial m)
    (hn : PatternLint.Formed ctx limit n (depthOf st.frames) .item st.env st.env) :
    (st.push n).Formed ctx limit initial m := by
  obtain ⟨entry, hlevel, hframes⟩ := h.level
  exact ⟨h.spacing, h.saved, h.place, ⟨entry, hlevel.push hn, hframes.of_eq rfl⟩,
    h.members, h.utf⟩

theorem Formed.pushDigits {digits : List Char} {offset : Nat} (h : st.Formed ctx limit initial m)
    (hd : digits.all isAsciiDigit = true) :
    (st.pushDigits offset digits).Formed ctx limit initial m := by
  induction digits generalizing st offset with
  | nil => exact h
  | cons c cs ih =>
      simp only [List.all_cons, Bool.and_eq_true] at hd
      refine ih (h.push (.inr ⟨⟨rfl, ?_⟩, rfl⟩)) hd.2
      exact digit_formed hd.1 _

/-- A character by its number in octal is one of any pattern or the pattern is Unicode text. -/
theorem octal_formed {octal : List Char} (hu : 0xff < ofDigits 8 octal → ctx.utf = true)
    (spacing : Flags) :
    LiteralFormed ctx false spacing (Char.ofNat (ofDigits 8 octal)) .octal := by
  by_cases hv : 0xff < ofDigits 8 octal
  · exact .inl (hu hv)
  · have hvalid : (ofDigits 8 octal).isValidChar := .inl (by omega)
    exact .inr (by rw [toNat_ofNat_of_valid hvalid]; omega)

theorem Formed.again {count : Repeat} {n : Node} {items : List Node} {stop : Nat}
    (h : st.Formed ctx limit initial m) (hi : st.level.items = n :: items)
    (hc : CountWritten count) (ha : count.allows count.min = true) (hr : n.isRepeatable = true) :
    State.Formed ctx limit initial m { st with
      level := { st.level with items := .quantifier ⟨n.start, stop⟩ count n :: items } } := by
  obtain ⟨entry, ⟨hbase, start, hstart, hitems⟩, hframes⟩ := h.level
  rw [hi, List.reverse_cons] at hitems
  obtain ⟨mid, hbefore, hn⟩ := formedAll_append.mp hitems
  refine ⟨h.spacing, h.saved, h.place, ⟨entry, ⟨hbase, start, hstart, ?_⟩, hframes.of_eq rfl⟩,
    h.members, h.utf⟩
  simp only [List.reverse_cons]
  exact formedAll_append.mpr
    ⟨mid, hbefore, formedAll_singleton.mpr ⟨hc, ha, hr, formedAll_singleton.mp hn⟩⟩

theorem Formed.branch {captures highest : Nat} (h : st.Formed ctx limit initial m)
    (hc : Turns st captures highest) (next : Nat) :
    State.Formed ctx limit initial m
      { st with captures, level := { st.level.nextBranch next with highest } } := by
  obtain ⟨entry, hlevel, hframes⟩ := h.level
  cases hc with
  | @reset f frames head hf hconstruct hkind =>
      have hresets : resets st.frames = true := by
        rw [hf]
        obtain ⟨offset, construct, flags, outer⟩ := f
        cases hconstruct
        simp [resets, hkind]
      refine ⟨h.spacing, h.saved, h.place, ⟨entry, ?_, ?_⟩, h.members, h.utf⟩
      · rw [hresets] at hlevel ⊢
        exact hlevel.nextBranch_alike next
      · rw [hf] at hframes ⊢
        obtain ⟨outer, e, houter, hflags, hc, hrest⟩ := hframes
        rw [hconstruct] at hc
        exact ⟨outer, e, houter, hflags, hconstruct ▸ hc, hrest⟩
  | keep hr hd =>
      have hresets : resets st.frames = false := by
        cases hf : st.frames with
        | nil => rfl
        | cons f frames =>
            have hr := hr f (by simp [hf])
            obtain ⟨offset, construct, flags, outer⟩ := f
            cases construct with
            | group head => simpa [resets] using hr head rfl
            | _ => rfl
      refine ⟨h.spacing, h.saved, h.place, ⟨entry, ?_, ?_⟩, h.members, h.utf⟩
      · rw [hresets] at hlevel ⊢
        exact hlevel.nextBranch next st.level.highest
      · cases hf : st.frames with
        | nil => rwa [hf] at hframes
        | cons f frames =>
            rw [hf] at hframes
            obtain ⟨outer, e, houter, hflags, hc, hrest⟩ := hframes
            refine ⟨outer, e, houter, hflags, ?_, hrest⟩
            have hd := hd f (by simp [hf])
            cases hconstruct : f.construct with
            | conditional test =>
                rw [hconstruct] at hc
                exact ⟨hc.1, hc.2.1, by simp [Level.nextBranch, hd test hconstruct]⟩
            | _ =>
                rw [hconstruct] at hc
                exact hc

/-- The scanner notes the spacing for every parenthesis that opens. -/
theorem Opens.advance {e inner : Env} {k : TokenKind} {construct : Construct}
    (h : Opens e k construct inner) (hs : m.spacing = e.spacing) :
    (m.outsideAfter k).spacing = inner.spacing ∧
      (m.outsideAfter k).saved = List.replicate construct.parens e.spacing ++ m.saved ∧
      (m.outsideAfter k).place = m.place := by
  cases h with
  | group ho =>
      cases ho with
      | modifiers change =>
          refine ⟨?_, congrArg (· :: m.saved) hs, rfl⟩
          show change.apply m.spacing &&& Flags.spacing = change.apply e.flags &&& Flags.spacing
          rw [hs, Env.spacing, FlagChange.apply_spacing]
      | _ => exact ⟨hs, congrArg (· :: m.saved) hs, rfl⟩
  | assertion look =>
      refine ⟨hs, ?_, rfl⟩
      show m.spacing :: m.spacing :: m.saved = e.spacing :: e.spacing :: m.saved
      rw [hs]
  | _ => exact ⟨hs, congrArg (· :: m.saved) hs, rfl⟩

theorem Opens.formed {e inner : Env} {k : TokenKind} {construct : Construct} {text : List Char}
    {depth : Nat} {l : Level} (h : Opens e k construct inner)
    (hn : depth + construct.parens ≤ limit) (hk : OutsideLexeme ctx e.spacing text k)
    (hl : l.done = []) : construct.Formed ctx limit depth l e inner := by
  cases h with
  | group ho => exact ⟨hn, _, hk.2, ho⟩
  | define => exact ⟨hn, rfl⟩
  | @test ref r hr =>
      refine ⟨hn, ⟨rfl, ?_, ?_⟩, by simp [hl]⟩
      · cases ref with
        | name s =>
            refine hr.formed ?_
            exact checkName_isName hk.2
        | _ => exact hr.formed hk.2
      · rintro s rfl
        cases hr
        exact hk.2
  | recursion => exact ⟨hn, rfl, by simp [hl]⟩
  | recursionGroup n => exact ⟨hn, ⟨rfl, hk.2⟩, by simp [hl]⟩
  | recursionName s => exact ⟨hn, ⟨rfl, hk.2⟩, by simp [hl]⟩
  | assertion look => exact ⟨hn, hk.2, rfl⟩

theorem Opens.has_unicode {e inner : Env} {k : TokenKind} {construct : Construct}
    {text : List Char} (h : Opens e k construct inner) (hk : OutsideLexeme ctx e.spacing text k) :
    inner.flags.has Flags.unicode = e.flags.has Flags.unicode := by
  cases h with
  | group ho =>
      cases ho with
      | modifiers change => exact FlagChange.has_unicode_apply hk.2 e.flags
      | _ => rfl
  | _ => rfl

theorem Formed.enter {construct : Construct} {inner : Env} {warnings : List Warning}
    {text : List Char} {k : TokenKind} (h : st.Formed ctx limit initial m)
    (hnone : st.openClass = none) (ho : Opens st.env k construct inner)
    (hn : st.depth + construct.parens ≤ limit) (hk : OutsideLexeme ctx m.spacing text k)
    (offset next : Nat) :
    State.Formed ctx limit initial (m.outsideAfter k)
      (enter { st.withEnv inner with warnings } st.flags offset construct next) := by
  obtain ⟨hspacing, hsaved, hplace⟩ := Opens.advance ho h.spacing
  obtain ⟨entry, hlevel, hframes⟩ := h.level
  rw [h.spacing] at hk
  refine ⟨hspacing, ?_, ?_, ⟨inner, Level.formed_new .., ?_⟩, noMembers hnone, ?_⟩
  · rw [hsaved, h.saved]
    rfl
  · rw [hplace]
    exact h.place
  · exact ⟨entry, st.env, hlevel, rfl, Opens.formed ho hn hk rfl, hframes⟩
  · intro flags hf hu
    rcases List.mem_cons.mp hf with rfl | hf
    · exact h.utf st.flags (by simp) ((Opens.has_unicode ho hk).symm.trans hu)
    · exact h.utf flags hf hu

/-- The node of a parenthesis is formed outside of it. -/
theorem Closes.formed {f : Frame} {frames : List Frame} {n : Node} {captures depth : Nat}
    {entry e : Env} (h : Closes st t f n captures)
    (hl : st.level.Formed ctx limit (depth + 1) (resets (f :: frames)) entry st.env)
    (hflags : f.flags = e.flags) (hc : f.construct.Formed ctx limit depth st.level e entry) :
    PatternLint.Formed ctx limit n depth .item e ⟨f.flags, captures, st.names⟩ := by
  obtain ⟨offset, construct, flags, outer⟩ := f
  have hflags : flags = e.flags := hflags
  cases h with
  | @group head hg =>
      cases hg
      rw [hflags]
      obtain ⟨hn, hhead⟩ := hc
      refine ⟨hn, entry, ?_⟩
      by_cases hk : head.kind = .branchReset
      · have hr : resets (⟨offset, .group head, flags, outer⟩ :: frames) = true := by
          simp [resets, hk]
        rw [hr] at hl
        have hnode := hl.node_alike
        refine ⟨_, hhead, by rw [hk]; exact hnode, ?_⟩
        simp [capturesAfter, hk, State.env]
      · have hr : resets (⟨offset, .group head, flags, outer⟩ :: frames) = false := by
          simpa [resets] using hk
        rw [hr] at hl
        have hnode := hl.node
        have hkind : (head.kind == .branchReset) = false := by simpa using hk
        refine ⟨_, hhead, by rw [hkind]; exact hnode, ?_⟩
        simp [capturesAfter, hk, State.env]
  | define hg hd =>
      cases hg
      obtain ⟨hn, rfl⟩ := hc
      have hbranch := hl.single hd
      have hnode : st.level.node = st.level.branch := by
        unfold Level.node
        rw [hd]
      rw [hnode]
      exact ⟨hn, st.env, hbranch, by rw [hflags]; rfl⟩
  | single hg hd =>
      cases hg
      obtain ⟨hn, htest, -⟩ := hc
      exact ⟨hn, entry, st.env, st.env, htest, hl.single hd, rfl, by rw [hflags]; rfl⟩
  | @double test yes more hg hd =>
      cases hg
      obtain ⟨hn, htest, hlen⟩ := hc
      obtain rfl : more = [] := by
        rw [hd] at hlen
        exact List.eq_nil_of_length_eq_zero (by simpa using hlen)
      obtain ⟨mid, hyes, hno⟩ := hl.double hd
      exact ⟨hn, entry, mid, st.env, htest, hyes, hno, by rw [hflags]; rfl⟩

theorem Closes.parens {f : Frame} {n : Node} {captures : Nat} (h : Closes st t f n captures) :
    f.construct.parens = 1 := by
  cases h with
  | group hg | define hg | single hg | double hg => rw [hg]; rfl

theorem Formed.leave {f : Frame} {frames : List Frame} {n : Node} {captures : Nat}
    (h : st.Formed ctx limit initial m) (hnone : st.openClass = none)
    (hf : st.frames = f :: frames) (hc : Closes st t f n captures) :
    State.Formed ctx limit initial m.restore
      (State.push { st with flags := f.flags, captures, frames, level := f.outer } n) := by
  obtain ⟨entry, hlevel, hframes⟩ := h.level
  rw [hf] at hlevel hframes
  obtain ⟨outer, e, houter, hflags, hconstruct, hrest⟩ := hframes
  have hsaved : m.saved = (f.flags &&& Flags.spacing) :: savedBy frames := by
    rw [h.saved, hf, savedBy, List.flatMap_cons, hc.parens]
    rfl
  have hdepth : depthOf (f :: frames) = depthOf frames + 1 := by
    simp only [depthOf, List.foldr_cons, hc.parens]
    omega
  rw [hdepth] at hlevel
  have hn := hc.formed hlevel hflags hconstruct
  have hmode : m.restore = { m with spacing := f.flags &&& Flags.spacing, saved := savedBy frames } := by
    rw [Mode.restore, hsaved]
  rw [hmode]
  refine ⟨rfl, rfl, h.place, ⟨outer, houter.push hn, hrest.of_eq rfl⟩, noMembers hnone, ?_⟩
  intro flags hmem hu
  refine h.utf flags ?_ hu
  rw [hf]
  exact List.mem_cons_of_mem _ hmem

theorem Formed.test {f : Frame} {frames : List Frame} {look : Lookaround}
    (h : st.Formed ctx limit initial m) (hnone : st.openClass = none)
    (hf : st.frames = f :: frames) (hc : f.construct = .assertion look) (span : Span) (next : Nat) :
    State.Formed ctx limit initial m.restore { st with
      flags := f.flags,
      frames := { f with construct := .conditional (.assertion
        (.group span { kind := .look look } st.level.node)) } :: frames,
      level := .new next st.captures } := by
  obtain ⟨entry, hlevel, hframes⟩ := h.level
  rw [hf] at hlevel hframes
  obtain ⟨outer, e, houter, hflags, hconstruct, hrest⟩ := hframes
  obtain ⟨offset, construct, flags, level⟩ := f
  obtain rfl : construct = .assertion look := hc
  obtain ⟨hn, hatomic, rfl⟩ := hconstruct
  have hflags : flags = entry.flags := hflags
  have hsaved : m.saved = (flags &&& Flags.spacing) :: (flags &&& Flags.spacing) ::
      savedBy frames := by
    rw [h.saved, hf]
    rfl
  have hdepth : depthOf (⟨offset, .assertion look, flags, level⟩ :: frames) =
      depthOf frames + 1 + 1 := by
    simp only [depthOf, List.foldr_cons, Construct.parens]
    omega
  rw [hdepth] at hlevel
  have hgroup : PatternLint.Formed ctx limit (.group span { kind := .look look } st.level.node)
      (depthOf frames + 1) .item entry ⟨flags, st.captures, st.names⟩ := by
    refine ⟨hn, entry, st.env, ⟨.look look, ?_, .look look⟩, hlevel.node, by rw [hflags]; rfl⟩
    cases look <;> trivial
  have hmode : m.restore =
      { m with spacing := flags &&& Flags.spacing,
               saved := (flags &&& Flags.spacing) :: savedBy frames } := by
    rw [Mode.restore, hsaved]
  rw [hmode]
  have hnew : ∀ alike, (Level.new next st.captures).Formed ctx limit (depthOf frames + 1) alike
      ⟨flags, st.captures, st.names⟩ ⟨flags, st.captures, st.names⟩ :=
    fun alike => Level.formed_new ctx limit _ alike next ⟨flags, st.captures, st.names⟩
  have hdepth' : depthOf (⟨offset, .conditional (.assertion
      (.group span { kind := .look look } st.level.node)), flags, level⟩ :: frames) =
      depthOf frames + 1 := by
    simp only [depthOf, List.foldr_cons, Construct.parens]
    omega
  refine ⟨rfl, rfl, h.place, ⟨_, hdepth' ▸ hnew _, ?_⟩, noMembers hnone, ?_⟩
  · refine ⟨outer, entry, houter, hflags, ⟨by omega, ⟨?_, hgroup⟩, by simp [Level.new]⟩, hrest⟩
    exact ⟨span, look, st.level.node, rfl, hatomic⟩
  · intro flags' hmem hu
    refine h.utf flags' ?_ hu
    rw [hf]
    rcases List.mem_cons.mp hmem with rfl | hmem
    · simp
    · exact List.mem_cons_of_mem _ hmem

/-- Every move outside a class keeps the parser and the scanner together. -/
theorem Move.formed (hm : Move limit st t next st') (h : st.Formed ctx limit initial m)
    (hnone : st.openClass = none) (hl : Lexeme ctx m t.text t.kind) :
    st'.Formed ctx limit initial (m.advance t.kind) := by
  obtain ⟨hk, hadvance⟩ := hl.outside (h.place.mpr hnone)
  rw [hadvance]
  cases hm with
  | @atom a warnings ha =>
      have hformed : a.Formed ctx st.env := ha.formed (h.spacing ▸ hk)
      obtain ⟨hspacing, hsaved, hplace⟩ := ha.advance h.spacing
      obtain ⟨entry, hlevel, hframes⟩ := h.level
      have henv : (⟨(st.env.after a).flags, st.captures, st.names⟩ : Env) = st.env.after a :=
        env_after st.env a
      refine ⟨hspacing, hsaved.trans h.saved, hplace ▸ h.place, ⟨entry, ?_, hframes.of_eq rfl⟩,
        noMembers hnone, ?_⟩
      · exact hlevel.push (.inr ⟨hformed, henv⟩)
      · intro flags hmem hu
        rcases List.mem_cons.mp hmem with rfl | hmem
        · exact h.utf st.flags (by simp) ((Env.has_unicode_after hformed).symm.trans hu)
        · exact h.utf flags (List.mem_cons_of_mem _ hmem) hu
  | @octal n octal digits hkind ht ho hlen hu =>
      rw [hkind] at hk ⊢
      obtain ⟨all, htext, -, hall, -⟩ := hk.resolve_left (by simp)
      have hdigits : digits.all isAsciiDigit = true := by
        rw [htext, List.drop_one, List.tail_cons] at ht
        rw [ht, List.all_append, Bool.and_eq_true] at hall
        exact hall.2
      have hutf : 0xff < ofDigits 8 octal → ctx.utf = true :=
        fun hv => h.utf st.flags (by simp) (hu hv)
      have hvalue : PatternLint.Formed ctx limit
          (.atom ⟨t.start, t.start + 1 + octal.length⟩
            (.literal (Char.ofNat (ofDigits 8 octal)) .octal st.caseless))
          (depthOf st.frames) .item st.env st.env :=
        .inr ⟨⟨rfl, octal_formed hutf _⟩, rfl⟩
      exact (h.push hvalue).pushDigits hdigits
  | @again count n items hkind hi hr hc =>
      rw [hkind] at hk ⊢
      refine h.again hi (hk.resolve_left (by simp)) hc ?_
      unfold isRepeatable at hr
      unfold Node.isRepeatable
      split at hr <;> simp_all
  | branch hkind hc =>
      rw [hkind]
      exact h.branch hc next
  | enter ho hn =>
      refine h.enter hnone ho hn (hk.resolve_left ?_) _ _
      rintro ⟨v, hv⟩
      rw [hv] at ho
      cases ho
  | leave hkind hf hc =>
      rw [hkind]
      exact h.leave hnone hf hc
  | test hkind hf hc =>
      rw [hkind]
      exact h.test hnone hf hc _ next
  | @startClass negated hkind =>
      rw [hkind]
      refine ⟨h.spacing, h.saved, by simp [Mode.outsideAfter], h.level, ?_, h.utf⟩
      rintro c hc
      cases hc
      refine ⟨⟨?_, by rintro l ⟨⟩⟩, rfl⟩
      rw [OpenClass.settled_of_none rfl]
      rintro n ⟨⟩
  | finish hkind hf =>
      rw [hkind] at hk
      rcases hk with ⟨v, hv⟩ | hk
      · cases hv
      · exact hk.elim

end State

/-- A step keeps the parser and the scanner together. -/
theorem step_formed {s : ParserSettings} {ctx : Context} {initial : Env} {m : Mode}
    {st st' : State} {t : Token} {next : Nat} (h : st.Formed ctx s.nestLimit initial m)
    (hl : Lexeme ctx m t.text t.kind) (hs : step s st t next = .ok st') :
    st'.Formed ctx s.nestLimit initial (m.advance t.kind) := by
  rcases step_move hs with ⟨hnone, hm⟩ | ⟨c, c', ho, hm, rfl⟩ | ⟨c, n, ho, hm, rfl⟩
  · exact hm.formed h hnone hl
  all_goals
    have hplace : m.place ≠ .outside := fun hp => by simp [h.place.mp hp] at ho
    obtain ⟨hk, hadvance⟩ := hl.inside hplace
    obtain ⟨hmembers, hcaseless⟩ := h.members c ho
    rw [hadvance]
  · obtain ⟨hformed, hsame, hne⟩ := hm.formed hmembers (h.spacing ▸ hk)
    refine ⟨h.spacing, h.saved, by simp [Mode.classAfter, hne], h.level, ?_, h.utf⟩
    rintro c hc
    cases hc
    exact ⟨hformed, hsame.trans hcaseless⟩
  · cases hm with
    | close hkind =>
        rw [hkind]
        have hclosed : State.Formed ctx s.nestLimit initial (m.classAfter .classClose)
            { st with openClass := none } :=
          ⟨h.spacing, h.saved, by simp [Mode.classAfter], h.level, (fun c hc => nomatch hc), h.utf⟩
        refine hclosed.push ⟨rfl, (OpenClass.settled_caseless c).trans hcaseless, ?_⟩
        rw [OpenClass.settled_caseless]
        exact hmembers.expr t.start

/-- The scanner and the parser stay together up to the end of the text, where nothing is open. -/
theorem run_formed {s : ParserSettings} {ctx : Context} {initial : Env} {m : Mode} {offset : Nat}
    {cs : List Char} {ts : List Token} {st st' : State} (hts : Scanned ctx m offset cs ts)
    (h : st.Formed ctx s.nestLimit initial m) (hr : run s st ts = .ok st') :
    (∃ m', st'.Formed ctx s.nestLimit initial m') ∧ st'.frames = [] := by
  induction hts generalizing st with
  | done m offset =>
      obtain ⟨mid, hs, hrest⟩ := run_cons.mp hr
      obtain ⟨rfl, hf, -⟩ := step_eof hs
      cases Except.ok.inj hrest
      exact ⟨⟨m, h⟩, hf⟩
  | skip hp _ ih =>
      obtain ⟨hspacing, hsaved, hplace⟩ := scan_skip hp
      refine ih ⟨hspacing.trans h.spacing, hsaved.trans h.saved, hplace.trans h.place, h.level,
        h.members, h.utf⟩ hr
  | token hp _ ih =>
      obtain ⟨hl, rfl⟩ := scan_lexeme hp
      obtain ⟨mid, hs, hrest⟩ := run_cons.mp hr
      exact ih (step_formed h hl hs) hrest

/-- The parser and the scanner start together. -/
theorem formed_initial (s : ParserSettings) (body : String) (flags : Flags) (ts : List Token) :
    State.Formed (contextOf body flags s.dialect) s.nestLimit ⟨flags, 0, []⟩
      (Mode.initial flags) (initial flags ts) := by
  refine ⟨rfl, rfl, by simp [Mode.initial, initial], ⟨⟨flags, 0, []⟩, ?_, rfl⟩,
    (fun c hc => nomatch hc), ?_⟩
  · exact Level.formed_new _ _ _ _ _ ⟨flags, 0, []⟩
  · intro f hf hu
    obtain rfl : f = flags := by simpa [initial] using hf
    simp [contextOf, hu]

end Parse

/-- The tree that the parser comes to is formed, from no groups to all of them. -/
theorem Pattern.tokenized_formed {s : ParserSettings} {flags : Flags} {body : String}
    {ts : List Token} {st : Parse.State} (ht : tokenize body flags s.dialect = .ok ts)
    (hr : Parse.run s (Parse.initial flags ts) ts = .ok st) :
    ∃ last, Formed (contextOf body flags s.dialect) s.nestLimit st.level.node 0 (.body false)
      ⟨flags, 0, []⟩ ⟨last, st.captures, st.names⟩ := by
  obtain ⟨⟨m, hformed⟩, hframes⟩ :=
    Parse.run_formed (tokens_eq_ok_iff.mp ht) (Parse.formed_initial s body flags ts) hr
  obtain ⟨entry, hlevel, hentry⟩ := hformed.level
  rw [hframes] at hlevel hentry
  obtain rfl : entry = ⟨flags, 0, []⟩ := hentry
  exact ⟨st.flags, hlevel.node⟩

/-- Every pattern that is read has a tree that is formed. -/
theorem Pattern.parseWith_formed {s : ParserSettings} {delimiter : Char} {flags : Flags}
    {body : String} {p : Pattern} (h : parseWith s delimiter flags body = .ok p) :
    ∃ last, Formed (contextOf body flags s.dialect) s.nestLimit p.root 0 (.body false)
      ⟨flags, 0, []⟩ ⟨last, p.captures, p.names⟩ := by
  obtain ⟨ts, st, ht, hr, rfl, -⟩ := parseWith_ok h
  exact tokenized_formed ht hr

end PatternLint
