import PatternLint.Proofs.Parse.Groups
import PatternLint.Proofs.Parse.Sound
import PatternLint.Proofs.Positions
import PatternLint.Proofs.Restyle

/-!
# References lead to groups

References are checked against a table: a count of groups and a list of names.
That is safe because the table says neither more nor less than the tree. A number
is in the table if a group of the tree has it, and a name if a named group has it,
so a reference that passes the check leads to a group, and one that fails leads
nowhere.

The check goes over the tree in the order of the text and stops at the first node
that fails. Since nodes come in the order in which they start, no other node that
fails starts before it.
-/

namespace PatternLint

open Parse

namespace Node

/-- The group that a node refers to, if it is a reference, a call of a group or a test of one. -/
def reference? : Node → Option GroupRef
  | .atom _ (.backref ref _) | .atom _ (.subroutine (.group ref)) => some ref
  | .conditional _ (.group ref) _ _ => some ref
  | .conditional _ (.recursionGroup n) _ _ => some (.number n)
  | .conditional _ (.recursionName name) _ _ => some (.name name)
  | _ => none

/-- A reference that leads to a group of a tree: one with its number, or a named one with its
name. -/
def LeadsTo (root : Node) : GroupRef → Prop
  | .number n | .relative _ n =>
    ∃ span head body, Node.group span head body ∈ root.preorder ∧ head.number = some n
  | .name name => ∃ span head body, Node.group span head body ∈ root.preorder ∧
      head.kind = .named ∧ head.name = some name

/-- A node that a pattern is refused for: a reference that leads nowhere, or a lookbehind of a width
that is not allowed. -/
def Fails (s : ParserSettings) (p : Pattern) (n : Node) : Prop :=
  (∃ ref, n.reference? = some ref ∧ ¬ p.root.LeadsTo ref) ∨
    ∃ span head body, n = .group span head body ∧ head.kind.isLookbehind = true ∧
      lookbehindFault? s p.scope body ≠ none

end Node

/-! ### The table and the tree -/

section Table

variable {root : Node} {e : Env} {flags : Flags}

theorem hasNumber_iff (h : Adds root.preorder ⟨flags, 0, []⟩ e) (n : Nat) :
    (GroupTable.mk e.captures e.names).hasNumber n = true ↔ root.LeadsTo (.number n) := by
  simp only [GroupTable.hasNumber, Bool.and_eq_true, decide_eq_true_eq]
  constructor
  · rintro ⟨hpos, hle⟩
    exact h.found n hpos hle
  · rintro ⟨span, head, body, hm, hnumber⟩
    exact h.counted span head body hm n hnumber

theorem hasName_iff (h : Adds root.preorder ⟨flags, 0, []⟩ e) (name : String) :
    (GroupTable.mk e.captures e.names).hasName name = true ↔ root.LeadsTo (.name name) := by
  simp only [GroupTable.hasName, List.any_eq_true, beq_iff_eq]
  constructor
  · rintro ⟨g, hg, rfl⟩
    rcases h.names.found g hg with hold | ⟨span, head, body, hm, hkind, hname, -⟩
    · cases hold
    · exact ⟨span, head, body, hm, hkind, hname⟩
  · rintro ⟨span, head, body, hm, hkind, hname⟩
    exact h.names.recorded span head body hm hkind name hname

/-- The check of a reference passes just those that lead to a group. -/
theorem referenceFault?_eq_none_iff (h : Adds root.preorder ⟨flags, 0, []⟩ e) (use : ReferenceUse)
    (ref : GroupRef) :
    (GroupTable.mk e.captures e.names).referenceFault? use ref = none ↔ root.LeadsTo ref := by
  have hnumber : ∀ n, (if (GroupTable.mk e.captures e.names).hasNumber n then none
      else some (Fault.noSuchGroup use n)) = none ↔ root.LeadsTo (.number n) := by
    intro n
    rw [← hasNumber_iff h n]
    split <;> simp_all
  cases ref with
  | number n =>
      cases n with
      | zero =>
          -- Zero is refused on its own, and no group has that number.
          have hzero : ¬ root.LeadsTo (.number 0) := by
            rw [← hasNumber_iff h 0]
            simp [GroupTable.hasNumber]
          simp [GroupTable.referenceFault?, hzero]
      | succ n => exact hnumber (n + 1)
  | relative offset n => exact hnumber n
  | name name =>
      rw [← hasName_iff h name, GroupTable.referenceFault?]
      split <;> simp_all

/-- A node that the check finds fault with is one that fails, and the other way round. -/
theorem ownFault?_ne_none_iff {s : ParserSettings} {p : Pattern} (h : Adds p.root.preorder
    ⟨flags, 0, []⟩ ⟨flags, p.captures, p.names⟩) (n : Node) :
    n.ownFault? s p.groupTable p.scope ≠ none ↔ n.Fails s p := by
  have href : ∀ (use : ReferenceUse) (ref : GroupRef),
      p.groupTable.referenceFault? use ref ≠ none ↔ ¬ p.root.LeadsTo ref := fun use ref =>
    not_congr (referenceFault?_eq_none_iff h use ref)
  cases n with
  | atom span a =>
      cases a with
      | backref ref caseless => simp [Node.ownFault?, Node.Fails, Node.reference?, href]
      | subroutine target =>
          cases target with
          | whole => simp [Node.ownFault?, Node.Fails, Node.reference?]
          | group ref => simp [Node.ownFault?, Node.Fails, Node.reference?, href]
      | _ => simp [Node.ownFault?, Node.Fails, Node.reference?]
  | group span head body =>
      by_cases hk : head.kind.isLookbehind = true
      · simp [Node.ownFault?, Node.Fails, Node.reference?, hk]
      · simp [Node.ownFault?, Node.Fails, Node.reference?, hk]
  | conditional span test yes no =>
      cases test with
      | group ref =>
          simp [Node.ownFault?, GroupTable.conditionFault?, Node.Fails, Node.reference?, href]
      | recursionGroup n =>
          simp [Node.ownFault?, GroupTable.conditionFault?, Node.Fails, Node.reference?, href]
      | recursionName name =>
          simp [Node.ownFault?, GroupTable.conditionFault?, Node.Fails, Node.reference?, href]
      | _ => simp [Node.ownFault?, GroupTable.conditionFault?, Node.Fails, Node.reference?]
  | _ => simp [Node.ownFault?, Node.Fails, Node.reference?]

end Table

/-! ### The first fault -/

/-- A fault other than one of depth is that of a node which no other node at fault comes before. -/
theorem firstFault?_first {s : ParserSettings} {t : GroupTable} {root : Node} {l : Located}
    (h : root.firstFault? s t = some l) (hdeep : ∀ limit, l.fault ≠ .treeTooDeep limit) :
    ∃ before n after, root.preorder = before ++ n :: after ∧
      n.ownFault? s t (Scope.new root t.names) = some l.fault ∧ n.start = l.offset ∧
      ∀ m ∈ before, m.ownFault? s t (Scope.new root t.names) = none := by
  rw [Node.firstFault?] at h
  split at h
  · cases h
    exact absurd rfl (hdeep _)
  · obtain ⟨before, n, after, hpre, hn, hbefore⟩ := List.findSome?_eq_some_iff.mp h
    obtain ⟨fault, hfault, rfl⟩ := Option.map_eq_some_iff.mp hn
    refine ⟨before, n, after, hpre, hfault, rfl, fun m hm => ?_⟩
    exact Option.map_eq_none_iff.mp (hbefore m hm)

/-- No node starts before `n` but the ones that come before it in the order of the text. -/
theorem AllPlaced.first_start_le {cs : List Char} {root n m : Node} {before after : List Node}
    (h : AllPlaced cs root) (hpre : root.preorder = before ++ n :: after) (hm : m ∈ root.preorder)
    (hbefore : m ∉ before) : n.start ≤ m.start := by
  have hsorted := h.starts_sorted
  rw [hpre, List.map_append, List.map_cons] at hsorted
  have hn := (List.pairwise_cons.mp (List.pairwise_append.mp hsorted).2.1).1
  rw [hpre] at hm
  rcases List.mem_append.mp hm with hm | hm
  · exact absurd hm hbefore
  · rcases List.mem_cons.mp hm with rfl | hm
    · exact Nat.le_refl _
    · exact hn m.start (List.mem_map_of_mem hm)

/-! ### Patterns -/

namespace Pattern

variable {s : ParserSettings} {body modifiers : String} {delimiter : Char} {p : Pattern}

/-- A pattern that is read from a body, before its references are checked. -/
def ReadFrom (s : ParserSettings) (body modifiers : String) (delimiter : Char) (p : Pattern) :
    Prop :=
  ∃ flags ts st, Flags.ofModifiers modifiers = .ok flags ∧
    tokenize body flags s.dialect = .ok ts ∧ Parse.run s (Parse.initial flags ts) ts = .ok st ∧
    p = ofState delimiter flags body st

theorem readFrom_of_ok (h : parseBody s body modifiers delimiter = .ok p) :
    ReadFrom s body modifiers delimiter p ∧ p.firstFault? s = none := by
  obtain ⟨flags, hflags, hp⟩ := parseBody_ok h
  obtain ⟨ts, st, ht, hr, rfl, hfault⟩ := parseWith_ok hp
  exact ⟨⟨flags, ts, st, hflags, ht, hr, rfl⟩, hfault⟩

/-- What a pattern that was read is refused for is what is found wrong with its references. -/
theorem ReadFrom.parseBody_eq_error_iff {e : PatternError}
    (h : ReadFrom s body modifiers delimiter p) :
    parseBody s body modifiers delimiter = .error e ↔ p.firstFault? s = some e := by
  obtain ⟨flags, ts, st, hflags, ht, hr, rfl⟩ := h
  simp only [parseBody, hflags, parseWith, ht, hr, resolve?_eq]
  split <;> simp_all

theorem ReadFrom.placed (h : ReadFrom s body modifiers delimiter p) :
    AllPlaced body.toList p.root := by
  obtain ⟨flags, ts, st, -, ht, hr, rfl⟩ := h
  exact tokenized_placed ht hr

theorem ReadFrom.adds (h : ReadFrom s body modifiers delimiter p) :
    Adds p.root.preorder ⟨p.flags, 0, []⟩ ⟨p.flags, p.captures, p.names⟩ := by
  obtain ⟨flags, ts, st, -, ht, hr, rfl⟩ := h
  obtain ⟨last, hformed⟩ := tokenized_formed ht hr
  exact hformed.adds.reflag flags

/-- In a pattern that is accepted, a node that refers to a group leads to it. -/
theorem leadsTo_of_ok (h : parseBody s body modifiers delimiter = .ok p) {n : Node}
    (hn : n ∈ p.root.preorder) {ref : GroupRef} (href : n.reference? = some ref) :
    p.root.LeadsTo ref := by
  obtain ⟨hread, hfault⟩ := readFrom_of_ok h
  have hnone := (Node.firstFault?_eq_none_iff.mp (Option.map_eq_none_iff.mp hfault)).2 n hn
  by_contra hnowhere
  exact (ownFault?_ne_none_iff hread.adds n).mpr (.inl ⟨ref, href, hnowhere⟩) hnone

/-- If a pattern is accepted, all references in it, wherever they stand, lead to groups of its tree.
If it is refused for a reference or a lookbehind, the error stands where the first of all nodes
starts that are at fault. -/
theorem parseBody_references (s : ParserSettings) (body modifiers : String) (delimiter : Char) :
    (∀ p, parseBody s body modifiers delimiter = .ok p →
      ∀ n ∈ p.root.preorder, ∀ ref, n.reference? = some ref → p.root.LeadsTo ref) ∧
    ∀ p e, ReadFrom s body modifiers delimiter p → p.firstFault? s = some e →
      (∀ limit, e.fault ≠ .treeTooDeep limit) →
      parseBody s body modifiers delimiter = .error e ∧
        (∃ n ∈ p.root.preorder, n.Fails s p ∧ n.start = e.offset) ∧
        ∀ n ∈ p.root.preorder, n.Fails s p → e.offset ≤ n.start := by
  constructor
  · exact fun p h n hn ref href => leadsTo_of_ok h hn href
  · intro p e hread he hdeep
    obtain ⟨l, hl, rfl⟩ := Option.map_eq_some_iff.mp he
    obtain ⟨before, n, after, hpre, hn, hstart, hbefore⟩ := firstFault?_first hl hdeep
    refine ⟨hread.parseBody_eq_error_iff.mpr he, ⟨n, by simp [hpre], ?_, hstart⟩, ?_⟩
    · have hown : n.ownFault? s p.groupTable p.scope = some l.fault := hn
      exact (ownFault?_ne_none_iff hread.adds n).mp (by simp [hown])
    · intro m hm hfails
      have hm' : m ∉ before := fun hmem =>
        (ownFault?_ne_none_iff hread.adds m).mpr hfails (hbefore m hmem)
      calc l.offset = n.start := hstart.symm
        _ ≤ m.start := hread.placed.first_start_le hpre hm hm'

/-- The reference in `(a)\\1` leads to the group. In `a\\1(?<=b+)` the reference leads nowhere and
the lookbehind has no bound; the error is that of the reference, which starts first. -/
theorem parseBody_references_pair :
    (∃ p, parseBody {} "(a)\\1" "" '/' = .ok p ∧ p.root.LeadsTo (.number 1)) ∧
      ∃ p e, ReadFrom {} "a\\1(?<=b+)" "" '/' p ∧ p.firstFault? {} = some e ∧ e.offset = 1 ∧
        ∀ n ∈ p.root.preorder, n.Fails {} p → 1 ≤ n.start := by
  constructor
  · have haccepted : ((parseBody {} "(a)\\1" "" '/').map fun p =>
        p.root.preorder.any fun n => n.reference? == some (.number 1)).toOption = some true := by
      cbv
    cases hp : parseBody {} "(a)\\1" "" '/' with
    | error e =>
        rw [hp] at haccepted
        cases haccepted
    | ok p =>
        rw [hp] at haccepted
        obtain ⟨n, hn, href⟩ := List.any_eq_true.mp (Option.some.inj haccepted)
        have hleads := (parseBody_references {} "(a)\\1" "" '/').1 p hp n hn
        exact ⟨p, rfl, hleads (.number 1) (by simpa using href)⟩
  · have hrefused : parseBody {} "a\\1(?<=b+)" "" '/' =
        .error (.inText "a\\1(?<=b+)" 1 (.noSuchGroup .backref 1)) := by cbv
    have hread : ((tokenize "a\\1(?<=b+)" 0 ({} : ParserSettings).dialect).map fun ts =>
        (Parse.run {} (Parse.initial 0 ts) ts).isOk).toOption = some true := by cbv
    cases hts : tokenize "a\\1(?<=b+)" 0 ({} : ParserSettings).dialect with
    | error e =>
        rw [hts] at hread
        cases hread
    | ok ts =>
        rw [hts] at hread
        obtain ⟨st, hst⟩ := exists_of_isOk (Option.some.inj hread)
        have hp : ReadFrom {} "a\\1(?<=b+)" "" '/' (ofState '/' 0 "a\\1(?<=b+)" st) :=
          ⟨0, ts, st, by cbv, hts, hst, rfl⟩
        have he := hp.parseBody_eq_error_iff.mp hrefused
        have hfirst := (parseBody_references {} "a\\1(?<=b+)" "" '/').2 _ _ hp he
          (by simp [PatternError.inText])
        exact ⟨_, _, hp, he, rfl, hfirst.2.2⟩

end Pattern

end PatternLint
