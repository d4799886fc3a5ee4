import PatternLint.Proofs.Hazard.Search
import PatternLint.Proofs.Parse.Groups
import PatternLint.Proofs.Parse.Sound
import PatternLint.Proofs.Restyle

/-!
# What the search can rely on

The search is defined for all trees, also for those that no text has: a repetition
in a character class, a range outside of one, a group inside another with the same
number. On such trees two analyses may disagree. `Proper` rules them out, and every
pattern that is read is proper.
-/

namespace PatternLint

open Parse

/-- Whether an atom can only stand in a class. -/
def Atom.isMember : Atom → Bool
  | .range .. | .posix .. => true
  | _ => false

namespace Node

/-- Whether a node can only stand in a class. -/
def isMember : Node → Bool
  | .atom _ a => a.isMember
  | .classOp .. => true
  | _ => false

/-- A node with which the search and the widths can deal: classes hold only what belongs in a class,
and all else does not, a repetition may stop when it has taken its least number of turns, and no
group is inside another with the same number. -/
structure Proper (n : Node) : Prop where
  members : n.isClass = true → ∀ m ∈ n.preorder, m.isClass = true ∨ ∃ s a, m = .atom s a
  outside : n.isClass = false → ∀ c ∈ n.children, c.isMember = false
  turns : ∀ s count target, n = .quantifier s count target → count.allows count.min = true
  numbers : ∀ s head body, n = .group s head body → ∀ k ∈ head.number, ∀ m ∈ body.preorder,
    m.number? ≠ some k

end Node

section Formed

variable {ctx : Token.Context} {limit depth : Nat} {role : Role} {n : Node} {e e' : Env}

theorem isClass_of_classPart {spacing : Flags} {caseless : Bool}
    (h : n.ClassPart ctx spacing caseless) : n.isClass = true ∨ ∃ s a, n = .atom s a := by
  cases n with
  | atom s a => exact .inr ⟨s, a, rfl⟩
  | classOp s op operands => exact .inl rfl
  | _ => exact h.elim

theorem Formed.isMember (h : Formed ctx limit n depth role e e') : n.isMember = false := by
  cases n with
  | atom s a =>
      cases a with
      | range first last =>
          rcases h with ⟨ha, -⟩ | ⟨ha, -⟩
          · cases ha
          · exact ha.elim
      | posix name negated =>
          rcases h with ⟨ha, -⟩ | ⟨ha, -⟩
          · cases ha
          · exact ha.elim
      | _ => rfl
  | classOp s op operands => exact h.elim
  | _ => rfl

/-- A group gets its number before its body is read, and the groups in the body get higher ones. -/
theorem Formed.numbers {s : Span} {head : GroupHead} {body : Node}
    (h : Formed ctx limit (.group s head body) depth role e e') :
    ∀ k ∈ head.number, ∀ m ∈ body.preorder, m.number? ≠ some k := by
  obtain ⟨-, inner, last, ⟨opener, -, ho⟩, hbody, -⟩ := h
  intro k hk m hm hnumber
  have hinner : k = inner.captures := by
    cases ho <;> simp_all
  cases m with
  | group s' head' body' =>
      have hlt := (hbody.adds.counted s' head' body' hm k hnumber).1
      omega
  | _ => cases hnumber

theorem Formed.proper (h : Formed ctx limit n depth role e e') : ∀ m ∈ n.preorder, m.Proper := by
  intro m hm
  rcases h.formed_or_part hm with ⟨depth, role, e, e', hm⟩ | ⟨spacing, caseless, hparts⟩
  · refine ⟨?_, ?_, ?_, ?_⟩
    · intro hclass k hk
      cases m with
      | charClass s negated caseless expr =>
          rcases Node.mem_preorder.mp hk with rfl | ⟨c, hc, hk'⟩
          · exact .inl rfl
          · obtain rfl : c = expr := by simpa [Node.children] using hc
            exact isClass_of_classPart (hm.2.2.preorder k hk')
      | classOp s op operands => exact hm.elim
      | _ => cases hclass
    · intro hclass c hc
      rcases hm.child c hc with ⟨_, _, _, _, hc'⟩ | ⟨s, negated, _, caseless, rfl, -⟩
      · exact hc'.isMember
      · cases hclass
    · rintro s count target rfl
      exact hm.2.1
    · rintro s head body rfl
      exact hm.numbers
  · have hself := hparts m m.self_mem_preorder
    refine ⟨fun _ k hk => isClass_of_classPart (hparts k hk), ?_, ?_, ?_⟩
    · intro hclass c hc
      cases m with
      | atom s a => simp [Node.children] at hc
      | classOp s op operands => cases hclass
      | _ => exact hself.elim
    · rintro s count target rfl
      exact hself.elim
    · rintro s head body rfl
      exact hself.elim

/-- A node of a formed tree is formed and in no class, or it is a part of a class. -/
theorem Formed.outside_or_part (h : Formed ctx limit n depth role e e') {above : List Node}
    {m : Node} (ho : (above, m) ∈ n.occurrences) :
    ((∃ depth role e e', Formed ctx limit m depth role e e') ∧ ∀ q ∈ above, q.isClass = false) ∨
      (∃ s negated caseless expr, Node.charClass s negated caseless expr ∈ above) ∧
        ∃ spacing caseless, ∀ k ∈ m.preorder, k.ClassPart ctx spacing caseless := by
  refine Node.occurrences_induction (P := fun above m =>
    ((∃ depth role e e', Formed ctx limit m depth role e e') ∧ ∀ q ∈ above, q.isClass = false) ∨
      (∃ s negated caseless expr, Node.charClass s negated caseless expr ∈ above) ∧
        ∃ spacing caseless, ∀ k ∈ m.preorder, k.ClassPart ctx spacing caseless) ?_ ?_ ho
  · exact .inl ⟨⟨depth, role, e, e', h⟩, by simp⟩
  · intro above m c ih hc
    rcases ih with ⟨⟨depth, role, e, e', hm⟩, habove⟩ | ⟨⟨s, negated, caseless, expr, hq⟩, hparts⟩
    · by_cases hclass : m.isClass = true
      · cases m with
        | charClass s negated caseless expr =>
            obtain rfl : c = expr := by simpa [Node.children] using hc
            exact .inr ⟨⟨s, negated, caseless, c, by simp⟩, e.spacing, caseless, hm.2.2.preorder⟩
        | classOp s op operands => exact hm.elim
        | _ => cases hclass
      · rw [Bool.not_eq_true] at hclass
        rcases hm.child c hc with hc' | ⟨s, negated, _, caseless, rfl, -⟩
        · exact .inl ⟨hc', List.forall_mem_cons.mpr ⟨hclass, habove⟩⟩
        · cases hclass
    · obtain ⟨spacing, caseless', hparts⟩ := hparts
      exact .inr ⟨⟨s, negated, caseless, expr, List.mem_cons_of_mem _ hq⟩, spacing, caseless',
        Node.forall_preorder_child hparts hc⟩

end Formed

/-! ### Nodes that are reached -/

namespace Node

/-- A node above another one is above the tree or in it, and then the other one is below it. -/
theorem mem_above {n m a : Node} {above path : List Node} (h : (path, m) ∈ n.occurrencesUnder above)
    (ha : a ∈ path) : a ∈ above ∨ a ∈ n.preorder ∧ m ∈ a.preorder := by
  induction n using children_induction generalizing above with
  | h n ih =>
      rcases mem_occurrencesUnder.mp h with heq | ⟨c, hc, hmem⟩
      · obtain ⟨rfl, -⟩ := Prod.mk.inj heq
        exact .inl ha
      · rcases ih c hc hmem with ha | ⟨ha, hm⟩
        · rcases List.mem_cons.mp ha with rfl | ha
          · exact .inr ⟨self_mem_preorder _, mem_preorder_of_occurrence h⟩
          · exact .inl ha
        · exact .inr ⟨mem_preorder.mpr (.inr ⟨c, hc, ha⟩), hm⟩

end Node

/-- In a proper tree the search comes to all nodes that no repetition without turns is above, but
for the members of classes. -/
theorem Hazard.reached_of_proper {root n : Node} {above : List Node}
    (hproper : ∀ m ∈ root.preorder, m.Proper) (ho : (above, n) ∈ root.occurrences)
    (hclass : n.isClass = false) (hatom : ∀ s a, n ≠ .atom s a)
    (hnever : ∀ m ∈ above, m.isNever = false) : Hazard.reached above = true := by
  refine reached_iff.mpr fun m hm => ⟨hnever m hm, ?_⟩
  rcases Node.mem_above ho hm with habove | ⟨hroot, hbelow⟩
  · cases habove
  · by_contra hmc
    rcases (hproper m hroot).members (by simpa using hmc) n hbelow with h | ⟨s, a, h⟩
    · simp [hclass] at h
    · exact hatom s a h

namespace Pattern

variable {s : ParserSettings} {body modifiers : String} {delimiter : Char} {p : Pattern}

theorem exists_of_root {x : Except PatternError Pattern} {n : Node} (h : x.map root = .ok n) :
    ∃ p, x = .ok p ∧ p.root = n := exists_of_map h

theorem parseBody_proper (h : parseBody s body modifiers delimiter = .ok p) :
    p.root.isMember = false ∧ ∀ n ∈ p.root.preorder, n.Proper := by
  obtain ⟨flags, -, hp⟩ := parseBody_ok h
  obtain ⟨last, hformed⟩ := parseWith_formed hp
  exact ⟨hformed.isMember, hformed.proper⟩

theorem parseBody_height (h : parseBody s body modifiers delimiter = .ok p) :
    p.root.height ≤ s.treeLimit := by
  obtain ⟨flags, -, hp⟩ := parseBody_ok h
  obtain ⟨ts, st, -, -, rfl, hfault⟩ := parseWith_ok hp
  exact (Node.firstFault?_eq_none_iff.mp (Option.map_eq_none_iff.mp hfault)).1

/-- The search in a pattern that was read with the default settings gets to the bottom of it. -/
theorem parseBody_depth (h : parseBody {} body modifiers delimiter = .ok p) :
    p.root.height ≤ ({} : AnalysisSettings).depthLimit :=
  Nat.le_trans (parseBody_height h) (by decide)

end Pattern

end PatternLint
