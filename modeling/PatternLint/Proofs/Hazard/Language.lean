import Mathlib.Computability.Language
import PatternLint.Proofs.CharSet.Laws
import PatternLint.Proofs.Hazard.Search

/-!
# Profiles cover what nodes match

The texts that a node can match, as a language over characters: it says nothing
about the text around, so that an assertion matches the empty text, and it says
nothing useful about references and calls, which may match anything.

A profile is an abstraction of a language. It may allow too much, as a sequence
that begins with an optional item may begin with either, but never too little:
`Covers` is this relation, with one lemma for each operation on profiles, and
`profile_covers` puts them together.
-/

namespace PatternLint

/-- The texts of one character from a set. -/
def CharSet.language (s : CharSet) : Language Char := {w | ∃ c, s.contains c = true ∧ w = [c]}

/-- What an atom matches. What stands only in a class matches nothing by itself. -/
def Atom.language : Atom → Language Char
  | .literal c _ caseless => (CharSet.single c caseless).language
  | .dot dotAll => (Hazard.dotSet dotAll).language
  | .shorthand .newline false => (CharSet.shorthand .newline false).language + {['\r', '\n']}
  | .shorthand .grapheme false => {w | w ≠ []}
  | .shorthand kind negated => (CharSet.shorthand kind negated).language
  | .backref .. | .subroutine _ => ⊤
  | .range .. | .posix .. => 0
  | .empty | .anchor .. | .inlineFlags _ | .verb .. | .callout _ | .comment _ => 1

/-- Whether an atom is a reference or a call. -/
def Atom.isCall : Atom → Bool
  | .backref .. | .subroutine _ => true
  | _ => false

/-- What is matched by turns one after another, as many as the count says. -/
def Repeat.language (count : Repeat) (l : Language Char) : Language Char :=
  {w | ∃ turns, count.min ≤ turns ∧ count.allows turns = true ∧ w ∈ l ^ turns}

namespace Node

mutual
/-- What a node matches. -/
def language : Node → Language Char
  | .atom _ a => a.language
  | .sequence _ items => (languages items).prod
  | .alternation _ branches => (languages branches).sum
  | .group _ head body => if head.kind.isLookaround then 1 else language body
  | .quantifier _ count target => count.language (language target)
  | .charClass s negated caseless expr =>
    (memberSet caseless (.charClass s negated caseless expr)).language
  | .classOp .. => 0
  | .conditional _ _ yes no => language yes + optionalLanguage no
  | .define .. => 1
/-- What several nodes match. -/
def languages : List Node → List (Language Char)
  | [] => []
  | n :: ns => language n :: languages ns
/-- What a node matches that may be missing. -/
def optionalLanguage : Option Node → Language Char
  | none => 1
  | some n => language n
end

@[simp] theorem languages_eq_map (ns : List Node) : languages ns = ns.map language := by
  induction ns with
  | nil => rfl
  | cons n ns ih => rw [languages, ih, List.map_cons]

/-- Whether a node is a reference or a call. -/
def isCall : Node → Bool
  | .atom _ a => a.isCall
  | _ => false

/-- A tree without references and calls. -/
def CallFree (n : Node) : Prop := ∀ m ∈ n.preorder, m.isCall = false

instance (n : Node) : Decidable n.CallFree :=
  inferInstanceAs (Decidable (∀ m ∈ n.preorder, m.isCall = false))

theorem CallFree.child {c n : Node} (h : n.CallFree) (hc : c ∈ n.children) : c.CallFree :=
  forall_preorder_child h hc

theorem CallFree.below {m n : Node} (h : n.CallFree) (hm : m ∈ n.preorder) : m.CallFree :=
  fun k hk => h k (mem_preorder_trans hm hk)

/-- A letter by itself, as a node. -/
def letter (start : Nat) (c : Char) : Node :=
  .atom ⟨start, start + 1⟩ (.literal c .verbatim false)

theorem mem_language_letter (start : Nat) (c : Char) : [c] ∈ (letter start c).language :=
  ⟨c, by simp [CharSet.contains_single], rfl⟩

end Node

namespace Profile

/-- A profile that allows all that a language has: the empty text, and the first and last
characters of all others. -/
structure Covers (p : Profile) (l : Language Char) : Prop where
  empty : [] ∈ l → p.nullable = true
  begins : ∀ {c w}, c :: w ∈ l → p.consumes = true ∧ p.first.contains c = true
  ends : ∀ {w c}, w ++ [c] ∈ l → p.consumes = true ∧ p.last.contains c = true

variable {p q : Profile} {l m : Language Char}

theorem covers_zero (p : Profile) : p.Covers 0 :=
  ⟨fun h => absurd h (Language.notMem_zero _), fun h => absurd h (Language.notMem_zero _),
    fun h => absurd h (Language.notMem_zero _)⟩

theorem covers_one (hp : p.nullable = true) : p.Covers 1 :=
  ⟨fun _ => hp, fun h => by simp at h, fun h => by simp at h⟩

theorem covers_single (s : CharSet) : (single s).Covers s.language := by
  refine ⟨?_, ?_, ?_⟩
  · rintro ⟨c, -, hw⟩
    cases hw
  · rintro c w ⟨d, hd, hw⟩
    cases hw
    exact ⟨rfl, hd⟩
  · rintro w c ⟨d, hd, hw⟩
    obtain ⟨-, rfl⟩ : w = [] ∧ c = d := by simpa using List.append_eq_singleton_iff.mp hw
    exact ⟨rfl, hd⟩

theorem Covers.andThen (hp : p.Covers l) (hq : q.Covers m) : (p.andThen q).Covers (l * m) := by
  refine ⟨fun h => ?_, fun {c w} h => ?_, fun {w c} h => ?_⟩
  all_goals obtain ⟨u, hu, v, hv, huv⟩ := Language.mem_mul.mp h
  · obtain ⟨rfl, rfl⟩ := List.append_eq_nil_iff.mp huv
    simp [Profile.andThen, hp.empty hu, hq.empty hv]
  · -- The first character comes from the second part only if the first part is empty.
    cases u with
    | nil =>
        obtain ⟨hconsumes, hfirst⟩ := hq.begins (c := c) (w := w) (by simpa [← huv] using hv)
        simp [Profile.andThen, hp.empty hu, hconsumes, hfirst, CharSet.laws.contains_union]
    | cons d u =>
        obtain ⟨rfl, -⟩ := List.cons.inj huv
        obtain ⟨hconsumes, hfirst⟩ := hp.begins hu
        refine ⟨by simp [Profile.andThen, hconsumes], ?_⟩
        simp only [Profile.andThen]
        split <;> simp [hfirst, CharSet.laws.contains_union]
  · rcases List.eq_nil_or_concat v with rfl | ⟨v, d, rfl⟩
    · obtain ⟨hconsumes, hlast⟩ := hp.ends (w := w) (c := c) (by simpa [← huv] using hu)
      simp [Profile.andThen, hq.empty hv, hconsumes, hlast, CharSet.laws.contains_union]
    · rw [List.concat_eq_append, ← List.append_assoc] at huv
      obtain ⟨-, rfl⟩ := List.append_singleton_inj.mp huv
      obtain ⟨hconsumes, hlast⟩ := hq.ends (by simpa using hv)
      refine ⟨by simp [Profile.andThen, hconsumes], ?_⟩
      simp only [Profile.andThen]
      split <;> simp [hlast, CharSet.laws.contains_union]

theorem Covers.or (hp : p.Covers l) (hq : q.Covers m) : (p.or q).Covers (l + m) := by
  refine ⟨fun h => ?_, fun {c w} h => ?_, fun {w c} h => ?_⟩
  all_goals rcases (Language.mem_add l m _).mp h with h | h
  · simp [Profile.or, hp.empty h]
  · simp [Profile.or, hq.empty h]
  · simp [Profile.or, hp.begins h, CharSet.laws.contains_union]
  · simp [Profile.or, hq.begins h, CharSet.laws.contains_union]
  · simp [Profile.or, hp.ends h, CharSet.laws.contains_union]
  · simp [Profile.or, hq.ends h, CharSet.laws.contains_union]

section Lists

variable {f : Node → Profile} {g : Node → Language Char} {ns : List Node}

theorem Covers.foldl_andThen (hp : p.Covers l) (h : ∀ n ∈ ns, (f n).Covers (g n)) :
    ((ns.map f).foldl Profile.andThen p).Covers (l * (ns.map g).prod) := by
  induction ns generalizing p l with
  | nil => simpa using hp
  | cons n ns ih =>
      rw [List.map_cons, List.foldl_cons, List.map_cons, List.prod_cons, ← mul_assoc]
      exact ih (hp.andThen (h n (by simp))) fun m hm => h m (by simp [hm])

theorem covers_sequence (h : ∀ n ∈ ns, (f n).Covers (g n)) :
    (sequence (ns.map f)).Covers (ns.map g).prod := by
  have hall := (covers_one (p := blank) rfl).foldl_andThen h
  rwa [one_mul] at hall

theorem Covers.foldl_or (hp : p.Covers l) (h : ∀ n ∈ ns, (f n).Covers (g n)) :
    ((ns.map f).foldl Profile.or p).Covers (l + (ns.map g).sum) := by
  induction ns generalizing p l with
  | nil => simpa using hp
  | cons n ns ih =>
      rw [List.map_cons, List.foldl_cons, List.map_cons, List.sum_cons, ← add_assoc]
      exact ih (hp.or (h n (by simp))) fun m hm => h m (by simp [hm])

theorem covers_anyOf (h : ∀ n ∈ ns, (f n).Covers (g n)) :
    (anyOf (ns.map f)).Covers (ns.map g).sum := by
  cases ns with
  | nil => exact covers_zero _
  | cons n ns =>
      rw [List.map_cons, List.map_cons, List.sum_cons, anyOf]
      exact (h n (by simp)).foldl_or fun m hm => h m (by simp [hm])

end Lists

end Profile

/-! ### Repetition -/

/-- A text begins as the first of its parts that is not empty. -/
theorem exists_begins_of_flatten {parts : List (List Char)} {c : Char} {w : List Char}
    (h : c :: w = parts.flatten) : ∃ v, c :: v ∈ parts := by
  induction parts with
  | nil => cases h
  | cons u rest ih =>
      rw [List.flatten_cons] at h
      cases u with
      | nil =>
          obtain ⟨v, hv⟩ := ih h
          exact ⟨v, by simp [hv]⟩
      | cons d u =>
          obtain ⟨rfl, -⟩ := List.cons.inj h
          exact ⟨u, by simp⟩

/-- A text ends as the last of its parts that is not empty. -/
theorem exists_ends_of_flatten {parts : List (List Char)} {c : Char} {w : List Char}
    (h : w ++ [c] = parts.flatten) : ∃ v, v ++ [c] ∈ parts := by
  induction parts generalizing w with
  | nil => simp at h
  | cons u rest ih =>
      rw [List.flatten_cons] at h
      rcases List.eq_nil_or_concat rest.flatten with hrest | ⟨v, d, hrest⟩
      · exact ⟨w, by simp [h, hrest]⟩
      · rw [hrest, List.concat_eq_append, ← List.append_assoc] at h
        obtain ⟨-, rfl⟩ := List.append_singleton_inj.mp h
        obtain ⟨v', hv⟩ := ih (hrest ▸ (List.concat_eq_append).symm)
        exact ⟨v', by simp [hv]⟩

namespace Hazard

open Profile

variable {p : Profile} {l : Language Char}

theorem covers_quantifier (hp : p.Covers l) (count : Repeat) :
    (ofQuantifier count p).Covers (count.language l) := by
  refine ⟨?_, ?_, ?_⟩
  · rintro ⟨turns, hmin, -, hw⟩
    obtain ⟨parts, hparts, rfl, hmem⟩ := Language.mem_pow.mp hw
    cases parts with
    | nil =>
        have hzero : count.min = 0 := Nat.le_zero.mp hmin
        simp [ofQuantifier, hzero]
    | cons u rest =>
        obtain ⟨rfl, -⟩ := List.append_eq_nil_iff.mp hparts.symm
        simp [ofQuantifier, hp.empty (hmem [] (by simp))]
  · rintro c w ⟨turns, -, -, hw⟩
    obtain ⟨parts, hparts, -, hmem⟩ := Language.mem_pow.mp hw
    obtain ⟨v, hv⟩ := exists_begins_of_flatten hparts
    exact hp.begins (hmem _ hv)
  · rintro w c ⟨turns, -, -, hw⟩
    obtain ⟨parts, hparts, -, hmem⟩ := Language.mem_pow.mp hw
    obtain ⟨v, hv⟩ := exists_ends_of_flatten hparts
    exact hp.ends (hmem _ hv)

/-- A repetition without turns leaves the empty text. -/
theorem covers_never {count : Repeat} (hmax : count.max = some 0) :
    blank.Covers (count.language l) := by
  have hempty : ∀ {w}, w ∈ count.language l → w = [] := by
    rintro w ⟨turns, -, hallows, hw⟩
    obtain rfl : turns = 0 := by simpa [Repeat.allows, hmax] using hallows
    simpa using hw
  refine ⟨fun _ => rfl, fun h => ?_, fun h => ?_⟩
  · cases hempty h
  · simpa using hempty h

theorem covers_group (hp : p.Covers l) (kind : GroupKind) :
    (ofGroup kind p).Covers (if kind.isLookaround then 1 else l) := by
  rw [ofGroup]
  split
  · split <;> exact covers_one rfl
  · split
    · exact ⟨hp.empty, hp.begins, hp.ends⟩
    · exact hp

/-- A line break of two characters begins and ends with characters that are line breaks alone. -/
theorem covers_newline :
    (single (.shorthand .newline false)).Covers (Atom.shorthand .newline false).language := by
  have hset := covers_single (CharSet.shorthand .newline false)
  obtain ⟨hcr, hlf⟩ := CharSet.contains_verticalSpace
  refine ⟨?_, ?_, ?_⟩
  · rintro (h | h)
    · exact hset.empty h
    · cases h
  · rintro c w (h | h)
    · exact hset.begins h
    · cases h
      exact ⟨rfl, hcr⟩
  · rintro w c (h | h)
    · exact hset.ends h
    · have htwo : w ++ [c] = ['\r'] ++ ['\n'] := h
      obtain ⟨-, rfl⟩ := List.append_singleton_inj.mp htwo
      exact ⟨rfl, hlf⟩

theorem covers_grapheme :
    (single (.shorthand .grapheme false)).Covers (Atom.shorthand .grapheme false).language :=
  ⟨fun h => absurd rfl h, fun _ => ⟨rfl, CharSet.laws.contains_any _⟩,
    fun _ => ⟨rfl, CharSet.laws.contains_any _⟩⟩

theorem covers_atom (ctx : Context) (a : Atom) (h : a.isCall = false) :
    (atomProfile ctx a).Covers a.language := by
  cases a with
  | literal c form caseless => exact covers_single _
  | dot dotAll => exact covers_single _
  | shorthand kind negated =>
      cases kind with
      | newline =>
          cases negated with
          | true => exact covers_single _
          | false => exact covers_newline
      | grapheme =>
          cases negated with
          | true => exact covers_single _
          | false => exact covers_grapheme
      | _ => exact covers_single _
  | backref ref caseless => cases h
  | subroutine target => cases h
  | range first last => exact covers_zero _
  | posix name negated => exact covers_zero _
  | _ => exact covers_one rfl

/-- The profile of a tree without references and calls covers all that the tree matches. -/
theorem profile_covers (ctx : Context) (n : Node) (h : n.CallFree) :
    (profile ctx n).Covers n.language := by
  induction n using Node.children_induction with
  | h n ih =>
      have hbelow : ∀ c ∈ n.children, (profile ctx c).Covers c.language :=
        fun c hc => ih c hc (h.child hc)
      cases n with
      | atom s a => exact covers_atom ctx a (h (.atom s a) (Node.self_mem_preorder _))
      | sequence s items =>
          rw [profile, Node.language, profiles_eq_map, Node.languages_eq_map]
          exact covers_sequence hbelow
      | alternation s branches =>
          rw [profile, Node.language, profiles_eq_map, Node.languages_eq_map]
          exact covers_anyOf hbelow
      | group s head body =>
          rw [profile, Node.language]
          exact covers_group (hbelow body (by simp [Node.children])) head.kind
      | quantifier s count target =>
          rw [profile, Node.language]
          split
          next hmax => exact covers_never hmax
          next => exact covers_quantifier (hbelow target (by simp [Node.children])) count
      | charClass s negated caseless expr => exact covers_single _
      | classOp s op operands => exact covers_zero _
      | conditional s test yes no =>
          rw [profile, Node.language]
          refine (hbelow yes (by simp [Node.children])).or ?_
          cases no with
          | none => exact covers_one rfl
          | some m => exact hbelow m (by simp [Node.children])
      | define s body => exact covers_one rfl

end Hazard

end PatternLint
