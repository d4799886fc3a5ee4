import Mathlib
import PatternLint.Proofs.FlagScope
import PatternLint.Proofs.Parse.Groups
import PatternLint.Proofs.Parse.Lockstep

/-!
# The names of a pattern

A pattern keeps a list of names beside its tree, each with the number of a group, and
references are looked up in the list. The list is made while the tree is read: where a
group is opened, its name is added unless the first group of that name has the number
already. The number may have been given before, in another branch of a group that
numbers its branches alike.

The list can be read off the finished tree: without repetitions, it is what the walk over
the tree meets, in the order in which it meets it. That a number has one name, and that a
name has one number unless duplicates are allowed somewhere, are invariants of the list
that every addition keeps.

Only the first group of a name is asked for its number, and with duplicates allowed a
name has several. So a name can be refused, or be listed twice, for a number that it has:
`registerName_again` says when.
-/

namespace PatternLint

open Token Parse

/-! ### Lists of names -/

namespace Parse

/-- Names as the parser lists them: a number has one name, and the first group of a name is listed
once. -/
structure Listed (names : List (String × Nat)) : Prop where
  named : ∀ g ∈ names, ∀ h ∈ names, g.2 = h.2 → g.1 = h.1
  once : ∀ g, names.find? (fun h => h.1 == g.1) = some g → names.count g = 1

theorem listed_nil : Listed [] := ⟨by simp, by simp⟩

section Register

variable {e : Env} {name : String} {number : Nat} {names : List (String × Nat)}

/-- A name that is admitted can be added. -/
theorem Env.Admits.listed (h : e.Admits name number) (hl : Listed e.names) :
    Listed (e.names ++ [(name, number)]) := by
  refine ⟨?_, ?_⟩
  · simp only [List.mem_append, List.mem_singleton]
    rintro g (hg | rfl) g' (hg' | rfl) hsame
    · exact hl.named g hg g' hg' hsame
    · exact h.numbered g hg hsame
    · exact (h.numbered g' hg' hsame.symm).symm
    · rfl
  · intro g hfirst
    rw [List.find?_append] at hfirst
    rw [List.count_append]
    cases hold : e.names.find? fun h => h.1 == g.1 with
    | some g' =>
        obtain rfl : g' = g := by simpa [hold] using hfirst
        have hne : (name, number) ≠ g' := by
          rintro rfl
          exact h.fresh hold
        simp [hl.once g' hold, hne]
    | none =>
        obtain rfl : (name, number) = g := by
          simp only [hold, Option.none_or, List.find?_singleton] at hfirst
          split at hfirst
          · exact Option.some.inj hfirst
          · cases hfirst
        have hnone : (name, number) ∉ e.names := by
          intro hmem
          simpa using List.find?_eq_none.mp hold _ hmem
        simp [List.count_eq_zero_of_not_mem hnone]

theorem Listed.register (hl : Listed e.names) (h : e.register name number = some names) :
    Listed names := by
  rcases register_eq_some_iff.mp h with ⟨-, rfl⟩ | ⟨hadmits, rfl⟩
  · exact hl
  · exact hadmits.listed hl

end Register

end Parse

/-! ### The names of a tree -/

namespace Node

/-- The name and the number of a group that has both. -/
def named? : Node → Option (String × Nat)
  | group _ { kind := .named, name := some name, number := some number } _ => some (name, number)
  | _ => none

theorem named?_eq_none {n : Node}
    (h : ∀ span head body, n = group span head body → head.kind ≠ .named) : n.named? = none := by
  unfold named?
  split
  · exact absurd rfl (h _ _ _ rfl)
  · rfl

/-- The named groups of a tree, in the order of the walk. -/
def namedGroups (root : Node) : List (String × Nat) := root.preorder.filterMap named?

/-- Whether a node is a setting that sets any of `bits`. -/
def sets (bits : Flags) (n : Node) : Bool := (n.opened 0).has bits

end Node

/-- Flags that are clear after a change if they were before, unless the change sets them. -/
theorem FlagChange.has_apply {change : FlagChange} {f bits : Flags} (hf : f.has bits = false)
    (hset : (change.apply 0).has bits = false) : (change.apply f).has bits = false := by
  rw [Bool.eq_false_iff] at *
  intro hafter
  obtain ⟨i, hi, hbit⟩ := Flags.has_iff.mp hafter
  have hclear : f.getLsbD i ≠ true := fun h => hf (Flags.has_iff.mpr ⟨i, h, hbit⟩)
  refine hset (Flags.has_iff.mpr ⟨i, ?_, hbit⟩)
  simp only [apply, BitVec.getLsbD_and, BitVec.getLsbD_or, Bool.and_eq_true, Bool.or_eq_true]
    at hi ⊢
  refine ⟨hi.1.imp_left fun hbase => absurd ?_ hclear, hi.2⟩
  split at hbase
  · simp only [BitVec.getLsbD_and, Bool.and_eq_true] at hbase
    exact hbase.1
  · exact hbase

theorem Node.has_opened {n : Node} {f bits : Flags} (hf : f.has bits = false)
    (hset : n.sets bits = false) : (n.opened f).has bits = false := by
  unfold sets opened at hset
  unfold opened
  split
  · exact FlagChange.has_apply hf hset
  · exact FlagChange.has_apply hf hset
  · exact hf

namespace Parse

/-- Duplicates are not allowed, and there are none. -/
structure Env.Apart (e : Env) : Prop where
  flags : e.flags.has Flags.duplicateNames = false
  names : (e.names.map Prod.fst).Nodup

/-- Nodes whose named groups are recorded between two environments. -/
structure Records (ns : List Node) (e e' : Env) : Prop where
  listed : Listed e.names → Listed e'.names
  distinct : e'.names.eraseDups = (e.names ++ ns.filterMap Node.named?).eraseDups
  numbered : ∀ span head body, Node.group span head body ∈ ns → head.kind = .named →
    ((Node.group span head body).named?).isSome = true
  apart : e.Apart → (∀ n ∈ ns, n.sets Flags.duplicateNames = false) → e'.Apart

section Records

variable {ns ms : List Node} {e e' e'' : Env}

/-- Which values come first does not depend on how often they come. -/
theorem eraseDups_append_congr {α : Type} [BEq α] [LawfulBEq α] {as as' : List α} (bs : List α)
    (h : as.eraseDups = as'.eraseDups) : (as ++ bs).eraseDups = (as' ++ bs).eraseDups := by
  have hmem : ∀ b, as.elem b = as'.elem b := by
    intro b
    rw [Bool.eq_iff_iff, List.elem_iff, List.elem_iff, ← List.mem_eraseDups, h, List.mem_eraseDups]
  simp only [List.eraseDups_append, h, List.removeAll, hmem]

/-- Nodes without a named group, which may change flags. -/
theorem records_of_eq
    (hkind : ∀ span head body, Node.group span head body ∈ ns → head.kind ≠ .named)
    (hnames : e'.names = e.names)
    (hflags : e.flags.has Flags.duplicateNames = false →
      (∀ n ∈ ns, n.sets Flags.duplicateNames = false) →
      e'.flags.has Flags.duplicateNames = false) : Records ns e e' where
  listed h := hnames ▸ h
  distinct := by
    have hnone : ∀ n ∈ ns, n.named? = none := by
      intro n hn
      refine Node.named?_eq_none fun span head body h => ?_
      exact hkind span head body (h ▸ hn)
    rw [hnames, List.filterMap_eq_nil_iff.mpr hnone, List.append_nil]
  numbered span head body hm hk := absurd hk (hkind span head body hm)
  apart h hset := ⟨hflags h.flags hset, hnames ▸ h.names⟩

theorem Records.append (h : Records ns e e') (h' : Records ms e' e'') :
    Records (ns ++ ms) e e'' where
  listed hl := h'.listed (h.listed hl)
  distinct := by
    rw [h'.distinct, eraseDups_append_congr _ h.distinct, List.append_assoc, List.filterMap_append]
  numbered span head body hm :=
    (List.mem_append.mp hm).elim (h.numbered span head body) (h'.numbered span head body)
  apart ha hset :=
    h'.apart (h.apart ha fun n hn => hset n (List.mem_append_left _ hn))
      fun n hn => hset n (List.mem_append_right _ hn)

/-- How many groups there are does not matter to their names. -/
theorem Records.recount (h : Records ns e e') (captures captures' : Nat) :
    Records ns { e with captures } { e' with captures := captures' } :=
  ⟨h.listed, h.distinct, h.numbered, fun ha hset =>
    ⟨(h.apart ⟨ha.flags, ha.names⟩ hset).flags, (h.apart ⟨ha.flags, ha.names⟩ hset).names⟩⟩

/-- A group that is given a name. -/
theorem records_named {span : Span} {body : Node} {name : String} {number captures : Nat}
    {names : List (String × Nat)} (h : e.register name number = some names) :
    Records [.group span { kind := .named, name := some name, number := some number } body] e
      { e with captures, names } where
  listed hl := hl.register h
  distinct := by
    show names.eraseDups = (e.names ++ [(name, number)]).eraseDups
    rcases register_eq_some_iff.mp h with ⟨hfirst, rfl⟩ | ⟨-, rfl⟩
    · have hmem := List.mem_of_find?_eq_some hfirst
      simp [List.eraseDups_append, List.removeAll, hmem]
    · rfl
  numbered span' head' body' hm hk := by
    cases List.mem_singleton.mp hm
    rfl
  apart ha hset := by
    refine ⟨ha.flags, ?_⟩
    rcases register_eq_some_iff.mp h with ⟨-, rfl⟩ | ⟨hadmits, rfl⟩
    · exact ha.names
    · have hnew : ∀ old k, (old, k) ∈ e.names → ¬ old = name :=
        fun _ _ hm => hadmits.apart ha.flags _ hm
      simpa [List.nodup_append] using ⟨ha.names, hnew⟩

/-- A group records its name if it has one. -/
theorem records_head {ctx : Context} {span : Span} {head : GroupHead} {body : Node} {inner : Env}
    (h : HeadFormed ctx e head inner) : Records [.group span head body] e inner := by
  obtain ⟨-, hflags⟩ := h.opened span body
  obtain ⟨opener, -, hopens⟩ := h
  have hplain : head.kind ≠ .named → inner.names = e.names →
      Records [.group span head body] e inner := by
    intro hk hnames
    refine records_of_eq ?_ hnames ?_
    · intro span' head' body' hm
      cases List.mem_singleton.mp hm
      exact hk
    · intro hf hset
      rw [hflags]
      exact Node.has_opened hf (hset _ (List.mem_singleton_self _))
  cases hopens with
  | named hr => exact records_named hr
  | _ => exact hplain (by simp) rfl

/-- What a tree records can be followed from node to node. -/
theorem records_followed {ctx : Context} : Followed ctx Records where
  nil e := records_of_eq (by simp) rfl fun hf _ => hf
  append h h' := h.append h'
  alike {_ _ e _ _ _} h h' := (h.recount e.captures e.captures).append (h'.recount e.captures _)
  reflag h := ⟨h.listed, h.distinct, h.numbered, fun ha hset => ⟨ha.flags, (h.apart ha hset).names⟩⟩
  atom span a e := by
    refine records_of_eq (by simp) (Env.after_names e a) fun hf hset => ?_
    rw [Env.after_flags e span a]
    exact Node.has_opened hf (hset _ (List.mem_singleton_self _))
  group span body h := records_head h
  other e hatom hgroup := by
    refine records_of_eq (fun span head body hm => ?_) rfl fun hf _ => hf
    exact absurd (List.mem_singleton.mp hm).symm (hgroup span head body)

end Records

/-! ### Names given again -/

section Steps

variable {s : ParserSettings} {st st' : State} {t : Token} {next : Nat}

theorem pushDigits_names (offset : Nat) (digits : List Char) :
    (st.pushDigits offset digits).names = st.names := by
  induction digits generalizing st offset with
  | nil => rfl
  | cons c cs ih => exact ih (offset + 1)

/-- A construct that is opened leaves the names as they are or registers one. -/
theorem Opens.names_eq {e inner : Env} {k : TokenKind} {construct : Construct}
    (h : Opens e k construct inner) :
    inner.names = e.names ∨ ∃ name, e.register name (e.captures + 1) = some inner.names := by
  cases h with
  | group ho =>
      cases ho with
      | named hr => exact .inr ⟨_, hr⟩
      | _ => exact .inl rfl
  | _ => exact .inl rfl

/-- A step leaves the names as they are or registers one. -/
theorem step_names (h : step s st t next = .ok st') :
    st'.names = st.names ∨ ∃ name, st.env.register name (st.captures + 1) = some st'.names := by
  rcases step_move h with ⟨-, hm⟩ | ⟨c, c', -, -, rfl⟩ | ⟨c, n, -, -, rfl⟩
  · cases hm with
    | octal => exact .inl (pushDigits_names _ _)
    | enter ho hn => exact ho.names_eq
    | _ => exact .inl rfl
  · exact .inl rfl
  · exact .inl rfl

theorem step_listed (hl : Listed st.names) (h : step s st t next = .ok st') :
    Listed st'.names := by
  rcases step_names h with hnames | ⟨name, hr⟩
  · exact hnames ▸ hl
  · exact Listed.register (e := st.env) hl hr

/-- In every state that the parser goes through, be the text accepted or not, a name may be given
again to a group of a number that it has. If that is the number of the first group of the name,
nothing changes, and the first group is listed once. If it is the number of a later one, what
happens depends on whether duplicates are allowed at that place: the pair is listed again, or the
name is refused. -/
theorem registerName_again {flags : Flags} {ts : List Token} {name : String} {number : Nat}
    (hst : st ∈ states s (initial flags ts) ts) (hm : (name, number) ∈ st.names) (current : Flags)
    (offset : Nat) :
    (st.names.find? (fun g => g.1 == name) = some (name, number) →
      State.registerName { st with flags := current } name number offset =
        .ok { st with flags := current } ∧ st.names.count (name, number) = 1) ∧
    (st.names.find? (fun g => g.1 == name) ≠ some (name, number) →
      State.registerName { st with flags := current } name number offset =
        if current.has Flags.duplicateNames then
          .ok { st with flags := current, names := st.names ++ [(name, number)] }
        else .error ⟨.nameTaken name, offset⟩) := by
  have hl : Listed st.names := states_invariant step_listed listed_nil st hst
  refine ⟨fun hfirst => ⟨?_, hl.once _ hfirst⟩, fun hlater => ?_⟩
  · simp [State.registerName, hfirst]
  · obtain ⟨⟨old, first⟩, hfirst⟩ : ∃ g, st.names.find? (fun g => g.1 == name) = some g :=
      Option.isSome_iff_exists.mp (List.find?_isSome.mpr ⟨_, hm, beq_self_eq_true name⟩)
    obtain rfl : old = name := by simpa using List.find?_some hfirst
    have hother : first ≠ number := by
      rintro rfl
      exact hlater hfirst
    have hnamed : (st.names.any fun g => g.2 == number && g.1 != old) = false := by
      simpa [List.any_eq_false] using fun other k hg hk => hl.named _ hg _ hm hk
    simp [State.registerName, hfirst, hother, hnamed]

end Steps

/-- The second branch may give its group the name that the first branch gave. -/
theorem registerName_again_branch :
    ∃ ts st, tokenize "(?<a>x)(?|(?<b>y)|(?<b>z))" 0 .pcre43 = .ok ts ∧
      st ∈ states {} (initial 0 ts) ts ∧ st.names = [("a", 1), ("b", 2)] ∧
      State.registerName { st with flags := 0 } "b" 2 18 = .ok { st with flags := 0 } ∧
      st.names.count ("b", 2) = 1 := by
  obtain ⟨ts, ht, hvalues⟩ := exists_of_map
    (f := fun ts => (states {} (initial 0 ts) ts)[8]?.map State.names)
    (x := tokenize "(?<a>x)(?|(?<b>y)|(?<b>z))" 0 .pcre43)
    (b := some [("a", 1), ("b", 2)]) (by cbv)
  obtain ⟨st, hst, hnames⟩ := Option.map_eq_some_iff.mp hvalues
  have hmem : st ∈ states {} (initial 0 ts) ts := List.mem_of_getElem? hst
  have hfirst : st.names.find? (fun g => g.1 == "b") = some ("b", 2) := by
    rw [hnames]
    rfl
  have hagain := (registerName_again hmem (hnames ▸ by simp) 0 18).1 hfirst
  exact ⟨ts, st, ht, hmem, hnames, hagain⟩

/-- A name that has a number is refused for it in another branch, where duplicates are not allowed
any more; and where they are, the pair is listed twice. -/
theorem not_registerName_again :
    (∃ ts st, tokenize "(?<a>x)(?|(?J:(?<a>y))|(?<a>z))" 0 .pcre43 = .ok ts ∧
      st ∈ states {} (initial 0 ts) ts ∧ ("a", 2) ∈ st.names ∧
      st.registerName "a" 2 23 = .error ⟨.nameTaken "a", 23⟩) ∧
    ∃ p, Pattern.parseBody {} "(?J)(?<a>x)(?|(?<a>y)|(?<a>z))" "" '/' = .ok p ∧
      p.names = [("a", 1), ("a", 2), ("a", 2)] := by
  refine ⟨?_, exists_of_map (f := Pattern.names) (by cbv)⟩
  obtain ⟨ts, ht, hvalues⟩ := exists_of_map
    (f := fun ts => (states {} (initial 0 ts) ts)[10]?.map fun st => (st.names, st.flags))
    (x := tokenize "(?<a>x)(?|(?J:(?<a>y))|(?<a>z))" 0 .pcre43)
    (b := some ([("a", 1), ("a", 2)], 0)) (by cbv)
  obtain ⟨st, hst, hvalues⟩ := Option.map_eq_some_iff.mp hvalues
  obtain ⟨hnames, hflags⟩ := Prod.mk.inj hvalues
  have hrefused : st.registerName "a" 2 23 = .error ⟨.nameTaken "a", 23⟩ := by
    simp only [State.registerName, hnames, hflags]
    rfl
  exact ⟨ts, st, ht, List.mem_of_getElem? hst, hnames ▸ by simp, hrefused⟩

end Parse

/-! ### Patterns -/

namespace Pattern

/-- The names of a pattern that was read are those of its tree. The list and the tree have the same
pairs of a name and a number, in the same order where they come first; every named group has both;
a number has one name; and a name is listed once unless a modifier or a setting allows
duplicates. -/
theorem parseBody_names {s : ParserSettings} {body modifiers : String} {delimiter : Char}
    {p : Pattern} (h : parseBody s body modifiers delimiter = .ok p) :
    (∀ g, g ∈ p.names ↔ g ∈ p.root.namedGroups) ∧
    p.names.eraseDups = p.root.namedGroups.eraseDups ∧
    (∀ span head body, Node.group span head body ∈ p.root.preorder → head.kind = .named →
      ((Node.group span head body).named?).isSome = true) ∧
    (∀ g ∈ p.names, ∀ h ∈ p.names, g.2 = h.2 → g.1 = h.1) ∧
    (p.flags.has Flags.duplicateNames = false →
      (∀ n ∈ p.root.preorder, n.sets Flags.duplicateNames = false) →
      (p.names.map Prod.fst).Nodup) := by
  obtain ⟨-, -, -, hp⟩ := parseBody_fields h
  obtain ⟨last, hformed⟩ := parseWith_formed hp
  have hrecords : Records p.root.preorder ⟨p.flags, 0, []⟩ ⟨last, p.captures, p.names⟩ :=
    records_followed.formed hformed
  have hdistinct : p.names.eraseDups = p.root.namedGroups.eraseDups := hrecords.distinct
  refine ⟨?_, hdistinct, hrecords.numbered, (hrecords.listed listed_nil).named, ?_⟩
  · intro g
    rw [← List.mem_eraseDups, hdistinct, List.mem_eraseDups]
  · intro hflags hset
    exact (hrecords.apart ⟨hflags, List.nodup_nil⟩ hset).names

/-- Two groups of one number in the branches of a group that numbers them alike are listed once. -/
theorem parseBody_names_alike :
    ∃ p, parseBody {} "(?|(?<a>x)|(?<a>y)(?<b>z))" "" '/' = .ok p ∧
      p.names = [("a", 1), ("b", 2)] ∧
      p.root.namedGroups = [("a", 1), ("a", 1), ("b", 2)] ∧
      p.names.eraseDups = p.root.namedGroups.eraseDups ∧ (p.names.map Prod.fst).Nodup := by
  obtain ⟨p, hp, hvalues⟩ := exists_of_map
    (f := fun p => (p.names, p.root.namedGroups, p.flags.has Flags.duplicateNames,
      p.root.preorder.all fun n => n.sets Flags.duplicateNames == false))
    (x := parseBody {} "(?|(?<a>x)|(?<a>y)(?<b>z))" "" '/')
    (b := ([("a", 1), ("b", 2)], [("a", 1), ("a", 1), ("b", 2)], false, true)) (by cbv)
  simp only [Prod.mk.injEq] at hvalues
  obtain ⟨hnames, hgroups, hflags, hset⟩ := hvalues
  obtain ⟨-, hdistinct, -, -, hapart⟩ := parseBody_names hp
  exact ⟨p, hp, hnames, hgroups, hdistinct, hapart hflags (by simpa using hset)⟩

end Pattern

end PatternLint
