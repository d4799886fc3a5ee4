import Mathlib
import PatternLint.Proofs.Depth
import PatternLint.Proofs.Literal
import PatternLint.Proofs.References
import PatternLint.Proofs.Roundtrip

/-!
# What is printed once is printed alike ever after

A pattern is printed as a literal in a normal form. Reading that literal and
printing it again gives the same literal and the same number of groups, as long as
what was printed can be told apart, which `printsApart` computes from the tree.

It is not always so. In a class that starts with the end of a quotation, a bracket
next to that is the end of the class; printing leaves quotations out, and without
them the bracket is a member.
-/

namespace PatternLint

open Token Parse

namespace Pattern

variable {s : ParserSettings} {body modifiers : String} {delimiter : Char} {p : Pattern}

/-- Every name that is referred to in a pattern that is accepted is the name of a group, and was
checked there. -/
theorem named_of_ok (h : parseBody s body modifiers delimiter = .ok p) : p.root.Named := by
  have hname : ∀ {n : Node} {name : String}, n ∈ p.root.preorder →
      n.reference? = some (.name name) → checkName name.toList = .ok () := by
    intro n name hn href
    obtain ⟨span, head, group, hm, hkind, hname⟩ := leadsTo_of_ok h hn href
    have hnames := (readFrom_of_ok h).1.adds.names
    obtain ⟨g, hg, rfl⟩ := hnames.recorded span head group hm hkind name hname
    rcases hnames.found g hg with hold | ⟨_, _, _, -, -, -, hcheck⟩
    · cases hold
    · exact hcheck
  intro span a ha
  unfold Atom.Named
  split
  · exact hname ha rfl
  · exact hname ha rfl
  · trivial

/-- Whether what is printed of a pattern can be told apart when it is read again: repeated
repetitions are written with counts in braces, each token ends where its spelling ends, and the
body ends at its closing delimiter. What is too deep is printed as it was read. -/
def printsApart (s : ParserSettings) (p : Pattern) : Bool :=
  p.root.text?.all fun text =>
    p.root.preorder.all Node.isBraced &&
      clear (contextOf text p.flags s.dialect) (Mode.initial p.flags) (p.root.kinds false) &&
      Delimited.encloses p.delimiter text.toList

/-- A tree that differs from another one in its style alone is printed as that one is. -/
theorem text?_respelled {n m : Node} (hn : ∀ c ∈ n.preorder, c.isPlain = true)
    (hm : ∀ c ∈ m.preorder, c.isPlain = true) (hheight : m.height ≤ Render.defaultLimit)
    (h : n.erase = m.respelled false) : n.text? = m.text? := by
  have hkinds : n.kinds false = m.kinds false :=
    calc n.kinds false = n.erase.kinds false := (Restyle.silent_erase.kinds n).symm
      _ = (m.respelled false).kinds false := by rw [h]
      _ = m.kinds false := Restyle.silent_respelling.kinds m
  have hle : n.height ≤ Render.defaultLimit :=
    calc n.height = n.erase.height := (Restyle.height_node {} false n).symm
      _ = (m.respelled false).height := by rw [h]
      _ = m.height := Restyle.respelling.height_node false m
      _ ≤ Render.defaultLimit := hheight
  rw [Node.text?_eq hn hle, Node.text?_eq hm hheight, hkinds]

/-- What is printed of a tree that is not too deep is read again, if it can be told apart. -/
theorem parseWith_printed {text : String} (h : parseBody s body modifiers delimiter = .ok p)
    (htext : p.root.text? = some text) (happ : p.printsApart s = true) :
    ∃ p', parseWith s p.delimiter p.flags text = .ok p' ∧ p'.delimiter = p.delimiter ∧
      p'.flags = p.flags ∧ p'.root.text? = some text ∧ p'.captures = p.captures := by
  obtain ⟨-, -, -, hp⟩ := parseBody_fields h
  obtain ⟨last, hformed⟩ := parseWith_formed hp
  obtain ⟨-, -, -, -, -, hfault⟩ := parseWith_ok hp
  have hheight : p.root.height ≤ Render.defaultLimit := by
    rw [← Nat.not_lt, ← Node.text?_eq_none_iff, htext]
    simp
  obtain rfl : text = p.root.written false := by
    rw [Node.text?_eq hformed.isPlain hheight] at htext
    exact (Option.some.inj htext).symm
  simp only [printsApart, htext, Option.all_some, Bool.and_eq_true, List.all_eq_true] at happ
  obtain ⟨⟨hbraced, hclear⟩, -⟩ := happ
  have hstrung : Strung s.dialect (Mode.initial p.flags) (p.root.kinds false) _ :=
    stringable (named_of_ok h) p.root (Node.self_mem_preorder p.root) hformed
  have htrail : Trail (contextOf (p.root.written false) p.flags s.dialect) (Mode.initial p.flags)
      (p.root.kinds false) [] :=
    Strung.trail hstrung rfl (hformed.leading hbraced).fits hclear
  obtain ⟨p', hp', hdelimiter, hflags, hroot, hcaptures, -⟩ :=
    parseWith_of_trail hformed hbraced (Option.map_eq_none_iff.mp hfault) htrail
  obtain ⟨last', hformed'⟩ := parseWith_formed hp'
  have hsame := text?_respelled hformed'.isPlain hformed.isPlain hheight hroot
  exact ⟨p', hp', hdelimiter, hflags, hsame.trans htext, hcaptures⟩

/-- The body that is printed is found between its delimiters and read again. -/
theorem parseWith_toBody (h : parseBody s body modifiers delimiter = .ok p)
    (hencloses : Delimited.encloses delimiter body.toList = true) (happ : p.printsApart s = true) :
    Delimited.encloses p.delimiter p.toBody.toList = true ∧
      ∃ p', parseWith s p.delimiter p.flags p.toBody = .ok p' ∧ p'.toLiteral = p.toLiteral ∧
        p'.captures = p.captures := by
  cases htext : p.root.text? with
  | none =>
      -- A tree that is too deep is printed as its source, so nothing has changed.
      obtain ⟨hdelimiter, hsource, -, hp⟩ := parseBody_fields h
      have hbody : p.toBody = p.source := by rw [toBody, htext, Option.getD_none]
      rw [hbody]
      refine ⟨?_, p, hp, rfl, rfl⟩
      rw [hdelimiter, hsource]
      exact hencloses
  | some text =>
      obtain ⟨p', hp', hdelimiter, hflags, htext', hcaptures⟩ := parseWith_printed h htext happ
      have hbody : p.toBody = text := by rw [toBody, htext, Option.getD_some]
      have hbody' : p'.toBody = text := by rw [toBody, htext', Option.getD_some]
      simp only [printsApart, htext, Option.all_some, Bool.and_eq_true] at happ
      rw [hbody]
      refine ⟨happ.2, p', hp', ?_, hcaptures⟩
      rw [toLiteral, toLiteral, hbody, hbody', hdelimiter, hflags]

/-- If a literal is read and what is printed of it can be told apart, then that is read with the
same settings, is printed as it stands, and has as many groups. -/
theorem parse_toLiteral (s : ParserSettings) (literal : String) (p : Pattern)
    (h : parse s literal = .ok p) (happ : p.printsApart s = true) :
    ∃ p', parse s p.toLiteral = .ok p' ∧ p'.toLiteral = p.toLiteral ∧
      p'.captures = p.captures := by
  rw [parse] at h
  split at h
  · cases h
  · next d hd =>
      obtain ⟨hdelimiter, -, hmodifiers, -⟩ := parseBody_fields h
      obtain ⟨hmark, hblank, hencloses⟩ := Delimited.ofLiteral_ok hd
      obtain ⟨hencloses', p', hp', hprinted, hcaptures⟩ := parseWith_toBody h hencloses happ
      rw [← hdelimiter] at hmark hblank
      have hletters : Flags.ofModifiers p.flags.letters = .ok p.flags :=
        Flags.readModifiers_letters hmodifiers 0
      have hsplit : Delimited.ofLiteral p.toLiteral =
          .ok ⟨p.delimiter, p.toBody, p.flags.letters⟩ :=
        Delimited.ofLiteral_enclosed hmark hblank hencloses' hletters (by simp [toLiteral])
      refine ⟨p', ?_, hprinted, hcaptures⟩
      simp only [parse, hsplit, parseBody, hletters, hp']

theorem parse_toLiteral_parens : ∃ p : Pattern,
    parse {} " ((?<n>a|[^\\]b-d])++(?P=n))xi" = .ok p ∧ p.printsApart {} = true ∧
      p.toLiteral = "((?<n>a|[^\\]b-d])++\\k<n>)ix" ∧
      ∃ p', parse {} p.toLiteral = .ok p' ∧ p'.toLiteral = p.toLiteral ∧
        p'.captures = p.captures := by
  have hread : ((parse {} " ((?<n>a|[^\\]b-d])++(?P=n))xi").map fun p =>
      (p.printsApart {}, p.toLiteral)).toOption =
        some (true, "((?<n>a|[^\\]b-d])++\\k<n>)ix") := by cbv
  cases h : parse {} " ((?<n>a|[^\\]b-d])++(?P=n))xi" with
  | error e =>
      rw [h] at hread
      cases hread
  | ok p =>
      rw [h] at hread
      obtain ⟨happ, hprinted⟩ := Prod.mk.inj (Option.some.inj hread)
      exact ⟨p, rfl, happ, hprinted, parse_toLiteral {} _ p h happ⟩

/-- Not all literals are printed so that they can be told apart. The class of `[\E]a]` has no
members and ends at the first bracket. It is printed as `[]`, and then the bracket is a member of a
class that ends at the second one. -/
theorem toLiteral_not_stable : ¬ ∀ (s : ParserSettings) (literal : String) (p : Pattern),
    parse s literal = .ok p → ∃ p', parse s p.toLiteral = .ok p' ∧ p'.toLiteral = p.toLiteral ∧
      p'.captures = p.captures := by
  intro hstable
  have hread : ((parse {} "/[\\E]a]/").map toLiteral).toOption = some "/[]a]/" := by cbv
  have hagain : ((parse {} "/[]a]/").map toLiteral).toOption = some "/[\\]a]/" := by cbv
  cases h : parse {} "/[\\E]a]/" with
  | error e =>
      rw [h] at hread
      cases hread
  | ok p =>
      rw [h] at hread
      obtain ⟨p', hp', hsame, -⟩ := hstable {} _ p h
      rw [Option.some.inj hread] at hp' hsame
      rw [hp'] at hagain
      have heq : "/[]a]/" = "/[\\]a]/" := hsame.symm.trans (Option.some.inj hagain)
      exact absurd heq (by decide)

end Pattern

end PatternLint
