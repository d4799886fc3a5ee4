import PatternLint.Proofs.Parse.Written

/-!
# Printing and reading again

A pattern that was read has a tree that is formed. The tree is printed as its
tokens, and if these can be told apart in the text, the parser takes them and
comes to the same tree in another style, with the same groups.
-/

namespace PatternLint

open Token Parse

section Formed

variable {ctx : Context} {limit depth : Nat} {role : Role} {e e' : Env} {n : Node}

/-- All nodes of a formed tree are printed as their tokens. -/
theorem Formed.isPlain (h : Formed ctx limit n depth role e e') :
    ∀ m ∈ n.preorder, m.isPlain = true := by
  refine h.preorder ?_ ?_
  · intro m depth role e e' hm
    cases m with
    | atom s a =>
        cases a with
        | subroutine target =>
            rcases hm with ⟨he, -, -⟩ | ⟨ha, -⟩
            · cases he
            · cases target with
              | whole => rfl
              | group ref =>
                  cases ref with
                  | number n =>
                      cases n with
                      | zero => exact absurd rfl ha.2
                      | succ n => rfl
                  | _ => rfl
        | _ => rfl
    | conditional s test yes no =>
        cases test with
        | assertion a =>
            obtain ⟨-, inner, mid, last, ⟨⟨s', look, body, rfl, -⟩, -⟩, -⟩ := hm
            rfl
        | _ => rfl
    | _ => rfl
  · intro m spacing caseless hm
    cases m with
    | atom s a =>
        cases a with
        | subroutine target =>
            rcases hm with he | hm
            · cases he
            · exact hm.elim
        | _ => rfl
    | classOp s op operands => rfl
    | _ => exact hm.elim

end Formed

namespace Pattern

/-- A formed tree without faults is read from its tokens, where these can be told apart. -/
theorem parseWith_of_trail {s : ParserSettings} {delimiter : Char} {flags : Flags} {ctx : Context}
    {root : Node} {e : Env}
    (h : Formed ctx s.nestLimit root 0 (.body false) ⟨flags, 0, []⟩ e)
    (hbraced : ∀ m ∈ root.preorder, m.isBraced = true)
    (hfault : root.firstFault? s ⟨e.captures, e.names⟩ = none)
    (htrail : Trail (contextOf (root.written false) flags s.dialect) (Mode.initial flags)
      (root.kinds false) []) :
    ∃ p, parseWith s delimiter flags (root.written false) = .ok p ∧
      p.delimiter = delimiter ∧ p.flags = flags ∧ p.root.erase = root.respelled false ∧
      p.captures = e.captures ∧ p.names = e.names := by
  obtain ⟨ts, size, hscanned, hspelled⟩ := htrail.scanned 0
  have htokenize : tokenize (root.written false) flags s.dialect = .ok (ts ++ [Token.eof size]) := by
    rw [← toList_written] at hscanned
    exact tokens_eq_ok_iff.mpr hscanned
  obtain ⟨st, hrun, hroot, hcaptures, hnames⟩ := @run_formed_root ctx s root flags e h hbraced ts size
    hspelled
  have hsound : (ofState delimiter flags (root.written false) st).firstFault? s = none := by
    have hstyle := (Restyle.faithful_respelling.firstFault? false s _ root).mpr hfault
    change (root.respelled false).firstFault? s ⟨e.captures, e.names⟩ = none at hstyle
    rw [← hroot] at hstyle
    have hnode := (Restyle.faithful_erase.firstFault? false s _ st.level.node).mp hstyle
    simp [firstFault?, ofState, groupTable, hcaptures, hnames, hnode]
  refine ⟨ofState delimiter flags (root.written false) st, ?_, rfl, rfl, hroot, hcaptures, hnames⟩
  simp only [parseWith, htokenize, hrun, resolve?_eq, hsound]

end Pattern

end PatternLint
