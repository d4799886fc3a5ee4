import PatternLint.Width.Scope

/-!
# Scopes that agree

A reference or a call sees the tree that it stands in only through its groups with
numbers, and of such a group only the number and the width of the body. Two trees
that agree in this are the same scope: whatever is asked of either of them, through
as many references and calls as it may be, has the same width.
-/

namespace PatternLint

/-- A numbered group as a reference sees it: its number, and the width of its body under the widths
of the references and calls in it. -/
def NumberedGroup.measure (g : NumberedGroup) :
    Nat × ((Active → CallTarget → Width) → Active → Width) :=
  (g.number, fun call => g.body.widthIn call)

namespace Node

/-- Trees of the same width whose numbered groups, one after the other, have the same numbers and
widths. -/
structure Agrees (m n : Node) : Prop where
  width : ∀ call, m.widthIn call = n.widthIn call
  groups : m.numberedGroups.map NumberedGroup.measure = n.numberedGroups.map NumberedGroup.measure

end Node

namespace Scope

theorem numberWidth_eq (s : Scope) (call : Active → CallTarget → Width) (a : Active)
    (number : Nat) : s.numberWidth call a number =
      match (s.groups.map NumberedGroup.measure).find? fun g => g.1 == number with
      | none => .unbounded 0
      | some g => Width.ofGroup (some number) a (g.2 call) := by
  have hfind : (s.groups.map NumberedGroup.measure).find? (fun g => g.1 == number) =
      (s.group? number).map NumberedGroup.measure := by
    rw [List.find?_map]
    rfl
  rw [numberWidth, hfind]
  cases s.group? number <;> rfl

end Scope

namespace Node.Agrees

variable {root root' : Node} (h : root'.Agrees root) (names : List (String × Nat))
include h

theorem numberWidth : (Scope.new root' names).numberWidth = (Scope.new root names).numberWidth := by
  funext call a number
  have hgroups : (Scope.new root' names).groups.map NumberedGroup.measure =
      (Scope.new root names).groups.map NumberedGroup.measure := h.groups
  rw [Scope.numberWidth_eq, Scope.numberWidth_eq, hgroups]

theorem callWithin (fuel : Nat) :
    (Scope.new root' names).callWithin fuel = (Scope.new root names).callWithin fuel := by
  induction fuel with
  | zero => rfl
  | succ fuel ih =>
      funext a target
      have hnumber := h.numberWidth names
      have hroot : ∀ call, (Scope.new root' names).root.widthIn call =
          (Scope.new root names).root.widthIn call := h.width
      cases target with
      | whole => simp only [Scope.callWithin, ih, hroot]
      | group ref =>
          cases ref with
          | number n => simp only [Scope.callWithin, ih, hnumber]
          | relative i n => simp only [Scope.callWithin, ih, hnumber]
          | name s =>
              have hnames : (Scope.new root' names).numbersOf s =
                  (Scope.new root names).numbersOf s := rfl
              simp only [Scope.callWithin, ih, hnames, hnumber]

theorem call : (Scope.new root' names).call = (Scope.new root names).call := by
  have hlength : (Scope.new root' names).groups.length = (Scope.new root names).groups.length := by
    have hmeasures := congrArg List.length h.groups
    rwa [List.length_map, List.length_map] at hmeasures
  rw [Scope.call, Scope.call, hlength, h.callWithin]

/-- Nodes of the same width have the same width in scopes that agree. -/
theorem width_of {m n : Node} (hmn : ∀ call, m.widthIn call = n.widthIn call) :
    (Scope.new root' names).width m = (Scope.new root names).width n := by
  rw [Scope.width, Scope.width, h.call, hmn]

theorem groupWidth : (Scope.new root' names).groupWidth = (Scope.new root names).groupWidth := by
  funext number
  rw [Scope.groupWidth, Scope.groupWidth, h.call, h.numberWidth]

end Node.Agrees

end PatternLint
