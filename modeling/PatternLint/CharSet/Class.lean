import PatternLint.Node

/-!
# The sets of character classes

The characters that a class matches. Members are combined as the class says, case
variants are added to the whole, and the complement is taken last.
-/

namespace PatternLint

/-- Combines two sets of members. -/
def ClassOp.combine : ClassOp → CharSet → CharSet → CharSet
  | union => CharSet.union
  | intersection => CharSet.intersect
  | subtraction => CharSet.subtract

/-- Combines several sets of members, from the left. -/
def ClassOp.combineAll (op : ClassOp) : List CharSet → CharSet
  | [] => .empty
  | s :: rest => rest.foldl op.combine s

/-- The set of an atom in a class. An atom that cannot stand there adds nothing. -/
def Atom.memberSet (caseless : Bool) : Atom → CharSet
  | literal c _ _ => .single c caseless
  | range first last => .range first last
  | shorthand kind negated => .shorthand kind negated
  | posix name negated => .posix name negated
  | _ => .empty

namespace Node

mutual
/-- The set of a member of a class. A class in a class has case and complement of its own. -/
def memberSet (caseless : Bool) : Node → CharSet
  | .atom _ a => a.memberSet caseless
  | .classOp _ op operands => op.combineAll (memberSets caseless operands)
  | .charClass _ negated caseless expr =>
    ((memberSet caseless expr).foldCaseIf caseless).negateIf negated
  | .sequence .. | .alternation .. | .group .. | .quantifier .. | .conditional .. | .define .. =>
    .empty
/-- The sets of several members. -/
def memberSets (caseless : Bool) : List Node → List CharSet
  | [] => []
  | n :: ns => memberSet caseless n :: memberSets caseless ns
end

/-- The set of a class, if the node is one. -/
def classSet? : Node → Option CharSet
  | .charClass s negated caseless expr =>
    some (memberSet caseless (.charClass s negated caseless expr))
  | _ => none

end Node

end PatternLint
