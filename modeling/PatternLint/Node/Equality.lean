import PatternLint.Node

/-!
# Equality of pattern trees

Two trees are compared part by part. `same_iff` says that the comparison is
equality, so that equality of trees is decidable.
-/

namespace PatternLint.Node

mutual
/-- Whether two trees are the same, spans included. -/
def same : Node → Node → Bool
  | .atom s a, .atom t b => s == t && a == b
  | .sequence s items, .sequence t others => s == t && sameAll items others
  | .alternation s branches, .alternation t others => s == t && sameAll branches others
  | .group s head body, .group t other body' => s == t && head == other && same body body'
  | .quantifier s count target, .quantifier t other target' =>
    s == t && count == other && same target target'
  | .charClass s neg caseless expr, .charClass t neg' caseless' expr' =>
    s == t && neg == neg' && caseless == caseless' && same expr expr'
  | .classOp s op operands, .classOp t op' others => s == t && op == op' && sameAll operands others
  | .conditional s test yes no, .conditional t test' yes' no' =>
    s == t && sameCondition test test' && same yes yes' && sameOptional no no'
  | .define s body, .define t body' => s == t && same body body'
  | _, _ => false
/-- Whether two lists of trees are the same. -/
def sameAll : List Node → List Node → Bool
  | [], [] => true
  | n :: ns, m :: ms => same n m && sameAll ns ms
  | _, _ => false
/-- Whether two conditions are the same. -/
def sameCondition : Condition Node → Condition Node → Bool
  | .group r, .group r' => r == r'
  | .recursion, .recursion => true
  | .recursionGroup n, .recursionGroup n' => n == n'
  | .recursionName s, .recursionName s' => s == s'
  | .assertion a, .assertion a' => same a a'
  | _, _ => false
/-- Whether two trees that may be missing are the same. -/
def sameOptional : Option Node → Option Node → Bool
  | none, none => true
  | some n, some m => same n m
  | _, _ => false
end

mutual
/-- The comparison of trees is equality. -/
theorem same_iff (n m : Node) : same n m = true ↔ n = m := by
  cases n with
  | sequence s items => cases m <;> simp [same, sameAll_iff items]
  | alternation s branches => cases m <;> simp [same, sameAll_iff branches]
  | group s head body => cases m <;> simp [same, same_iff body, and_assoc]
  | quantifier s count target => cases m <;> simp [same, same_iff target, and_assoc]
  | charClass s neg caseless expr => cases m <;> simp [same, same_iff expr, and_assoc]
  | classOp s op operands => cases m <;> simp [same, sameAll_iff operands, and_assoc]
  | conditional s test yes no =>
    cases m <;> simp [same, sameCondition_iff test, same_iff yes, sameOptional_iff no, and_assoc]
  | define s body => cases m <;> simp [same, same_iff body]
  | atom s a => cases m <;> simp [same]
termination_by structural n
theorem sameAll_iff (ns ms : List Node) : sameAll ns ms = true ↔ ns = ms := by
  cases ns with
  | nil => cases ms <;> simp [sameAll]
  | cons n ns => cases ms <;> simp [sameAll, same_iff n, sameAll_iff ns]
termination_by structural ns
theorem sameCondition_iff (c d : Condition Node) : sameCondition c d = true ↔ c = d := by
  cases c with
  | assertion a => cases d <;> simp [sameCondition, same_iff a]
  | _ => cases d <;> simp [sameCondition]
termination_by structural c
theorem sameOptional_iff (n m : Option Node) : sameOptional n m = true ↔ n = m := by
  cases n with
  | none => cases m <;> simp [sameOptional]
  | some n => cases m <;> simp [sameOptional, same_iff n]
termination_by structural n
end

instance : DecidableEq Node := fun n m => decidable_of_iff (same n m = true) (same_iff n m)

end PatternLint.Node
