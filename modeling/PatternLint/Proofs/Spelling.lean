import PatternLint.Proofs.Tree
import PatternLint.Proofs.Walk
import PatternLint.Render
import PatternLint.Token

/-!
# The tokens that a tree is written as

Writing goes from a tree to a text, and reading from a text through tokens to a
tree. The two meet in the middle: a tree is written as a list of tokens, each in
one spelling, and `text?_eq` says that the text of a tree is just that. What is
read back is then a matter of tokens, and no other proof looks at how a text was
put together.
-/

namespace PatternLint

open Unicode

/-! ### Tokens -/

/-- A reference as it is written inside braces or parentheses. -/
def Reference.spelling : Reference → String
  | .number n => toString n
  | .relative i => signedText i
  | .name s => s

/-- The text in which a token is written. Backslashes with digits never are. -/
def TokenKind.spelling : TokenKind → String
  | .literal c => c.toString
  | .escaped c form => Render.literal true c form
  | .shorthand kind negated => Render.shorthand kind negated
  | .anchor kind => Render.anchor kind
  | .dot => "."
  | .quantifier count => Render.quantifier count
  | .alternation => "|"
  | .groupOpen .capturing => "("
  | .groupOpen .nonCapturing => "(?:"
  | .groupOpen (.named name) => "(?<" ++ name ++ ">"
  | .groupOpen .atomic => "(?>"
  | .groupOpen (.look l) => Render.opener { kind := .look l }
  | .groupOpen .branchReset => "(?|"
  | .groupOpen (.modifiers change) => "(?" ++ change.letters ++ ":"
  | .groupClose => ")"
  | .inlineFlags change => "(?" ++ change.letters ++ ")"
  | .classOpen negated => "[" ++ if negated then "^" else ""
  | .classClose => "]"
  | .classHyphen => "-"
  | .classIntersection => "&&"
  | .classSubtraction => "--"
  | .posixClass name negated => "[:" ++ (if negated then "^" else "") ++ name ++ ":]"
  | .backref (.name s) => "\\k<" ++ s ++ ">"
  | .backref ref => "\\g\x7b" ++ ref.spelling ++ "\x7d"
  | .subroutine (.number 0) => "(?R)"
  | .subroutine (.name s) => "(?&" ++ s ++ ")"
  | .subroutine ref => "(?" ++ ref.spelling ++ ")"
  | .conditionOpen (.reference (.name s)) => "(?(<" ++ s ++ ">)"
  | .conditionOpen (.reference ref) => "(?(" ++ ref.spelling ++ ")"
  | .conditionOpen .recursion => "(?(R)"
  | .conditionOpen (.recursionGroup n) => "(?(R" ++ toString n ++ ")"
  | .conditionOpen (.recursionName s) => "(?(R&" ++ s ++ ")"
  | .conditionOpen .define => "(?(DEFINE)"
  | .conditionOpen (.assertion look) => "(?" ++ Render.opener { kind := .look look }
  | .verb name arg => Render.verb name arg
  | .comment text => "(?#" ++ text ++ ")"
  | .callout (.number n) => "(?C" ++ toString n ++ ")"
  | .callout (.text s) => "(?C\"" ++ Render.doubleQuotes s ++ "\")"
  | .numericEscape _ | .eof => ""

/-- The text of tokens one after another. -/
def spell (ks : List TokenKind) : List Char := ks.flatMap fun k => k.spelling.toList

@[simp] theorem spell_nil : spell [] = [] := rfl

@[simp] theorem spell_cons (k : TokenKind) (ks : List TokenKind) :
    spell (k :: ks) = k.spelling.toList ++ spell ks := rfl

@[simp] theorem spell_append (ks ls : List TokenKind) : spell (ks ++ ls) = spell ks ++ spell ls :=
  List.flatMap_append

/-! ### Trees -/

/-- The token of a character that is to be written in some form. -/
def literalKind (inClass : Bool) (c : Char) : LiteralForm → TokenKind
  | .verbatim =>
    if inClass && Render.isClassSpecial c then .escaped c .punctuation else .literal c
  | .special => .escaped c (if (Render.specialLetter? inClass c).isSome then .special else .hex)
  | .control => .escaped c (if c.toNat < 0x80 then .control else .hex)
  | .quoted =>
    if isAlphanumeric c || (0x80 ≤ c.toNat && !isWhiteSpace c) then .literal c
    else .escaped c (if isWhiteSpace c || isControl c then .hex else .punctuation)
  | form => .escaped c form

/-- The token of an end of a range. -/
def rangeEndKind (c : Char) : TokenKind :=
  if isAlphanumeric c then .literal c
  else if isAsciiPunctuation c then
    if Render.isClassSpecial c || c == '\\' then .escaped c .punctuation else .literal c
  else .escaped c .hex

/-- A reference without the number that it comes to. -/
def GroupRef.written : GroupRef → Reference
  | .number n => .number n
  | .relative offset _ => .relative offset
  | .name s => .name s

/-- The tokens of an atom. -/
def Atom.kinds (inClass : Bool) : Atom → List TokenKind
  | .empty => []
  | .literal c form _ => [literalKind inClass c form]
  | .dot _ => [.dot]
  | .shorthand kind negated => [.shorthand kind negated]
  | .range first last => [rangeEndKind first, .classHyphen, rangeEndKind last]
  | .posix name negated => [.posixClass name negated]
  | .backref ref _ => [.backref ref.written]
  | .subroutine .whole => [.subroutine (.number 0)]
  | .subroutine (.group ref) => [.subroutine ref.written]
  | .anchor kind _ => [.anchor kind]
  | .inlineFlags change => [.inlineFlags change]
  | .verb name arg => [.verb name arg]
  | .callout arg => [.callout arg]
  | .comment text => [.comment text]

/-- What opens a group. Without a letter there is no difference between a group with settings and a
plain one. -/
def GroupHead.opener (head : GroupHead) : Opener :=
  match head.kind with
  | .capturing => .capturing
  | .nonCapturing => .nonCapturing
  | .named => .named (head.name.getD "")
  | .atomic => .atomic
  | .look l => .look l
  | .branchReset => .branchReset
  | .modifiers change => if change.letters = "" then .nonCapturing else .modifiers change

/-- The tokens of an operator between the members of a class. -/
def ClassOp.kinds : ClassOp → List TokenKind
  | .union => []
  | .intersection => [.classIntersection]
  | .subtraction => [.classSubtraction]

/-- An assertion that becomes the test of a conditional. -/
def asTest : List TokenKind → List TokenKind
  | .groupOpen (.look l) :: ks => .conditionOpen (.assertion l) :: ks
  | ks => ks

namespace Node

mutual
/-- The tokens of a tree. -/
def kinds (inClass : Bool) : Node → List TokenKind
  | .atom _ a => a.kinds inClass
  | .sequence _ items => (kindsEach inClass items).flatten
  | .alternation _ branches => [.alternation].intercalate (kindsEach inClass branches)
  | .group _ head body => .groupOpen head.opener :: (kinds inClass body ++ [.groupClose])
  | .quantifier _ count target =>
    (if Render.needsGroup target then
      .groupOpen .nonCapturing :: (kinds inClass target ++ [.groupClose])
    else kinds inClass target) ++ [.quantifier count]
  | .charClass _ negated _ expr => .classOpen negated :: (kinds true expr ++ [.classClose])
  | .classOp _ op operands => op.kinds.intercalate (kindsEach inClass operands)
  | .conditional _ test yes no =>
    testKinds inClass test ++ (kinds inClass yes ++ (optionalKinds inClass no ++ [.groupClose]))
  | .define _ body => .conditionOpen .define :: (kinds inClass body ++ [.groupClose])
/-- The tokens of each of several trees. -/
def kindsEach (inClass : Bool) : List Node → List (List TokenKind)
  | [] => []
  | n :: ns => kinds inClass n :: kindsEach inClass ns
/-- The tokens up to the end of a test. -/
def testKinds (inClass : Bool) : Condition Node → List TokenKind
  | .assertion test => asTest (kinds inClass test)
  | .group ref => [.conditionOpen (.reference ref.written)]
  | .recursion => [.conditionOpen .recursion]
  | .recursionGroup n => [.conditionOpen (.recursionGroup n)]
  | .recursionName s => [.conditionOpen (.recursionName s)]
/-- The tokens of a second branch. -/
def optionalKinds (inClass : Bool) : Option Node → List TokenKind
  | none => []
  | some n => .alternation :: kinds inClass n
end

theorem kindsEach_eq_map (inClass : Bool) (ns : List Node) :
    kindsEach inClass ns = ns.map (kinds inClass) := by
  induction ns with
  | nil => rfl
  | cons n ns ih => simp [kindsEach, ih]

/-- Between the members of a union there is nothing. -/
theorem kinds_union (inClass : Bool) (s : Span) (members : List Node) :
    (Node.classOp s .union members).kinds inClass = (kindsEach inClass members).flatten := by
  rw [kinds]
  generalize kindsEach inClass members = kss
  induction kss with
  | nil => rfl
  | cons ks kss ih =>
      cases kss with
      | nil => simp
      | cons ls kss => rw [List.intercalate_cons_cons, ih]; simp [ClassOp.kinds]

end Node

/-- The tokens of branches. -/
def bars (ns : List Node) : List TokenKind :=
  [TokenKind.alternation].intercalate (Node.kindsEach false ns)

theorem bars_singleton (n : Node) : bars [n] = n.kinds false := by
  simp [bars, Node.kindsEach]

theorem bars_cons (n m : Node) (ns : List Node) :
    bars (n :: m :: ns) = n.kinds false ++ (.alternation :: bars (m :: ns)) := by
  simp [bars, Node.kindsEach, List.intercalate_cons_cons]

/-! ### Texts -/

theorem specialLetter?_inClass {c letter : Char} {inClass : Bool}
    (h : Render.specialLetter? inClass c = some letter) :
    Render.specialLetter? true c = some letter := by
  cases inClass with
  | true => exact h
  | false =>
      simp only [Render.specialLetter?, Bool.false_and, Bool.true_and] at h ⊢
      grind

theorem literal_spelling (inClass : Bool) (c : Char) (form : LiteralForm) :
    Render.literal inClass c form = (literalKind inClass c form).spelling := by
  cases form with
  | verbatim =>
      simp only [Render.literal, literalKind]
      split <;> rfl
  | special =>
      simp only [literalKind, TokenKind.spelling]
      cases h : Render.specialLetter? inClass c with
      | none => simp [Render.literal, h]
      | some letter => simp [Render.literal, h, specialLetter?_inClass h]
  | control =>
      simp only [Render.literal, literalKind, TokenKind.spelling]
      split <;> simp_all
  | quoted =>
      simp only [Render.literal, literalKind]
      split
      · rfl
      · split <;> rfl
  | _ => rfl

theorem rangeEnd_spelling (c : Char) : Render.rangeEnd c = (rangeEndKind c).spelling := by
  simp only [Render.rangeEnd, rangeEndKind]
  split
  · rfl
  · split
    · split <;> rfl
    · rfl

theorem opener_spelling (head : GroupHead) :
    Render.opener head = (TokenKind.groupOpen head.opener).spelling := by
  obtain ⟨kind, name, number⟩ := head
  cases kind with
  | modifiers change =>
      simp only [Render.opener, GroupHead.opener]
      split
      · next hl => simp [hl, TokenKind.spelling]
      · rfl
  | look l => cases l <;> rfl
  | _ => rfl

/-- Whether a node is written as its tokens are. Two kinds of nodes that the parser does not form
are not: a call of group zero, and a conditional whose test is a node but no assertion. -/
def Node.isPlain : Node → Bool
  | .atom _ (.subroutine (.group (.number 0))) => false
  | .conditional _ (.assertion (.group _ head _)) _ _ => head.kind.isLookaround
  | .conditional _ (.assertion _) _ _ => false
  | _ => true

theorem spell_atom {span : Span} {a : Atom} (h : (Node.atom span a).isPlain = true)
    (inClass : Bool) : spell (a.kinds inClass) = (Render.atom inClass a).toList := by
  cases a with
  | literal c form caseless => simp [Atom.kinds, Render.atom, literal_spelling]
  | range first last => simp [Atom.kinds, Render.atom, rangeEnd_spelling, TokenKind.spelling]
  | backref ref caseless =>
      cases ref <;> simp [Atom.kinds, Render.atom, GroupRef.written, TokenKind.spelling,
        Reference.spelling, Render.groupRef]
  | subroutine target =>
      cases target with
      | whole => simp [Atom.kinds, Render.atom, TokenKind.spelling, Render.call]
      | group ref =>
          cases ref with
          | number n =>
              cases n with
              | zero => cases h
              | succ n => simp [Atom.kinds, Render.atom, TokenKind.spelling, Render.call,
                  GroupRef.written, Reference.spelling, Render.groupRef]
          | _ => simp [Atom.kinds, Render.atom, TokenKind.spelling, Render.call,
              GroupRef.written, Reference.spelling, Render.groupRef]
  | callout arg => cases arg <;> simp [Atom.kinds, Render.atom, TokenKind.spelling]
  | _ => simp [Atom.kinds, Render.atom, TokenKind.spelling]

/-! ### Writing under a guard -/

/-- The text of the tokens of a tree. -/
def Node.written (inClass : Bool) (n : Node) : String := String.ofList (spell (n.kinds inClass))

section Written

variable {inClass : Bool} {s : Span}

attribute [local simp] TokenKind.spelling

theorem toList_written (inClass : Bool) (n : Node) :
    (n.written inClass).toList = spell (n.kinds inClass) := String.toList_ofList

/-- Texts between which there is a separator are the text of tokens with one between them. -/
theorem spell_intercalate (sep : List TokenKind) (kss : List (List TokenKind)) :
    spell (sep.intercalate kss) = (spell sep).intercalate (kss.map spell) := by
  induction kss with
  | nil => rfl
  | cons ks kss ih =>
      cases kss with
      | nil => simp
      | cons ls kss =>
          rw [List.intercalate_cons_cons, spell_append, spell_append, ih]
          simp [List.intercalate_cons_cons]

theorem written_intercalate (sep : List TokenKind) (text : String) (hsep : spell sep = text.toList)
    (ns : List Node) :
    String.ofList (spell (sep.intercalate (Node.kindsEach inClass ns))) =
      String.intercalate text (ns.map (Node.written inClass)) := by
  rw [← String.toList_inj, String.toList_ofList, String.toList_intercalate, spell_intercalate, hsep,
    Node.kindsEach_eq_map]
  simp [toList_written, Function.comp_def]

theorem written_sequence (items : List Node) :
    (Node.sequence s items).written inClass = String.join (items.map (Node.written inClass)) := by
  rw [← String.toList_inj, toList_written, String.toList_join, Node.kinds, Node.kindsEach_eq_map]
  induction items with
  | nil => rfl
  | cons n ns ih =>
      simp only [List.map_cons, List.flatten_cons, spell_append, List.flatMap_cons, ih,
        toList_written]

theorem written_group (head : GroupHead) (body : Node) :
    (Node.group s head body).written inClass =
      Render.opener head ++ body.written inClass ++ ")" := by
  rw [← String.toList_inj, toList_written, Node.kinds, opener_spelling, spell_cons, spell_append,
    String.toList_append, String.toList_append, toList_written, List.append_assoc]
  rfl

theorem written_quantifier (count : Repeat) (target : Node) :
    (Node.quantifier s count target).written inClass =
      (if Render.needsGroup target then "(?:" ++ target.written inClass ++ ")"
        else target.written inClass) ++ Render.quantifier count := by
  rw [← String.toList_inj, toList_written, Node.kinds]
  split <;> simp [toList_written]

theorem written_charClass (negated caseless : Bool) (expr : Node) :
    (Node.charClass s negated caseless expr).written inClass =
      "[" ++ (if negated then "^" else "") ++ expr.written true ++ "]" := by
  rw [← String.toList_inj, toList_written, Node.kinds]
  simp [toList_written]

theorem written_define (body : Node) :
    (Node.define s body).written inClass = "(?(DEFINE)" ++ body.written inClass ++ ")" := by
  rw [← String.toList_inj, toList_written, Node.kinds]
  simp [toList_written]

/-- The text that opens a conditional. -/
def testText (inClass : Bool) (test : Condition Node) : String :=
  String.ofList (spell (Node.testKinds inClass test))

theorem testText_assertion {head : GroupHead} (h : head.kind.isLookaround = true) (body : Node) :
    testText inClass (.assertion (.group s head body)) =
      "(?" ++ (Node.group s head body).written inClass := by
  obtain ⟨kind, name, number⟩ := head
  cases kind with
  | look l =>
      rw [written_group, ← String.toList_inj, testText, String.toList_ofList, Node.testKinds,
        Node.kinds]
      cases l <;> simp [GroupHead.opener, asTest, Render.opener, toList_written]
  | _ => cases h

/-- The text of a second branch. -/
def optionalText (inClass : Bool) (no : Option Node) : String :=
  String.ofList (spell (Node.optionalKinds inClass no))

theorem written_conditional (test : Condition Node) (yes : Node) (no : Option Node) :
    (Node.conditional s test yes no).written inClass =
      testText inClass test ++ yes.written inClass ++ optionalText inClass no ++ ")" := by
  rw [← String.toList_inj, toList_written, Node.kinds]
  simp [toList_written, testText, optionalText]

end Written

section Yields

open Walk

variable {inClass : Bool} {ns : List Node} {height : Nat}

theorem nodes_yield (h : ∀ n ∈ ns, (Render.node inClass n).Yields height (n.written inClass) []) :
    (Render.nodes inClass ns).Yields height (ns.map (Node.written inClass)) [] := by
  induction ns with
  | nil => exact yields_pure _ _
  | cons n ns ih =>
      rw [Render.nodes]
      refine (h n (by simp)).bind ?_
      exact (ih fun m hm => h m (by simp [hm])).bind (yields_pure _ _)

theorem condition_yields {test : Condition Node} {s : Span} {yes : Node} {no : Option Node}
    (hplain : (Node.conditional s test yes no).isPlain = true)
    (h : ∀ n ∈ Node.conditionChildren test,
      (Render.node inClass n).Yields height (n.written inClass) []) :
    (Render.condition inClass test).Yields height (testText inClass test) [] := by
  cases test with
  | assertion a =>
      cases a with
      | group s head body =>
          rw [Render.condition, testText_assertion hplain]
          exact (h _ (by simp [Node.conditionChildren])).bind (yields_pure _ _)
      | _ => cases hplain
  | group ref =>
      have htext : ∀ (ref : GroupRef) (text : String),
          (TokenKind.conditionOpen (.reference ref.written)).spelling = text →
          testText inClass (.group ref) = text := by
        rintro ref text rfl
        rw [← String.toList_inj, testText, String.toList_ofList, Node.testKinds, spell_cons,
          spell_nil, List.append_nil]
      cases ref with
      | name s =>
          rw [htext (.name s) ("(?(<" ++ s ++ ">)") rfl]
          exact yields_pure _ _
      | number n =>
          rw [htext (.number n) ("(?(" ++ Render.groupRef (.number n) ++ ")") rfl]
          exact yields_pure _ _
      | relative offset n =>
          rw [htext (.relative offset n) ("(?(" ++ Render.groupRef (.relative offset n) ++ ")") rfl]
          exact yields_pure _ _
  | recursion => exact yields_pure _ _
  | recursionGroup n =>
      rw [show testText inClass (.recursionGroup n) = "(?(R" ++ toString n ++ ")" by
        rw [← String.toList_inj, testText, String.toList_ofList, Node.testKinds, spell_cons,
          spell_nil, List.append_nil]
        rfl]
      exact yields_pure _ _
  | recursionName s =>
      rw [show testText inClass (.recursionName s) = "(?(R&" ++ s ++ ")" by
        rw [← String.toList_inj, testText, String.toList_ofList, Node.testKinds, spell_cons,
          spell_nil, List.append_nil]
        rfl]
      exact yields_pure _ _

theorem optional_yields {no : Option Node}
    (h : ∀ n ∈ no, (Render.node inClass n).Yields height (n.written inClass) []) :
    (Render.optional inClass no).Yields height (optionalText inClass no) [] := by
  cases no with
  | none => exact yields_pure _ _
  | some n =>
      rw [show optionalText inClass (some n) = "|" ++ n.written inClass by
        simp [optionalText, Node.optionalKinds, TokenKind.spelling, ← String.toList_inj,
          toList_written]]
      exact (h n rfl).bind (yields_pure _ _)

/-- Writing a tree comes to the text of its tokens. -/
theorem Node.render_yields (n : Node) (h : ∀ m ∈ n.preorder, m.isPlain = true) (inClass : Bool) :
    (Render.node inClass n).Yields n.height (n.written inClass) [] := by
  induction n using Node.children_induction generalizing inClass with
  | h n ih =>
      obtain ⟨room, hroom⟩ : ∃ room, n.height = room + 1 := ⟨_, n.height_eq⟩
      have hchild : ∀ c ∈ n.children, ∀ inClass,
          (Render.node inClass c).Yields room (c.written inClass) [] := by
        intro c hc inClass
        have := height_child hc
        exact (ih c hc (forall_preorder_child h hc) inClass).mono (by omega)
      have hself := h n n.self_mem_preorder
      rw [hroom]
      cases n with
      | atom s a =>
          rw [show (Node.atom s a).written inClass = Render.atom inClass a by
            rw [← String.toList_inj, toList_written, Node.kinds, spell_atom hself]]
          exact (yields_pure _ _).visit s.start
      | sequence s items =>
          rw [Render.node, written_sequence]
          exact ((nodes_yield fun c hc => hchild c hc inClass).map _).visit s.start
      | alternation s branches =>
          rw [Render.node, written, kinds, written_intercalate [.alternation] "|" rfl]
          exact ((nodes_yield fun c hc => hchild c hc inClass).map _).visit s.start
      | group s head body =>
          rw [Render.node, written_group]
          exact ((hchild body (by simp [children]) inClass).map _).visit s.start
      | quantifier s count target =>
          rw [Render.node, written_quantifier]
          exact ((hchild target (by simp [children]) inClass).map _).visit s.start
      | charClass s negated caseless expr =>
          rw [Render.node, written_charClass]
          exact ((hchild expr (by simp [children]) true).map _).visit s.start
      | classOp s op operands =>
          rw [Render.node, written, kinds,
            written_intercalate op.kinds (Render.classOperator op) (by cases op <;> rfl)]
          exact ((nodes_yield fun c hc => hchild c hc inClass).map _).visit s.start
      | conditional s test yes no =>
          rw [Render.node, written_conditional]
          refine Yields.visit ?_ s.start
          refine (condition_yields hself fun c hc => hchild c (by simp [children, hc]) inClass).bind ?_
          refine (hchild yes (by simp [children]) inClass).bind ?_
          refine (optional_yields fun c hc => ?_).map _
          exact hchild c (by simp [children, Option.mem_def.mp hc]) inClass
      | define s body =>
          rw [Render.node, written_define]
          exact ((hchild body (by simp [children]) inClass).map _).visit s.start

/-- The text of a tree that is not too deep is that of its tokens. -/
theorem Node.text?_eq {n : Node} (h : ∀ m ∈ n.preorder, m.isPlain = true)
    (hheight : n.height ≤ Render.defaultLimit) :
    n.text? = some (String.ofList (spell (n.kinds false))) := by
  have hvalue := n.render_yields h false { limit := Render.defaultLimit } (by simpa using hheight)
  rw [text?, textWithin, hvalue]
  rfl

end Yields

end PatternLint
