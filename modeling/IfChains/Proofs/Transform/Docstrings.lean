/-
**Docstrings.**

The docstring of a module, a function or a class is the text of its first statement, if that is
nothing but a text. Expanding chains neither makes such a statement nor takes one away. Removing the
imports of the macro may uncover one: the docstring of a scope that is left is the text of the first
statement that is no such import.

* `Tree.docstring?`: the docstring of a scope;
* `lasting_text?`: none of the nodes that expansions make is a text;
* `forall₂_having`: what is in a role of a node, before and after expansions;
* `docstring?_left`: the docstring of a scope as it is left;
* `docstrings_handedOver`: **the docstrings of what is handed to the printer.**
-/

import IfChains.Proofs.Transform.Blocks
import IfChains.Proofs.Transform.Legality
import IfChains.Proofs.Transform.Results

namespace IfChains

open IfChains.Tree

/-- Whether a node is a scope that may have a docstring. -/
def Label.isDocumented : Label → Bool
  | .module | .functionDef .. | .classDef _ => true
  | _ => false

/-- A scope that may have a docstring is no expression, and has statements in its body. -/
theorem Label.families_of_isDocumented {label : Label} (documented : label.isDocumented = true) :
    label.family ≠ .expression ∧ label.childFamily .body = .statement := by
  unfold isDocumented at documented
  split at documented
  case h_1 | h_2 | h_3 => exact ⟨Family.noConfusion, rfl⟩
  case h_4 => exact absurd documented Bool.false_ne_true

/-- The text that a node is, if it is one. -/
def Label.text? : Label → Option CodePoints
  | .constant (.text text _) => some text
  | _ => none

/-- The text of a statement that is nothing but a text. -/
def Tree.statementText? {α : Type} (statement : Tree α) : Option CodePoints :=
  if statement.label = .exprStmt then
    (statement.having .value).head?.bind fun value => value.label.text?
  else none

/-- The text with which a list of statements begins. -/
def Tree.leadingText? {α : Type} (statements : List (Tree α)) : Option CodePoints :=
  statements.head?.bind statementText?

/-- The docstring of a scope. -/
def Tree.docstring? {α : Type} (scope : Tree α) : Option CodePoints :=
  leadingText? (scope.having .body)

section Texts

open IfChains.Walk

/-- No text is made. -/
theorem text?_of_composed {label : Label} {roles : List Role} (composed : Composed label roles) :
    label.text? = none := by
  cases composed <;> rfl

/-- None of the nodes that expansions make is a text. -/
theorem lasting_text? (start : LiveTree) :
    Lasting (fun state => start.size ≤ state.live.size ∧
      ∀ id < state.live.size, start.size ≤ id → (state.live.label id).text? = none)
      fun id => start.size ≤ id where
  makes {state label slots} composed _ held := by
    refine ⟨⟨?_, fun id known new => ?_⟩, held.1⟩
    · exact Nat.le_trans held.1 (LiveTree.size_push .. ▸ Nat.le_succ _)
    · rw [LiveTree.size_push] at known
      rcases Nat.lt_succ_iff_lt_or_eq.mp known with old | rfl
      · rw [LiveTree.label_eq, LiveTree.content?_push_old label none slots old,
          ← LiveTree.label_eq]
        exact held.2 id old new
      · rw [LiveTree.label_eq, LiveTree.content?_push_new]
        exact text?_of_composed composed
  replaces held _ replaced := by
    obtain ⟨size, label, -⟩ := LiveTree.exists_slots_of_replace? replaced
    refine ⟨size ▸ held.1, fun id known new => ?_⟩
    rw [label id]
    exact held.2 id (size ▸ known) new
  notes _ _ held := held

end Texts

namespace Transform

variable {module file source : String} {origin : Origin} {names : List String}
  {tree : SourceTree} {printed : Tree LiveTree.Tag} {start live : LiveTree}
  {node other : NumberedTree}

section Roles

/-- **What is in a role of a node**, before and after expansions. -/
theorem forall₂_having (expanded : start.Expanded live) (reads : start.Reads node)
    (readsOther : live.Reads other) (tag : other.tag = node.tag) (role : Role) :
    List.Forall₂ (LiveTree.Inherits start live) (node.having role) (other.having role) :=
  forall₂_inRole (expanded.forall₂_children reads readsOther tag) role

end Roles

section Statements

variable (expanded : start.Expanded live)
  (noText : ∀ id < live.size, start.size ≤ id → (live.label id).text? = none)

/-- Whether all of a block is lost does not depend on positions. -/
theorem emptied_map {α β : Type} (change : α → β) (tree : Tree α) (role : Role) :
    Strip.Emptied module (tree.map change).label ((tree.map change).having role) ↔
      Strip.Emptied module tree.label (tree.having role) := by
  simp only [Strip.Emptied, having_map, label_map, ne_eq, List.map_eq_nil_iff, List.forall_mem_map]

/-- **A role as it is left** holds what was no import from the module. -/
theorem having_left {role : Role} (conforms : other.Conforms)
    (solid : ¬Strip.Emptied module other.label (other.having role)) :
    (left module live other).having role =
      (Strip.keptOf module (other.having role)).map (left module live) := by
  rw [left, Strip.having_strip default ((conforms_map _ other).mpr conforms)
    fun emptied => solid ((emptied_map _ other role).mp emptied), having_map, Strip.keptOf,
    List.filter_map, List.map_map]
  simp only [Function.comp_def, label_map]
  rfl

/-- A block of which all is lost is left with a `pass` statement. -/
theorem having_left_of_emptied {role : Role} (conforms : other.Conforms)
    (emptied : Strip.Emptied module other.label (other.having role)) :
    (left module live other).having role = [Strip.pass default] :=
  Strip.having_strip_of_emptied default ((conforms_map _ other).mpr conforms)
    ((emptied_map _ other role).mpr emptied)

include expanded noText

/-- **The text of a statement** as it is left is its text from before the expansions. -/
theorem statementText?_left (conforming : other.Conforming) (reads : start.Reads node)
    (readsOther : live.Reads other) (tag : other.tag = node.tag)
    (label : other.label = node.label) :
    (left module live other).statementText? = node.statementText? := by
  rw [statementText?, statementText?, label_left, label]
  split
  case isFalse => rfl
  case isTrue isStatement =>
    have conforms := conforming other (self_mem_preorder other)
    have field : (Role.value, Arity.one) ∈ other.label.fields := by
      rw [label, isStatement]
      exact List.mem_singleton_self _
    obtain ⟨value', same'⟩ := conforms.exists_single field
    have inside : value' ∈ other.having .value := same' ▸ List.mem_singleton_self _
    have places := forall₂_having expanded reads readsOther tag .value
    rw [same'] at places
    obtain ⟨value, rest, place, none, same⟩ := List.forall₂_cons_right_iff.mp places
    -- An expression is no import, so it is left.
    have expression : Imports.isFrom module value'.label = false := by
      have family := conforms.families (.value, value') (mem_having.mp inside)
      refine Bool.eq_false_iff.mpr fun isFrom => ?_
      have statement := (Strip.isStatement_of_isFrom isFrom).symm.trans family
      rw [label, isStatement] at statement
      exact nomatch statement
    have solid : ¬Strip.Emptied module other.label (other.having .value) := fun emptied =>
      Bool.false_ne_true (expression.symm.trans (emptied.2.1 value' inside))
    rw [having_left conforms solid, same', Strip.keptOf_cons_of_not_isFrom _ expression, same]
    show (left module live value').label.text? = value.label.text?
    rw [label_left]
    rcases place with ⟨-, sameLabel, -⟩ | ⟨isCall, new, fresh, known⟩
    · rw [sameLabel]
    · rw [isCall, fresh, noText _ known new]
      rfl

/-- **The docstring of a scope as it is left** is the text of the first statement that was no import
from the module. -/
theorem docstring?_left (conformingBefore : node.Conforming) (conforming : other.Conforming)
    (reads : start.Reads node) (readsOther : live.Reads other) (tag : other.tag = node.tag)
    (documented : node.label.isDocumented = true) :
    (left module live other).docstring? =
      leadingText? (Strip.keptOf module (node.having .body)) := by
  have places := forall₂_having expanded reads readsOther tag .body
  -- What stands in the body of a scope is a statement, so no call.
  have noCall : ∀ statement ∈ node.having .body, statement.label ≠ .call := by
    intro statement member isCall
    have family := (conformingBefore node (self_mem_preorder node)).families (.body, statement)
      (mem_having.mp member)
    rw [isCall, (Label.families_of_isDocumented documented).2] at family
    exact Label.Family.noConfusion family
  have inBody : ∀ statement ∈ other.having .body, statement.Conforming := fun statement member =>
    conforming.of_mem (child_mem_preorder (mem_having.mp member))
  have kept : (Strip.keptOf module (other.having .body)).head?.bind
      (fun statement => (left module live statement).statementText?) =
      leadingText? (Strip.keptOf module (node.having .body)) := by
    generalize node.having .body = before, other.having .body = after at places noCall inBody
    induction places with
    | nil => rfl
    | @cons one two rest rest' place _ ih =>
      obtain ⟨here, later⟩ := List.forall_mem_cons.mp noCall
      obtain ⟨conforms, inRest⟩ := List.forall_mem_cons.mp inBody
      obtain ⟨sameTag, sameLabel, readsOne, readsTwo⟩ := place.resolve_right fun call =>
        here call.1
      cases isFrom : Imports.isFrom module one.label with
      | true =>
        rw [Strip.keptOf_cons_of_isFrom _ isFrom,
          Strip.keptOf_cons_of_isFrom _ (sameLabel ▸ isFrom)]
        exact ih later inRest
      | false =>
        rw [Strip.keptOf_cons_of_not_isFrom _ isFrom,
          Strip.keptOf_cons_of_not_isFrom _ (sameLabel ▸ isFrom)]
        exact statementText?_left expanded noText conforms readsOne readsTwo sameTag sameLabel
  rw [docstring?, ← kept]
  by_cases emptied : Strip.Emptied module other.label (other.having .body)
  · rw [having_left_of_emptied (conforming other (self_mem_preorder other)) emptied,
      Strip.keptOf_eq_nil emptied.2.1]
    rfl
  · rw [having_left (conforming other (self_mem_preorder other)) emptied, leadingText?,
      List.head?_map, Option.bind_map]
    rfl

end Statements

section Whole

/-- **The docstrings of what is left of a program.** -/
theorem docstrings_rewritten (program : tree.IsProgram)
    (rewrites : rewritten file module names tree = some printed) :
    (∀ scope ∈ printed.preorder, scope.label.isDocumented = true →
      ∃ before ∈ tree.numbered.preorder, before.tag = scope.tag.id ∧ before.label = scope.label ∧
        scope.docstring? = leadingText? (Strip.keptOf module (before.having .body))) ∧
    ∀ before, tree.numbered.InStatements module before → before.label.isDocumented = true →
      ∃ scope ∈ printed.preorder, scope.tag.id = before.tag ∧ scope.label = before.label := by
  obtain ⟨progress, whole, done, reads, conforming, tag, rfl⟩ := exists_whole program rewrites
  have numbers := numbering tree
  have conformingBefore := (conforming_of_shape_eq numbers.shape).mpr program.conforming
  have expanded : (LiveTree.ofTree tree).2.Expanded progress.state.live :=
    held_expandNames (expands_expandName file module _) (LiveTree.expanded_refl _) done
  have noText := (held_expandNames (lasts_expandName (lasting_text? _) file module _)
    ⟨Nat.le_refl _, fun _ known new => absurd known (Nat.not_lt_of_le new)⟩ done).2
  refine ⟨fun scope member documented => ?_, fun before inStatements _ => ?_⟩
  · rcases mem_left member with rfl | ⟨other, among, rfl⟩
    · exact absurd documented Bool.false_ne_true
    · rw [label_left] at documented
      have readsOther := reads.of_mem among
      -- No scope is made by an expansion, so it is one of the program.
      have old : other.tag < (LiveTree.ofTree tree).2.size := by
        refine Nat.lt_of_not_le fun new => ?_
        have family := (expanded.made _ (readsOther.lt_size (tag_mem_tags other)) new).kind.1
        rw [readsOther.label] at family
        exact (Label.families_of_isDocumented documented).1 family
      obtain ⟨before, isNode, sameTag, sameLabel⟩ := numbers.exists_node old
      have label : other.label = before.label := by
        rw [sameLabel, ← expanded.label _ old, readsOther.label]
      refine ⟨before, isNode, sameTag.trans tag_left.symm, label.symm.trans label_left.symm, ?_⟩
      exact docstring?_left expanded noText (conformingBefore.of_mem isNode)
        (conforming.of_mem among) (numbers.reads.of_mem isNode) readsOther sameTag.symm
        (label ▸ documented)
  · obtain ⟨-, other, -, same, label, isLeft⟩ := stays expanded numbers.reads reads
      (tag.trans numbers.root.symm) inStatements
    exact ⟨_, isLeft, tag_left.trans same, label_left.trans label⟩

/-- A list of statements that does not begin with an import from the module begins with the same
text without such imports. -/
theorem leadingText?_keptOf {α : Type} {statements : List (Tree α)}
    (kept : ∀ first ∈ statements.head?, Imports.isFrom module first.label = false) :
    leadingText? (Strip.keptOf module statements) = leadingText? statements := by
  cases statements with
  | nil => rfl
  | cons first rest =>
    rw [Strip.keptOf_cons_of_not_isFrom _ (kept first rfl)]
    rfl

/-- A list of statements that begins with a text does not begin with an import. -/
theorem isFrom_eq_false_of_leadingText? {α : Type} {statements : List (Tree α)} {text : CodePoints}
    (begins : leadingText? statements = some text) :
    ∀ first ∈ statements.head?, Imports.isFrom module first.label = false := by
  intro first isFirst
  obtain ⟨first', isFirst', same⟩ := Option.bind_eq_some_iff.mp begins
  obtain rfl := Option.some.inj (isFirst.symm.trans isFirst')
  rw [statementText?] at same
  split at same
  · rename_i isStatement
    rw [isStatement]
    rfl
  · exact nomatch same

/-- **The docstrings of what is handed to the printer for a program.** Each scope is one of the
program. Its docstring is the text of the first of its statements that is no import of the macro. So
it is as it was, unless it had none because such an import comes first; and none is lost. No scope is
lost either. -/
theorem docstrings_handedOver (read : parse origin source = .ok tree)
    (handed : handedOver module origin file source = some printed) :
    (∀ scope ∈ printed.preorder, scope.label.isDocumented = true →
      ∃ before ∈ tree.numbered.preorder, before.tag = scope.tag.id ∧ before.label = scope.label ∧
        scope.docstring? = leadingText? (Strip.keptOf module (before.having .body)) ∧
        ((∀ first ∈ (before.having .body).head?, Imports.isFrom module first.label = false) →
          scope.docstring? = before.docstring?) ∧
        ∀ text, before.docstring? = some text → scope.docstring? = some text) ∧
    ∀ before, tree.numbered.InStatements module before → before.label.isDocumented = true →
      ∃ scope ∈ printed.preorder, scope.tag.id = before.tag ∧ scope.label = before.label := by
  obtain ⟨tree', names, read', -, rewrites⟩ := exists_rewritten handed
  obtain rfl := Except.ok.inj (read.symm.trans read')
  obtain ⟨scopes, stay⟩ := docstrings_rewritten (isProgram_of_parse read) rewrites
  refine ⟨fun scope member documented => ?_, stay⟩
  obtain ⟨before, isNode, tag, label, docstring⟩ := scopes scope member documented
  have kept : (∀ first ∈ (before.having .body).head?, Imports.isFrom module first.label = false) →
      scope.docstring? = before.docstring? := fun other =>
    docstring.trans (leadingText?_keptOf other)
  refine ⟨before, isNode, tag, label, docstring, kept, fun text begins => ?_⟩
  rw [kept (isFrom_eq_false_of_leadingText? begins), begins]

/-- A function with a docstring, in which the macro is imported. -/
def importInFunction : String :=
  "def f():\n  'text'\n  from m import If\n  return If(b).end()\n"

set_option maxRecDepth 10000 in
/-- The function is still there and has its docstring. -/
theorem docstrings_handedOver_importInFunction : ∃ tree printed,
    parse .file importInFunction = .ok tree ∧
    handedOver "m" .file "" importInFunction = some printed ∧
    ∃ scope ∈ printed.preorder, scope.label = .functionDef false "f" ∧
      scope.docstring? = some (CodePoints.ofString "text") := by
  have evaluated : ((Source.read .file importInFunction).toOption.bind fun tree =>
      (Imports.bindings "m" tree).toOption.bind fun names =>
        (rewritten "" "m" names tree).map fun _ => decide (names = ["If"]) &&
          tree.numbered.children.any fun child =>
            decide (child.2.label = .functionDef false "f") &&
              decide (child.2.docstring? = some (CodePoints.ofString "text"))) = some true := by
    decide +kernel
  obtain ⟨tree, read, evaluated⟩ := Option.bind_eq_some_iff.mp evaluated
  obtain ⟨names, bound, evaluated⟩ := Option.bind_eq_some_iff.mp evaluated
  obtain ⟨printed, rewrites, evaluated⟩ := Option.map_eq_some_iff.mp evaluated
  simp only [Bool.and_eq_true, decide_eq_true_eq, List.any_eq_true] at evaluated
  obtain ⟨rfl, child, inside, label, docstring⟩ := evaluated
  have parsed : parse .file importInFunction = .ok tree := parse_of_read (by decide_cbv) read
  have handed : handedOver "m" .file "" importInFunction = some printed :=
    (transform_eq parsed (eq_ok_of_toOption_eq_some bound)).2.trans rewrites
  refine ⟨tree, printed, parsed, handed, ?_⟩
  obtain ⟨scopes, stay⟩ := docstrings_handedOver parsed handed
  have documented : child.2.label.isDocumented = true := by rw [label]; rfl
  have inStatements : tree.numbered.InStatements "m" child.2 :=
    .child .root inside (Label.families_of_isDocumented documented).1 (by rw [label]; rfl)
  obtain ⟨scope, member, tag, same⟩ := stay child.2 inStatements documented
  obtain ⟨before, isNode, tag', -, -, -, kept⟩ := scopes scope member (by rw [same, label]; rfl)
  -- The numbers of nodes differ, so the scope is that of the function.
  obtain rfl := eq_of_tag_eq (numbering tree).distinct isNode (child_mem_preorder inside)
    (tag'.trans tag)
  exact ⟨scope, member, same.trans label, kept _ docstring⟩

/-- What a program comes to, step by step: it binds one name, what is left of it has a certain text,
and it is a module with a certain docstring, in the place of one without a docstring. -/
def uncovers? (module name source printedText docstring : String) : Option Bool :=
  (Source.read .file source).toOption.bind fun tree =>
    (Imports.bindings module tree).toOption.bind fun names =>
      (rewritten "" module names tree).bind fun printed =>
        printed.print.toOption.map fun text =>
          decide (names = [name]) && decide (text = printedText) &&
            decide (printed.tag.id = tree.numbered.tag) && decide (printed.label = .module) &&
            decide (tree.numbered.label = .module) && tree.numbered.docstring?.isNone &&
            decide (printed.docstring? = some (CodePoints.ofString docstring))

/-- A program in which a text follows the import of the macro. -/
def textAfterImport : String := "from ifexpr.macro import If\n'text'\nx = If(c).then(1).end()\n"

set_option maxRecDepth 10000 in
/-- **A docstring is uncovered.** The import is removed, so the text becomes the docstring of the
module, which had none. -/
theorem docstring_uncovered : ∃ tree printed,
    parse .file textAfterImport = .ok tree ∧ Imports.bindings "ifexpr.macro" tree = .ok ["If"] ∧
    (transform "ifexpr.macro" .file "" textAfterImport).result =
      .ok "\"\"\"text\"\"\"\nx = 1 if c else None\n" ∧
    handedOver "ifexpr.macro" .file "" textAfterImport = some printed ∧
    printed.tag.id = tree.numbered.tag ∧ tree.numbered.label = .module ∧ printed.label = .module ∧
    tree.numbered.docstring? = none ∧ printed.docstring? = some (CodePoints.ofString "text") := by
  have evaluated : uncovers? "ifexpr.macro" "If" textAfterImport
      "\"\"\"text\"\"\"\nx = 1 if c else None" "text" = some true := by
    decide +kernel
  obtain ⟨tree, read, evaluated⟩ := Option.bind_eq_some_iff.mp evaluated
  obtain ⟨names, bound, evaluated⟩ := Option.bind_eq_some_iff.mp evaluated
  obtain ⟨printed, rewrites, evaluated⟩ := Option.bind_eq_some_iff.mp evaluated
  obtain ⟨text, printing, evaluated⟩ := Option.map_eq_some_iff.mp evaluated
  simp only [Bool.and_eq_true, decide_eq_true_eq, Option.isNone_iff_eq_none] at evaluated
  obtain ⟨⟨⟨⟨⟨⟨rfl, rfl⟩, tag⟩, label⟩, label'⟩, before⟩, after⟩ := evaluated
  have parsed : parse .file textAfterImport = .ok tree := parse_of_read (by decide_cbv) read
  have binds := eq_ok_of_toOption_eq_some bound
  obtain ⟨isExpanded, isHanded⟩ :=
    @transform_eq "ifexpr.macro" "" textAfterImport .file [] tree "If" parsed binds
  refine ⟨tree, printed, parsed, binds, ?_, isHanded.trans rewrites, tag, label', label, before,
    after⟩
  rw [isExpanded]
  exact expandTree_result rewrites (eq_ok_of_toOption_eq_some printing)

end Whole

end Transform

end IfChains
