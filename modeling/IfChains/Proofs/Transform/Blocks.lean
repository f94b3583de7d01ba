/-
**The blocks of a tree without the imports of the macro module.**

The imports are removed block by block. In a program they stand in blocks only, and a block holds
nothing but statements, so a block is told to lose all its statements exactly if all that is in it
is such imports.

* `Cleared`: a tree and what is left of it, told block by block;
* `inRole_stripForest`, `inRole_stripForest_of_hollow`: what is left in one role;
* `having_strip`, `having_strip_of_emptied`: the same for a node of a program;
* `cleared_strip`: what is left of a program;
* `strip_eq_self`: a tree without such imports is left as it is;
* `stripped_program`: the blocks of a program, and a second removal.
-/

import IfChains.Proofs.Syntax.Conforming
import IfChains.Proofs.Transform.Stripping

namespace IfChains

open IfChains.Tree

namespace Strip

variable {α : Type} {module : String} {blank : α} {tree node : Tree α} {role : Role}
  {hollow : Role → Bool} {filled : List Role} {forest : Forest α}

/-- The trees of a list that are no imports from a module. -/
def keptOf (module : String) (trees : List (Tree α)) : List (Tree α) :=
  trees.filter fun tree => !Imports.isFrom module tree.label

/-- The trees in one role of a node are all lost: there are some, all of them are imports from a
module, and the node is not the module itself. -/
def Emptied (module : String) (label : Label) (trees : List (Tree α)) : Prop :=
  trees ≠ [] ∧ (∀ tree ∈ trees, Imports.isFrom module tree.label = true) ∧ label ≠ .module

/-- **A tree and what is left of it** without the imports from a module. The node is the same. In
each role what is left of the trees that are no such imports stands in their order; but where all
trees are lost there is a `pass` statement. -/
inductive Cleared (module : String) (blank : α) : Tree α → Tree α → Prop
  | node (tag : α) (label : Label) (before after : Forest α)
      (emptied : ∀ role, Emptied module label (inRole role before) →
        inRole role after = [pass blank])
      (kept : ∀ role, ¬Emptied module label (inRole role before) →
        List.Forall₂ (Cleared module blank) (keptOf module (inRole role before))
          (inRole role after)) :
      Cleared module blank (.node tag label before) (.node tag label after)

section Roles

theorem keptOf_cons_of_isFrom (trees : List (Tree α))
    (isFrom : Imports.isFrom module tree.label = true) :
    keptOf module (tree :: trees) = keptOf module trees := by
  rw [keptOf, List.filter_cons_of_neg (by simp [isFrom])]
  rfl

theorem keptOf_cons_of_not_isFrom (trees : List (Tree α))
    (kept : Imports.isFrom module tree.label = false) :
    keptOf module (tree :: trees) = tree :: keptOf module trees := by
  rw [keptOf, List.filter_cons_of_pos (by simp [kept])]
  rfl

/-- Trees that are all imports from the module are all removed. -/
theorem keptOf_eq_nil {trees : List (Tree α)}
    (all : ∀ tree ∈ trees, Imports.isFrom module tree.label = true) : keptOf module trees = [] := by
  rw [keptOf, List.filter_eq_nil_iff]
  intro tree member
  simp [all tree member]

/-- **What is left in one role** if no `pass` statement is put there: the trees that are no
imports. -/
theorem inRole_stripForest (quiet : hollow role = false ∨ role ∈ filled ∨
      ∀ tree ∈ inRole role forest, Imports.isFrom module tree.label = false) :
    inRole role (stripForest module blank hollow filled forest) =
      (keptOf module (inRole role forest)).map (strip module blank) := by
  induction forest generalizing filled with
  | nil =>
    rw [stripForest]
    rfl
  | cons child rest ih =>
    obtain ⟨other, tree⟩ := child
    rw [stripForest]
    by_cases here : other = role
    · subst here
      rw [inRole_cons_same] at quiet ⊢
      have later : hollow other = false ∨ other ∈ filled ∨
          ∀ tree ∈ inRole other rest, Imports.isFrom module tree.label = false :=
        quiet.imp_right (Or.imp_right fun none tree member =>
          none tree (List.mem_cons_of_mem _ member))
      cases isFrom : Imports.isFrom module tree.label with
      | true =>
        have unfilled : (hollow other && !filled.contains other) = false := by
          rcases quiet with solid | full | none
          · simp [solid]
          · simp [full]
          · exact absurd ((none tree List.mem_cons_self).symm.trans isFrom) Bool.false_ne_true
        rw [if_pos rfl, unfilled, if_neg Bool.false_ne_true, ih later,
          keptOf_cons_of_isFrom _ isFrom]
      | false =>
        rw [if_neg Bool.false_ne_true, inRole_cons_same, ih later,
          keptOf_cons_of_not_isFrom _ isFrom, List.map_cons]
    · rw [inRole_cons_other _ _ here] at quiet ⊢
      split
      · split
        · rw [inRole_cons_other _ _ here]
          exact ih (quiet.imp_right (Or.imp_left (List.mem_cons_of_mem _)))
        · exact ih quiet
      · rw [inRole_cons_other _ _ here]
        exact ih quiet

/-- **What is left in one role** if a `pass` statement is put in the place of the imports. -/
theorem inRole_stripForest_of_hollow (isHollow : hollow role = true) (unfilled : role ∉ filled)
    (some : inRole role forest ≠ [])
    (all : ∀ tree ∈ inRole role forest, Imports.isFrom module tree.label = true) :
    inRole role (stripForest module blank hollow filled forest) = [pass blank] := by
  induction forest generalizing filled with
  | nil => exact absurd rfl some
  | cons child rest ih =>
    obtain ⟨other, tree⟩ := child
    rw [stripForest]
    by_cases here : other = role
    · subst here
      rw [inRole_cons_same] at all
      obtain ⟨isFrom, later⟩ := List.forall_mem_cons.mp all
      have first : (hollow other && !filled.contains other) = true := by simp [isHollow, unfilled]
      rw [if_pos isFrom, if_pos first, inRole_cons_same,
        inRole_stripForest (Or.inr (Or.inl List.mem_cons_self)), keptOf_eq_nil later]
      rfl
    · rw [inRole_cons_other _ _ here] at some all
      split
      · split
        · rw [inRole_cons_other _ _ here]
          refine ih (fun inside => ?_) some all
          exact (List.mem_cons.mp inside).elim (fun same => here same.symm) unfilled
        · exact ih unfilled some all
      · rw [inRole_cons_other _ _ here]
        exact ih unfilled some all

end Roles

section Programs

/-- Only a block has statements, and it has nothing else. -/
theorem isBlock_of_childFamily {label : Label} (statements : label.childFamily role = .statement) :
    role.isBlock = true := by
  unfold Label.childFamily at statements
  split at statements
  · rfl
  · rfl
  · rfl
  · split at statements <;> exact nomatch statements
  all_goals exact nomatch statements

/-- An import from a module is a statement. -/
theorem isStatement_of_isFrom {label : Label} (isFrom : Imports.isFrom module label = true) :
    label.family = .statement := by
  unfold Imports.isFrom at isFrom
  split at isFrom
  · rfl
  · exact nomatch isFrom

/-- **Whether a block of a program loses all its statements.** -/
theorem losesAll_iff (conforms : node.Conforms)
    (block : ∃ tree ∈ node.having role, Imports.isFrom module tree.label = true) :
    losesAll module node.label node.children role = true ↔
      node.label ≠ .module ∧
        ∀ tree ∈ node.having role, Imports.isFrom module tree.label = true := by
  obtain ⟨first, member, isFrom⟩ := block
  have family := conforms.families _ (mem_having.mp member)
  rw [isStatement_of_isFrom isFrom] at family
  have inBlock : ∀ tree ∈ node.having role, isInBlock role (role, tree) = true := by
    intro tree among
    have statement := (conforms.families _ (mem_having.mp among)).trans family.symm
    simp [isInBlock, isBlock_of_childFamily family.symm, Label.isStatement, statement]
  rw [losesAll, Bool.and_eq_true, bne_iff_ne, List.all_eq_true]
  refine and_congr_right fun _ => ⟨fun all tree among => ?_, fun all child among => ?_⟩
  · exact all (role, tree) (List.mem_filter.mpr ⟨mem_having.mp among, inBlock tree among⟩)
  · obtain ⟨inside, isIn⟩ := List.mem_filter.mp among
    simp only [isInBlock, Bool.and_eq_true, decide_eq_true_eq] at isIn
    obtain ⟨other, tree⟩ := child
    obtain rfl : other = role := isIn.1.2
    exact all tree (mem_having.mpr inside)

/-- What is left in a role of a node, told by the children. -/
theorem having_strip_eq (module : String) (blank : α) (node : Tree α) (role : Role) :
    (strip module blank node).having role = inRole role
      (stripForest module blank (losesAll module node.label node.children) [] node.children) := by
  rw [← children_strip_eq]
  rfl

/-- **Where all trees in a role are lost**, a `pass` statement is left. -/
theorem having_strip_of_emptied (blank : α) (conforms : node.Conforms)
    (emptied : Emptied module node.label (node.having role)) :
    (strip module blank node).having role = [pass blank] := by
  obtain ⟨some, all, inner⟩ := emptied
  obtain ⟨first, rest, same⟩ := List.exists_cons_of_ne_nil some
  have member : first ∈ node.having role := same ▸ List.mem_cons_self
  have hollow := (losesAll_iff conforms ⟨first, member, all first member⟩).mpr ⟨inner, all⟩
  rw [having_strip_eq]
  exact inRole_stripForest_of_hollow hollow List.not_mem_nil some all

/-- **Elsewhere** what is left in a role are the trees that are no imports. -/
theorem having_strip (blank : α) (conforms : node.Conforms)
    (solid : ¬Emptied module node.label (node.having role)) :
    (strip module blank node).having role =
      (keptOf module (node.having role)).map (strip module blank) := by
  rw [having_strip_eq]
  refine inRole_stripForest ?_
  by_cases block : ∃ tree ∈ node.having role, Imports.isFrom module tree.label = true
  · refine Or.inl (Bool.eq_false_iff.mpr fun hollow => solid ?_)
    obtain ⟨inner, all⟩ := (losesAll_iff conforms block).mp hollow
    obtain ⟨first, member, -⟩ := block
    exact ⟨List.ne_nil_of_mem member, all, inner⟩
  · push Not at block
    exact Or.inr (Or.inr fun tree member => Bool.eq_false_iff.mpr (block tree member))

/-- **What is left of a program** without the imports from a module. -/
theorem cleared_strip (blank : α) (conforming : tree.Conforming) :
    Cleared module blank tree (strip module blank tree) := by
  induction tree with
  | node tag label children ih =>
    obtain ⟨here, beneath⟩ := conforming_node.mp conforming
    have same : strip module blank (.node tag label children) =
        .node tag label (strip module blank (.node tag label children)).children := by
      rw [children_strip_eq, strip]
      rfl
    rw [same]
    refine .node tag label _ _ (fun role emptied => having_strip_of_emptied blank here emptied)
      fun role solid => ?_
    have left : inRole role (strip module blank (.node tag label children)).children =
        (keptOf module (inRole role children)).map (strip module blank) :=
      having_strip blank here solid
    rw [left]
    refine List.forall₂_map_right_iff.mpr (List.forall₂_same.mpr fun inner among => ?_)
    have inside : (role, inner) ∈ children := mem_inRole.mp (List.mem_of_mem_filter among)
    exact ih _ inside (beneath _ inside)

/-- **A tree without imports from the module** is left as it is. -/
theorem strip_eq_self (blank : α)
    (clean : ∀ node ∈ tree.preorder, Imports.isFrom module node.label = false) :
    strip module blank tree = tree := by
  induction tree with
  | node tag label children ih =>
    have kept : ∀ child ∈ children, Imports.isFrom module child.2.label = false :=
      fun child member => clean _ (child_mem_preorder member)
    rw [strip, stripForest_eq_map kept]
    congr 1
    refine (List.map_congr_left fun child member => ?_).trans (List.map_id children)
    have beneath : child.2 ∈ (Tree.node tag label children).preorder := child_mem_preorder member
    rw [ih child member fun node inside => clean node (mem_preorder_trans inside beneath)]
    rfl

/-- **The blocks of a program without the imports from a module.** What is left is the program with
such imports deleted from every block, and with a `pass` statement in every block that is emptied,
except that of the module itself. A part of the program without such imports is left as it is. No
such import remains, and removing the imports a second time changes nothing. -/
theorem stripped_program (module : String) (blank : α) (program : tree.IsProgram) :
    Cleared module blank tree (strip module blank tree) ∧
    (∀ part ∈ tree.preorder, (∀ node ∈ part.preorder, Imports.isFrom module node.label = false) →
      strip module blank part = part) ∧
    (∀ node ∈ (strip module blank tree).preorder, Imports.isFrom module node.label = false) ∧
    strip module blank (strip module blank tree) = strip module blank tree := by
  have root : Imports.isFrom module tree.label = false := by
    rw [program.root]
    rfl
  have gone : ∀ node ∈ (strip module blank tree).preorder,
      Imports.isFrom module node.label = false := fun node => isFrom_eq_false_of_mem root
  exact ⟨cleared_strip blank program.conforming, fun part _ => strip_eq_self blank, gone,
    strip_eq_self blank gone⟩

/-- The statement `from m import If`. -/
def importSymbol : SourceTree :=
  .node none (.importFrom (some "m") 0) [(.names, .node none (.importItem "If" none) [])]

/-- The statement `x`. -/
def evaluating : SourceTree :=
  .node none .exprStmt [(.value, .node none (.name "x" .load) [])]

/-- A statement `if c: …` with an `else`, of given blocks. -/
def guarding (body orelse : List SourceTree) : SourceTree :=
  .node none .ifStmt ((.test, .node none (.name "c" .load) []) ::
    (body.map (fun tree => (.body, tree)) ++ orelse.map fun tree => (.orelse, tree)))

/-- A program that imports the symbol at its top, as a whole block and beside another statement. -/
def guardedImports : SourceTree :=
  .node none .module [(.body, importSymbol),
    (.body, guarding [importSymbol, importSymbol] [importSymbol, evaluating])]

/-- One block of a program is emptied and gets a `pass` statement, the other keeps a statement, and
the block of the module loses its import. -/
theorem stripped_program_guardedImports :
    guardedImports.IsProgram ∧
    Cleared "m" none guardedImports (strip "m" none guardedImports) ∧
    strip "m" none guardedImports =
      .node none .module [(.body, guarding [pass none] [evaluating])] := by
  have program : guardedImports.IsProgram := by decide
  exact ⟨program, (stripped_program "m" none program).1, by decide⟩

end Programs

end Strip

end IfChains
