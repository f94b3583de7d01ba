/-
**Trees that fit where they are put.**

A tree fits a class if its root is of that class and every node in it has the children of its kind.
A node fits its own class if it is built from trees that fit the classes of its roles, so many in
each role as the kind asks for.

* `Fits`: a tree fits a class; `Filling`: children fit the roles of a kind of node;
* `fits_node_iff`: when a node fits;
* `Grammar.fits_tree`, `Grammar.fits_part`: when a node that is built by the grammar does;
* `Grammar.fits_used`: an expression fits, in whatever way its names are used.
-/

import IfChains.Grammar.Node
import IfChains.Proofs.Syntax.Conforming

namespace IfChains

namespace Tree

variable {α : Type} {tag : α} {label : Label} {children : Forest α} {family : Label.Family}

/-- A tree of a class, in which every node has the children of its kind. -/
structure Fits (family : Label.Family) (tree : Tree α) : Prop where
  family : tree.label.family = family
  conforming : tree.Conforming

/-- Children that a kind of node has roles for, and that fit those roles. -/
def Filling (label : Label) (children : Forest α) : Prop :=
  ∀ child ∈ children,
    child.1 ∈ label.fields.map Prod.fst ∧ child.2.Fits (label.childFamily child.1)

/-- A node fits if it is built of trees that fit. -/
theorem fits_node_iff : (node tag label children).Fits family ↔
    label.family = family ∧
      (∀ field ∈ label.fields, field.2.admits (inRole field.1 children).length = true) ∧
        Filling label children := by
  constructor
  · rintro ⟨kind, conforming⟩
    obtain ⟨here, beneath⟩ := conforming_node.mp conforming
    exact ⟨kind, here.counts, fun child member =>
      ⟨here.roles child member, here.families child member, beneath child member⟩⟩
  · rintro ⟨kind, counts, filling⟩
    refine ⟨kind, conforming_node.mpr ⟨⟨counts, fun child member => (filling child member).1,
      fun child member => (filling child member).2.family⟩, fun child member => ?_⟩⟩
    exact (filling child member).2.conforming

/-- A node of another kind that has the same children fits as well. -/
theorem Fits.relabel {label' : Label} (fits : (node tag label children).Fits family)
    (kind : label'.family = label.family) (fields : label'.fields = label.fields)
    (families : label'.childFamily = label.childFamily) :
    (node tag label' children).Fits family := by
  obtain ⟨rfl, counts, filling⟩ := fits_node_iff.mp fits
  refine fits_node_iff.mpr ⟨kind, fields ▸ counts, ?_⟩
  unfold Filling
  rwa [fields, families]

end Tree

namespace Grammar

open IfChains.Tree

attribute [scoped simp] Label.family Label.fields Label.childFamily Arity.admits

section Children

variable {label : Label} {role : Role}

@[scoped simp]
theorem inRole_nil (role : Role) : inRole role ([] : Forest (Option Position)) = [] := rfl

/-- The trees in a role, if the first one takes that role or another one. -/
@[scoped simp]
theorem inRole_cons (role other : Role) (first : SourceTree) (rest : Forest (Option Position)) :
    inRole role ((other, first) :: rest) =
      if other = role then first :: inRole role rest else inRole role rest := by
  split
  · next same => rw [same, inRole_cons_same]
  · next different => rw [inRole_cons_other _ _ different]

/-- The trees in a role among those that take one role. -/
@[scoped simp]
theorem inRole_each (role other : Role) (trees : List SourceTree) :
    inRole role (each other trees) = if other = role then trees else [] := by
  split <;> simp_all [inRole, each, List.filterMap_map]

@[scoped simp]
theorem inRole_optional (role other : Role) (found : Option SourceTree) :
    inRole role (optional other found) = if other = role then found.toList else [] :=
  inRole_each role other _

@[scoped simp]
theorem filling_nil : Filling label ([] : Forest (Option Position)) :=
  fun _ member => absurd member List.not_mem_nil

@[scoped simp]
theorem filling_cons {first : SourceTree} {rest : Forest (Option Position)} :
    Filling label ((role, first) :: rest) ↔
      (role ∈ label.fields.map Prod.fst ∧ first.Fits (label.childFamily role)) ∧
        Filling label rest :=
  List.forall_mem_cons

@[scoped simp]
theorem filling_append {first second : Forest (Option Position)} :
    Filling label (first ++ second) ↔ Filling label first ∧ Filling label second :=
  List.forall_mem_append

@[scoped simp]
theorem filling_each {trees : List SourceTree} :
    Filling label (each role trees) ↔
      ∀ tree ∈ trees, role ∈ label.fields.map Prod.fst ∧ tree.Fits (label.childFamily role) :=
  List.forall_mem_map

theorem filling_of_forall {trees : List SourceTree}
    (takes : role ∈ label.fields.map Prod.fst)
    (fit : ∀ tree ∈ trees, tree.Fits (label.childFamily role)) :
    Filling label (each role trees) :=
  filling_each.mpr fun tree member => ⟨takes, fit tree member⟩

@[scoped simp]
theorem filling_optional {found : Option SourceTree} :
    Filling label (optional role found) ↔
      ∀ tree ∈ found, role ∈ label.fields.map Prod.fst ∧ tree.Fits (label.childFamily role) := by
  simp [optional]

end Children

section Nodes

variable {label : Label} {children : Forest (Option Position)} {family : Label.Family}

@[scoped simp]
theorem fits_tree {place : Position} : (tree place label children).Fits family ↔
    label.family = family ∧
      (∀ field ∈ label.fields, field.2.admits (inRole field.1 children).length = true) ∧
        Filling label children :=
  fits_node_iff

@[scoped simp]
theorem fits_part : (part label children).Fits family ↔
    label.family = family ∧
      (∀ field ∈ label.fields, field.2.admits (inRole field.1 children).length = true) ∧
        Filling label children :=
  fits_node_iff

/-- Each of some expressions is used in one way. -/
theorem usedForest_eq (usage : Usage) (children : Forest (Option Position)) :
    usedForest usage children = children.map fun child => (child.1, used usage child.2) := by
  induction children with
  | nil => rfl
  | cons child rest ih =>
    obtain ⟨role, tree⟩ := child
    rw [usedForest, ih, List.map_cons]

/-- **An expression fits**, in whatever way its names are used. -/
theorem fits_used {usage : Usage} {tree : Tree (Option Position)} (fits : tree.Fits family) :
    (used usage tree).Fits family := by
  induction tree generalizing family with
  | node place label children ih =>
    -- The parts of a display or of an unpacking are used alike.
    have parts : (Tree.node place label (usedForest usage children)).Fits family := by
      obtain ⟨kind, counts, filling⟩ := fits_node_iff.mp fits
      rw [usedForest_eq]
      refine fits_node_iff.mpr ⟨kind, fun field member => ?_, List.forall_mem_map.mpr ?_⟩
      · rw [inRole_map_snd, List.length_map]
        exact counts field member
      · exact fun child member =>
          ⟨(filling child member).1, ih child member (filling child member).2⟩
    unfold used
    split
    · exact fits.relabel rfl rfl rfl
    · exact fits.relabel rfl rfl rfl
    · exact fits.relabel rfl rfl rfl
    · exact parts.relabel rfl rfl rfl
    · exact parts.relabel rfl rfl rfl
    · exact parts.relabel rfl rfl rfl
    · exact fits

end Nodes

end Grammar

end IfChains
