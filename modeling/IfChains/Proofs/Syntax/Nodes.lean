/-
**The nodes of a tree and their tags.**

A tree is looked at as the list of its nodes in preorder, each of them the subtree beneath it, and
as the list of their tags. With tags that all differ a tag names one node.

* `induction`: what holds of a node if it holds of its children holds of every tree;
* `mem_preorder_trans`, `tags_sublist`: a node of a node is a node, and its tags are among the
  others;
* `eq_of_tag_eq`: where tags differ, nodes with one tag are one node;
* `preorder_map`, `tags_map`: nodes and tags under a change of tags.
-/

import IfChains.Syntax.Tree
import Mathlib.Data.List.Nodup
import Mathlib.Data.List.Basic
import Mathlib.Data.List.Flatten
import Mathlib.Data.List.Perm.Subperm

namespace IfChains

/-- Whether a node is an unpacked expression. -/
def Label.isStarred : Label → Bool
  | .starred _ => true
  | _ => false

namespace Tree

variable {α β : Type}

section Induction

variable {motive : Tree α → Prop}

mutual

/-- **Induction over a tree**: a node has the property if all its children have it. -/
@[elab_as_elim, induction_eliminator]
theorem induction (node : ∀ tag label (children : Forest α),
    (∀ child ∈ children, motive child.2) → motive (.node tag label children)) :
    (tree : Tree α) → motive tree
  | .node tag label children => node tag label children (inductionForest node children)

/-- Induction over the trees of a forest. -/
theorem inductionForest (node : ∀ tag label (children : Forest α),
    (∀ child ∈ children, motive child.2) → motive (.node tag label children)) :
    (forest : Forest α) → ∀ child ∈ forest, motive child.2
  | [] => fun _ member => absurd member List.not_mem_nil
  | (role, tree) :: rest => by
    intro child member
    rcases List.mem_cons.mp member with rfl | later
    · exact induction node tree
    · exact inductionForest node rest child later

end

end Induction

section Preorder

/-- The nodes of a forest are those of its trees. -/
theorem preorderForest_eq (forest : Forest α) :
    preorderForest forest = forest.flatMap fun child => child.2.preorder := by
  induction forest with
  | nil => rfl
  | cons child rest ih =>
    obtain ⟨role, tree⟩ := child
    rw [preorderForest, ih, List.flatMap_cons]

/-- The nodes of a tree are its root and the nodes of its children. -/
theorem mem_preorder_node {tag : α} {label : Label} {children : Forest α} {inner : Tree α} :
    inner ∈ (node tag label children).preorder ↔
      inner = node tag label children ∨ ∃ child ∈ children, inner ∈ child.2.preorder := by
  rw [preorder, List.mem_cons, preorderForest_eq, List.mem_flatMap]

/-- The nodes of a tree, told by its children. -/
theorem mem_preorder_iff {inner outer : Tree α} :
    inner ∈ outer.preorder ↔ inner = outer ∨ ∃ child ∈ outer.children, inner ∈ child.2.preorder := by
  obtain ⟨tag, label, children⟩ := outer
  exact mem_preorder_node

/-- A tree is one of its nodes. -/
theorem self_mem_preorder (tree : Tree α) : tree ∈ tree.preorder := by
  obtain ⟨tag, label, children⟩ := tree
  exact mem_preorder_node.mpr (Or.inl rfl)

/-- A child is a node of the tree. -/
theorem child_mem_preorder {outer : Tree α} {child : Role × Tree α}
    (member : child ∈ outer.children) : child.2 ∈ outer.preorder := by
  obtain ⟨tag, label, children⟩ := outer
  exact mem_preorder_node.mpr (Or.inr ⟨child, member, self_mem_preorder child.2⟩)

/-- A node of a node is a node. -/
theorem mem_preorder_trans {inner middle outer : Tree α} (first : inner ∈ middle.preorder)
    (second : middle ∈ outer.preorder) : inner ∈ outer.preorder := by
  induction outer with
  | node tag label children ih =>
    rcases mem_preorder_node.mp second with rfl | ⟨child, member, beneath⟩
    · exact first
    · exact mem_preorder_node.mpr (Or.inr ⟨child, member, ih child member beneath⟩)

end Preorder

section Tags

/-- The tags of the nodes of a tree. -/
def tags (tree : Tree α) : List α :=
  tree.preorder.map tag

/-- The tags of the nodes of a forest. -/
def tagsIn (forest : Forest α) : List α :=
  forest.flatMap fun child => child.2.tags

@[simp]
theorem tags_node (tag : α) (label : Label) (children : Forest α) :
    (node tag label children).tags = tag :: tagsIn children := by
  simp [tags, tagsIn, preorder, preorderForest_eq, List.map_flatMap, Tree.tag]

@[simp]
theorem tagsIn_nil : tagsIn ([] : Forest α) = [] := rfl

@[simp]
theorem tagsIn_cons (child : Role × Tree α) (rest : Forest α) :
    tagsIn (child :: rest) = child.2.tags ++ tagsIn rest := rfl

@[simp]
theorem tagsIn_append (first second : Forest α) :
    tagsIn (first ++ second) = tagsIn first ++ tagsIn second := by
  simp [tagsIn]

/-- A tag in a forest is a tag in one of its trees. -/
theorem mem_tagsIn {forest : Forest α} {tag : α} :
    tag ∈ tagsIn forest ↔ ∃ child ∈ forest, tag ∈ child.2.tags :=
  List.mem_flatMap

/-- The tags of a tree of a forest are among those of the forest. -/
theorem tags_sublist_tagsIn {forest : Forest α} {child : Role × Tree α} (member : child ∈ forest) :
    child.2.tags.Sublist (tagsIn forest) :=
  List.sublist_flatten_of_mem (List.mem_map.mpr ⟨child, member, rfl⟩)

/-- The tag of the root is a tag of the tree. -/
theorem tag_mem_tags (tree : Tree α) : tree.tag ∈ tree.tags :=
  List.mem_map_of_mem (self_mem_preorder tree)

/-- The tags of a node are among those of the tree. -/
theorem tags_sublist {inner outer : Tree α} (member : inner ∈ outer.preorder) :
    inner.tags.Sublist outer.tags := by
  induction outer with
  | node tag label children ih =>
    rcases mem_preorder_node.mp member with rfl | ⟨child, inside, beneath⟩
    · exact List.Sublist.refl _
    · rw [tags_node]
      refine List.Sublist.cons _ ((ih child inside beneath).trans ?_)
      exact tags_sublist_tagsIn inside

/-- The tags of a node are tags of the tree. -/
theorem mem_tags_of_mem {inner outer : Tree α} (member : inner ∈ outer.preorder) {tag : α}
    (inside : tag ∈ inner.tags) : tag ∈ outer.tags :=
  (tags_sublist member).subset inside

/-- A tag beneath the root is a tag of the tree. -/
theorem mem_tags_of_children {tree : Tree α} {tag : α} (member : tag ∈ tagsIn tree.children) :
    tag ∈ tree.tags := by
  obtain ⟨root, label, children⟩ := tree
  rw [tags_node]
  exact List.mem_cons_of_mem _ member

/-- A tag names a node. -/
theorem exists_of_mem_tags {tree : Tree α} {tag : α} (member : tag ∈ tree.tags) :
    ∃ inner ∈ tree.preorder, inner.tag = tag :=
  List.mem_map.mp member

/-- Where tags differ, nodes with one tag are one node. -/
theorem eq_of_tag_eq {tree first second : Tree α} (distinct : tree.tags.Nodup)
    (one : first ∈ tree.preorder) (two : second ∈ tree.preorder) (same : first.tag = second.tag) :
    first = second :=
  List.inj_on_of_nodup_map distinct one two same

/-- Where tags differ, no tag is in two trees of a forest. -/
theorem eq_of_mem_tags {forest : Forest α} (distinct : (tagsIn forest).Nodup)
    {one two : Role × Tree α} (first : one ∈ forest) (second : two ∈ forest) {tag : α}
    (inOne : tag ∈ one.2.tags) (inTwo : tag ∈ two.2.tags) : one = two := by
  induction forest with
  | nil => exact absurd first List.not_mem_nil
  | cons child rest ih =>
    rw [tagsIn_cons, List.nodup_append'] at distinct
    obtain ⟨-, later, apart⟩ := distinct
    rcases List.mem_cons.mp first with rfl | oneLater
    · rcases List.mem_cons.mp second with rfl | twoLater
      · rfl
      · exact absurd (mem_tagsIn.mpr ⟨two, twoLater, inTwo⟩) (apart inOne)
    · rcases List.mem_cons.mp second with rfl | twoLater
      · exact absurd (mem_tagsIn.mpr ⟨one, oneLater, inOne⟩) (apart inTwo)
      · exact ih later oneLater twoLater

/-- Where tags differ, the root of a tree of a forest is not beneath the root of any of its
trees. -/
theorem tag_not_mem_of_nodup {forest : Forest α} (distinct : (tagsIn forest).Nodup)
    {one two : Role × Tree α} (first : one ∈ forest) (second : two ∈ forest) :
    one.2.tag ∉ tagsIn two.2.children := by
  intro beneath
  obtain ⟨before, after, rfl⟩ := List.append_of_mem second
  rw [tagsIn_append, tagsIn_cons, List.nodup_append', List.nodup_append'] at distinct
  obtain ⟨-, ⟨here, -, apart⟩, apart'⟩ := distinct
  have inside : one.2.tag ∈ two.2.tags := mem_tags_of_children beneath
  rcases List.mem_append.mp first with sooner | later
  · refine apart' (mem_tagsIn.mpr ⟨one, sooner, tag_mem_tags one.2⟩) ?_
    exact List.mem_append_left _ inside
  · rcases List.mem_cons.mp later with rfl | later
    · obtain ⟨role, tag, label, children⟩ := one
      rw [tags_node, List.nodup_cons] at here
      exact here.1 beneath
    · exact apart inside (mem_tagsIn.mpr ⟨one, later, tag_mem_tags one.2⟩)

mutual

/-- A tree has a tag for each of its nodes. -/
theorem length_tags : (tree : Tree α) → tree.tags.length = tree.size
  | .node tag label children => by
    rw [tags_node, List.length_cons, size, length_tagsIn children]
    omega

/-- A forest has a tag for each of its nodes. -/
theorem length_tagsIn : (forest : Forest α) → (tagsIn forest).length = sizeForest forest
  | [] => rfl
  | (role, tree) :: rest => by
    rw [tagsIn_cons, List.length_append, sizeForest, length_tags tree, length_tagsIn rest]

end

/-- A child has fewer nodes than its parent. -/
theorem size_child_lt {outer : Tree α} {child : Role × Tree α} (member : child ∈ outer.children) :
    child.2.size < outer.size := by
  obtain ⟨tag, label, children⟩ := outer
  have shorter := (tags_sublist_tagsIn member).length_le
  rw [← length_tags, ← length_tags, tags_node, List.length_cons]
  exact Nat.lt_succ_of_le shorter

end Tags

section Roles

/-- The trees of a forest that have a role, in order. -/
def inRole (role : Role) (forest : Forest α) : List (Tree α) :=
  forest.filterMap fun child => if child.1 = role then some child.2 else none

@[simp]
theorem having_node (role : Role) (tag : α) (label : Label) (children : Forest α) :
    (node tag label children).having role = inRole role children := rfl

@[simp]
theorem inRole_append (role : Role) (first second : Forest α) :
    inRole role (first ++ second) = inRole role first ++ inRole role second := by
  simp [inRole]

@[simp]
theorem inRole_cons_same (role : Role) (tree : Tree α) (rest : Forest α) :
    inRole role ((role, tree) :: rest) = tree :: inRole role rest := by
  simp [inRole]

theorem inRole_cons_other {role other : Role} (tree : Tree α) (rest : Forest α)
    (different : other ≠ role) : inRole role ((other, tree) :: rest) = inRole role rest := by
  simp [inRole, different]

/-- A tree that has a role is a child with that role. -/
theorem mem_inRole {role : Role} {forest : Forest α} {tree : Tree α} :
    tree ∈ inRole role forest ↔ (role, tree) ∈ forest := by
  simp only [inRole, List.mem_filterMap, Option.ite_none_right_eq_some, Option.some.injEq]
  constructor
  · rintro ⟨⟨other, inner⟩, member, rfl, rfl⟩
    exact member
  · intro member
    exact ⟨(role, tree), member, rfl, rfl⟩

/-- A tree that has a role in a node is a child with that role. -/
theorem mem_having {role : Role} {outer tree : Tree α} :
    tree ∈ outer.having role ↔ (role, tree) ∈ outer.children :=
  mem_inRole

/-- The tags of the trees that have a role are among those of the forest. -/
theorem tags_inRole_sublist (role : Role) (forest : Forest α) :
    ((inRole role forest).flatMap tags).Sublist (tagsIn forest) := by
  induction forest with
  | nil => exact List.Sublist.refl _
  | cons child rest ih =>
    obtain ⟨other, tree⟩ := child
    by_cases here : other = role
    · subst here
      rw [inRole_cons_same, List.flatMap_cons, tagsIn_cons]
      exact (List.Sublist.refl _).append ih
    · rw [inRole_cons_other _ _ here, tagsIn_cons]
      exact ih.trans (List.sublist_append_right _ _)

/-- The tags of trees differ if those of more trees do. -/
theorem nodup_tags_of_subperm {trees trees' : List (Tree α)} (fewer : trees.Subperm trees')
    (distinct : (trees'.flatMap tags).Nodup) : (trees.flatMap tags).Nodup := by
  obtain ⟨same, perm, sublist⟩ := fewer
  rw [← (perm.flatMap_right tags).nodup_iff]
  exact distinct.sublist (sublist.flatMap tags)

/-- Whether a tree is an unpacked expression. -/
def isStarred (tree : Tree α) : Bool :=
  tree.label.isStarred

end Roles

/-- Where tags differ, a tree is a child in one role only. -/
theorem role_eq_of_nodup {outer tree : Tree α} (distinct : outer.tags.Nodup) {one two : Role}
    (first : (one, tree) ∈ outer.children) (second : (two, tree) ∈ outer.children) : one = two := by
  obtain ⟨tag, label, children⟩ := outer
  rw [tags_node, List.nodup_cons] at distinct
  have inside := tag_mem_tags tree
  exact congrArg Prod.fst (eq_of_mem_tags distinct.2 first second inside inside)

section Map

variable (change : α → β)

/-- Changing the tags of a forest changes those of its trees. -/
theorem mapForest_eq (forest : Forest α) :
    mapForest change forest = List.map (fun child => (child.1, child.2.map change)) forest := by
  induction forest with
  | nil => rfl
  | cons child rest ih =>
    obtain ⟨role, tree⟩ := child
    rw [mapForest, ih, List.map_cons]

@[simp]
theorem label_map (tree : Tree α) : (tree.map change).label = tree.label := by
  obtain ⟨tag, label, children⟩ := tree
  rfl

@[simp]
theorem tag_map (tree : Tree α) : (tree.map change).tag = change tree.tag := by
  obtain ⟨tag, label, children⟩ := tree
  rfl

/-- Changing tags does not change what is unpacked. -/
theorem isStarred_map (tree : Tree α) : (tree.map change).isStarred = tree.isStarred := by
  rw [isStarred, isStarred, label_map]

/-- Changing tags changes those of the children. -/
theorem children_map (tree : Tree α) : (tree.map change).children =
    List.map (fun child => (child.1, child.2.map change)) tree.children := by
  obtain ⟨tag, label, children⟩ := tree
  exact mapForest_eq change children

/-- Changing the trees of a forest leaves their roles alone. -/
theorem inRole_map_snd (role : Role) (onTree : Tree α → Tree β) (forest : Forest α) :
    inRole role (forest.map fun child => (child.1, onTree child.2)) =
      (inRole role forest).map onTree := by
  induction forest with
  | nil => rfl
  | cons child rest ih =>
    obtain ⟨other, tree⟩ := child
    rw [List.map_cons]
    by_cases same : other = role
    · subst same
      rw [inRole_cons_same, inRole_cons_same, List.map_cons, ih]
    · rw [inRole_cons_other _ _ same, inRole_cons_other _ _ same, ih]

/-- Changing tags leaves the roles of children alone. -/
theorem inRole_mapForest (role : Role) (forest : Forest α) :
    inRole role (mapForest change forest) = List.map (Tree.map change) (inRole role forest) := by
  rw [mapForest_eq, inRole_map_snd]

theorem having_map (tree : Tree α) (role : Role) :
    (tree.map change).having role = List.map (Tree.map change) (tree.having role) := by
  obtain ⟨tag, label, children⟩ := tree
  exact inRole_mapForest change role children

/-- The nodes of a tree with other tags. -/
theorem preorder_map (tree : Tree α) :
    (tree.map change).preorder = List.map (Tree.map change) tree.preorder := by
  induction tree with
  | node tag label children ih =>
    rw [map, preorder, preorder, List.map_cons, map, preorderForest_eq, preorderForest_eq,
      mapForest_eq, List.flatMap_map, List.map_flatMap]
    congr 1
    exact List.flatMap_congr ih

/-- The tags of a tree with other tags. -/
theorem tags_map (tree : Tree α) : (tree.map change).tags = List.map change tree.tags := by
  simp [tags, preorder_map, Function.comp_def]

/-- Changes that agree on the tags of a tree change it alike. -/
theorem map_congr {change change' : α → β} {tree : Tree α}
    (same : ∀ tag ∈ tree.tags, change tag = change' tag) : tree.map change = tree.map change' := by
  induction tree with
  | node tag label children ih =>
    rw [tags_node, List.forall_mem_cons] at same
    rw [map, map, mapForest_eq, mapForest_eq, same.1]
    congr 1
    refine List.map_congr_left fun child member => ?_
    rw [ih child member fun inner inside => same.2 inner (mem_tagsIn.mpr ⟨child, member, inside⟩)]

end Map

end Tree

end IfChains
