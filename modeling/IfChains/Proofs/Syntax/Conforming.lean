/-
**Trees whose nodes have the children of their kind.**

The kind of a node says which roles its children take, how many take each, and whether they are
statements, expressions or other parts. A tree in which every node keeps to that is `Conforming`;
the trees of programs are.

* `conforming_map`: a tree conforms whatever its tags are;
* `conforming_fill`: so does a context, whatever fills its hole;
* `IsProgram`: the tree of a program is a module that conforms.
-/

import IfChains.Proofs.Syntax.Context
import IfChains.Syntax.Field

namespace IfChains

/-- Whether a number of children may take a role. -/
def Arity.admits : Arity → Nat → Bool
  | .one, count => count == 1
  | .optional, count => count ≤ 1
  | .many, _ => true

/-- The class that the children in a role of a node belong to. -/
def Label.childFamily (label : Label) : Role → Label.Family
  | .body | .orelse =>
    match label with
    | .lambda | .ifExp => .expression
    | _ => .statement
  | .finalbody => .statement
  | .args =>
    match label with
    | .call => .expression
    | _ => .part
  | .handlers | .cases | .items | .names | .keywords | .generators | .posonlyargs | .vararg
  | .kwonlyargs | .kwarg => .part
  | .pattern | .patterns | .kwdPatterns => .pattern
  | _ => .expression

namespace Tree

variable {α β : Type}

/-- A node has the children that its kind asks for. -/
structure Conforms (node : Tree α) : Prop where
  counts : ∀ field ∈ node.label.fields, field.2.admits (node.having field.1).length = true
  roles : ∀ child ∈ node.children, child.1 ∈ node.label.fields.map Prod.fst
  families : ∀ child ∈ node.children, child.2.label.family = node.label.childFamily child.1

instance (node : Tree α) : Decidable node.Conforms :=
  decidable_of_iff
    ((∀ field ∈ node.label.fields, field.2.admits (node.having field.1).length = true) ∧
      (∀ child ∈ node.children, child.1 ∈ node.label.fields.map Prod.fst) ∧
      ∀ child ∈ node.children, child.2.label.family = node.label.childFamily child.1)
    ⟨fun all => ⟨all.1, all.2.1, all.2.2⟩, fun all => ⟨all.counts, all.roles, all.families⟩⟩

/-- Every node has the children that its kind asks for. -/
def Conforming (tree : Tree α) : Prop :=
  ∀ node ∈ tree.preorder, node.Conforms

instance (tree : Tree α) : Decidable tree.Conforming :=
  inferInstanceAs (Decidable (∀ node ∈ tree.preorder, node.Conforms))

section Nodes

/-- A node of a conforming tree is a conforming tree. -/
theorem Conforming.of_mem {inner outer : Tree α} (conforming : outer.Conforming)
    (member : inner ∈ outer.preorder) : inner.Conforming :=
  fun node inside => conforming node (mem_preorder_trans inside member)

/-- A node whose children conform does so if it has the children of its kind. -/
theorem conforming_node {tag : α} {label : Label} {children : Forest α} :
    (node tag label children).Conforming ↔
      (node tag label children).Conforms ∧ ∀ child ∈ children, child.2.Conforming := by
  constructor
  · intro conforming
    refine ⟨conforming _ (self_mem_preorder _), fun child member => ?_⟩
    exact conforming.of_mem (child_mem_preorder member)
  · rintro ⟨here, beneath⟩ inner member
    rcases mem_preorder_node.mp member with rfl | ⟨child, inside, deeper⟩
    · exact here
    · exact beneath child inside inner deeper

/-- The children of a node whose kind has no roles. -/
theorem Conforms.children_eq_nil {tag : α} {label : Label} {children : Forest α}
    (conforms : (node tag label children).Conforms) (bare : label.fields = []) : children = [] := by
  refine List.eq_nil_iff_forall_not_mem.mpr fun child member => ?_
  have inside := conforms.roles child member
  rw [Tree.label, bare] at inside
  exact absurd inside List.not_mem_nil

/-- A role that one child takes is taken by one child. -/
theorem Conforms.exists_single {tree : Tree α} (conforms : tree.Conforms) {role : Role}
    (field : (role, Arity.one) ∈ tree.label.fields) : ∃ child, tree.having role = [child] := by
  have count := conforms.counts (role, .one) field
  rw [Arity.admits, beq_iff_eq] at count
  exact List.length_eq_one_iff.mp count

/-- A node has the children of its kind if each of its roles is taken by one child. -/
theorem conforms_of_single {tag : α} {label : Label} {children : Forest α}
    (fields : label.fields = children.map fun child => (child.1, Arity.one))
    (families : ∀ child ∈ children, child.2.label.family = label.childFamily child.1) :
    (node tag label children).Conforms := by
  have roles : label.fields.map Prod.fst = children.map Prod.fst := by
    rw [fields, List.map_map]
    rfl
  have distinct : (children.map Prod.fst).Nodup := roles ▸ label.nodup_fields
  have alone : ∀ child ∈ children, (inRole child.1 children).length = 1 := by
    intro child member
    obtain ⟨before, after, rfl⟩ := List.append_of_mem member
    rw [List.map_append, List.map_cons, List.nodup_append', List.nodup_cons] at distinct
    obtain ⟨-, ⟨later, -⟩, sooner⟩ := distinct
    have none : ∀ forest : Forest α, child.1 ∉ forest.map Prod.fst → inRole child.1 forest = [] :=
      fun forest absent => List.eq_nil_iff_forall_not_mem.mpr fun tree inside =>
        absent (List.mem_map.mpr ⟨(child.1, tree), mem_inRole.mp inside, rfl⟩)
    rw [inRole_append, inRole_cons_same, none after later,
      none before fun inside => sooner inside List.mem_cons_self]
    rfl
  refine ⟨fun field member => ?_, fun child member => ?_, families⟩
  · rw [Tree.label, fields] at member
    obtain ⟨child, inside, rfl⟩ := List.mem_map.mp member
    exact beq_iff_eq.mpr (alone child inside)
  · rw [Tree.label, roles]
    exact List.mem_map_of_mem member

/-- **Whether a node has the children of its kind** depends on their roles and classes. -/
theorem Conforms.congr {one : Tree α} {two : Tree β} (conforms : one.Conforms)
    (label : two.label = one.label)
    (children : List.Forall₂ (fun child child' => child.1 = child'.1 ∧
      child.2.label.family = child'.2.label.family) one.children two.children) : two.Conforms := by
  refine ⟨fun field member => ?_, fun child' member => ?_, fun child' member => ?_⟩
  · have related : List.Forall₂ (fun child child' => child.label.family = child'.label.family)
        (one.having field.1) (two.having field.1) := by
      refine forall₂_inRole ?_ field.1
      exact children
    rw [← related.length_eq]
    exact conforms.counts field (label ▸ member)
  · obtain ⟨child, inside, role, -⟩ := exists_of_forall₂ children member
    rw [label, ← role]
    exact conforms.roles child inside
  · obtain ⟨child, inside, role, family⟩ := exists_of_forall₂ children member
    rw [label, ← role, ← family]
    exact conforms.families child inside

end Nodes

section Tags

theorem conforms_map (change : α → β) (node : Tree α) :
    (node.map change).Conforms ↔ node.Conforms := by
  have family : ∀ child : Role × Tree α,
      (child.2.map change).label.family = child.2.label.family :=
    fun child => congrArg Label.family (label_map change child.2)
  constructor
  · refine fun conforms => conforms.congr (label_map change node).symm ?_
    rw [children_map, List.forall₂_map_left_iff]
    exact List.forall₂_same.mpr fun child _ => ⟨rfl, family child⟩
  · refine fun conforms => conforms.congr (label_map change node) ?_
    rw [children_map, List.forall₂_map_right_iff]
    exact List.forall₂_same.mpr fun child _ => ⟨rfl, (family child).symm⟩

/-- **A tree conforms whatever its tags are.** -/
theorem conforming_map (change : α → β) (tree : Tree α) :
    (tree.map change).Conforming ↔ tree.Conforming := by
  unfold Conforming
  rw [preorder_map]
  simp only [List.forall_mem_map, conforms_map]

/-- Trees of one shape conform together. -/
theorem conforming_of_shape_eq {first : Tree α} {second : Tree β}
    (same : first.shape = second.shape) : first.Conforming ↔ second.Conforming := by
  rw [← conforming_map (fun _ => ()) first, ← conforming_map (fun _ => ()) second]
  exact iff_of_eq (congrArg Conforming same)

end Tags

section Contexts

/-- A frame keeps to its kind whatever fills its hole, if that is of the same class. -/
theorem Frame.conforms_fill (frame : Frame α) {first second : Tree α}
    (family : first.label.family = second.label.family)
    (conforms : (frame.fill first).Conforms) : (frame.fill second).Conforms := by
  have same : ∀ forest : Forest α, List.Forall₂ (fun child child' => child.1 = child'.1 ∧
      child.2.label.family = child'.2.label.family) forest forest := fun forest =>
    List.forall₂_same.mpr fun _ _ => ⟨rfl, rfl⟩
  exact conforms.congr rfl
    (List.rel_append (same frame.before) (.cons ⟨rfl, family⟩ (same frame.after)))

/-- **A filled context conforms** if what fills it does and is of the class of what was there. -/
theorem conforming_fill (context : Context α) {first second : Tree α}
    (family : first.label.family = second.label.family)
    (conforming : (Context.fill context first).Conforming) (inside : second.Conforming) :
    (Context.fill context second).Conforming := by
  induction context generalizing first second with
  | nil => exact inside
  | cons frame outer ih =>
    have filled : (frame.fill first).label.family = (frame.fill second).label.family := rfl
    refine ih filled conforming ?_
    have old := conforming.of_mem (mem_preorder_fill outer (frame.fill first))
    obtain ⟨here, beneath⟩ := conforming_node.mp old
    refine conforming_node.mpr ⟨frame.conforms_fill family here, fun child member => ?_⟩
    rcases List.mem_append.mp member with sibling | sibling
    · exact beneath child (List.mem_append_left _ sibling)
    · rcases List.mem_cons.mp sibling with rfl | sibling
      · exact inside
      · exact beneath child (List.mem_append_right _ (List.mem_cons_of_mem _ sibling))

end Contexts

end Tree

section Programs

/-- The tree of a program: a module whose nodes have the children of their kind. -/
structure Tree.IsProgram {α : Type} (tree : Tree α) : Prop where
  root : tree.label = .module
  conforming : tree.Conforming

instance {α : Type} (tree : Tree α) : Decidable tree.IsProgram :=
  decidable_of_iff (tree.label = .module ∧ tree.Conforming)
    ⟨fun both => ⟨both.1, both.2⟩, fun program => ⟨program.root, program.conforming⟩⟩

end Programs

end IfChains
