/-
**A node and what is around it.**

A `Frame` is a node with a hole in the place of one child; a `Context` lists the frames around a
node from the inside out, which is the order in which one meets them on the way up. A tree is a
context filled with a node in as many ways as it has nodes.

* `exists_fill`: every node has a context;
* `tags_fill`: the tags of a filled context are those of the context and those of what fills it;
* `contextOf?_fill`: the context of the first node with a tag, computed;
* `Alike.fill`: what fills a context matters to the nodes around it only by whether it is unpacked.
-/

import IfChains.Proofs.Syntax.Nodes
import Mathlib.Data.List.Forall2

namespace IfChains

namespace Tree

/-- A node with a hole in the place of one child. -/
structure Frame (α : Type) where
  tag : α
  label : Label
  before : Forest α
  role : Role
  after : Forest α

/-- The nodes around a place in a tree, from the inside out. -/
abbrev Context (α : Type) := List (Frame α)

variable {α β : Type}

namespace Frame

/-- The node with its hole filled. -/
def fill (frame : Frame α) (tree : Tree α) : Tree α :=
  .node frame.tag frame.label (frame.before ++ (frame.role, tree) :: frame.after)

/-- The other children that have a role. -/
def others (frame : Frame α) (role : Role) : List (Tree α) :=
  inRole role (frame.before ++ frame.after)

/-- The tags of a node and of its other children. -/
def tags (frame : Frame α) : List α :=
  frame.tag :: (tagsIn frame.before ++ tagsIn frame.after)

/-- The frame with every tag changed. -/
def map (change : α → β) (frame : Frame α) : Frame β :=
  ⟨change frame.tag, frame.label, mapForest change frame.before, frame.role,
    mapForest change frame.after⟩

/-- The tags of other children are among those of a frame. -/
theorem tags_others_sublist (frame : Frame α) (role : Role) :
    ((frame.others role).flatMap Tree.tags).Sublist frame.tags := by
  refine (tags_inRole_sublist role _).trans (List.Sublist.cons _ ?_)
  rw [tagsIn_append]

end Frame

namespace Context

/-- The tree that a context makes of a node. -/
def fill : Context α → Tree α → Tree α
  | [], tree => tree
  | frame :: outer, tree => fill outer (frame.fill tree)

/-- The tags of the nodes around a place and of their other children. -/
def tags (context : Context α) : List α :=
  context.flatMap Frame.tags

end Context

section Filling

@[simp]
theorem fill_nil (tree : Tree α) : Context.fill [] tree = tree := rfl

@[simp]
theorem fill_cons (frame : Frame α) (outer : Context α) (tree : Tree α) :
    Context.fill (frame :: outer) tree = Context.fill outer (frame.fill tree) := rfl

/-- A context within a context. -/
theorem fill_append (inner outer : Context α) (tree : Tree α) :
    Context.fill (inner ++ outer) tree = Context.fill outer (Context.fill inner tree) := by
  induction inner generalizing tree with
  | nil => rfl
  | cons frame inner ih => exact ih (frame.fill tree)

/-- What fills a context is told by the whole tree. -/
theorem fill_injective (context : Context α) : Function.Injective (Context.fill context) := by
  induction context with
  | nil => exact Function.injective_id
  | cons frame outer ih =>
    intro first second same
    obtain ⟨-, -, children⟩ := Tree.node.inj (ih same)
    obtain ⟨child, -⟩ := List.cons.inj (List.append_cancel_left children)
    exact (Prod.mk.inj child).2

/-- What fills a context is a node of the tree. -/
theorem mem_preorder_fill (context : Context α) (tree : Tree α) :
    tree ∈ (Context.fill context tree).preorder := by
  induction context generalizing tree with
  | nil => exact self_mem_preorder tree
  | cons frame outer ih =>
    have inside : (frame.role, tree) ∈ (frame.fill tree).children :=
      List.mem_append_right _ List.mem_cons_self
    exact mem_preorder_trans (child_mem_preorder inside) (ih (frame.fill tree))

/-- **Every node has a context.** -/
theorem exists_fill {inner outer : Tree α} (member : inner ∈ outer.preorder) :
    ∃ context : Context α, outer = Context.fill context inner := by
  induction outer with
  | node tag label children ih =>
    rcases mem_preorder_node.mp member with rfl | ⟨child, inside, beneath⟩
    · exact ⟨[], rfl⟩
    · obtain ⟨context, same⟩ := ih child inside beneath
      obtain ⟨before, after, rfl⟩ := List.append_of_mem inside
      refine ⟨context ++ [⟨tag, label, before, child.1, after⟩], ?_⟩
      rw [fill_append, ← same]
      rfl

/-- There are fewer nodes around a place than nodes in the tree. -/
theorem length_add_size_le (context : Context α) (tree : Tree α) :
    context.length + tree.size ≤ (Context.fill context tree).size := by
  induction context generalizing tree with
  | nil => simp
  | cons frame outer ih =>
    have inside : (frame.role, tree) ∈ (frame.fill tree).children :=
      List.mem_append_right _ List.mem_cons_self
    have larger : (frame.role, tree).2.size < (frame.fill tree).size := size_child_lt inside
    simp only at larger
    have := ih (frame.fill tree)
    simp only [List.length_cons, fill_cons]
    omega

/-- The label of a filled context depends on what fills it only where there is no frame. -/
theorem label_fill_congr (context : Context α) {first second : Tree α}
    (same : first.label = second.label) :
    (Context.fill context first).label = (Context.fill context second).label := by
  induction context generalizing first second with
  | nil => exact same
  | cons frame outer ih =>
    have filled : (frame.fill first).label = (frame.fill second).label := rfl
    exact ih filled

/-- The tag of a filled context depends on what fills it only where there is no frame. -/
theorem tag_fill_congr (context : Context α) {first second : Tree α}
    (same : first.tag = second.tag) :
    (Context.fill context first).tag = (Context.fill context second).tag := by
  induction context generalizing first second with
  | nil => exact same
  | cons frame outer ih =>
    have filled : (frame.fill first).tag = (frame.fill second).tag := rfl
    exact ih filled

/-- Whether a filled context is unpacked depends on what fills it only where there is no frame. -/
theorem isStarred_fill_congr (context : Context α) {first second : Tree α}
    (same : first.isStarred = second.isStarred) :
    (Context.fill context first).isStarred = (Context.fill context second).isStarred := by
  cases context with
  | nil => exact same
  | cons frame outer =>
    have labels : (frame.fill first).label = (frame.fill second).label := rfl
    rw [isStarred, isStarred, fill_cons, fill_cons, label_fill_congr outer labels]

/-- **The tags of a filled context** are those of the context and those of what fills it. -/
theorem tags_fill (context : Context α) (tree : Tree α) :
    (Context.fill context tree).tags.Perm (context.tags ++ tree.tags) := by
  induction context generalizing tree with
  | nil => exact List.Perm.refl _
  | cons frame outer ih =>
    have node : (frame.fill tree).tags.Perm (frame.tags ++ tree.tags) := by
      rw [Frame.fill, tags_node, tagsIn_append, tagsIn_cons, Frame.tags, List.cons_append]
      refine List.Perm.cons _ ?_
      rw [List.append_assoc]
      exact (List.perm_append_comm).append_left _
    have swapped : (Context.tags outer ++ (frame.tags ++ tree.tags)).Perm
        (Context.tags (frame :: outer) ++ tree.tags) := by
      rw [← List.append_assoc]
      exact List.perm_append_comm.append_right _
    exact ((ih (frame.fill tree)).trans (node.append_left _)).trans swapped

/-- A tag of a filled context is one of the context or one of what fills it. -/
theorem mem_tags_fill {context : Context α} {tree : Tree α} {tag : α} :
    tag ∈ (Context.fill context tree).tags ↔ tag ∈ Context.tags context ∨ tag ∈ tree.tags := by
  rw [(tags_fill context tree).mem_iff, List.mem_append]

/-- The tag of the root of a filled context with a frame is one of the context. -/
theorem tag_mem_tags_context {frame : Frame α} (outer : Context α) {tree : Tree α} :
    (Context.fill (frame :: outer) tree).tag ∈ Context.tags (frame :: outer) := by
  induction outer generalizing frame tree with
  | nil => exact List.mem_append_left _ List.mem_cons_self
  | cons next outer ih => exact List.mem_append_right _ (@ih next (frame.fill tree))

/-- The tags of a filled context differ if those of the context and those of what fills it do, and
none is in both. -/
theorem nodup_tags_fill {context : Context α} {tree : Tree α} :
    (Context.fill context tree).tags.Nodup ↔
      (Context.tags context).Nodup ∧ tree.tags.Nodup ∧
        (Context.tags context).Disjoint tree.tags := by
  rw [(tags_fill context tree).nodup_iff, List.nodup_append']

/-- The context with every tag changed. -/
def Context.map (change : α → β) (context : Context α) : Context β :=
  List.map (Frame.map change) context

/-- Changing the tags of a filled frame. -/
theorem Frame.map_fill (change : α → β) (frame : Frame α) (tree : Tree α) :
    (frame.fill tree).map change = (frame.map change).fill (tree.map change) := by
  simp [Frame.fill, Frame.map, Tree.map, mapForest_eq]

/-- Changing the tags of a filled context. -/
theorem map_fill (change : α → β) (context : Context α) (tree : Tree α) :
    (Context.fill context tree).map change =
      Context.fill (Context.map change context) (tree.map change) := by
  induction context generalizing tree with
  | nil => rfl
  | cons frame outer ih =>
    rw [fill_cons, ih (frame.fill tree), Frame.map_fill]
    rfl

end Filling

section Finding

mutual

/-- The nodes around the first node whose tag is looked for. -/
def contextOf? (wanted : α → Bool) : Tree α → Option (Context α)
  | .node tag label children =>
    if wanted tag then some [] else contextIn? wanted tag label [] children

/-- The nodes around the first node whose tag is looked for, beneath a node some of whose children
come before. -/
def contextIn? (wanted : α → Bool) (tag : α) (label : Label) (before : Forest α) :
    Forest α → Option (Context α)
  | [] => none
  | (role, tree) :: after =>
    match contextOf? wanted tree with
    | some context => some (context ++ [⟨tag, label, before, role, after⟩])
    | none => contextIn? wanted tag label (before ++ [(role, tree)]) after

end

variable {wanted : α → Bool}

/-- Where no tag is looked for, no node is found. -/
theorem contextIn?_eq_none {tag : α} {label : Label} {before forest : Forest α}
    (absent : ∀ child ∈ forest, contextOf? wanted child.2 = none) :
    contextIn? wanted tag label before forest = none := by
  induction forest generalizing before with
  | nil => rfl
  | cons child rest ih =>
    obtain ⟨role, tree⟩ := child
    rw [contextIn?, absent (role, tree) List.mem_cons_self]
    exact ih fun child member => absent child (List.mem_cons_of_mem _ member)

/-- A tree without the tags that are looked for has no such node. -/
theorem contextOf?_eq_none {tree : Tree α} (absent : ∀ tag ∈ tree.tags, wanted tag = false) :
    contextOf? wanted tree = none := by
  induction tree with
  | node tag label children ih =>
    rw [tags_node] at absent
    rw [contextOf?, absent tag List.mem_cons_self]
    refine contextIn?_eq_none fun child member => ih child member fun inner inside => ?_
    exact absent inner (List.mem_cons_of_mem _ (mem_tagsIn.mpr ⟨child, member, inside⟩))

/-- A node in the hole of a frame is found if nothing else in the frame is looked for. -/
theorem contextOf?_frame {frame : Frame α} (tree : Tree α)
    (absent : ∀ tag ∈ frame.tags, wanted tag = false) :
    contextOf? wanted (frame.fill tree) = (contextOf? wanted tree).map (· ++ [frame]) := by
  obtain ⟨tag, label, before, role, after⟩ := frame
  have absentIn : ∀ child ∈ before ++ after, contextOf? wanted child.2 = none := by
    intro child member
    refine contextOf?_eq_none fun inner inside => absent inner (List.mem_cons_of_mem _ ?_)
    rw [← tagsIn_append]
    exact mem_tagsIn.mpr ⟨child, member, inside⟩
  -- The children before the hole are passed over one by one.
  have passed : ∀ seen rest : Forest α, (∀ child ∈ rest, contextOf? wanted child.2 = none) →
      contextIn? wanted tag label seen (rest ++ (role, tree) :: after) =
        (contextOf? wanted tree).map (· ++ [⟨tag, label, seen ++ rest, role, after⟩]) := by
    intro seen rest none
    induction rest generalizing seen with
    | nil =>
      rw [List.nil_append, contextIn?, List.append_nil]
      cases contextOf? wanted tree with
      | some context => rfl
      | none =>
        exact contextIn?_eq_none fun child member => absentIn child (List.mem_append_right _ member)
    | cons child rest ih =>
      obtain ⟨other, sibling⟩ := child
      rw [List.cons_append, contextIn?, none (other, sibling) List.mem_cons_self]
      simp only
      rw [ih _ fun child member => none child (List.mem_cons_of_mem _ member)]
      simp
  rw [Frame.fill, contextOf?, absent tag List.mem_cons_self]
  have found := passed [] before fun child member => absentIn child (List.mem_append_left _ member)
  simpa using found

/-- **A node in a context is found in that context** if nothing in the context is looked for. -/
theorem contextOf?_fill {context : Context α} (tree : Tree α)
    (absent : ∀ tag ∈ Context.tags context, wanted tag = false) :
    contextOf? wanted (Context.fill context tree) =
      (contextOf? wanted tree).map (· ++ context) := by
  induction context generalizing tree with
  | nil => simp
  | cons frame outer ih =>
    have inFrame : ∀ tag ∈ frame.tags, wanted tag = false := fun tag member =>
      absent tag (List.mem_append_left _ member)
    rw [fill_cons,
      ih (frame.fill tree) fun tag member => absent tag (List.mem_append_right _ member),
      contextOf?_frame tree inFrame, Option.map_map]
    congr 1
    funext context
    simp

/-- A node whose tag is looked for stands in its context. -/
theorem contextOf?_fill_self {context : Context α} {tree : Tree α}
    (absent : ∀ tag ∈ Context.tags context, wanted tag = false) (here : wanted tree.tag = true) :
    contextOf? wanted (Context.fill context tree) = some context := by
  obtain ⟨tag, label, children⟩ := tree
  have root : contextOf? wanted (node tag label children) = some [] := by
    rw [contextOf?]
    exact if_pos here
  rw [contextOf?_fill _ absent, root, Option.map_some, List.nil_append]

end Finding

section Likeness

/-- What is related to two lists one by one is made of what is related to each. -/
theorem exists_append_of_forall₂ {γ δ : Type} {related : γ → δ → Prop} {first second : List γ}
    {whole : List δ} (each : List.Forall₂ related (first ++ second) whole) :
    ∃ one two, List.Forall₂ related first one ∧ List.Forall₂ related second two ∧
      whole = one ++ two := by
  induction first generalizing whole with
  | nil => exact ⟨[], whole, .nil, each, rfl⟩
  | cons item rest ih =>
    obtain ⟨item', whole', same, others, rfl⟩ := List.forall₂_cons_left_iff.mp each
    obtain ⟨one, two, relatedOne, relatedTwo, rfl⟩ := ih others
    exact ⟨item' :: one, two, .cons same relatedOne, relatedTwo, rfl⟩

/-- What is in the second of two lists that are related one by one is related to something in the
first. -/
theorem exists_of_forall₂ {γ δ : Type} {related : γ → δ → Prop} {first : List γ} {second : List δ}
    (each : List.Forall₂ related first second) {item' : δ} (member : item' ∈ second) :
    ∃ item ∈ first, related item item' := by
  obtain ⟨before, after, rfl⟩ := List.append_of_mem member
  obtain ⟨one, two, -, relatedTwo, rfl⟩ := exists_append_of_forall₂ each.flip
  obtain ⟨item, rest, same, -, rfl⟩ := List.forall₂_cons_left_iff.mp relatedTwo
  exact ⟨item, List.mem_append_right _ List.mem_cons_self, same⟩

/-- Children that are related and take the same roles are related in each role. -/
theorem forall₂_inRole {related : Tree α → Tree β → Prop} {first : Forest α} {second : Forest β}
    (each : List.Forall₂ (fun one two => one.1 = two.1 ∧ related one.2 two.2) first second)
    (role : Role) : List.Forall₂ related (inRole role first) (inRole role second) := by
  induction each with
  | nil => exact .nil
  | @cons one two rest rest' same _ ih =>
    obtain ⟨other, tree⟩ := one
    obtain ⟨other', tree'⟩ := two
    obtain ⟨rfl, here⟩ : other = other' ∧ related tree tree' := same
    by_cases wanted : other = role
    · subst wanted
      rw [inRole_cons_same, inRole_cons_same]
      exact .cons here ih
    · rwa [inRole_cons_other _ _ wanted, inRole_cons_other _ _ wanted]

/-- Two lists of children with the same roles, and unpacked in the same places. -/
def SameRoles (first second : Forest α) : Prop :=
  List.Forall₂ (fun one two => one.1 = two.1 ∧ one.2.isStarred = two.2.isStarred) first second

theorem SameRoles.refl (forest : Forest α) : SameRoles forest forest :=
  List.forall₂_same.mpr fun _ _ => ⟨rfl, rfl⟩

theorem SameRoles.append {first second first' second' : Forest α} (one : SameRoles first second)
    (two : SameRoles first' second') : SameRoles (first ++ first') (second ++ second') :=
  List.rel_append one two

/-- The children that have a role are unpacked in the same places. -/
theorem SameRoles.inRole {first second : Forest α} (same : SameRoles first second) (role : Role) :
    List.Forall₂ (fun one two => one.isStarred = two.isStarred)
      (inRole role first) (inRole role second) := by
  refine forall₂_inRole ?_ role
  exact same

/-- Frames that differ only in the tags and the insides of the other children. -/
structure Frame.Alike (first second : Frame α) : Prop where
  label : first.label = second.label
  role : first.role = second.role
  before : SameRoles first.before second.before
  after : SameRoles first.after second.after

theorem Frame.Alike.refl (frame : Frame α) : Frame.Alike frame frame :=
  ⟨rfl, rfl, .refl _, .refl _⟩

/-- The other children that have a role are unpacked in the same places. -/
theorem Frame.Alike.others {first second : Frame α} (alike : Frame.Alike first second)
    (role : Role) : List.Forall₂ (fun one two => one.isStarred = two.isStarred)
      (first.others role) (second.others role) :=
  (alike.before.append alike.after).inRole role

/-- Trees in which the node that is looked for stands in contexts that are alike. -/
structure Alike (wanted : α → Bool) (first second : Tree α) : Prop where
  starred : first.isStarred = second.isStarred
  context : Option.Rel (List.Forall₂ Frame.Alike) (contextOf? wanted first)
    (contextOf? wanted second)

variable {wanted : α → Bool}

theorem Alike.refl (tree : Tree α) : Alike wanted tree tree := by
  refine ⟨rfl, ?_⟩
  cases contextOf? wanted tree with
  | none => exact .none
  | some context => exact .some (List.forall₂_same.mpr fun frame _ => .refl frame)

/-- Trees without the node that is looked for are alike if both or none are unpacked. -/
theorem Alike.of_absent {first second : Tree α} (starred : first.isStarred = second.isStarred)
    (one : ∀ tag ∈ first.tags, wanted tag = false) (two : ∀ tag ∈ second.tags, wanted tag = false) :
    Alike wanted first second := by
  refine ⟨starred, ?_⟩
  rw [contextOf?_eq_none one, contextOf?_eq_none two]
  exact .none

/-- Children that are alike one by one give contexts that are alike. -/
theorem contextIn?_alike {tag : α} {label : Label} {first second : Forest α}
    (children : List.Forall₂ (fun one two => one.1 = two.1 ∧ Alike wanted one.2 two.2) first second)
    {seen seen' : Forest α} (before : SameRoles seen seen') :
    Option.Rel (List.Forall₂ Frame.Alike) (contextIn? wanted tag label seen first)
      (contextIn? wanted tag label seen' second) := by
  induction children generalizing seen seen' with
  | nil => exact .none
  | @cons one two rest rest' same others ih =>
    obtain ⟨role, tree⟩ := one
    obtain ⟨role', tree'⟩ := two
    obtain ⟨rfl, starred, inside⟩ : role = role' ∧ Alike wanted tree tree' := same
    have after : SameRoles rest rest' := others.imp fun _ _ pair => ⟨pair.1, pair.2.starred⟩
    rw [contextIn?, contextIn?]
    cases found : contextOf? wanted tree <;> cases found' : contextOf? wanted tree' <;>
      rw [found, found'] at inside
    · exact ih (before.append (.cons ⟨rfl, starred⟩ .nil))
    · exact nomatch inside
    · exact nomatch inside
    · cases inside with
      | some frames =>
        exact .some (List.rel_append frames (.cons ⟨rfl, rfl, before, after⟩ .nil))

/-- **A frame around trees that are alike** gives trees that are alike. -/
theorem Alike.fill (frame : Frame α) {first second : Tree α} (alike : Alike wanted first second) :
    Alike wanted (frame.fill first) (frame.fill second) := by
  have siblings : ∀ forest : Forest α,
      List.Forall₂ (fun one two => one.1 = two.1 ∧ Alike wanted one.2 two.2) forest forest :=
    fun forest => List.forall₂_same.mpr fun child _ => ⟨rfl, .refl child.2⟩
  refine ⟨rfl, ?_⟩
  rw [Frame.fill, Frame.fill, contextOf?, contextOf?]
  split
  · exact .some .nil
  · refine contextIn?_alike (List.rel_append (siblings _) ?_) .nil
    exact .cons (a := (frame.role, first)) (b := (frame.role, second)) ⟨rfl, alike⟩ (siblings _)

/-- A context around trees that are alike gives trees that are alike. -/
theorem Alike.fillContext (context : Context α) {first second : Tree α}
    (alike : Alike wanted first second) :
    Alike wanted (Context.fill context first) (Context.fill context second) := by
  induction context generalizing first second with
  | nil => exact alike
  | cons frame outer ih => exact ih (alike.fill frame)

end Likeness

end Tree

end IfChains
