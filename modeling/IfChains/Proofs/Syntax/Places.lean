/-
**The places of a tree.**

A place is a node together with what is around it. Nodes that are alike may stand in several places
of a tree; the list of its places has each of them once.

* `mem_places`: a place of a tree is a context and what fills it;
* `nodup_places`: no place is listed twice.
-/

import IfChains.Proofs.Syntax.Context

namespace IfChains

namespace Tree

variable {α : Type}

mutual

/-- The places of a tree that itself stands in a context: a node before its children, and children
in order. -/
def places (context : Context α) : Tree α → List (Context α × Tree α)
  | .node tag label children =>
    (context, .node tag label children) :: placesIn context tag label [] children

/-- The places beneath the children of a node from one of them on; the others come before. -/
def placesIn (context : Context α) (tag : α) (label : Label) (before : Forest α) :
    Forest α → List (Context α × Tree α)
  | [] => []
  | (role, tree) :: rest =>
    places (⟨tag, label, before, role, rest⟩ :: context) tree ++
      placesIn context tag label (before ++ [(role, tree)]) rest

end

variable {context : Context α} {tag : α} {label : Label} {place : Context α × Tree α}

/-- A place beneath some children is one beneath a child with the others around it. -/
theorem mem_placesIn {before forest : Forest α} :
    place ∈ placesIn context tag label before forest ↔
      ∃ sooner role tree later, forest = sooner ++ (role, tree) :: later ∧
        place ∈ places (⟨tag, label, before ++ sooner, role, later⟩ :: context) tree := by
  induction forest generalizing before with
  | nil => simp [placesIn]
  | cons child rest ih =>
    obtain ⟨role, tree⟩ := child
    rw [placesIn, List.mem_append, ih]
    constructor
    · rintro (here | ⟨sooner, other, inner, later, rfl, inside⟩)
      · exact ⟨[], role, tree, rest, rfl, (List.append_nil before).symm ▸ here⟩
      · refine ⟨(role, tree) :: sooner, other, inner, later, rfl, ?_⟩
        rwa [List.append_assoc, List.singleton_append] at inside
    · rintro ⟨_ | ⟨first, sooner⟩, other, inner, later, same, inside⟩
      · obtain ⟨⟨rfl, rfl⟩, rfl⟩ : (role = other ∧ tree = inner) ∧ rest = later := by
          simpa using same
        exact Or.inl (List.append_nil before ▸ inside)
      · obtain ⟨rfl, rfl⟩ : (role, tree) = first ∧ rest = sooner ++ (other, inner) :: later := by
          simpa using same
        refine Or.inr ⟨sooner, other, inner, later, rfl, ?_⟩
        rwa [List.append_assoc, List.singleton_append]

/-- A place beneath a node is the node itself or beneath one of its children. -/
theorem mem_places_node {children : Forest α} :
    place ∈ places context (.node tag label children) ↔
      place = (context, .node tag label children) ∨
        ∃ before role tree after, children = before ++ (role, tree) :: after ∧
          place ∈ places (⟨tag, label, before, role, after⟩ :: context) tree := by
  rw [places, List.mem_cons, mem_placesIn]
  rfl

/-- **The places of a tree** are what fills a context in it. -/
theorem mem_places {tree inner : Tree α} {around : Context α} :
    (around, inner) ∈ places context tree ↔
      ∃ deeper : Context α, around = deeper ++ context ∧ tree = Context.fill deeper inner := by
  induction tree generalizing context with
  | node tag label children ih =>
    rw [mem_places_node]
    constructor
    · rintro (same | ⟨before, role, tree, after, rfl, inside⟩)
      · obtain ⟨rfl, rfl⟩ := Prod.mk.inj same
        exact ⟨[], rfl, rfl⟩
      · have member : (role, tree) ∈ before ++ (role, tree) :: after :=
          List.mem_append_right _ List.mem_cons_self
        obtain ⟨deeper, rfl, rfl⟩ := (ih _ member).mp inside
        refine ⟨deeper ++ [⟨tag, label, before, role, after⟩], by simp, ?_⟩
        rw [fill_append]
        rfl
    · rintro ⟨deeper, rfl, same⟩
      rcases List.eq_nil_or_concat' deeper with rfl | ⟨deeper, frame, rfl⟩
      · exact Or.inl (Prod.ext rfl same.symm)
      · obtain ⟨tag', label', before, role, after⟩ := frame
        rw [fill_append, fill_cons, fill_nil, Frame.fill, Tree.node.injEq] at same
        obtain ⟨rfl, rfl, rfl⟩ := same
        have member : (role, Context.fill deeper inner) ∈
            before ++ (role, Context.fill deeper inner) :: after :=
          List.mem_append_right _ List.mem_cons_self
        exact Or.inr ⟨before, role, _, after, rfl,
          (ih _ member).mpr ⟨deeper, by simp, rfl⟩⟩

/-- A place beneath some children is in a frame with at least the children before in it. -/
theorem exists_frame_of_mem {before forest : Forest α}
    (member : place ∈ placesIn context tag label before forest) :
    ∃ deeper frame, place.1 = deeper ++ frame :: context ∧
      before.length ≤ frame.before.length := by
  obtain ⟨sooner, role, tree, later, rfl, inside⟩ := mem_placesIn.mp member
  obtain ⟨deeper, same, -⟩ := mem_places.mp inside
  exact ⟨deeper, _, same, by simp⟩

mutual

/-- **No place is listed twice.** -/
theorem nodup_places : (tree : Tree α) → (context : Context α) → (places context tree).Nodup
  | .node tag label children, context => by
    rw [places, List.nodup_cons]
    refine ⟨fun member => ?_, nodup_placesIn children context tag label []⟩
    obtain ⟨deeper, frame, same, -⟩ := exists_frame_of_mem member
    have longer := congrArg List.length same
    simp only [List.length_append, List.length_cons] at longer
    omega

/-- No place beneath some children is listed twice. -/
theorem nodup_placesIn : (forest : Forest α) → (context : Context α) → (tag : α) →
    (label : Label) → (before : Forest α) → (placesIn context tag label before forest).Nodup
  | [], _, _, _, _ => List.nodup_nil
  | (role, tree) :: rest, context, tag, label, before => by
    rw [placesIn, List.nodup_append']
    refine ⟨nodup_places tree _, nodup_placesIn rest context tag label _, ?_⟩
    -- The frames differ in how many children come before.
    intro place here later
    obtain ⟨deeper, same, -⟩ := mem_places.mp here
    obtain ⟨deeper', frame, same', more⟩ := exists_frame_of_mem later
    have frames := (List.append_inj' (same.symm.trans same') rfl).2
    rw [List.cons.injEq] at frames
    have equal : before.length = frame.before.length :=
      congrArg (fun frame => frame.before.length) frames.1
    rw [List.length_append, List.length_singleton] at more
    omega

end

end Tree

end IfChains
