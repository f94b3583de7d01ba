/-
**How long climbing and recording take.**

Climbing from a node goes on from parent to parent, and recording goes on from child to child. Here
both are loops that may take so many turns, and have no result if these are not enough.

* `Grounded.height_lt`: a parent has fewer nodes above it, so that climbing ends;
* `Grounded.reachesWithin?_eq`: more turns than there are nodes above a node are enough to climb
  from it, and then their number does not matter;
* `Reads.indexWithin?_eq`: so many turns as a tree has nodes are enough to record its parents.
-/

import IfChains.Proofs.Chain.Expanded
import IfChains.Proofs.LiveTree.Ancestry
import Mathlib.Data.Set.Card

namespace IfChains

open IfChains.Tree

namespace LiveTree

variable {live : LiveTree} {id parent ancestor : NodeId}

section Loops

/-- Whether a climb from a node comes to another one, if it takes at most some turns to tell. -/
def reachesWithin? (live : LiveTree) (ancestor : NodeId) : (turns : Nat) → NodeId → Option Bool
  | 0, _ => none
  | turns + 1, id =>
    if id = ancestor then some true
    else match live.parent? id with
      | some parent => reachesWithin? live ancestor turns parent
      | none => some false

/-- Records the parents of all nodes beneath those on a stack, if that takes at most some turns.
Each turn takes a node from the stack and puts its children there, the last one on top. -/
def indexWithin? : (turns : Nat) → LiveTree → (stack : List NodeId) → Option LiveTree
  | _, live, [] => some live
  | 0, _, _ :: _ => none
  | turns + 1, live, id :: stack =>
    let children := (live.slots id).map (·.2)
    indexWithin? turns (children.foldl (adopt id) live) (children.reverse ++ stack)

end Loops

section Climbing

/-- The nodes with a parent that one comes to climbing from a node. -/
def above (live : LiveTree) (id : NodeId) : Set NodeId :=
  {above | live.Climbs id above ∧ live.parent? above ≠ none}

/-- The number of steps that it takes to climb from a node to one without a parent. -/
noncomputable def height (live : LiveTree) (id : NodeId) : Nat :=
  (live.above id).ncard

theorem above_subset : live.above id ⊆ Finset.range live.size := by
  rintro above ⟨-, risen⟩
  obtain ⟨next, rises⟩ := Option.ne_none_iff_exists'.mp risen
  simpa using Rises.lt_size rises

theorem finite_above : (live.above id).Finite :=
  (Finset.finite_toSet _).subset above_subset

/-- A climb takes no more steps than there are nodes. -/
theorem height_le : live.height id ≤ live.size := by
  have within : live.above id ⊆ Finset.range live.size := above_subset
  have fewer := Set.ncard_le_ncard within (Finset.finite_toSet _)
  rwa [Set.ncard_coe_finset, Finset.card_range] at fewer

/-- Where there is a node without a parent, it takes fewer steps. -/
theorem height_lt_size {root : NodeId} (known : root < live.size)
    (rootless : live.parent? root = none) : live.height id < live.size := by
  have within : live.above id ⊂ Finset.range live.size := by
    refine ⟨above_subset, fun all => ?_⟩
    exact (all (by simpa using known)).2 rootless
  have fewer := Set.ncard_lt_ncard within (Finset.finite_toSet _)
  rwa [Set.ncard_coe_finset, Finset.card_range] at fewer

/-- **A parent is higher up**: there are fewer steps left. -/
theorem Grounded.height_lt (grounded : live.Grounded) (rises : live.Rises id parent) :
    live.height parent < live.height id := by
  refine Set.ncard_lt_ncard ⟨?_, fun back => ?_⟩ finite_above
  · rintro above ⟨climbs, risen⟩
    exact ⟨climbs.head rises, risen⟩
  · have self : id ∈ live.above id :=
      ⟨.refl, by simp [show live.parent? id = some parent from rises]⟩
    exact grounded.not_climbs rises (back self).1

/-- **Climbing takes a limited number of turns**, and with more of them it comes to the same. -/
theorem Grounded.reachesWithin?_eq (grounded : live.Grounded) {turns steps : Nat}
    (enough : live.height id < turns) (enough' : live.height id < steps) :
    live.reachesWithin? ancestor turns id = some (live.reaches ancestor steps id) := by
  induction turns generalizing id steps with
  | zero => omega
  | succ turns ih =>
    obtain ⟨steps, rfl⟩ : ∃ rest, steps = rest + 1 := ⟨steps - 1, by omega⟩
    rw [reachesWithin?, reaches]
    by_cases same : id = ancestor
    · simp [same]
    · rw [if_neg same, beq_false_of_ne same, Bool.false_or]
      cases rises : live.parent? id with
      | none => rfl
      | some parent =>
        have higher := grounded.height_lt rises
        exact ih (by omega) (by omega)

end Climbing

section Recording

variable {tree : NumberedTree} {turns depth : Nat} {stack : List NodeId}

/-- What is read does not depend on the parents that are recorded. -/
theorem Reads.indexed (reads : live.Reads tree) (depth : Nat) (above : NodeId) :
    (live.index depth above).Reads tree :=
  reads.congr fun id _ => content?_index depth live above id

/-- Recording the parents beneath several nodes, if it is known how long each of them takes. -/
theorem indexWithin?_append {trees : List NumberedTree}
    (each : ∀ tree ∈ trees, ∀ (live : LiveTree) (turns : Nat) (stack : List NodeId),
      live.Reads tree → indexWithin? (tree.size + turns) live (tree.tag :: stack) =
        indexWithin? turns (live.index depth tree.tag) stack)
    (reads : ∀ tree ∈ trees, live.Reads tree) :
    indexWithin? ((trees.map Tree.size).sum + turns) live (trees.map Tree.tag ++ stack) =
      indexWithin? turns ((trees.map Tree.tag).foldl (index depth) live) stack := by
  induction trees generalizing live with
  | nil => simp
  | cons first rest ih =>
    obtain ⟨readsFirst, readsRest⟩ := List.forall_mem_cons.mp reads
    obtain ⟨one, others⟩ := List.forall_mem_cons.mp each
    rw [List.map_cons, List.sum_cons, Nat.add_assoc, List.map_cons, List.cons_append,
      one live _ _ readsFirst, List.foldl_cons]
    exact ih others fun tree member => (readsRest tree member).indexed depth first.tag

/-- A tree has a root and the nodes of its children. -/
theorem size_node {α : Type} {tag : α} {label : Label} {children : Forest α} :
    (Tree.node tag label children).size = 1 + ((children.map Prod.snd).map Tree.size).sum := by
  rw [Tree.size]
  congr 1
  induction children with
  | nil => rfl
  | cons child rest ih =>
    obtain ⟨role, tree⟩ := child
    rw [sizeForest, ih]
    rfl

/-- A tree is taken from the stack in so many turns as it has nodes. -/
theorem Reads.indexWithin?_cons (reads : live.Reads tree) (deep : tree.size ≤ depth) :
    indexWithin? (tree.size + turns) live (tree.tag :: stack) =
      indexWithin? turns (live.index depth tree.tag) stack := by
  induction tree using Tree.induction generalizing live turns stack depth with
  | node tag label children ih =>
    rw [size_node] at deep ⊢
    obtain ⟨depth, rfl⟩ : ∃ rest, depth = rest + 1 := ⟨depth - 1, by omega⟩
    have slots : (live.slots tag).map (·.2) = (children.map Prod.snd).map Tree.tag := by
      have held : live.slots tag = slotsOf children := reads.slots
      simp [held, slotsOf]
    have sizes : ((children.map Prod.snd).reverse.map Tree.size).sum =
        ((children.map Prod.snd).map Tree.size).sum := by
      rw [List.map_reverse, List.sum_reverse]
    obtain ⟨-, beneath⟩ := reads_node.mp reads
    have member_iff : ∀ tree ∈ (children.map Prod.snd).reverse,
        ∃ child ∈ children, child.2 = tree :=
      fun tree member => List.mem_map.mp (List.mem_reverse.mp member)
    rw [Nat.add_assoc, Nat.add_comm 1, indexWithin?, LiveTree.index, Tree.tag, slots,
      ← List.map_reverse, ← sizes]
    refine indexWithin?_append (fun tree member live turns stack reads => ?_) fun tree member => ?_
    · obtain ⟨child, inside, rfl⟩ := member_iff tree member
      have smaller : child.2.size < (Tree.node tag label children).size := size_child_lt inside
      rw [size_node] at smaller
      exact ih child inside reads (by omega)
    · obtain ⟨child, inside, rfl⟩ := member_iff tree member
      exact (recorded_foldl_adopt tag _).1.reads (beneath child inside)

/-- **Recording parents takes so many turns as there are nodes beneath**, and with more of them it
comes to the same. -/
theorem Reads.indexWithin?_eq (reads : live.Reads tree) (distinct : tree.tags.Nodup)
    (enough : live.size ≤ turns) :
    indexWithin? turns live [tree.tag] = some (live.index live.size tree.tag) := by
  have fewer := reads.size_le distinct
  obtain ⟨rest, rfl⟩ := Nat.exists_eq_add_of_le (Nat.le_trans fewer enough)
  rw [reads.indexWithin?_cons fewer, indexWithin?]

end Recording

section Swapping

variable {old new : NodeId}

/-- The table in which a node has taken the slot of another one, but no parent is recorded beneath
it yet; none if that one is not attached to the tree. -/
def swapped? (live : LiveTree) (old new : NodeId) : Option LiveTree := do
  let parent ← live.parent? old
  let slots ← swapSlot old new (live.slots parent)
  return live.placed parent new slots (← live.find? old)

/-- What follows a swap is that the parents beneath the node are recorded. -/
theorem replace?_eq_swapped? : live.replace? old new =
    (live.swapped? old new).map fun table => table.index table.size new := by
  rw [replace?, swapped?]
  cases live.parent? old with
  | none => rfl
  | some parent =>
    simp only [Option.bind_eq_bind, Option.bind_some, Option.map_bind]
    cases swapSlot old new (live.slots parent) with
    | none => rfl
    | some slots => cases live.find? old <;> rfl

/-- **A table in which a node has taken a slot** reads as before beneath it, unless that is where
the slot is. -/
theorem Reads.swapped {tree : NumberedTree} {table : LiveTree} (reads : live.Reads tree)
    (apart : ∀ parent, live.parent? old = some parent → parent ∉ tree.tags)
    (swapped : live.swapped? old tree.tag = some table) :
    table.size = live.size ∧ table.Reads tree := by
  obtain ⟨parent, rises, rest⟩ := Option.bind_eq_some_iff.mp swapped
  obtain ⟨slots, held, rest⟩ := Option.bind_eq_some_iff.mp rest
  obtain ⟨entry, found, same⟩ := Option.bind_eq_some_iff.mp rest
  obtain rfl := Option.some.inj same
  refine ⟨size_placed, reads.congr fun id member => content?_placed_other ?_⟩
  rintro rfl
  exact apart id rises member

end Swapping

end LiveTree

end IfChains
