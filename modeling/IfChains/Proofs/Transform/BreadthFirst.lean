/-
**Breadth-first order.**

The address of a node are the numbers of the children that lead to it from the root. Of two nodes
the one at the shorter address comes first, and of two at one depth the one further to the left.
This is the order in which nodes leave a queue, if each of them puts its children at the end.

* `Tree.nodeAt?`, `Tree.Earlier`: the node at an address, and the order of addresses;
* `Tree.addressed`: the nodes in the order of the queue, with their addresses;
* `Tree.pairwise_addressed`: **they are in the order of their addresses**;
* `Tree.mem_addressed`: each node is there, at its address.
-/

import IfChains.Proofs.Transform.Discovery
import Mathlib.Data.List.Shortlex

namespace IfChains

namespace Tree

variable {α : Type}

section Addresses

/-- The node at an address. -/
def nodeAt? : (address : List Nat) → Tree α → Option (Tree α)
  | [], tree => some tree
  | index :: rest, tree => tree.children[index]?.bind fun child => nodeAt? rest child.2

/-- An address is shorter than another one, or it has the same length and is further to the left. -/
abbrev Earlier : List Nat → List Nat → Prop :=
  List.Shortlex (· < ·)

variable {first second third : List Nat} {index other : Nat} {tree node : Tree α}

/-- A child has the address of its parent with its number. -/
theorem nodeAt?_concat : nodeAt? (first ++ [index]) tree =
    (tree.nodeAt? first).bind fun node => node.children[index]?.map (·.2) := by
  induction first generalizing tree with
  | nil =>
    show (tree.children[index]?.bind fun child => some child.2) = tree.children[index]?.map (·.2)
    rw [Option.map_eq_bind]
    rfl
  | cons here rest ih =>
    rw [List.cons_append, nodeAt?, nodeAt?, Option.bind_assoc]
    simp only [ih]

/-- What is beneath an address is later than what is above it. -/
theorem earlier_concat (address : List Nat) (index : Nat) : Earlier address (address ++ [index]) :=
  .of_length_lt (by simp)

theorem Earlier.trans (before : Earlier first second) (after : Earlier second third) :
    Earlier first third := by
  rw [Earlier, List.shortlex_def] at *
  rcases before with shorter | ⟨same, left⟩ <;> rcases after with shorter' | ⟨same', left'⟩
  · exact Or.inl (Nat.lt_trans shorter shorter')
  · exact Or.inl (same' ▸ shorter)
  · exact Or.inl (same ▸ shorter')
  · exact Or.inr ⟨same.trans same', List.lt_trans left left'⟩

theorem Earlier.irrefl : ¬Earlier first first := by
  rw [Earlier, List.shortlex_def]
  rintro (shorter | ⟨-, left⟩)
  · exact Nat.lt_irrefl _ shorter
  · exact List.lt_irrefl first left

/-- What is beneath a later address is later. -/
theorem Earlier.of_prefix (before : Earlier first second) (beneath : second <+: third) :
    Earlier first third := by
  obtain ⟨rest, rfl⟩ := beneath
  cases rest with
  | nil => rwa [List.append_nil]
  | cons index rest => exact before.trans (.of_length_lt (by simp))

/-- Which of two lists of one length is further to the left does not depend on what follows. -/
theorem lex_append (left : List.Lex (· < ·) first second) (same : first.length = second.length)
    (rest other : List Nat) : List.Lex (· < ·) (first ++ rest) (second ++ other) := by
  induction left with
  | nil => exact nomatch same
  | rel less => exact .rel less
  | cons _ ih => exact .cons (ih (Nat.succ.inj same))

/-- Children are in the order of their parents. -/
theorem Earlier.concat (before : Earlier first second) :
    Earlier (first ++ [index]) (second ++ [other]) := by
  rw [Earlier, List.shortlex_def] at *
  rw [List.length_append, List.length_append]
  rcases before with shorter | ⟨same, left⟩
  · exact Or.inl (Nat.add_lt_add_right shorter 1)
  · exact Or.inr ⟨congrArg (· + 1) same, lex_append left same _ _⟩

/-- Children of one node are in the order of their numbers. -/
theorem earlier_siblings (address : List Nat) (less : index < other) :
    Earlier (address ++ [index]) (address ++ [other]) :=
  .of_lex (by simp) (List.Lex.append_left _ (List.Lex.rel less) _)

end Addresses

/-- A node with its address. -/
abbrev Addressed (α : Type) := List Nat × Tree α

section Queues

/-- The children of a node with their addresses. -/
def addressedChildren (place : Addressed α) : List (Addressed α) :=
  place.2.children.zipIdx.map fun child => (place.1 ++ [child.2], child.1.2)

/-- The nodes that leave a queue, with their addresses. -/
def queuedAddressed : (count : Nat) → List (Addressed α) → List (Addressed α)
  | 0, _ => []
  | _ + 1, [] => []
  | count + 1, place :: queue => place :: queuedAddressed count (queue ++ addressedChildren place)

/-- The nodes of a tree in breadth-first order, with their addresses. -/
def addressed (tree : Tree α) : List (Addressed α) :=
  queuedAddressed tree.size [([], tree)]

variable {tree node : Tree α} {queue : List (Addressed α)} {place child : Addressed α} {count : Nat}
  {address : List Nat}

theorem map_addressedChildren (place : Addressed α) :
    (addressedChildren place).map (·.2) = place.2.children.map (·.2) := by
  calc (addressedChildren place).map (·.2)
      = (place.2.children.zipIdx.map Prod.fst).map (·.2) := by
        rw [addressedChildren, List.map_map, List.map_map]
        rfl
    _ = place.2.children.map (·.2) := by rw [List.zipIdx_map_fst]

/-- The nodes leave the queue as they do without their addresses. -/
theorem map_queuedAddressed :
    (queuedAddressed count queue).map (·.2) = queued count (queue.map (·.2)) := by
  induction count generalizing queue with
  | zero => rfl
  | succ count ih =>
    cases queue with
    | nil => rfl
    | cons place rest =>
      rw [queuedAddressed, List.map_cons, ih, List.map_append, map_addressedChildren]
      rfl

theorem mem_addressedChildren : child ∈ addressedChildren place ↔
    ∃ index role, place.2.children[index]? = some (role, child.2) ∧
      child.1 = place.1 ++ [index] := by
  rw [addressedChildren, List.mem_map]
  constructor
  · rintro ⟨⟨⟨role, tree⟩, index⟩, among, rfl⟩
    exact ⟨index, role, List.mk_mem_zipIdx_iff_getElem?.mp among, rfl⟩
  · rintro ⟨index, role, found, same⟩
    exact ⟨((role, child.2), index), List.mk_mem_zipIdx_iff_getElem?.mpr found,
      Prod.ext same.symm rfl⟩

/-- Every place in a queue is ahead of the later ones and of all their children. -/
def Ahead (first second : Addressed α) : Prop :=
  Earlier first.1 second.1 ∧ ∀ index, Earlier second.1 (first.1 ++ [index])

/-- The children of a node are in order. -/
theorem pairwise_addressedChildren (place : Addressed α) :
    (addressedChildren place).Pairwise Ahead := by
  have numbers : place.2.children.zipIdx.Pairwise fun first second => first.2 < second.2 := by
    rw [← List.pairwise_map (f := Prod.snd), List.zipIdx_map_snd]
    exact List.pairwise_lt_range'
  rw [addressedChildren, List.pairwise_map]
  refine numbers.imp fun less => ⟨earlier_siblings _ less, fun index => ?_⟩
  exact .of_length_lt (by simp)

/-- **A queue stays in order** when a node leaves it and its children come last. -/
theorem pairwise_step (ordered : (place :: queue).Pairwise Ahead) :
    (queue ++ addressedChildren place).Pairwise Ahead := by
  obtain ⟨ahead, rest⟩ := List.pairwise_cons.mp ordered
  refine List.pairwise_append.mpr ⟨rest, pairwise_addressedChildren place, ?_⟩
  intro waiting member child among
  obtain ⟨index, role, -, same⟩ := mem_addressedChildren.mp among
  obtain ⟨earlier, below⟩ := ahead waiting member
  rw [Ahead, same]
  exact ⟨below index, fun other => earlier.concat⟩

/-- What leaves a queue is beneath one of its places. -/
theorem exists_prefix (member : child ∈ queuedAddressed count queue) :
    ∃ place ∈ queue, place.1 <+: child.1 := by
  induction count generalizing queue with
  | zero => exact absurd member List.not_mem_nil
  | succ count ih =>
    cases queue with
    | nil => exact absurd member List.not_mem_nil
    | cons first rest =>
      rcases List.mem_cons.mp member with rfl | later
      · exact ⟨child, List.mem_cons_self, List.prefix_rfl⟩
      · obtain ⟨place, inside, beneath⟩ := ih later
        rcases List.mem_append.mp inside with waiting | among
        · exact ⟨place, List.mem_cons_of_mem _ waiting, beneath⟩
        · obtain ⟨index, role, -, same⟩ := mem_addressedChildren.mp among
          refine ⟨first, List.mem_cons_self, List.IsPrefix.trans ?_ beneath⟩
          exact same ▸ List.prefix_append _ _

/-- What leaves a queue that is in order is in order. -/
theorem pairwise_queuedAddressed (ordered : queue.Pairwise Ahead) :
    (queuedAddressed count queue).Pairwise fun first second => Earlier first.1 second.1 := by
  induction count generalizing queue with
  | zero => exact List.Pairwise.nil
  | succ count ih =>
    cases queue with
    | nil => exact List.Pairwise.nil
    | cons first rest =>
      refine List.pairwise_cons.mpr ⟨fun later member => ?_, ih (pairwise_step ordered)⟩
      obtain ⟨place, inside, beneath⟩ := exists_prefix member
      refine Earlier.of_prefix ?_ beneath
      rcases List.mem_append.mp inside with waiting | among
      · exact ((List.pairwise_cons.mp ordered).1 place waiting).1
      · obtain ⟨index, role, -, same⟩ := mem_addressedChildren.mp among
        exact same ▸ earlier_concat first.1 index

/-- **The nodes of a tree are in the order of their addresses.** -/
theorem pairwise_addressed (tree : Tree α) :
    tree.addressed.Pairwise fun first second => Earlier first.1 second.1 :=
  pairwise_queuedAddressed (List.pairwise_singleton _ _)

/-- What leaves a queue of nodes of a tree is at its address in the tree. -/
theorem nodeAt?_of_queuedAddressed
    (inside : ∀ place ∈ queue, tree.nodeAt? place.1 = some place.2)
    (member : child ∈ queuedAddressed count queue) : tree.nodeAt? child.1 = some child.2 := by
  induction count generalizing queue with
  | zero => exact absurd member List.not_mem_nil
  | succ count ih =>
    cases queue with
    | nil => exact absurd member List.not_mem_nil
    | cons first rest =>
      obtain ⟨here, others⟩ := List.forall_mem_cons.mp inside
      rcases List.mem_cons.mp member with rfl | later
      · exact here
      · refine ih (fun place among => ?_) later
        rcases List.mem_append.mp among with waiting | child
        · exact others place waiting
        · obtain ⟨index, role, found, same⟩ := mem_addressedChildren.mp child
          rw [same, nodeAt?_concat, here, Option.bind_some, found]
          rfl

/-- Every node beneath the places of a queue leaves it, if enough may leave. -/
theorem mem_queuedAddressed (enough : (queue.map fun place => place.2.size).sum ≤ count)
    (inside : place ∈ queue) (found : place.2.nodeAt? address = some node) :
    (place.1 ++ address, node) ∈ queuedAddressed count queue := by
  induction count generalizing queue place address with
  | zero =>
    cases queue with
    | nil => exact absurd inside List.not_mem_nil
    | cons first rest =>
      rw [List.map_cons, List.sum_cons, size_eq first.2] at enough
      omega
  | succ count ih =>
    cases queue with
    | nil => exact absurd inside List.not_mem_nil
    | cons first rest =>
      have sizes : (addressedChildren first).map (fun place => place.2.size) =
          (first.2.children.map (·.2)).map size := by
        rw [← map_addressedChildren, List.map_map]
        rfl
      have enough' :
          ((rest ++ addressedChildren first).map fun place => place.2.size).sum ≤ count := by
        rw [List.map_cons, List.sum_cons, size_eq first.2] at enough
        rw [List.map_append, List.sum_append, sizes]
        omega
      rcases List.mem_cons.mp inside with rfl | waiting
      · cases address with
        | nil =>
          obtain rfl := Option.some.inj found
          rw [List.append_nil]
          exact List.mem_cons_self
        | cons index rest =>
          obtain ⟨⟨role, child⟩, among, below⟩ := Option.bind_eq_some_iff.mp found
          have child : (place.1 ++ [index], child) ∈ addressedChildren place :=
            mem_addressedChildren.mpr ⟨index, role, among, rfl⟩
          rw [List.append_cons place.1]
          exact List.mem_cons_of_mem _ (ih enough' (List.mem_append_right _ child) below)
      · exact List.mem_cons_of_mem _ (ih enough' (List.mem_append_left _ waiting) found)

/-- **Each node of a tree is there**, at its address. -/
theorem mem_addressed : (address, node) ∈ tree.addressed ↔ tree.nodeAt? address = some node := by
  constructor
  · exact nodeAt?_of_queuedAddressed (by simp [nodeAt?])
  · intro found
    have member : ([] ++ address, node) ∈ queuedAddressed tree.size [([], tree)] :=
      mem_queuedAddressed (by simp) (List.mem_singleton_self _) found
    rwa [List.nil_append] at member

/-- The nodes of a tree in breadth-first order are those of its places. -/
theorem map_addressed (tree : Tree α) : tree.addressed.map (·.2) = tree.breadthFirst :=
  map_queuedAddressed

end Queues

end Tree

end IfChains
