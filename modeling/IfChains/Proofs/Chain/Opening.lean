/-
**Trees whose marked names open chains.**

Whether a name opens a chain is seen by climbing from it. A tree in which every marked name does so
can be judged piece by piece: a node is judged by its children, each of which knows what is around
it; what is an argument of a call is judged by itself, for a climb that comes to it ends there; and
a node may be replaced by another one that is judged well in its place.

* `Opens`: every marked name of a tree opens a chain, given what is around the tree;
* `opens_node`, `opens_argument_iff`: a node is judged by its children, and an argument by itself;
* `Opens.replace`: a node of a tree may be replaced;
* `opensChain_iff`: a list of numbers, and the tree with the numbers of the list marked.
-/

import IfChains.Proofs.Chain.Expand

namespace IfChains

open IfChains.Tree

section Tags

variable {α β : Type} {change : α → β}

theorem isSingle_map (arguments : List (Tree α)) :
    isSingle (arguments.map (Tree.map change)) = isSingle arguments := by
  match arguments with
  | [] => rfl
  | [argument] => exact congrArg not (isStarred_map change argument)
  | _ :: _ :: _ => rfl

theorem admits_map (continuation : Continuation) (arguments : List (Tree α)) :
    continuation.admits (arguments.map (Tree.map change)) = continuation.admits arguments := by
  rw [Continuation.admits, Continuation.admits, List.isEmpty_map, isSingle_map]

namespace Tree

theorem Frame.others_map (frame : Frame α) (role : Role) :
    (frame.map change).others role = (frame.others role).map (Tree.map change) := by
  rw [Frame.others, Frame.others, inRole_append, inRole_append, List.map_append, Frame.map,
    inRole_mapForest, inRole_mapForest]

theorem Frame.isPlainCall_map (frame : Frame α) :
    (frame.map change).isPlainCall = frame.isPlainCall := by
  rw [isPlainCall, isPlainCall, others_map, List.isEmpty_map]
  rfl

namespace Context

/-- Changing tags does not change where a chain ends. -/
theorem endsChain_map (context : Context α) :
    (context.map change).endsChain = context.endsChain := by
  induction context using List.twoStepInduction with
  | nil => rfl
  | singleton member => rfl
  | cons_cons member call outer ih _ =>
    have member_eq : (member.map change).label = member.label := rfl
    rw [map, List.map_cons, List.map_cons, endsChain, endsChain, member_eq,
      Frame.isPlainCall_map, Frame.others_map, show List.map (Frame.map change) outer =
        Context.map change outer from rfl, ih]
    simp only [admits_map]

/-- Changing tags does not change whether a name opens a chain. -/
theorem opensChain_map (context : Context α) :
    (context.map change).opensChain = context.opensChain := by
  cases context with
  | nil => rfl
  | cons call outer =>
    rw [map, List.map_cons, opensChain, opensChain, Frame.isPlainCall_map, Frame.others_map,
      isSingle_map, show List.map (Frame.map change) outer = Context.map change outer from rfl,
      endsChain_map]

/-- A chain does not go on beyond an argument of a call. -/
theorem endsChain_argument {argument : Frame α} (call : argument.label = .call)
    (role : argument.role = .args) (above outer : Context α) :
    (above ++ argument :: outer).endsChain = above.endsChain := by
  have plain : argument.isPlainCall = false := by
    rw [Frame.isPlainCall, role]
    simp
  induction above using List.twoStepInduction with
  | nil =>
    cases outer with
    | nil => rfl
    | cons next outer =>
      rw [List.nil_append, endsChain, call]
      rfl
  | singleton member =>
    rw [List.cons_append, List.nil_append, endsChain, plain]
    simp only [Bool.false_and]
    split
    · split <;> rfl
    · rfl
  | cons_cons member next above ih _ =>
    rw [List.cons_append, List.cons_append, endsChain, endsChain, ih]

/-- Nothing opens a chain by what is beyond an argument of a call. -/
theorem opensChain_argument {argument : Frame α} (call : argument.label = .call)
    (role : argument.role = .args) (above outer : Context α) :
    (above ++ argument :: outer).opensChain = above.opensChain := by
  cases above with
  | nil =>
    have plain : argument.isPlainCall = false := by
      rw [Frame.isPlainCall, role]
      simp
    rw [List.nil_append, opensChain, plain]
    rfl
  | cons next above =>
    rw [List.cons_append, opensChain, opensChain, endsChain_argument call role]

end Context

/-- A node of a tree with other tags is one of the tree. -/
theorem exists_fill_of_map {above : Context β} {node : Tree β} {tree : Tree α}
    (same : tree.map change = Context.fill above node) :
    ∃ above' node', tree = Context.fill above' node' ∧ above'.map change = above ∧
      node'.map change = node := by
  induction above generalizing node with
  | nil => exact ⟨[], tree, rfl, rfl, same⟩
  | cons frame outer ih =>
    obtain ⟨outer', ⟨tag, label, children⟩, whole, rfl, filled⟩ := ih same
    obtain ⟨tag', label', before', role', after'⟩ := frame
    rw [Tree.map, mapForest_eq, Frame.fill, Tree.node.injEq] at filled
    obtain ⟨rfl, rfl, slots⟩ := filled
    obtain ⟨before, rest, rfl, rfl, hole⟩ := List.map_eq_append_iff.mp slots
    obtain ⟨⟨role, inner⟩, after, rfl, slot, rfl⟩ := List.map_eq_cons_iff.mp hole
    obtain ⟨rfl, rfl⟩ := Prod.mk.inj slot
    refine ⟨⟨tag, label, before, role, after⟩ :: outer', inner, whole, ?_, rfl⟩
    rw [Context.map, List.map_cons, Frame.map, mapForest_eq, mapForest_eq]
    rfl

end Tree

end Tags

namespace MarkedTree

section Opening

variable {context outer : Context Bool} {first second tree : MarkedTree}

/-- **Every marked name of a tree opens a chain**, given what is around the tree. -/
def Opens (context : Context Bool) (tree : MarkedTree) : Prop :=
  ∀ above node, tree = Context.fill above node → node.tag = true →
    Context.opensChain (above ++ context) = true

/-- **A node is judged by itself and by its children.** -/
theorem opens_node {mark : Bool} {label : Label} {children : Forest Bool} :
    Opens context (.node mark label children) ↔
      (mark = true → Context.opensChain context = true) ∧
      ∀ before role child after, children = before ++ (role, child) :: after →
        Opens (⟨mark, label, before, role, after⟩ :: context) child := by
  constructor
  · intro opens
    refine ⟨fun marked => opens [] _ rfl marked, ?_⟩
    rintro before role child after rfl above inner rfl marked
    have whole := fill_append above [⟨mark, label, before, role, after⟩] inner
    have inside := opens _ inner whole.symm marked
    rwa [List.append_assoc] at inside
  · rintro ⟨root, children_⟩ above inner same marked
    rcases above.eq_nil_or_concat with rfl | ⟨above, ⟨mark', label', before, role, after⟩, rfl⟩
    · obtain rfl : Tree.node mark label children = inner := same
      exact root marked
    · rw [List.concat_eq_append, fill_append] at same
      obtain ⟨rfl, rfl, rfl⟩ := Tree.node.inj same
      rw [List.concat_eq_append, List.append_assoc]
      exact children_ before role _ after rfl above inner rfl marked

/-- **An argument of a call is judged by itself.** -/
theorem opens_argument_iff {argument : Frame Bool} (call : argument.label = .call)
    (role : argument.role = .args) : Opens (argument :: context) tree ↔ Opens [] tree := by
  refine forall_congr' fun above => forall_congr' fun inner => imp_congr_right fun _ =>
    imp_congr_right fun _ => ?_
  rw [Context.opensChain_argument call role, List.append_nil]

/-- A tree is judged alike in contexts that are alike. -/
theorem Opens.congr {context' : Context Bool} (opens : Opens context tree)
    (alike : List.Forall₂ Frame.Alike context context') : Opens context' tree := by
  intro above inner same marked
  have itself : List.Forall₂ Frame.Alike above above :=
    List.forall₂_same.mpr fun frame _ => .refl frame
  rw [← Context.opensChain_congr (List.rel_append itself alike)]
  exact opens above inner same marked

/-- What fills a context is judged in it. -/
theorem Opens.of_fill (opens : Opens outer (Context.fill context tree)) :
    Opens (context ++ outer) tree := by
  rintro above inner rfl marked
  rw [← List.append_assoc]
  exact opens (above ++ context) inner (fill_append above context inner).symm marked

/-- A child of a node may be replaced by another one that is judged well in its place. -/
theorem Opens.replace_child {frame : Frame Bool} (opens : Opens context (frame.fill first))
    (starred : first.isStarred = second.isStarred) (inside : Opens (frame :: context) second) :
    Opens context (frame.fill second) := by
  obtain ⟨mark, label, before, role, after⟩ := frame
  obtain ⟨root, children⟩ := opens_node.mp opens
  refine opens_node.mpr ⟨root, fun before' role' child after' same => ?_⟩
  -- Another child has a sibling that is another one, and unpacked if the old one was.
  have swapped : SameRoles [(role, first)] [(role, second)] := .cons ⟨rfl, starred⟩ .nil
  have around : ∀ {one two one' two' : Forest Bool}, SameRoles one one' → SameRoles two two' →
      Opens (⟨mark, label, one, role', two⟩ :: context) child →
      Opens (⟨mark, label, one', role', two'⟩ :: context) child := by
    intro one two one' two' alike alike' opens
    exact opens.congr (.cons ⟨rfl, rfl, alike, alike'⟩ (List.forall₂_same.mpr fun frame _ =>
      .refl frame))
  rcases List.append_eq_append_iff.mp same with ⟨between, rfl, rest⟩ | ⟨between, rfl, rest⟩
  · cases between with
    | nil =>
      obtain ⟨hole, rfl⟩ := List.cons.inj rest
      obtain ⟨rfl, rfl⟩ := Prod.mk.inj hole
      rw [List.append_nil]
      exact inside
    | cons slot between =>
      obtain ⟨rfl, rfl⟩ := List.cons.inj rest
      refine around ((SameRoles.refl before).append (swapped.append (.refl between))) (.refl _)
        (children _ _ _ _ ?_)
      simp
  · cases between with
    | nil =>
      obtain ⟨hole, rfl⟩ := List.cons.inj rest
      obtain ⟨rfl, rfl⟩ := Prod.mk.inj hole
      rw [List.append_nil] at inside
      exact inside
    | cons slot between =>
      obtain ⟨rfl, rfl⟩ := List.cons.inj rest
      refine around (.refl _) ((SameRoles.refl between).append (swapped.append (.refl after)))
        (children _ _ _ _ ?_)
      simp

/-- **A node may be replaced** by another one that is judged well in its place. -/
theorem Opens.replace (opens : Opens outer (Context.fill context first))
    (starred : first.isStarred = second.isStarred) (inside : Opens (context ++ outer) second) :
    Opens outer (Context.fill context second) := by
  induction context generalizing first second with
  | nil => exact inside
  | cons frame context ih =>
    have whole := @Opens.of_fill context outer (frame.fill first) opens
    exact ih opens rfl (whole.replace_child starred inside)

end Opening

section Numbers

/-- **A list of numbers** of nodes of a tree: all of them open chains exactly if the marked names do
in the tree in which the numbers of the list are marked. -/
theorem opensChain_iff {α : Type} [DecidableEq α] {tree : Tree α} (distinct : tree.tags.Nodup)
    {references : List α} (inside : ∀ id ∈ references, id ∈ tree.tags) :
    (∀ id ∈ references, tree.opensChain id = true) ↔ Opens [] (tree.map references.contains) := by
  have found : ∀ {context : Context α} {node : Tree α},
      tree = Context.fill context node → tree.opensChain node.tag = context.opensChain := by
    rintro context node rfl
    have absent : ∀ tag ∈ Context.tags context, (tag == node.tag) = false := by
      intro tag member
      rw [beq_eq_false_iff_ne]
      rintro rfl
      exact (nodup_tags_fill.mp distinct).2.2 member (tag_mem_tags node)
    rw [opensChain, contextOf?_fill_self absent (beq_self_eq_true _)]
  constructor
  · intro opens above node same marked
    obtain ⟨above', node', whole, rfl, rfl⟩ := exists_fill_of_map same
    rw [tag_map, List.contains_iff_mem] at marked
    rw [List.append_nil, Context.opensChain_map, ← found whole]
    exact opens _ marked
  · intro opens id member
    obtain ⟨node, among, rfl⟩ := exists_of_mem_tags (inside id member)
    obtain ⟨context, whole⟩ := exists_fill among
    rw [found whole]
    have judged := opens (context.map references.contains) (node.map references.contains)
      (by rw [whole, map_fill]) (by rw [tag_map, List.contains_iff_mem]; exact member)
    rwa [List.append_nil, Context.opensChain_map] at judged

end Numbers

end MarkedTree

end IfChains
