/-
**What a walk has gathered on its way up.**

The expressions that the walk along a chain has gathered stand beneath the call it has come to, or
outside the tree. They stay as they are while the walk goes on, and their numbers differ.

* `Gathered.leads`: what is gathered stays so while chains beside it are expanded;
* `Gathered.arguments`: at a call its arguments may be gathered;
* `Gathered.fresh`: and so may an expression that was made.
-/

import IfChains.Proofs.Chain.Call
import IfChains.Proofs.Chain.Making

namespace IfChains

open IfChains.Tree IfChains.Walk

namespace NumberedTree

variable {listed : List NodeId} {state state' : WalkState} {tree tree' position : NumberedTree}
  {exprs : List NumberedTree}

/-- Expressions gathered beneath a position of a tree, or made outside the tree. -/
structure Gathered (listed : List NodeId) (state : WalkState) (tree position : NumberedTree)
    (exprs : List NumberedTree) : Prop where
  loose : ∀ expr ∈ exprs, Loose listed state.live expr
  origin : ∀ expr ∈ exprs, expr ∈ position.preorder ∨ ∀ id ∈ expr.tags, id ∉ tree.tags
  distinct : (exprs.flatMap Tree.tags).Nodup

/-- Some of what is gathered. -/
theorem Gathered.subperm {fewer : List NumberedTree}
    (gathered : Gathered listed state tree position exprs) (subperm : fewer.Subperm exprs) :
    Gathered listed state tree position fewer :=
  ⟨fun expr member => gathered.loose expr (subperm.subset member),
    fun expr member => gathered.origin expr (subperm.subset member),
    nodup_tags_of_subperm subperm gathered.distinct⟩

/-- A gathered number is beneath the position or an old one outside the tree. -/
theorem Gathered.mem_or_not_mem (gathered : Gathered listed state tree position exprs)
    {id : NodeId} (member : id ∈ exprs.flatMap Tree.tags) :
    id ∈ position.tags ∨ (id ∉ tree.tags ∧ id < state.live.size) := by
  obtain ⟨expr, among, inside⟩ := List.mem_flatMap.mp member
  rcases gathered.origin expr among with beneath | apart
  · exact Or.inl (mem_tags_of_mem beneath inside)
  · exact Or.inr ⟨apart id inside, (gathered.loose expr among).reads.lt_size inside⟩

/-- **What is gathered stays so** while the walk leads from tree to tree, and the position stays. -/
theorem Gathered.leads {position' : NumberedTree}
    (gathered : Gathered listed state tree position exprs)
    (leads : Leads listed state tree state' tree') (sound : Sound listed state' tree')
    (inside : position ∈ position'.preorder) (beneath : position' ∈ tree'.preorder) :
    Gathered listed state' tree' position' exprs := by
  refine ⟨fun expr member => ?_, fun expr member => ?_, gathered.distinct⟩
  · obtain ⟨reads, unlisted, conforming, expression⟩ := gathered.loose expr member
    refine ⟨?_, unlisted, conforming, expression⟩
    rcases gathered.origin expr member with below | apart
    · exact sound.reads.of_mem
        (mem_preorder_trans (mem_preorder_trans below inside) beneath)
    · exact reads.congr fun id deeper => leads.kept id (reads.lt_size deeper) (apart id deeper)
  · refine (gathered.origin expr member).imp (fun below => mem_preorder_trans below inside) ?_
    intro apart id deeper still
    have known := (gathered.loose expr member).reads.lt_size deeper
    rcases leads.tags id still with old | fresh
    · exact apart id deeper old
    · exact Nat.lt_irrefl id (Nat.lt_of_lt_of_le known fresh)

/-- **At a call its arguments are gathered** beside what stands beneath its callee. -/
theorem Gathered.arguments {outer : Context NodeId} {call : Frame NodeId} {inside : NumberedTree}
    (sound : Sound listed state (Context.fill outer (call.fill inside))) (calls : Calls call)
    (clean : ∀ argument ∈ call.others .args, Unlisted listed argument)
    (gathered : Gathered listed state (Context.fill outer (call.fill inside)) position exprs)
    (beneath : position ∈ inside.preorder) :
    Gathered listed state (Context.fill outer (call.fill inside)) (call.fill inside)
      (exprs ++ call.others .args) := by
  have whole : call.fill inside ∈ (Context.fill outer (call.fill inside)).preorder :=
    mem_preorder_fill outer _
  have below : position ∈ (call.fill inside).preorder :=
    mem_preorder_trans beneath (mem_preorder_fill [call] inside)
  have child : ∀ argument ∈ call.others .args,
      (Role.args, argument) ∈ (call.fill inside).children :=
    fun argument member => mem_having.mp (calls.having_args inside ▸ member)
  have distinct := sound.distinct.sublist (tags_sublist whole)
  obtain ⟨around, -, apart⟩ := (@nodup_tags_fill _ [call] inside).mp distinct
  have single : Context.tags [call] = call.tags := List.append_nil _
  rw [single] at around apart
  have frame := call.tags_others_sublist .args
  refine ⟨fun expr member => ?_, fun expr member => ?_, ?_⟩
  · rcases List.mem_append.mp member with old | new
    · exact gathered.loose expr old
    · have among := child_mem_preorder (child expr new)
      have family := (sound.conforming _ whole).families _ (child expr new)
      have label : (call.fill inside).label = .call := calls.label
      rw [label] at family
      exact ⟨sound.reads.of_mem (mem_preorder_trans among whole), clean expr new,
        sound.conforming.of_mem (mem_preorder_trans among whole), family⟩
  · rcases List.mem_append.mp member with old | new
    · exact (gathered.origin expr old).imp_left fun deeper => mem_preorder_trans deeper below
    · exact Or.inl (child_mem_preorder (child expr new))
  · rw [List.flatMap_append, List.nodup_append']
    refine ⟨gathered.distinct, around.sublist frame, fun id old new => ?_⟩
    rcases gathered.mem_or_not_mem old with deeper | ⟨outside, -⟩
    · exact apart (frame.subset new) (mem_tags_of_mem beneath deeper)
    · refine outside (mem_tags_of_mem whole ?_)
      exact (@mem_tags_fill _ [call] inside id).mpr (Or.inl (single ▸ frame.subset new))

/-- **An expression that was made** may be gathered. -/
theorem Gathered.fresh {expr : NumberedTree} (gathered : Gathered listed state tree position exprs)
    (sound : Sound listed state tree) (grown : LiveTree.Grown state.live state'.live)
    (made : Made state.live.size [] state'.live expr) (loose : Loose listed state'.live expr) :
    Gathered listed state' tree position (exprs ++ [expr]) := by
  have above : ∀ id ∈ expr.tags, state.live.size ≤ id := fun id member =>
    (made.origin id member).resolve_left List.not_mem_nil
  refine ⟨fun inner member => ?_, fun inner member => ?_, ?_⟩
  · rcases List.mem_append.mp member with old | new
    · exact (gathered.loose inner old).grown grown
    · exact List.mem_singleton.mp new ▸ loose
  · rcases List.mem_append.mp member with old | new
    · exact gathered.origin inner old
    · rw [List.mem_singleton.mp new]
      exact Or.inr fun id inside within =>
        Nat.lt_irrefl id (Nat.lt_of_lt_of_le (sound.reads.lt_size within) (above id inside))
  · rw [List.flatMap_append, List.flatMap_singleton, List.nodup_append']
    refine ⟨gathered.distinct, made.distinct, fun id old new => ?_⟩
    obtain ⟨inner, among, inside⟩ := List.mem_flatMap.mp old
    have known := (gathered.loose inner among).reads.lt_size inside
    exact Nat.lt_irrefl id (Nat.lt_of_lt_of_le known (above id new))

end NumberedTree

end IfChains
