/-
**The recorded parents whatever is asked.**

A tree may be asked again and again to expand the chains of references: of one or of a list, of
different entries, and of references that have left the tree or never opened a chain. A request that
is refused leaves what it has changed.

* `Tree.asked`: the table after some requests; `Tree.standing`: the tree that stands in it;
* `Request.held`: a request keeps what the expansion of one reference keeps;
* `exists_traced`: every table after requests can be traced back to that of the tree;
* `asked_parents_exact`: the recorded parents are those of the tree that stands in it.
-/

import IfChains.Proofs.Chain.Roaming

namespace IfChains

open IfChains.Tree IfChains.Walk

/-- Something that a tree is asked: to expand the chain of a reference, given those that count as
expanded and those that come later, or the chains of a list of references. -/
inductive Request
  | expand (entry : String) (processed : List NodeId) (reference : NodeId) (remaining : List NodeId)
  | dispatch (entry : String) (references : List NodeId)
deriving Repr

/-- The table that a request leaves, be it granted or refused. -/
def Request.leaves (live : LiveTree) : Request → LiveTree
  | expand entry processed reference remaining =>
    ((Expansion.processReference entry reference remaining).outcome ⟨live, processed, []⟩).2.live
  | dispatch entry references =>
    ((Expansion.dispatch entry references).outcome ⟨live, [], []⟩).2.live

section Keeping

variable (holds : LiveTree → Prop)
  (resolves : ∀ entry depth reference remaining, Upholds (fun state => holds state.live)
    (Expansion.resolver entry depth reference remaining) fun _ => True)

include resolves

/-- A request keeps what the expansion of one reference keeps. -/
theorem Request.held (request : Request) {live : LiveTree} (held : holds live) :
    holds (request.leaves live) := by
  cases request with
  | expand entry processed reference remaining =>
    exact @Upholds.after _ _ _ _ (resolves entry (remaining.length + 1) reference remaining)
      ⟨live, processed, []⟩ held
  | dispatch entry references =>
    exact @Upholds.after _ _ _ _ (upholds_dispatch (fun depth reference later _ =>
      resolves entry depth reference later) fun _ held _ => held) ⟨live, [], []⟩ held

/-- So do requests, one after the other. -/
theorem Request.held_foldl (requests : List Request) {live : LiveTree} (held : holds live) :
    holds (requests.foldl Request.leaves live) := by
  induction requests generalizing live with
  | nil => exact held
  | cons request rest ih => exact ih (request.held holds resolves held)

end Keeping

namespace Tree

/-- The table of a tree after some requests. -/
def asked (tree : SourceTree) (requests : List Request) : LiveTree :=
  requests.foldl Request.leaves (LiveTree.ofTree tree).2

/-- The tree that stands in the table after some requests, with the numbers of its nodes. -/
def standing (tree : SourceTree) (requests : List Request) : NumberedTree :=
  ((tree.asked requests).toTree (LiveTree.ofTree tree).1).map LiveTree.Tag.id

open LiveTree

/-- **Every table after some requests** can be traced back to that of the tree. -/
theorem exists_traced (tree : SourceTree) (requests : List Request) :
    ∃ home spent, Traced (ofTree tree).2 (tree.asked requests) (ofTree tree).1 home spent := by
  obtain ⟨whole, known, rootless⟩ := whole_ofTree tree
  exact Request.held_foldl
    (fun live => ∃ home spent, Traced (ofTree tree).2 live (ofTree tree).1 home spent)
    (fun entry => upholds_resolver_traced whole known entry) requests ⟨_, _, whole.traced rootless⟩

/-- **The recorded parents are exact, whatever was asked.** The table reads as the tree that stands
in it, in which no node occurs twice. Each of its nodes is the recorded parent of its children.
Climbing along recorded parents from any node comes to one without a parent. And a node of the tree
is said to contain another one exactly if that one is the node itself or lies beneath it. -/
theorem asked_parents_exact (tree : SourceTree) (requests : List Request) :
    (tree.asked requests).Reads (tree.standing requests) ∧
    (tree.standing requests).tag = (ofTree tree).1 ∧
    (tree.standing requests).tags.Nodup ∧
    (∀ node ∈ (tree.standing requests).preorder, ∀ child ∈ node.children,
      (tree.asked requests).parent? child.2.tag = some node.tag) ∧
    (∀ id, ∃ top, (tree.asked requests).Climbs id top ∧ (tree.asked requests).parent? top = none) ∧
    ∀ part ∈ (tree.standing requests).preorder, ∀ id ∈ (tree.standing requests).tags,
      ((tree.asked requests).contains part.tag id = true ↔ id ∈ part.tags) := by
  obtain ⟨home, spent, traced⟩ := exists_traced tree requests
  obtain ⟨-, known, -⟩ := whole_ofTree tree
  obtain ⟨left, tag, reads, linked, distinct, -⟩ := traced.exists_tree known
  have same : tree.standing requests = left := by
    rw [standing, ← tag]
    exact reads.toTree distinct
  rw [same]
  refine ⟨reads, tag, distinct, linked, traced.grounded.exists_top, fun part member id among => ?_⟩
  obtain ⟨context, rfl⟩ := exists_fill member
  exact contains_iff reads linked (tag ▸ traced.root) distinct among

end Tree

end IfChains
