/-
**Which bindings are found, and which import is refused.**

The search for bindings looks at the import statements of a tree in breadth-first order: by depth,
and left to right at one depth. It stops at the first one that is not allowed. If all of them are
allowed it finds the names that the macro is imported as, in the order of their first occurrences.

* `Refuses`: what is wrong with an import statement;
* `collect_eq_error_iff`, `collect_eq_ok`: the search along a list of nodes;
* `Occurs`, `mem_occurrences`: the places at which a name is imported;
* `pairwise_addNew`: names that are added one by one are in the order of their first occurrences;
* `bindings_breadthFirst`: **what is found in a tree.**
-/

import IfChains.Proofs.Transform.BreadthFirst
import IfChains.Transform
import Mathlib.Data.List.Induction

namespace IfChains

namespace Imports

open IfChains.Tree

variable {module name : String} {tree node : SourceTree} {fault : BindingFault}

section Refusing

/-- What is wrong with an import statement that is not allowed. -/
inductive Refuses (module : String) (node : SourceTree) : BindingFault → Prop
  /-- The module is imported as a whole. -/
  | whole {item : String × Option String} (isImport : node.label = .importStmt)
    (member : item ∈ aliases node) (same : item.1 = module) :
    Refuses module node (.wholeModule module (.ofPosition node.tag))
  /-- Other names than the symbol are imported from the module. -/
  | names {item : String × Option String} (isFrom : isFrom module node.label = true)
    (member : item ∈ aliases node) (different : item.1 ≠ macroSymbol) :
    Refuses module node (.names module (((aliases node).map (·.1)).filter (· != macroSymbol))
      (.ofPosition node.tag))

/-- The local names that a node imports from a module. -/
def boundBy (module : String) (node : SourceTree) : List String :=
  if isFrom module node.label then (aliases node).map localName else []

/-- An import of modules as a whole imports nothing from one of them. -/
theorem isFrom_importStmt (isImport : node.label = .importStmt) :
    isFrom module node.label = false := by
  rw [isImport]
  rfl

/-- A statement that is not allowed is refused. -/
theorem Refuses.ofNode_eq (refuses : Refuses module node fault) :
    ofNode module node = .error fault := by
  cases refuses with
  | @whole item isImport member same =>
    have any : ((aliases node).any fun item => item.1 == module) = true :=
      List.any_eq_true.mpr ⟨item, member, beq_iff_eq.mpr same⟩
    unfold ofNode
    dsimp only
    rw [if_pos isImport, if_pos any]
  | @names item isFrom' member different =>
    have apart : node.label ≠ .importStmt := by
      intro isImport
      rw [isFrom_importStmt isImport] at isFrom'
      exact nomatch isFrom'
    have some : ((((aliases node).map (·.1)).filter (· != macroSymbol)).isEmpty) = false := by
      rw [Bool.eq_false_iff, ne_eq, List.isEmpty_iff, List.filter_eq_nil_iff]
      intro none
      exact none item.1 (List.mem_map_of_mem member) (bne_iff_ne.mpr different)
    unfold ofNode
    dsimp only
    rw [if_neg apart, if_pos isFrom', some]
    rfl

/-- Any other node binds the local names that it imports from the module. -/
theorem ofNode_of_allowed (allowed : ∀ fault, ¬Refuses module node fault) :
    ofNode module node = .ok (boundBy module node) := by
  unfold ofNode boundBy
  dsimp only
  by_cases isImport : node.label = .importStmt
  · rw [if_pos isImport, isFrom_importStmt isImport, if_neg]
    · rfl
    · intro any
      obtain ⟨item, member, same⟩ := List.any_eq_true.mp any
      exact allowed _ (.whole isImport member (beq_iff_eq.mp same))
  · rw [if_neg isImport]
    by_cases from_ : isFrom module node.label = true
    · rw [if_pos from_, if_pos from_, if_pos]
      rw [List.isEmpty_iff, List.filter_eq_nil_iff]
      intro name member different
      obtain ⟨item, among, rfl⟩ := List.mem_map.mp member
      exact allowed _ (.names from_ among (bne_iff_ne.mp different))
    · rw [if_neg from_, if_neg from_]

/-- A statement is wrong in one way. -/
theorem Refuses.unique {other : BindingFault} (refuses : Refuses module node fault)
    (refuses' : Refuses module node other) : fault = other :=
  Except.error.inj (refuses.ofNode_eq.symm.trans refuses'.ofNode_eq)

end Refusing

section Searching

variable {nodes : List SourceTree} {names found : List String}

/-- **The search stops** at the first node that is refused. -/
theorem collect_eq_error_iff : collect module names nodes = .error fault ↔
    ∃ before node rest, nodes = before ++ node :: rest ∧
      (∀ earlier ∈ before, ∀ fault, ¬Refuses module earlier fault) ∧
      Refuses module node fault := by
  induction nodes generalizing names with
  | nil =>
    constructor
    · intro stopped
      cases stopped
    · rintro ⟨before, node, rest, same, -⟩
      exact absurd same.symm (by simp)
  | cons first rest ih =>
    rw [collect]
    by_cases refused : ∃ fault, Refuses module first fault
    · obtain ⟨here, refuses⟩ := refused
      rw [refuses.ofNode_eq]
      constructor
      · intro stopped
        obtain rfl : here = fault := Except.error.inj stopped
        exact ⟨[], first, rest, rfl, fun _ absent => absurd absent List.not_mem_nil, refuses⟩
      · rintro ⟨before, node, after, same, allowed, refuses'⟩
        cases before with
        | nil =>
          obtain ⟨rfl, rfl⟩ := List.cons.inj same
          rw [refuses.unique refuses']
          rfl
        | cons other before =>
          obtain ⟨rfl, -⟩ := List.cons.inj same
          exact absurd refuses (allowed first List.mem_cons_self here)
    · rw [not_exists] at refused
      rw [ofNode_of_allowed refused]
      refine ih.trans ⟨?_, ?_⟩
      · rintro ⟨before, node, after, rfl, allowed, refuses⟩
        exact ⟨first :: before, node, after, rfl, List.forall_mem_cons.mpr ⟨refused, allowed⟩,
          refuses⟩
      · rintro ⟨before, node, after, same, allowed, refuses⟩
        cases before with
        | nil =>
          obtain ⟨rfl, rfl⟩ := List.cons.inj same
          exact absurd refuses (refused fault)
        | cons other before =>
          obtain ⟨rfl, rfl⟩ := List.cons.inj same
          exact ⟨before, node, after, rfl, (List.forall_mem_cons.mp allowed).2, refuses⟩

/-- **The search comes to an end** if no node is refused. -/
theorem collect_eq_ok (allowed : ∀ node ∈ nodes, ∀ fault, ¬Refuses module node fault) :
    collect module names nodes = .ok (addNew names (nodes.flatMap (boundBy module))) := by
  induction nodes generalizing names with
  | nil => rfl
  | cons first rest ih =>
    obtain ⟨here, later⟩ := List.forall_mem_cons.mp allowed
    rw [collect, ofNode_of_allowed here]
    refine (ih later).trans ?_
    rw [List.flatMap_cons, addNew, addNew, addNew, List.foldl_append]

end Searching

section Occurring

variable {place other : List Nat} {at_ : Addressed (Option Position)}

/-- The symbol is imported as a name at a place, which is that of an item of an import from the
module. -/
def Occurs (module : String) (tree : SourceTree) (name : String) (place : List Nat) : Prop :=
  ∃ address index node item imported asname, place = address ++ [index] ∧
    tree.nodeAt? address = some node ∧ isFrom module node.label = true ∧
    tree.nodeAt? place = some item ∧ item.label = .importItem imported asname ∧
    name = asname.getD imported

/-- The local name of an item of an import. -/
def itemName? (item : SourceTree) : Option String :=
  match item.label with
  | .importItem imported asname => some (asname.getD imported)
  | _ => none

/-- The local names that a node imports from a module, with their places. -/
def occurrencesAt (module : String) (at_ : Addressed (Option Position)) :
    List (List Nat × String) :=
  if isFrom module at_.2.label then
    (addressedChildren at_).filterMap fun child => (itemName? child.2).map (child.1, ·)
  else []

/-- The local names that are imported from a module, in the order of their places. -/
def occurrences (module : String) (tree : SourceTree) : List (List Nat × String) :=
  tree.addressed.flatMap (occurrencesAt module)

theorem itemName?_eq_some : itemName? node = some name ↔
    ∃ imported asname, node.label = .importItem imported asname ∧ name = asname.getD imported := by
  unfold itemName?
  constructor
  · intro same
    split at same
    · rename_i imported asname label
      exact ⟨imported, asname, label, (Option.some.inj same).symm⟩
    · cases same
  · rintro ⟨imported, asname, label, rfl⟩
    rw [label]

/-- The names at places are the names that are bound. -/
theorem map_occurrencesAt : (occurrencesAt module at_).map (·.2) = boundBy module at_.2 := by
  have items : (aliases at_.2).map localName = (at_.2.children.map (·.2)).filterMap itemName? := by
    rw [aliases, List.map_filterMap, List.filterMap_map]
    congr 1
    funext child
    rw [Function.comp_apply, itemName?]
    cases child.2.label <;> rfl
  unfold occurrencesAt boundBy
  split
  · rw [items, ← map_addressedChildren, List.map_filterMap, List.filterMap_map]
    congr 1
    funext child
    rw [Option.map_map, Function.comp_apply]
    exact Option.map_id'
  · rfl

/-- All names at places are all names that are bound, in breadth-first order. -/
theorem map_occurrences (module : String) (tree : SourceTree) :
    (occurrences module tree).map (·.2) = tree.breadthFirst.flatMap (boundBy module) := by
  rw [occurrences, List.map_flatMap, ← map_addressed, List.flatMap_map]
  congr 1
  funext at_
  exact map_occurrencesAt

theorem mem_occurrencesAt : (place, name) ∈ occurrencesAt module at_ ↔
    isFrom module at_.2.label = true ∧
      ∃ item, (place, item) ∈ addressedChildren at_ ∧ itemName? item = some name := by
  unfold occurrencesAt
  split
  · rename_i from_
    rw [List.mem_filterMap, from_]
    constructor
    · rintro ⟨⟨address, item⟩, among, same⟩
      obtain ⟨name, named, same⟩ := Option.map_eq_some_iff.mp same
      cases same
      exact ⟨rfl, item, among, named⟩
    · rintro ⟨-, item, among, named⟩
      exact ⟨(place, item), among, by rw [named]; rfl⟩
  · rename_i other
    exact ⟨fun absent => absurd absent List.not_mem_nil, fun found => absurd found.1 other⟩

/-- **The places of names** are those at which they are imported. -/
theorem mem_occurrences :
    (place, name) ∈ occurrences module tree ↔ Occurs module tree name place := by
  rw [occurrences, List.mem_flatMap]
  constructor
  · rintro ⟨⟨address, node⟩, inside, found⟩
    obtain ⟨from_, item, among, named⟩ := mem_occurrencesAt.mp found
    obtain ⟨index, role, child, rfl⟩ := mem_addressedChildren.mp among
    obtain ⟨imported, asname, label, same⟩ := itemName?_eq_some.mp named
    refine ⟨address, index, node, item, imported, asname, rfl, mem_addressed.mp inside, from_, ?_,
      label, same⟩
    rw [nodeAt?_concat, mem_addressed.mp inside, Option.bind_some, child]
    rfl
  · rintro ⟨address, index, node, item, imported, asname, rfl, here, from_, found, label, same⟩
    rw [nodeAt?_concat, here, Option.bind_some, Option.map_eq_some_iff] at found
    obtain ⟨⟨role, item⟩, child, rfl⟩ := found
    refine ⟨(address, node), mem_addressed.mpr here, mem_occurrencesAt.mpr ⟨from_, item, ?_, ?_⟩⟩
    · exact mem_addressedChildren.mpr ⟨index, role, child, rfl⟩
    · exact itemName?_eq_some.mpr ⟨imported, asname, label, same⟩

/-- The places of names are in order. -/
theorem pairwise_occurrences (module : String) (tree : SourceTree) :
    (occurrences module tree).Pairwise fun first second => Earlier first.1 second.1 := by
  rw [occurrences, List.pairwise_flatMap]
  constructor
  · intro at_ _
    unfold occurrencesAt
    split
    · refine List.pairwise_filterMap.mpr ((pairwise_addressedChildren at_).imp ?_)
      intro first second ahead found same found' same'
      obtain ⟨name, -, rfl⟩ := Option.map_eq_some_iff.mp same
      obtain ⟨name', -, rfl⟩ := Option.map_eq_some_iff.mp same'
      exact ahead.1
    · exact List.Pairwise.nil
  · refine (pairwise_addressed tree).imp ?_
    rintro first second earlier ⟨place, name⟩ member ⟨place', name'⟩ member'
    obtain ⟨-, item, among, -⟩ := mem_occurrencesAt.mp member
    obtain ⟨-, item', among', -⟩ := mem_occurrencesAt.mp member'
    obtain ⟨index, role, -, rfl⟩ := mem_addressedChildren.mp among
    obtain ⟨index', role', -, rfl⟩ := mem_addressedChildren.mp among'
    exact earlier.concat

end Occurring

section Adding

variable {names new : List String}

theorem addNew_concat : addNew names (new ++ [name]) =
    if name ∈ addNew names new then addNew names new else addNew names new ++ [name] := by
  simp [addNew, List.foldl_append]

theorem mem_addNew : name ∈ addNew names new ↔ name ∈ names ∨ name ∈ new := by
  induction new using List.reverseRecOn with
  | nil => simp [addNew]
  | append_singleton before last ih =>
    rw [addNew_concat, List.mem_append, List.mem_singleton, ← or_assoc, ← ih]
    split
    · rename_i there
      exact ⟨Or.inl, fun found => found.elim id fun same => same ▸ there⟩
    · rw [List.mem_append, List.mem_singleton]

/-- Names are added once. -/
theorem nodup_addNew (distinct : names.Nodup) : (addNew names new).Nodup := by
  induction new using List.reverseRecOn with
  | nil => exact distinct
  | append_singleton before last ih =>
    rw [addNew_concat]
    split
    · exact ih
    · rename_i absent
      rw [← List.concat_eq_append, List.nodup_concat]
      exact ⟨absent, ih⟩

/-- **Names that are added one by one** are in the order of their first occurrences, if their places
are in order. -/
theorem pairwise_addNew {found : List (List Nat × String)}
    (ordered : found.Pairwise fun first second => Earlier first.1 second.1) :
    (addNew [] (found.map (·.2))).Pairwise fun first second =>
      ∃ place, (place, first) ∈ found ∧
        ∀ other, (other, second) ∈ found → Earlier place other := by
  induction found using List.reverseRecOn with
  | nil => exact List.Pairwise.nil
  | append_singleton before last ih =>
    obtain ⟨place, name⟩ := last
    obtain ⟨sorted, -, ahead⟩ := List.pairwise_append.mp ordered
    -- An old name keeps its first place, which is ahead of the new one.
    have old : ∀ {first second}, (∃ place, (place, first) ∈ before ∧
          ∀ other, (other, second) ∈ before → Earlier place other) →
        ∃ place', (place', first) ∈ before ++ [(place, name)] ∧
          ∀ other, (other, second) ∈ before ++ [(place, name)] → Earlier place' other := by
      rintro first second ⟨place', among, earlier⟩
      refine ⟨place', List.mem_append_left _ among, fun other member => ?_⟩
      rcases List.mem_append.mp member with inside | last
      · exact earlier other inside
      · obtain ⟨rfl, rfl⟩ := Prod.mk.inj (List.mem_singleton.mp last)
        exact ahead _ among _ (List.mem_singleton_self _)
    rw [List.map_append, List.map_singleton, addNew_concat]
    split
    · exact (ih sorted).imp old
    · rename_i absent
      rw [mem_addNew, List.mem_map] at absent
      refine List.pairwise_append.mpr ⟨(ih sorted).imp old, List.pairwise_singleton _ _, ?_⟩
      intro first known second same
      obtain rfl := List.mem_singleton.mp same
      obtain ⟨⟨place', first⟩, among, rfl⟩ :=
        List.mem_map.mp ((mem_addNew.mp known).resolve_left List.not_mem_nil)
      refine old ⟨place', among, fun other member => ?_⟩
      exact absurd (Or.inr ⟨(other, second), member, rfl⟩) absent

end Adding

section Finding

variable {names : List String}

/-- **The fault** is that of the first statement that is refused. -/
theorem bindings_eq_error_iff : bindings module tree = .error fault ↔
    ∃ address node, tree.nodeAt? address = some node ∧ Refuses module node fault ∧
      ∀ other node' fault', tree.nodeAt? other = some node' → Refuses module node' fault' →
        other = address ∨ Earlier address other := by
  have ordered := pairwise_addressed tree
  rw [bindings, collect_eq_error_iff, ← map_addressed]
  constructor
  · rintro ⟨before, node, rest, same, allowed, refuses⟩
    obtain ⟨first, second, split, rfl, tail⟩ := List.map_eq_append_iff.mp same
    obtain ⟨⟨address, node⟩, later, rfl, rfl, rfl⟩ := List.map_eq_cons_iff.mp tail
    rw [split, List.pairwise_append, List.pairwise_cons] at ordered
    have here : (address, node) ∈ tree.addressed := by simp [split]
    refine ⟨address, node, mem_addressed.mp here, refuses, ?_⟩
    intro other node' fault' found refuses'
    have inside := mem_addressed.mpr found
    rw [split, List.mem_append, List.mem_cons] at inside
    rcases inside with early | same | late
    · exact absurd refuses' (allowed node' (List.mem_map_of_mem early) fault')
    · exact Or.inl (Prod.mk.inj same).1
    · exact Or.inr (ordered.2.1.1 _ late)
  · rintro ⟨address, node, found, refuses, least⟩
    obtain ⟨first, later, split⟩ := List.append_of_mem (mem_addressed.mpr found)
    rw [split, List.pairwise_append] at ordered
    refine ⟨first.map (·.2), node, later.map (·.2), by rw [split]; simp, ?_, refuses⟩
    intro node' member fault' refuses'
    obtain ⟨⟨other, node'⟩, early, rfl⟩ := List.mem_map.mp member
    have earlier : Earlier other address := ordered.2.2 _ early _ List.mem_cons_self
    have inside : (other, node') ∈ tree.addressed := split ▸ List.mem_append_left _ early
    rcases least other node' fault' (mem_addressed.mp inside) refuses' with rfl | after
    · exact earlier.irrefl
    · exact (earlier.trans after).irrefl

/-- No node of a tree for which the search succeeds is refused. -/
theorem not_refuses_of_bindings (accepted : bindings module tree = .ok names) :
    ∀ node ∈ tree.breadthFirst, ∀ fault, ¬Refuses module node fault := by
  intro node member fault refuses
  obtain ⟨bound, same⟩ := exists_of_collect accepted node member
  exact nomatch refuses.ofNode_eq.symm.trans same

/-- **What is found** are the names at places, each of them once. -/
theorem eq_addNew_of_bindings (accepted : bindings module tree = .ok names) :
    names = addNew [] ((occurrences module tree).map (·.2)) := by
  have found := @collect_eq_ok module _ [] (not_refuses_of_bindings accepted)
  rw [map_occurrences]
  exact Except.ok.inj (accepted.symm.trans found)

end Finding

/-- **What the search for bindings finds in a tree.** It fails if and only if some statement imports
the module as a whole, or other names than the symbol from it. The fault is that of the first such
statement in breadth-first order: it tells where the statement is and, of an import from the module,
all names that are wrong, in their order. Otherwise it finds the names that the symbol is imported
as, each of them once, in the order of their first occurrences. A program whose imports are refused
is reported before a chain of it is expanded. -/
theorem bindings_breadthFirst (module : String) (tree : SourceTree) :
    ((∃ fault, bindings module tree = .error fault) ↔
      ∃ address node fault, tree.nodeAt? address = some node ∧ Refuses module node fault) ∧
    (∀ fault, bindings module tree = .error fault ↔
      ∃ address node, tree.nodeAt? address = some node ∧ Refuses module node fault ∧
        ∀ other node' fault', tree.nodeAt? other = some node' → Refuses module node' fault' →
          other = address ∨ Earlier address other) ∧
    (∀ names, bindings module tree = .ok names →
      names.Nodup ∧ (∀ name, name ∈ names ↔ ∃ place, Occurs module tree name place) ∧
      names.Pairwise fun first second => ∃ place, Occurs module tree first place ∧
        ∀ other, Occurs module tree second other → Earlier place other) ∧
    ∀ origin file source fault, Transform.parse origin source = .ok tree →
      bindings module tree = .error fault →
      Transform.transform module origin file source =
        { result := .error (.binding fault), expanded := 0, remarks := [] } := by
  refine ⟨⟨?_, ?_⟩, fun fault => bindings_eq_error_iff, ?_, ?_⟩
  · rintro ⟨fault, failed⟩
    obtain ⟨address, node, found, refuses, -⟩ := bindings_eq_error_iff.mp failed
    exact ⟨address, node, fault, found, refuses⟩
  · rintro ⟨address, node, fault, found, refuses⟩
    cases result : bindings module tree with
    | error fault => exact ⟨fault, rfl⟩
    | ok names =>
      have inside : node ∈ tree.breadthFirst :=
        map_addressed tree ▸ List.mem_map_of_mem (mem_addressed.mpr found)
      exact absurd refuses (not_refuses_of_bindings result node inside fault)
  · intro names accepted
    rw [eq_addNew_of_bindings accepted]
    refine ⟨nodup_addNew List.nodup_nil, fun name => ?_, ?_⟩
    · rw [mem_addNew, List.mem_map]
      constructor
      · rintro (absent | ⟨⟨place, name⟩, among, rfl⟩)
        · exact absurd absent List.not_mem_nil
        · exact ⟨place, mem_occurrences.mp among⟩
      · rintro ⟨place, occurs⟩
        exact Or.inr ⟨(place, name), mem_occurrences.mpr occurs, rfl⟩
    · refine (pairwise_addNew (pairwise_occurrences module tree)).imp ?_
      rintro first second ⟨place, among, least⟩
      exact ⟨place, mem_occurrences.mp among,
        fun other occurs => least other (mem_occurrences.mpr occurs)⟩
  · intro origin file source fault parsed failed
    rw [Transform.transform, parsed]
    simp only [failed]

end Imports

end IfChains
