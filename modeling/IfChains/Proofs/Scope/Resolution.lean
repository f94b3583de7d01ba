/-
**What the names in a module resolve to.**

A name resolves to the innermost scope around it that binds it. A class is not seen from the scopes
inside of it, and a scope may declare that a name belongs to the module, or to a scope further out.
An assignment expression binds in the nearest scope around it that is no comprehension.

The search for references does not look everywhere: it takes for bound in a scope what is bound in
the open there, which is in no definition and in no scope inside of it.

* `resolve`: the scope that a name resolves to, or nothing for the module;
* `mem_ownNames_iff`: the names that the search takes for bound in a scope;
* `not_bindsOpenly_of_resolve`: what captures a reference is not bound in the open;
* `resolve_isSome_of_shadowed`: what is no reference resolves to a scope that binds it, unless it is
  declared to belong to the module;
* `references_perm_resolve`: in a module of ordinary scopes the references are what is read and
  resolves to the module.
-/

import IfChains.Proofs.Scope.Evaluation

namespace IfChains

open IfChains.Tree

namespace Scope

variable {α : Type} {name module : String} {context outer : Context α} {tree node scope : Tree α}
  {around : List (Tree α)}

section Opening

/-- The names that a statement declares to belong to the module. -/
def globalNames : Label → List String
  | .globalStmt names => names
  | _ => []

/-- The names that a statement declares to belong to a scope further out. -/
def nonlocalNames : Label → List String
  | .nonlocalStmt names => names
  | _ => []

mutual

/-- The nodes of a tree that are in the open: in no definition, in no scope within an expression, and
in no import of the macro. -/
def openNodes (module : String) : Tree α → List (Tree α)
  | .node tag label children =>
    .node tag label children :: if isClosed module label then [] else openForest module children

/-- The nodes of a forest that are in the open. -/
def openForest (module : String) : Forest α → List (Tree α)
  | [] => []
  | (_, tree) :: rest => openNodes module tree ++ openForest module rest

end

/-- A place is in the open if what is around it is. -/
def IsOpen (module : String) (context : Context α) : Prop :=
  ∀ frame ∈ context, isClosed module frame.label = false

theorem isOpen_concat {frame : Frame α} : IsOpen module (context ++ [frame]) ↔
    IsOpen module context ∧ isClosed module frame.label = false := by
  simp [IsOpen, or_imp, forall_and]

/-- The nodes of a forest that are in the open are those of its trees. -/
theorem mem_openForest {forest : Forest α} :
    node ∈ openForest module forest ↔ ∃ child ∈ forest, node ∈ openNodes module child.2 := by
  induction forest with
  | nil => simp [openForest]
  | cons child rest ih =>
    obtain ⟨role, tree⟩ := child
    simp [openForest, ih]

/-- **A node is in the open** if its place is. -/
theorem mem_openNodes : node ∈ openNodes module tree ↔
    ∃ context, tree = Context.fill context node ∧ IsOpen module context := by
  induction tree with
  | node tag label children ih =>
    rw [openNodes, List.mem_cons]
    constructor
    · rintro (rfl | beneath)
      · exact ⟨[], rfl, fun frame absent => absurd absent List.not_mem_nil⟩
      · split at beneath
        · exact absurd beneath List.not_mem_nil
        · rename_i isOpen
          obtain ⟨child, member, inside⟩ := mem_openForest.mp beneath
          obtain ⟨context, same, opened⟩ := (ih child member).mp inside
          obtain ⟨before, after, rfl⟩ := List.append_of_mem member
          refine ⟨context ++ [⟨tag, label, before, child.1, after⟩], ?_,
            isOpen_concat.mpr ⟨opened, Bool.eq_false_iff.mpr isOpen⟩⟩
          rw [fill_append, ← same]
          rfl
    · rintro ⟨context, same, opened⟩
      rcases List.eq_nil_or_concat' context with rfl | ⟨context, frame, rfl⟩
      · exact Or.inl same.symm
      · obtain ⟨opened, isOpen⟩ := isOpen_concat.mp opened
        rw [fill_append, fill_cons, fill_nil, Frame.fill, Tree.node.injEq] at same
        obtain ⟨-, rfl, rfl⟩ := same
        have member : (frame.role, Context.fill context node) ∈
            frame.before ++ (frame.role, Context.fill context node) :: frame.after :=
          List.mem_append_right _ List.mem_cons_self
        rw [isOpen, if_neg Bool.false_ne_true, mem_openForest]
        exact Or.inr ⟨_, member, (ih _ member).mpr ⟨context, rfl, opened⟩⟩

/-- A scope within an expression binds nothing by itself. -/
theorem boundHere_of_isInner (inner : isInner tree.label = true) : boundHere tree = [] := by
  unfold boundHere
  cases label : tree.label <;> first | rfl | (rw [label] at inner; exact nomatch inner)

/-- The names that a node binds, but for imports of the macro. -/
def boundOtherwise (module : String) (node : Tree α) : List String :=
  if Imports.isFrom module node.label then [] else boundHere node

theorem boundOtherwise_subset (module : String) (node : Tree α) :
    boundOtherwise module node ⊆ boundHere node := by
  unfold boundOtherwise
  split
  · exact List.nil_subset _
  · exact List.Subset.refl _

mutual

/-- **The names that are taken for bound** beneath a node are those bound in the open, but for
imports of the macro. -/
theorem bound_eq (module : String) : (tree : Tree α) →
    bound module tree = (openNodes module tree).flatMap (boundOtherwise module)
  | .node tag label children => by
    rw [bound, openNodes, List.flatMap_cons]
    congr 1
    · rw [boundOtherwise, Tree.label]
      cases inner : isInner label with
      | true => rw [@boundHere_of_isInner _ (.node tag label children) inner]; simp
      | false => rw [Bool.false_or]
    · split
      · rfl
      · exact boundForest_eq module children

theorem boundForest_eq (module : String) : (forest : Forest α) →
    boundForest module forest = (openForest module forest).flatMap (boundOtherwise module)
  | [] => rfl
  | (_, tree) :: rest => by
    rw [boundForest, openForest, List.flatMap_append, bound_eq module tree,
      boundForest_eq module rest]

end

/-- The names that a conforming node declares, and those declared beneath it. -/
theorem declared_node {tag : α} {label : Label} {children : Forest α}
    (conforms : (Tree.node tag label children).Conforms) :
    declared module (.node tag label children) = globalNames label ++ nonlocalNames label ++
      if isClosed module label then [] else declaredForest module children := by
  cases label with
  | globalStmt names | nonlocalStmt names =>
    obtain rfl : children = [] := conforms.children_eq_nil rfl
    simp [declared, globalNames, nonlocalNames, declaredForest]
  | _ => rw [declared] <;> first | rfl | nofun

mutual

/-- **The names that are taken for declared** beneath a node are those declared in the open. -/
theorem declared_eq (module : String) : (tree : Tree α) → tree.Conforming →
    declared module tree = (openNodes module tree).flatMap fun node =>
      globalNames node.label ++ nonlocalNames node.label
  | .node tag label children, conforming => by
    obtain ⟨conforms, beneath⟩ := conforming_node.mp conforming
    rw [declared_node conforms, openNodes, List.flatMap_cons]
    congr 1
    split
    · rfl
    · exact declaredForest_eq module children beneath

theorem declaredForest_eq (module : String) : (forest : Forest α) →
    (∀ child ∈ forest, child.2.Conforming) →
    declaredForest module forest = (openForest module forest).flatMap fun node =>
      globalNames node.label ++ nonlocalNames node.label
  | [], _ => rfl
  | (_, tree) :: rest, conforming => by
    obtain ⟨here, later⟩ := List.forall_mem_cons.mp conforming
    rw [declaredForest, openForest, List.flatMap_append, declared_eq module tree here,
      declaredForest_eq module rest later]

end

end Opening

section Binding

/-- The names of the parameters of a scope. -/
def ownParameters (scope : Tree α) : List String :=
  match scope.label with
  | .functionDef .. | .lambda => (scope.having .args).flatMap parameters
  | _ => []

/-- The parts of a scope in which names are stored: the statements of a function or a class, and the
targets of a comprehension. -/
def regions (scope : Tree α) : List (Tree α) :=
  match scope.label with
  | .functionDef .. | .classDef _ => scope.having .body
  | .listComp | .setComp | .dictComp | .generatorExp => comprehensionTargets scope
  | _ => []

/-- A statement in the open of a scope declares a name. -/
def Declares (module : String) (declared : Label → List String) (name : String)
    (scope : Tree α) : Prop :=
  ∃ part ∈ regions scope, ∃ node ∈ openNodes module part, name ∈ declared node.label

instance (module : String) (declared : Label → List String) (name : String) (scope : Tree α) :
    Decidable (Declares module declared name scope) :=
  inferInstanceAs (Decidable (∃ part ∈ regions scope, ∃ node ∈ openNodes module part, _))

/-- A node in the open of a scope binds a name, and it is no import of the macro. -/
def BindsOpenly (module name : String) (scope : Tree α) : Prop :=
  ∃ part ∈ regions scope, ∃ node ∈ openNodes module part, name ∈ boundOtherwise module node

/-- The parts of a scope in which names are stored are nodes of it. -/
theorem mem_preorder_of_regions {part : Tree α} (member : part ∈ regions scope) :
    part ∈ scope.preorder := by
  unfold regions at member
  split at member
  · exact child_mem_preorder (mem_having.mp member)
  · exact child_mem_preorder (mem_having.mp member)
  all_goals first
    | exact absurd member List.not_mem_nil
    | obtain ⟨clause, isClause, isTarget⟩ := List.mem_flatMap.mp member
      exact mem_preorder_trans (child_mem_preorder (mem_having.mp isTarget))
        (child_mem_preorder (mem_having.mp isClause))

/-- A scope takes for bound its parameters and what is stored in its parts. -/
theorem mem_ownNames : name ∈ ownNames module scope ↔
    name ∈ ownParameters scope ∨ name ∈ stored module (regions scope) := by
  unfold ownNames ownParameters regions
  cases scope.label <;> simp [stored]

/-- **The names that the search takes for bound** in a scope. -/
theorem mem_ownNames_iff (conforming : scope.Conforming) :
    name ∈ ownNames module scope ↔ name ∈ ownParameters scope ∨
      BindsOpenly module name scope ∧ ¬Declares module globalNames name scope ∧
        ¬Declares module nonlocalNames name scope := by
  have binds : name ∈ (regions scope).flatMap (bound module) ↔ BindsOpenly module name scope := by
    rw [List.mem_flatMap, BindsOpenly]
    refine exists_congr fun part => and_congr_right fun _ => ?_
    rw [bound_eq, List.mem_flatMap]
  have declares : name ∈ (regions scope).flatMap (declared module) ↔
      Declares module globalNames name scope ∨ Declares module nonlocalNames name scope := by
    simp only [List.mem_flatMap, Declares, ← exists_or, ← and_or_left]
    refine exists_congr fun part => and_congr_right fun member => ?_
    rw [declared_eq module part (conforming.of_mem (mem_preorder_of_regions member)),
      List.mem_flatMap]
    exact exists_congr fun node => and_congr_right fun _ => List.mem_append
  rw [mem_ownNames, stored, List.mem_filter, binds, Bool.not_eq_true', ← Bool.not_eq_true,
    List.contains_iff_mem, declares, not_or]

end Binding

section Evaluating

/-- What opens a scope is not in the open. -/
theorem isClosed_of_opensFor {label : Label} {role : Role} (opens : opensFor label role = true) :
    isClosed module label = true := by
  cases label <;> first | rfl | exact nomatch opens

/-- A place in the open is not that of a first clause. -/
theorem isFirstClause_of_isOpen {frame : Frame α}
    (closed : isClosed module frame.label = false) : isFirstClause (frame :: context) = false := by
  have kind : isComprehension frame.label = false := by
    refine Bool.eq_false_iff.mpr fun kind => ?_
    rw [isClosed_of_opensFor (opensFor_of_isComprehension kind frame.role)] at closed
    exact nomatch closed
  rw [isFirstClause, kind]
  rfl

/-- **In the open** a place is evaluated where what is around it is. -/
theorem scopes_of_isOpen {inner : Context α} (opened : IsOpen module inner)
    (later : isFirstClause outer = false) (node : Tree α) :
    scopes (inner ++ outer) node = scopes outer (Context.fill inner node) := by
  induction inner generalizing node with
  | nil => rfl
  | cons frame inner ih =>
    obtain ⟨here, further⟩ := List.forall_mem_cons.mp opened
    have plain : ¬opensFor frame.label frame.role = true := fun opens => by
      rw [isClosed_of_opensFor opens] at here
      exact nomatch here
    have notFirst : isFirstClause (inner ++ outer) = false := by
      cases inner with
      | nil => exact later
      | cons next inner => exact isFirstClause_of_isOpen (List.forall_mem_cons.mp further).1
    rw [List.cons_append, scopes, if_neg plain, notFirst, Bool.and_false,
      if_neg Bool.false_ne_true]
    exact ih further (frame.fill node)

/-- Whether the place that is left in a context is the target of an assignment expression. -/
def isAssigned : Context α → Bool
  | [] => false
  | frame :: _ => decide (frame.label = .namedExpr) && decide (frame.role = .target)

/-- What is around a part of a scope leaves it to be evaluated in that scope. -/
structure Surrounds (scope part : Tree α) (outer : Context α) : Prop where
  filled : scope = Context.fill outer part
  later : isFirstClause outer = false
  unassigned : isAssigned outer = false
  inside : scopes outer part = [scope]

variable {part : Tree α}

/-- Every child has a frame. -/
theorem exists_frame {role : Role} (member : part ∈ scope.having role) :
    ∃ frame : Frame α, frame.label = scope.label ∧ frame.role = role ∧ frame.fill part = scope := by
  obtain ⟨tag, label, children⟩ := scope
  obtain ⟨before, after, same⟩ := List.append_of_mem (mem_having.mp member)
  obtain rfl : children = before ++ (role, part) :: after := same
  exact ⟨⟨tag, label, before, role, after⟩, rfl, rfl, rfl⟩

/-- The statements of a function or a class. -/
theorem exists_surrounds_body (opens : opensFor scope.label .body = true)
    (kind : isComprehension scope.label = false) (member : part ∈ scope.having .body) :
    ∃ outer, Surrounds scope part outer := by
  obtain ⟨frame, label, role, filled⟩ := exists_frame member
  refine ⟨[frame], filled.symm, ?_, ?_, ?_⟩
  · rw [isFirstClause, label, kind]
    rfl
  · rw [isAssigned, role]
    exact Bool.and_false _
  · rw [scopes_of_opens (by rw [label, role]; exact opens), filled]
    rfl

/-- Nothing but a comprehension opens a scope for a target. -/
theorem opensFor_target {label : Label} (plain : isComprehension label = false) :
    opensFor label .target = false := by
  unfold opensFor
  split <;> first | rfl | exact plain

/-- A clause, like every other part, is neither a comprehension nor an assignment expression. -/
theorem isComprehension_of_part {label : Label} (part : label.family = .part) :
    isComprehension label = false ∧ label ≠ .namedExpr := by
  constructor
  · refine Bool.eq_false_iff.mpr fun kind => ?_
    unfold isComprehension at kind
    split at kind <;> first | cases part | cases kind
  · rintro rfl
    cases part

/-- The targets of a comprehension. -/
theorem exists_surrounds_target (conforms : scope.Conforms)
    (kind : isComprehension scope.label = true) (member : part ∈ comprehensionTargets scope) :
    ∃ outer, Surrounds scope part outer := by
  obtain ⟨clause, isClause, isTarget⟩ := List.mem_flatMap.mp member
  obtain ⟨noComprehension, noNamedExpr⟩ :=
    isComprehension_of_part (conforms.families _ (mem_having.mp isClause))
  obtain ⟨above, labelAbove, -, filledAbove⟩ := exists_frame isClause
  obtain ⟨frame, label, role, filled⟩ := exists_frame isTarget
  have plain : isComprehension frame.label = false := label ▸ noComprehension
  have closed : opensFor frame.label frame.role = false := by
    rw [role]
    exact opensFor_target plain
  have outermost : scopes [above] clause = [scope] := by
    rw [scopes_of_opens (by rw [labelAbove]; exact opensFor_of_isComprehension kind _), filledAbove]
    rfl
  refine ⟨[frame, above], ?_, ?_, ?_, ?_⟩
  · rw [fill_cons, fill_cons, filled, filledAbove]
    rfl
  · rw [isFirstClause, plain]
    rfl
  · rw [isAssigned, label, decide_eq_false noNamedExpr]
    rfl
  · rw [scopes, closed, if_neg Bool.false_ne_true, role, filled]
    simpa using outermost

/-- **The parts of a scope** in which names are stored are evaluated in that scope. -/
theorem exists_surrounds (conforming : scope.Conforming) (member : part ∈ regions scope) :
    ∃ outer, Surrounds scope part outer := by
  have conforms := conforming scope (self_mem_preorder scope)
  unfold regions at member
  split at member <;> rename_i label
  · exact exists_surrounds_body (by rw [label]; rfl) (by rw [label]; rfl) member
  · exact exists_surrounds_body (by rw [label]; rfl) (by rw [label]; rfl) member
  · exact exists_surrounds_target conforms (by rw [label]; rfl) member
  · exact exists_surrounds_target conforms (by rw [label]; rfl) member
  · exact exists_surrounds_target conforms (by rw [label]; rfl) member
  · exact exists_surrounds_target conforms (by rw [label]; rfl) member
  · exact absurd member List.not_mem_nil

end Evaluating

section Resolving

/-- The scopes of a place from the one on in which a name is bound there. -/
def bindingScopes (context : Context α) (tree : Tree α) : List (Tree α) :=
  if isAssigned context then
    (scopes context tree).dropWhile fun scope => isComprehension scope.label
  else scopes context tree

/-- No assignment expression stands in the targets of a scope, if that is a comprehension. -/
def Unassigned (scope : Tree α) : Prop :=
  isComprehension scope.label = true →
    ∀ part ∈ regions scope, ∀ node ∈ part.preorder, node.label ≠ .namedExpr

instance (scope : Tree α) : Decidable (Unassigned scope) :=
  inferInstanceAs (Decidable (_ → ∀ part ∈ regions scope, ∀ node ∈ part.preorder, _))

/-- **What is bound in the open** of a scope is bound in that scope. -/
theorem exists_place_of_bindsOpenly (conforming : scope.Conforming) (unassigned : Unassigned scope)
    (binds : BindsOpenly module name scope) : ∃ place ∈ places [] scope,
      name ∈ boundOtherwise module place.2 ∧ bindingScopes place.1 place.2 = [scope] := by
  obtain ⟨part, member, node, inOpen, here⟩ := binds
  obtain ⟨inner, filled, opened⟩ := mem_openNodes.mp inOpen
  obtain ⟨outer, surrounds⟩ := exists_surrounds conforming member
  have evaluated : scopes (inner ++ outer) node = [scope] := by
    rw [scopes_of_isOpen opened surrounds.later, ← filled, surrounds.inside]
  refine ⟨(inner ++ outer, node), mem_places.mpr ⟨inner ++ outer, by simp, ?_⟩, here, ?_⟩
  · rw [fill_append, ← filled]
    exact surrounds.filled
  · unfold bindingScopes
    split
    · rename_i assigned
      rw [evaluated]
      refine List.dropWhile_cons_of_neg fun kind => ?_
      cases inner with
      | nil => exact absurd (surrounds.unassigned.symm.trans assigned) Bool.false_ne_true
      | cons frame inner =>
        have named : frame.label = .namedExpr := by
          simp only [List.cons_append, isAssigned, Bool.and_eq_true, decide_eq_true_eq] at assigned
          exact assigned.1
        refine unassigned kind part member (frame.fill node) ?_ named
        rw [filled]
        exact mem_preorder_fill inner (frame.fill node)
    · exact evaluated

/-- **A scope binds a name** as a parameter, or at a place within it, unless it declares that the
name belongs elsewhere. What a node binds is given, and may leave out what imports of the macro
bind. -/
def Binds (binding : Tree α → List String) (module name : String) (scope : Tree α) : Prop :=
  name ∈ ownParameters scope ∨
    (∃ place ∈ places [] scope,
      name ∈ binding place.2 ∧ bindingScopes place.1 place.2 = [scope]) ∧
    ¬Declares module globalNames name scope ∧ ¬Declares module nonlocalNames name scope

variable {binding : Tree α → List String}

/-- What the search takes for bound in a scope is bound there, even without imports of the macro. -/
theorem binds_of_mem_ownNames (counted : ∀ node, boundOtherwise module node ⊆ binding node)
    (conforming : scope.Conforming) (unassigned : Unassigned scope)
    (own : name ∈ ownNames module scope) : Binds binding module name scope := by
  refine ((mem_ownNames_iff conforming).mp own).imp_right fun ⟨binds, declares⟩ => ⟨?_, declares⟩
  obtain ⟨place, inside, here, evaluated⟩ :=
    exists_place_of_bindsOpenly conforming unassigned binds
  exact ⟨place, inside, counted place.2 here, evaluated⟩

/-- The scopes that are seen from a scope, or from inside of it. -/
def seen (inside : Bool) (around : List (Tree α)) : List (Tree α) :=
  if inside then around.dropWhile isClass else around

theorem seen_cons (inside : Bool) (first : Tree α) (outer : List (Tree α)) :
    seen inside (first :: outer) =
      if inside && isClass first then seen true outer else first :: outer := by
  cases inside <;> cases kind : isClass first <;> simp [seen, kind]

variable [DecidableEq α]

instance (binding : Tree α → List String) (module name : String) (scope : Tree α) :
    Decidable (Binds binding module name scope) :=
  inferInstanceAs (Decidable (_ ∨ (∃ place ∈ places [] scope, _ ∧ _) ∧ _ ∧ _))

/-- **The scope that a name resolves to** from some scopes, or nothing for the module. From inside
of a scope a class is passed over. -/
def resolve (binding : Tree α → List String) (module name : String) :
    (inside : Bool) → List (Tree α) → Option (Tree α)
  | _, [] => none
  | inside, scope :: outer =>
    if inside && isClass scope then resolve binding module name true outer
    else if Binds binding module name scope then some scope
    else if Declares module globalNames name scope then none
    else resolve binding module name true outer

/-- **The scope that a name resolves to** binds it. It is one of those that are seen, so the name is
shadowed in them if the search takes it for bound there. -/
theorem resolve_eq_some {inside : Bool}
    (resolved : resolve binding module name inside around = some scope) :
    scope ∈ around ∧ Binds binding module name scope ∧
      (name ∈ ownNames module scope → Shadowed name module (seen inside around)) := by
  induction around generalizing inside with
  | nil => exact nomatch resolved
  | cons first outer ih =>
    rw [seen_cons]
    unfold resolve at resolved
    split at resolved <;> rename_i passed
    · obtain ⟨member, binds, shadowed⟩ := ih resolved
      rw [if_pos passed]
      exact ⟨List.mem_cons_of_mem _ member, binds, shadowed⟩
    · rw [if_neg passed, shadowed_cons]
      split at resolved
      · rename_i binds
        obtain rfl := Option.some.inj resolved
        exact ⟨List.mem_cons_self, binds, Or.inl⟩
      · split at resolved
        · exact nomatch resolved
        · obtain ⟨member, binds, shadowed⟩ := ih resolved
          exact ⟨List.mem_cons_of_mem _ member, binds, fun own => Or.inr (shadowed own)⟩

/-- **What is shadowed resolves to a scope**, even without imports of the macro, unless a scope around
declares that the name belongs to the module. -/
theorem resolve_isSome_of_shadowed {inside : Bool}
    (counted : ∀ node, boundOtherwise module node ⊆ binding node)
    (conforming : ∀ scope ∈ around, scope.Conforming)
    (unassigned : ∀ scope ∈ around, Unassigned scope)
    (notGlobal : ∀ scope ∈ around, ¬Declares module globalNames name scope)
    (shadowed : Shadowed name module (seen inside around)) :
    (resolve binding module name inside around).isSome = true := by
  induction around generalizing inside with
  | nil => exact absurd shadowed (by cases inside <;> exact not_shadowed_nil)
  | cons first outer ih =>
    obtain ⟨conforms, conforming⟩ := List.forall_mem_cons.mp conforming
    obtain ⟨plain, unassigned⟩ := List.forall_mem_cons.mp unassigned
    obtain ⟨here, notGlobal⟩ := List.forall_mem_cons.mp notGlobal
    have further := @ih true conforming unassigned notGlobal
    rw [seen_cons] at shadowed
    rw [resolve]
    by_cases passed : (inside && isClass first) = true
    · rw [if_pos passed] at shadowed ⊢
      exact further shadowed
    · rw [if_neg passed] at shadowed ⊢
      by_cases bound : Binds binding module name first
      · rw [if_pos bound]
        rfl
      · rw [if_neg bound, if_neg here]
        rcases shadowed_cons.mp shadowed with own | around
        · exact absurd (binds_of_mem_ownNames counted conforms plain own) bound
        · exact further around

/-- **What captures a reference is not in the open.** A name that is not shadowed may resolve to a
scope. It is then no parameter there, and in the open only imports of the macro bind it. -/
theorem not_bindsOpenly_of_resolve (conforming : scope.Conforming)
    (free : ¬Shadowed name module around)
    (resolved : resolve binding module name false around = some scope) :
    name ∉ ownParameters scope ∧ ¬BindsOpenly module name scope := by
  obtain ⟨-, binds, shadowed⟩ := resolve_eq_some resolved
  have other : name ∉ ownNames module scope := fun own => free (shadowed own)
  rw [mem_ownNames_iff conforming, not_or] at other
  obtain ⟨noParameter, notOpen⟩ := other
  refine ⟨noParameter, fun openly => notOpen ⟨openly, ?_⟩⟩
  exact (binds.resolve_left noParameter).2

/-- A scope is ordinary for a name if what binds the name there is in the open and no import of the
macro, and the name is not declared to belong to the module. -/
structure Ordinary (module name : String) (scope : Tree α) : Prop where
  unassigned : Unassigned scope
  notGlobal : ¬Declares module globalNames name scope
  openly : Binds boundHere module name scope → name ∈ ownParameters scope ∨ BindsOpenly module name scope

/-- In ordinary scopes a name resolves to the module exactly if it is not shadowed. -/
theorem resolve_eq_none_iff (conforming : ∀ scope ∈ around, scope.Conforming)
    (ordinary : ∀ scope ∈ around, Ordinary module name scope) :
    resolve boundHere module name false around = none ↔ ¬Shadowed name module around := by
  constructor
  · intro resolved shadowed
    have some := @resolve_isSome_of_shadowed _ name module around boundHere _ false
      (boundOtherwise_subset module) conforming
      (fun scope member => (ordinary scope member).unassigned)
      (fun scope member => (ordinary scope member).notGlobal) shadowed
    rw [resolved] at some
    exact nomatch some
  · intro free
    refine Option.eq_none_iff_forall_ne_some.mpr fun scope resolved => ?_
    obtain ⟨member, binds, -⟩ := resolve_eq_some resolved
    obtain ⟨noParameter, notOpen⟩ :=
      not_bindsOpenly_of_resolve (conforming scope member) free resolved
    exact ((ordinary scope member).openly binds).elim noParameter notOpen

end Resolving

section Modules

/-- The scopes of a place are nodes of the tree. -/
theorem mem_preorder_of_scopes (member : scope ∈ scopes context node) :
    scope ∈ (Context.fill context node).preorder := by
  induction context generalizing node with
  | nil => exact absurd member List.not_mem_nil
  | cons frame outer ih =>
    have around : scope ∈ scopes outer (frame.fill node) →
        scope ∈ (Context.fill outer (frame.fill node)).preorder := ih
    rw [scopes] at member
    split at member
    · rcases List.mem_cons.mp member with rfl | further
      · exact mem_preorder_fill outer (frame.fill node)
      · exact around further
    · split at member
      · exact around (List.mem_of_mem_tail member)
      · exact around member

variable [DecidableEq α]

/-- **In a module of ordinary scopes** the references to a name are the places at which it is read
and resolves to the module, each of them once. -/
theorem references_perm_resolve (place : α → Option Position) (conforming : tree.Conforming)
    (ordinary : ∀ scope ∈ tree.preorder, Ordinary module name scope) :
    (references place name module tree).Perm
      (((places [] tree).filter fun place => place.2.label = .name name .load ∧
        resolve boundHere module name false (scopes place.1 place.2) = none).map fun place => place.2.tag) := by
  have fits : Fits name module (.plain {}) [] tree := ⟨agrees_module, agrees_module⟩
  refine ((List.mergeSort_perm _ _).trans (collect_perm tree [] conforming fits)).trans ?_
  rw [tagsRead, List.filter_congr]
  rintro ⟨context, node⟩ member
  obtain ⟨deeper, rfl, rfl⟩ := mem_places.mp member
  rw [List.append_nil]
  have within : ∀ scope ∈ scopes deeper node,
      scope ∈ (Context.fill deeper node).preorder := fun scope => mem_preorder_of_scopes
  have resolves := resolve_eq_none_iff (fun scope member => conforming.of_mem (within scope member))
    fun scope member => ordinary scope (within scope member)
  exact decide_eq_decide.mpr (and_congr_right fun _ => resolves.symm)

/-- A program in which a comprehension assigns to `If` in the function around it, and a function in a
function with a parameter `If` declares that it means that of the module:
```
def f(y):
    [(If := x) for x in y]
    return If
def g(If):
    def h():
        global If
        return If
```
-/
def redirecting : SourceTree :=
  .node none .module [
    (.body, .node (some ⟨1, 0⟩) (.functionDef false "f") [
      (.args, .node none (.arguments []) [(.args, .node (some ⟨1, 6⟩) (.arg "y") [])]),
      (.body, .node (some ⟨2, 4⟩) .exprStmt [(.value, .node (some ⟨2, 4⟩) .listComp [
        (.elt, .node (some ⟨2, 6⟩) .namedExpr [(.target, naming 2 6 "If" .store),
          (.value, naming 2 12 "x" .load)]),
        (.generators, .node none (.comprehension false) [(.target, naming 2 19 "x" .store),
          (.iter, naming 2 24 "y" .load)])])]),
      (.body, .node (some ⟨3, 4⟩) .returnStmt [(.value, naming 3 11 "If" .load)])]),
    (.body, .node (some ⟨4, 0⟩) (.functionDef false "g") [
      (.args, .node none (.arguments []) [(.args, .node (some ⟨4, 6⟩) (.arg "If") [])]),
      (.body, .node (some ⟨5, 4⟩) (.functionDef false "h") [
        (.args, .node none (.arguments []) []),
        (.body, .node (some ⟨6, 8⟩) (.globalStmt ["If"]) []),
        (.body, .node (some ⟨7, 8⟩) .returnStmt [(.value, naming 7 15 "If" .load)])])])]

-- The name that `f` returns is a reference though it resolves to `f`, and the one that `h` returns
-- is none though it resolves to the module.
example : (((places [] redirecting).filter fun place => place.2.label = .name "If" .load).map
      fun place => (place.2.tag, decide (IsReference "If" "m" place),
        (resolve boundHere "m" "If" false (scopes place.1 place.2)).map Tree.label)) =
    [(some ⟨3, 11⟩, true, some (.functionDef false "f")), (some ⟨7, 15⟩, false, none)] := by
  decide +kernel

end Modules

end Scope

end IfChains
