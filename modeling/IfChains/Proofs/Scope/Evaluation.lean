/-
**The scopes in which the names of a module are read.**

Each place of a tree has the scopes that it is evaluated in, from the inside out: those of the
functions, lambda expressions, classes and comprehensions around it, without the parts of them that
belong to the scope around. Whether a name is shadowed in a scope is told by these scopes alone. The
references to a name are the places at which it is read and not shadowed.

* `scopes`, `Shadowed`: the scopes of a place, and whether a name is shadowed in them;
* `fits_zoneOf`: going down the tree, the collector keeps to the scopes of the place;
* `collect_perm`: what is collected in a tree are the references in its places;
* `references_evaluated`: the references to a name in a tree.
-/

import IfChains.Proofs.Syntax.Conforming
import IfChains.Proofs.Syntax.Places
import IfChains.Scope.References
import Mathlib.Data.List.Flatten

namespace IfChains

open IfChains.Tree

namespace Position

theorem before_trans {first second third : Position} (one : first.before second = true)
    (two : second.before third = true) : first.before third = true := by
  simp only [before, Bool.or_eq_true, Bool.and_eq_true, decide_eq_true_eq, beq_iff_eq]
    at one two ⊢
  omega

/-- Of two places in a text one comes before the other. -/
theorem before_total (first second : Position) :
    (first.before second || second.before first) = true := by
  simp only [before, Bool.or_eq_true, Bool.and_eq_true, decide_eq_true_eq, beq_iff_eq]
  omega

end Position

namespace Scope

variable {α : Type} {name module : String} {context : Context α} {tree scope : Tree α}
  {outer : List (Tree α)} {shadow : Shadow} {zone : Zone}

section Scopes

/-- Whether a node is a comprehension. -/
def isComprehension : Label → Bool
  | .listComp | .setComp | .dictComp | .generatorExp => true
  | _ => false

/-- Whether a node is a clause of a comprehension. -/
def isClause : Label → Bool
  | .comprehension _ => true
  | _ => false

/-- Whether a node is a class. -/
def isClass (tree : Tree α) : Bool :=
  match tree.label with
  | .classDef _ => true
  | _ => false

/-- Whether a node opens a scope for what has some role in it: a function, a lambda expression and a
class for the body, a comprehension for everything. -/
def opensFor : Label → Role → Bool
  | .functionDef .., role | .classDef _, role | .lambda, role => role = .body
  | label, _ => isComprehension label

/-- Whether the place that is left in a context is that of the first clause of a comprehension. -/
def isFirstClause : Context α → Bool
  | [] => false
  | frame :: _ => isComprehension frame.label && frame.role = .generators &&
      (inRole .generators frame.before).isEmpty

/-- **The scopes of a place**, from the inside out, without that of the module. The iterable of the
first clause of a comprehension is evaluated outside of the scope of the comprehension. -/
def scopes : Context α → Tree α → List (Tree α)
  | [], _ => []
  | frame :: outer, tree =>
    let around := scopes outer (frame.fill tree)
    if opensFor frame.label frame.role then frame.fill tree :: around
    else if isClause frame.label && frame.role = .iter && isFirstClause outer then around.tail
    else around

/-- **A name is shadowed in a scope** if the scope binds it, or if it is shadowed in the nearest
scope around that is no class. In the scope of the module it is not shadowed. -/
inductive Shadowed (name module : String) : List (Tree α) → Prop
  | binds {scope : Tree α} {outer : List (Tree α)} (own : name ∈ ownNames module scope) :
      Shadowed name module (scope :: outer)
  | inherits {scope : Tree α} {outer : List (Tree α)}
      (around : Shadowed name module (outer.dropWhile isClass)) :
      Shadowed name module (scope :: outer)

/-- A place at which a name is read where it is not shadowed. -/
def IsReference (name module : String) (place : Context α × Tree α) : Prop :=
  place.2.label = .name name .load ∧ ¬Shadowed name module (scopes place.1 place.2)

end Scopes

section Shadows

theorem not_shadowed_nil : ¬Shadowed name module ([] : List (Tree α)) :=
  fun shadowed => nomatch shadowed

theorem shadowed_cons : Shadowed name module (scope :: outer) ↔
    name ∈ ownNames module scope ∨ Shadowed name module (outer.dropWhile isClass) := by
  constructor
  · rintro (own | around)
    · exact Or.inl own
    · exact Or.inr around
  · rintro (own | around)
    · exact .binds own
    · exact .inherits around

/-- Whether one of some scopes that is no class binds a name. -/
def bindsOutside (name module : String) (scopes : List (Tree α)) : Bool :=
  scopes.any fun scope => !isClass scope && (ownNames module scope).contains name

/-- What a scope inherits is bound by some scope around that is no class. -/
theorem shadowed_dropWhile_iff (outer : List (Tree α)) :
    Shadowed name module (outer.dropWhile isClass) ↔ bindsOutside name module outer = true := by
  induction outer with
  | nil => exact iff_of_false not_shadowed_nil Bool.false_ne_true
  | cons scope outer ih =>
    rw [bindsOutside, List.any_cons, ← bindsOutside]
    cases kind : isClass scope with
    | true =>
      rw [List.dropWhile_cons_of_pos kind, Bool.not_true, Bool.false_and, Bool.false_or]
      exact ih
    | false =>
      rw [List.dropWhile_cons_of_neg (Bool.eq_false_iff.mp kind), shadowed_cons, ih, Bool.not_false,
        Bool.true_and, Bool.or_eq_true, List.contains_iff_mem]

instance (name module : String) (scopes : List (Tree α)) :
    Decidable (Shadowed name module scopes) :=
  match scopes with
  | [] => isFalse not_shadowed_nil
  | scope :: outer =>
    decidable_of_iff (name ∈ ownNames module scope ∨ bindsOutside name module outer = true)
      (by rw [shadowed_cons, shadowed_dropWhile_iff])

instance (name module : String) (place : Context α × Tree α) :
    Decidable (IsReference name module place) :=
  inferInstanceAs (Decidable (_ ∧ _))

/-- A shadow tells whether the name is shadowed in the innermost of some scopes, and whether it is
for what a scope within them inherits. -/
structure Agrees (name module : String) (shadow : Shadow) (scopes : List (Tree α)) : Prop where
  here : shadow.here = true ↔ Shadowed name module scopes
  inside : shadow.inside = true ↔ Shadowed name module (scopes.dropWhile isClass)

theorem agrees_module : Agrees name module {} ([] : List (Tree α)) :=
  ⟨iff_of_false Bool.false_ne_true not_shadowed_nil,
    iff_of_false Bool.false_ne_true not_shadowed_nil⟩

/-- **Entering a scope.** -/
theorem Agrees.enter (agrees : Agrees name module shadow outer) (scope : Tree α) :
    Agrees name module
      (innerShadow scope.label shadow ((ownNames module scope).contains name))
      (scope :: outer) := by
  have binds : ((ownNames module scope).contains name || shadow.inside) = true ↔
      Shadowed name module (scope :: outer) := by
    rw [Bool.or_eq_true, List.contains_iff_mem, agrees.inside, shadowed_cons]
  unfold innerShadow
  split
  · rename_i label
    have kind : isClass scope = true := by
      rw [isClass, label]
    have outside : (scope :: outer).dropWhile isClass = outer.dropWhile isClass :=
      List.dropWhile_cons_of_pos kind
    exact ⟨binds, outside ▸ agrees.inside⟩
  · rename_i other
    have kind : isClass scope = false := by
      unfold isClass
      split
      · rename_i name label
        exact absurd label (other name)
      · rfl
    have inside : (scope :: outer).dropWhile isClass = scope :: outer :=
      List.dropWhile_cons_of_neg (Bool.eq_false_iff.mp kind)
    exact ⟨binds, inside.symm ▸ binds⟩

end Shadows

section Zones

/-- A zone tells the shadows at a place, and for the iterable of a clause that stands there. -/
structure Fits (name module : String) (zone : Zone) (context : Context α) (tree : Tree α) :
    Prop where
  shadow : Agrees name module zone.shadow (scopes context tree)
  iterable : Agrees name module zone.iterable
    (if isFirstClause context then (scopes context tree).tail else scopes context tree)

/-- Where children stand, told by what their parent does for them. -/
theorem zoneOf_eq (label : Label) (zone : Zone) (inner : Shadow) (first : Bool) (role : Role) :
    zoneOf label zone inner first role =
      if opensFor label role then
        if isComprehension label && role = .generators && first then
          .firstClause inner zone.shadow
        else .plain inner
      else .plain (if isClause label && role = .iter then zone.iterable else zone.shadow) := by
  cases label <;> simp [zoneOf, opensFor, isComprehension, isClause] <;> split <;> simp_all

/-- Everything in a comprehension is in its scope but the first iterable. -/
theorem opensFor_of_isComprehension {label : Label} (kind : isComprehension label = true)
    (role : Role) : opensFor label role = true := by
  cases label <;> first | rfl | exact nomatch kind

/-- What a node opens a scope for is evaluated in that scope. -/
theorem scopes_of_opens {frame : Frame α} (opens : opensFor frame.label frame.role = true) :
    scopes (frame :: context) tree = frame.fill tree :: scopes context (frame.fill tree) := by
  rw [scopes, if_pos opens]

/-- A node other than the first clause of a comprehension. -/
theorem fits_plain (later : isFirstClause context = false)
    (agrees : Agrees name module shadow (scopes context tree)) :
    Fits name module (.plain shadow) context tree := by
  refine ⟨agrees, ?_⟩
  rw [later, if_neg Bool.false_ne_true]
  exact agrees

/-- The first clause of a comprehension, whose iterable is outside. -/
theorem fits_firstClause {outside : Shadow} (first : isFirstClause context = true)
    (agrees : Agrees name module shadow (scopes context tree))
    (around : Agrees name module outside (scopes context tree).tail) :
    Fits name module (.firstClause shadow outside) context tree := by
  refine ⟨agrees, ?_⟩
  rw [if_pos first]
  exact around

/-- Where a node opens no scope, a place beneath it is evaluated as the zone of the node says. -/
theorem Fits.agrees_beneath {frame : Frame α}
    (fits : Fits name module zone context (frame.fill tree))
    (closed : ¬opensFor frame.label frame.role = true) :
    Agrees name module
      (if isClause frame.label && frame.role = .iter then zone.iterable else zone.shadow)
      (scopes (frame :: context) tree) := by
  rw [scopes, if_neg closed]
  by_cases iter : (isClause frame.label && decide (frame.role = .iter)) = true
  · rw [if_pos iter, iter, Bool.true_and]
    exact fits.iterable
  · rw [if_neg iter, Bool.eq_false_iff.mpr iter, Bool.false_and, if_neg Bool.false_ne_true]
    exact fits.shadow

/-- **Going down to a child**, the zone keeps to the scopes of the place. -/
theorem fits_zoneOf {frame : Frame α}
    (fits : Fits name module zone context (frame.fill tree)) :
    Fits name module
      (zoneOf frame.label zone (innerShadow frame.label zone.shadow
        ((ownNames module (frame.fill tree)).contains name))
        (inRole .generators frame.before).isEmpty frame.role)
      (frame :: context) tree := by
  rw [zoneOf_eq]
  by_cases opens : opensFor frame.label frame.role = true
  · have around := @scopes_of_opens _ context tree _ opens
    have entered := fits.shadow.enter (frame.fill tree)
    rw [← around] at entered
    rw [if_pos opens]
    split
    · rename_i first
      refine fits_firstClause first entered ?_
      rw [around]
      exact fits.shadow
    · rename_i later
      exact fits_plain (Bool.eq_false_iff.mpr later) entered
  · have later : isFirstClause (frame :: context) = false := by
      have kind : isComprehension frame.label = false :=
        Bool.eq_false_iff.mpr fun kind => opens (opensFor_of_isComprehension kind frame.role)
      rw [isFirstClause, kind]
      rfl
    rw [if_neg opens]
    exact fits_plain later (fits.agrees_beneath opens)

end Zones

section Collecting

/-- The order in which children are looked at has each of the roles of a node once. -/
theorem visitOrder_spec {label : Label} {roles : List Role}
    (order : visitOrder label zone = some roles) :
    roles.Nodup ∧ label.fields.map Prod.fst ⊆ roles := by
  unfold visitOrder at order
  split at order <;> cases order <;>
    exact ⟨of_decide_eq_true rfl, of_decide_eq_true rfl⟩

/-- A role that is looked at once brings what it has once. -/
theorem flatMap_role {roles : List Role} {role : Role} (distinct : roles.Nodup)
    (known : role ∈ roles) (tags : List α) :
    (roles.flatMap fun other => if role = other then tags else []) = tags := by
  obtain ⟨before, after, rfl⟩ := List.append_of_mem known
  rw [List.nodup_middle, List.nodup_cons, List.mem_append, not_or] at distinct
  have none : ∀ others : List Role, role ∉ others →
      (others.flatMap fun other => if role = other then tags else []) = [] := by
    intro others absent
    refine List.flatMap_eq_nil_iff.mpr fun other member => if_neg ?_
    rintro rfl
    exact absent member
  rw [List.flatMap_append, List.flatMap_cons, none before distinct.1.1, none after distinct.1.2,
    if_pos rfl, List.nil_append, List.append_nil]

/-- **What is found is all there** in an order that has each role once. -/
theorem inOrder_perm {roles : List Role} {found : List (Role × List α)} (distinct : roles.Nodup)
    (covered : found.map Prod.fst ⊆ roles) :
    (inOrder roles found).Perm (found.flatMap Prod.snd) := by
  induction found with
  | nil => simp [inOrder]
  | cons first rest ih =>
    obtain ⟨role, tags⟩ := first
    obtain ⟨known, covered⟩ := List.cons_subset.mp covered
    have apart : (inOrder roles ((role, tags) :: rest)).Perm
        ((roles.flatMap fun other => if role = other then tags else []) ++ inOrder roles rest) := by
      unfold inOrder
      simp only [List.flatMap_cons]
      exact (List.flatMap_append_perm ..).symm
    rw [flatMap_role distinct known] at apart
    exact apart.trans ((ih covered).append_left tags)

/-- The tags of the references among some places. -/
def tagsRead (name module : String) (places : List (Context α × Tree α)) : List α :=
  (places.filter fun place => IsReference name module place).map fun place => place.2.tag

@[simp]
theorem tagsRead_append (first second : List (Context α × Tree α)) :
    tagsRead name module (first ++ second) =
      tagsRead name module first ++ tagsRead name module second := by
  simp [tagsRead]

/-- What is found in a forest is found in its trees, each with its role. -/
theorem roles_collectForest (zone : Bool → Role → Zone) (first : Bool) (forest : Forest α) :
    (collectForest name module zone first forest).map Prod.fst = forest.map Prod.fst := by
  induction forest generalizing first with
  | nil => rw [collectForest, List.map_nil, List.map_nil]
  | cons child rest ih =>
    obtain ⟨role, tree⟩ := child
    rw [collectForest, List.map_cons, List.map_cons, ih]

/-- The name at a place itself, if it is a reference. -/
theorem tagsRead_cons (agrees : Agrees name module zone.shadow (scopes context tree))
    (places : List (Context α × Tree α)) : tagsRead name module ((context, tree) :: places) =
      (if tree.label = .name name .load && !zone.shadow.here then [tree.tag] else []) ++
        tagsRead name module places := by
  have here : (decide (tree.label = .name name .load) && !zone.shadow.here) =
      decide (IsReference name module (context, tree)) := by
    rw [Bool.eq_iff_iff, Bool.and_eq_true, decide_eq_true_eq, decide_eq_true_eq, IsReference,
      Bool.not_eq_true', ← Bool.not_eq_true, agrees.here]
  rw [here]
  by_cases reference : IsReference name module (context, tree)
  · simp [tagsRead, reference]
  · simp [tagsRead, reference]

mutual

/-- **What is collected in a tree** are the references in its places. -/
theorem collect_perm {zone : Zone} : (tree : Tree α) → (context : Context α) → tree.Conforming →
    Fits name module zone context tree →
    (collect name module zone tree).Perm (tagsRead name module (places context tree))
  | .node tag label children, context, conforming, fits => by
    obtain ⟨conforms, beneath⟩ := conforming_node.mp conforming
    have inside := collectForest_perm children context tag label [] beneath fits
    rw [collect, places, tagsRead_cons fits.shadow]
    refine List.Perm.append_left _ (List.Perm.trans ?_ inside)
    split
    · rename_i roles order
      obtain ⟨distinct, covers⟩ := visitOrder_spec order
      refine inOrder_perm distinct ?_
      rw [roles_collectForest]
      intro role member
      obtain ⟨child, among, rfl⟩ := List.mem_map.mp member
      exact covers (conforms.roles child among)
    · exact .refl _

/-- What is collected in the children of a node from one of them on. -/
theorem collectForest_perm {zone : Zone} : (forest : Forest α) → (context : Context α) →
    (tag : α) → (label : Label) → (before : Forest α) →
    (∀ child ∈ forest, child.2.Conforming) →
    Fits name module zone context (.node tag label (before ++ forest)) →
    ((collectForest name module (zoneOf label zone (innerShadow label zone.shadow
        ((ownNames module (.node tag label (before ++ forest))).contains name)))
        (inRole .generators before).isEmpty forest).flatMap Prod.snd).Perm
      (tagsRead name module (placesIn context tag label before forest))
  | [], _, _, _, _, _, _ => by
    rw [collectForest, placesIn]
    exact .refl _
  | (role, tree) :: rest, context, tag, label, before, conforming, fits => by
    obtain ⟨here, later⟩ := List.forall_mem_cons.mp conforming
    have same : before ++ (role, tree) :: rest = before ++ [(role, tree)] ++ rest := by simp
    have first : ((inRole .generators before).isEmpty && role != .generators) =
        (inRole .generators (before ++ [(role, tree)])).isEmpty := by
      rw [inRole_append]
      by_cases generator : role = .generators
      · subst generator
        simp
      · rw [inRole_cons_other tree [] generator]
        simp [generator, inRole]
    rw [collectForest, placesIn, tagsRead_append, List.flatMap_cons, first]
    have inside := @fits_zoneOf _ name module context tree zone ⟨tag, label, before, role, rest⟩ fits
    refine (collect_perm tree _ here inside).append ?_
    rw [same] at fits ⊢
    exact collectForest_perm rest context tag label _ later fits

end

end Collecting

section Order

variable (place : α → Option Position)

/-- **The references are in the order of the text.** -/
theorem pairwise_references (tree : Tree α) :
    (references place name module tree).Pairwise fun first second =>
      ((place first).getD ⟨0, 0⟩).before ((place second).getD ⟨0, 0⟩) = true := by
  unfold references
  refine List.pairwise_mergeSort (fun first second third => ?_) (fun first second => ?_) _
  · exact Position.before_trans
  · exact Position.before_total _ _

/-- **The references to a name in a module** are, in the order of the text, the places at which the
name is read where it is not shadowed in the scope that the place is evaluated in. Each of them is
there once. -/
theorem references_evaluated (name module : String) (conforming : tree.Conforming) :
    (∃ found : List (Context α × Tree α), found.Nodup ∧
      (∀ context node, (context, node) ∈ found ↔ tree = Context.fill context node ∧
        node.label = .name name .load ∧ ¬Shadowed name module (scopes context node)) ∧
      (references place name module tree).Perm (found.map fun place => place.2.tag)) ∧
    (references place name module tree).Pairwise fun first second =>
      ((place first).getD ⟨0, 0⟩).before ((place second).getD ⟨0, 0⟩) = true := by
  have fits : Fits name module (.plain {}) [] tree := ⟨agrees_module, agrees_module⟩
  refine ⟨⟨(places [] tree).filter fun place => IsReference name module place,
    (nodup_places tree []).filter _, fun context node => ?_, ?_⟩, pairwise_references place tree⟩
  · rw [List.mem_filter, decide_eq_true_eq, mem_places, IsReference]
    simp
  · exact (List.mergeSort_perm _ _).trans (collect_perm tree [] conforming fits)

/-- A name with a position. -/
def naming (line column : Nat) (id : String) (usage : Usage) : SourceTree :=
  .node (some ⟨line, column⟩) (.name id usage) []

/-- A program in which a comprehension and a class bind the name `If`, and a function in the class
reads it:
```
[If for If in If]
class C:
    If = If
    def f():
        return If
```
-/
def shadowing : SourceTree :=
  .node none .module [
    (.body, .node (some ⟨1, 0⟩) .exprStmt [(.value, .node (some ⟨1, 0⟩) .listComp [
      (.elt, naming 1 1 "If" .load),
      (.generators, .node none (.comprehension false) [(.target, naming 1 8 "If" .store),
        (.iter, naming 1 14 "If" .load)])])]),
    (.body, .node (some ⟨2, 0⟩) (.classDef "C") [
      (.body, .node (some ⟨3, 4⟩) .assign [(.targets, naming 3 4 "If" .store),
        (.value, naming 3 9 "If" .load)]),
      (.body, .node (some ⟨4, 4⟩) (.functionDef false "f") [
        (.args, .node none (.arguments []) []),
        (.body, .node (some ⟨5, 8⟩) .returnStmt [(.value, naming 5 15 "If" .load)])])])]

/-- The iterable of the comprehension and the function in the class refer to the name, and nothing
else does. -/
theorem references_evaluated_shadowing :
    shadowing.Conforming ∧
    references id "If" "m" shadowing = [some ⟨1, 14⟩, some ⟨5, 15⟩] ∧
    ∃ found : List (Context (Option Position) × SourceTree), found.Nodup ∧
      (∀ context node, (context, node) ∈ found ↔ shadowing = Context.fill context node ∧
        node.label = .name "If" .load ∧ ¬Shadowed "If" "m" (scopes context node)) ∧
      (references id "If" "m" shadowing).Perm (found.map fun place => place.2.tag) := by
  have conforming : shadowing.Conforming := by decide
  have collected : collect "If" "m" (.plain {}) shadowing = [some ⟨1, 14⟩, some ⟨5, 15⟩] := by
    decide +kernel
  have sorted : references id "If" "m" shadowing = [some ⟨1, 14⟩, some ⟨5, 15⟩] := by
    rw [references, collected]
    exact List.mergeSort_of_pairwise (by decide)
  exact ⟨conforming, sorted, (references_evaluated id "If" "m" conforming).1⟩

end Order

end Scope

end IfChains
