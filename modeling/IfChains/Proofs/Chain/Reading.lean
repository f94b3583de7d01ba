/-
**How chains are read from a tree.**

* `upTo?_within`, `ofTree?_within`: the head of a chain is a tag of the tree it is read from, and
  its expressions are nodes beneath the root;
* `ofTree?_plain`: the values of its branches are no unpacked expressions;
* `Rebuilds.reading_image`, `Rebuilds.ofTree?_image`: a change of trees that keeps labels and roles
  changes a chain by changing its head and its expressions, also if it turns ended chains into
  something else;
* `upTo?_call`, `ofTree?_call`: the chain at a call of a member of a node up to which there is one.
-/

import IfChains.Proofs.Chain.Grammar
import IfChains.Proofs.Syntax.Conforming

namespace IfChains

open IfChains.Tree

variable {α β : Type}

/-- The expressions of a chain with a further step. -/
theorem Chain.exprs_goOn (chain : Chain α β) (step : Step β) :
    (chain.goOn step).exprs = chain.exprs ++ step.exprs := by
  simp [Chain.exprs, Chain.goOn]

namespace Callee

/-- The head that is called, or the head of the chain that is continued. -/
def tag : Callee α → α
  | head tag => tag
  | member chain _ => chain.head

/-- The expressions of the chain that is continued. -/
def exprs : Callee α → List (Tree α)
  | head _ => []
  | member chain _ => chain.exprs

/-- A call adds its arguments to the expressions of what it calls. -/
theorem called?_exprs {callee : Callee α} {arguments keywords : List (Tree α)}
    {chain : Chain α (Tree α)} (called : callee.called? arguments keywords = some chain) :
    chain.head = callee.tag ∧ chain.exprs = callee.exprs ++ arguments := by
  unfold called? at called
  split at called
  · rw [Option.ite_none_left_eq_some] at called
    obtain ⟨-, same⟩ := called
    cases same
    exact ⟨rfl, rfl⟩
  · obtain ⟨step, found, rfl⟩ := Option.map_eq_some_iff.mp called
    rw [Chain.exprs_goOn, Step.exprs_of_of? found]
    exact ⟨rfl, rfl⟩
  · exact nomatch called

end Callee

namespace Chain

section Origin

/-- What a call calls is one of its children. -/
theorem exists_of_calleeIn? {forest : Forest α} {callee : Callee α}
    (found : calleeIn? forest = some callee) :
    ∃ child ∈ forest, callee? child.2 = some callee := by
  induction forest with
  | nil => exact nomatch found
  | cons child rest ih =>
    obtain ⟨role, tree⟩ := child
    rw [calleeIn?] at found
    split at found
    · exact ⟨(role, tree), List.mem_cons_self, found⟩
    · obtain ⟨child, member, same⟩ := ih found
      exact ⟨child, List.mem_cons_of_mem _ member, same⟩

/-- The chain of a member is read from one of its children. -/
theorem exists_of_valueIn? {forest : Forest α} {chain : Chain α (Tree α)}
    (found : valueIn? forest = some chain) : ∃ child ∈ forest, upTo? child.2 = some chain := by
  induction forest with
  | nil => exact nomatch found
  | cons child rest ih =>
    obtain ⟨role, tree⟩ := child
    rw [valueIn?] at found
    split at found
    · exact ⟨(role, tree), List.mem_cons_self, found⟩
    · obtain ⟨child, member, same⟩ := ih found
      exact ⟨child, List.mem_cons_of_mem _ member, same⟩

/-- A head is a tag of a tree, and expressions are nodes beneath its root. -/
structure Within (head : α) (exprs : List (Tree α)) (tree : Tree α) : Prop where
  head : head ∈ tree.tags
  exprs : ∀ expr ∈ exprs, ∃ child ∈ tree.children, expr ∈ child.2.preorder

/-- What is within a child is within its parent. -/
theorem Within.parent {head : α} {exprs : List (Tree α)} {tag : α} {label : Label}
    {children : Forest α} {child : Role × Tree α} (member : child ∈ children)
    (within : Within head exprs child.2) : Within head exprs (.node tag label children) := by
  refine ⟨mem_tags_of_mem (child_mem_preorder member)
    within.head, fun expr inside => ⟨child, member, ?_⟩⟩
  obtain ⟨inner, beneath, deeper⟩ := within.exprs expr inside
  exact mem_preorder_trans deeper (child_mem_preorder beneath)

/-- Arguments of a node are beneath it. -/
theorem Within.append {head : α} {exprs : List (Tree α)} {tag : α} {label : Label}
    {children : Forest α} (within : Within head exprs (.node tag label children)) (role : Role) :
    Within head (exprs ++ inRole role children) (.node tag label children) := by
  refine ⟨within.head, fun expr inside => ?_⟩
  rcases List.mem_append.mp inside with old | new
  · exact within.exprs expr old
  · exact ⟨(role, expr), mem_inRole.mp new, self_mem_preorder expr⟩

/-- What is called is within the tree it is read from, and so is the chain up to it. -/
theorem reading_within (tree : Tree α) :
    (∀ chain, upTo? tree = some chain → Within chain.head chain.exprs tree) ∧
      ∀ callee, callee? tree = some callee → Within callee.tag callee.exprs tree := by
  induction tree with
  | node tag label children ih =>
    refine ⟨fun chain found => ?_, fun callee found => ?_⟩
    · unfold upTo? at found
      split at found
      · obtain ⟨callee, called, goesOn⟩ := Option.bind_eq_some_iff.mp found
        obtain ⟨child, member, same⟩ := exists_of_calleeIn? called
        obtain ⟨head, exprs⟩ := Callee.called?_exprs goesOn
        rw [head, exprs]
        exact (((ih child member).2 callee same).parent member).append .args
      · exact nomatch found
    · unfold callee? at found
      split at found
      · cases found
        exact ⟨tag_mem_tags (.node tag _ children), fun expr inside => nomatch inside⟩
      · obtain ⟨chain, value, named⟩ := Option.bind_eq_some_iff.mp found
        obtain ⟨continuation, -, rfl⟩ := Option.map_eq_some_iff.mp named
        obtain ⟨child, member, same⟩ := exists_of_valueIn? value
        exact ((ih child member).1 chain same).parent member
      · exact nomatch found

/-- The chain up to a node is within the node. -/
theorem upTo?_within {tree : Tree α} {chain : Chain α (Tree α)} (found : upTo? tree = some chain) :
    Within chain.head chain.exprs tree :=
  (reading_within tree).1 chain found

/-- The chain that ends at a node is within the node. -/
theorem ofTree?_within {tree : Tree α} {chain : Chain α (Tree α)}
    (found : ofTree? tree = some chain) : Within chain.head chain.exprs tree := by
  obtain ⟨tag, label, children⟩ := tree
  obtain ⟨-, continuation, called, -⟩ := exists_of_ended found
  obtain ⟨child, member, same⟩ := exists_of_calleeIn? called
  exact ((reading_within child.2).2 _ same).parent member

/-- What is within a tree is smaller than the tree. -/
theorem Within.size_lt {head : α} {exprs : List (Tree α)} {tree expr : Tree α}
    (within : Within head exprs tree) (inside : expr ∈ exprs) : expr.size < tree.size := by
  obtain ⟨child, member, beneath⟩ := within.exprs expr inside
  obtain ⟨tag, label, children⟩ := tree
  have sublist := (tags_sublist beneath).length_le
  rw [length_tags, length_tags] at sublist
  exact Nat.lt_of_le_of_lt sublist (size_child_lt member)

end Origin

section Values

/-- No value of a branch is an unpacked expression. -/
def Plain (chain : Chain α (Tree β)) : Prop :=
  ∀ branch expr, Step.value branch expr ∈ chain.steps → expr.isStarred = false

/-- A continuation adds a value only if it is no unpacked expression. -/
theorem isStarred_of_of? {continuation : Continuation} {arguments : List (Tree α)} {branch : Branch}
    {expr : Tree α} (found : Step.of? continuation arguments = some (.value branch expr)) :
    expr.isStarred = false := by
  unfold Step.of? at found
  split at found
  · rw [Option.ite_none_left_eq_some] at found
    obtain ⟨plain, same⟩ := found
    cases same
    exact Bool.eq_false_iff.mpr plain
  · rw [Option.ite_none_left_eq_some] at found
    obtain ⟨plain, same⟩ := found
    cases same
    exact Bool.eq_false_iff.mpr plain
  · rw [Option.ite_none_left_eq_some] at found
    exact nomatch found.2
  · exact nomatch found
  · exact nomatch found
  · exact nomatch found

/-- A call adds no unpacked expression as a value. -/
theorem plain_of_called? {callee : Callee α} {arguments keywords : List (Tree α)}
    {chain : Chain α (Tree α)}
    (before : ∀ earlier continuation, callee = .member earlier continuation → earlier.Plain)
    (called : callee.called? arguments keywords = some chain) : chain.Plain := by
  unfold Callee.called? at called
  split at called
  · rw [Option.ite_none_left_eq_some] at called
    obtain ⟨-, same⟩ := called
    cases same
    exact fun _ _ absent => nomatch absent
  · obtain ⟨step, found, rfl⟩ := Option.map_eq_some_iff.mp called
    intro branch expr member
    rcases List.mem_append.mp member with earlier | new
    · exact before _ _ rfl branch expr earlier
    · obtain rfl := List.mem_singleton.mp new
      exact isStarred_of_of? found
  · exact nomatch called

/-- The chain up to a node has no unpacked value, and so has the chain that a callee continues. -/
theorem reading_plain (tree : Tree α) :
    (∀ chain, upTo? tree = some chain → chain.Plain) ∧
      ∀ chain continuation, callee? tree = some (.member chain continuation) → chain.Plain := by
  induction tree with
  | node tag label children ih =>
    refine ⟨fun chain found => ?_, fun chain continuation found => ?_⟩
    · unfold upTo? at found
      split at found
      · obtain ⟨callee, called, goesOn⟩ := Option.bind_eq_some_iff.mp found
        obtain ⟨child, member, same⟩ := exists_of_calleeIn? called
        refine plain_of_called? (fun earlier continuation continued => ?_) goesOn
        exact (ih child member).2 earlier continuation (same.trans (congrArg some continued))
      · exact nomatch found
    · unfold callee? at found
      split at found
      · exact nomatch found
      · obtain ⟨earlier, value, named⟩ := Option.bind_eq_some_iff.mp found
        obtain ⟨continued, -, same⟩ := Option.map_eq_some_iff.mp named
        cases same
        obtain ⟨child, member, same⟩ := exists_of_valueIn? value
        exact (ih child member).1 _ same
      · exact nomatch found

/-- **The chain that ends at a node** has no unpacked expression as a value. -/
theorem ofTree?_plain {tree : Tree α} {chain : Chain α (Tree α)}
    (found : ofTree? tree = some chain) : chain.Plain := by
  obtain ⟨tag, label, children⟩ := tree
  obtain ⟨-, continuation, called, -⟩ := exists_of_ended found
  obtain ⟨child, -, same⟩ := exists_of_calleeIn? called
  exact (reading_plain child.2).2 _ _ same

end Values

section Image

variable {onTag : α → β} {onTree : Tree α → Tree β}

/-- A node with its tag and its children changed. -/
def rebuilt (onTag : α → β) (onTree : Tree α → Tree β) : Tree α → Tree β
  | .node tag label children =>
    .node (onTag tag) label (children.map fun child => (child.1, onTree child.2))

/-- A change of trees that keeps labels and roles; only what is rebuilt as the end of a chain may
become something that is no part of a chain. -/
def Rebuilds (onTag : α → β) (onTree : Tree α → Tree β) : Prop :=
  ∀ tree, onTree tree = rebuilt onTag onTree tree ∨
    (∃ chain, ofTree? (rebuilt onTag onTree tree) = some chain) ∧ upTo? (onTree tree) = none ∧
      callee? (onTree tree) = none ∧ (onTree tree).isStarred = false

/-- What a call calls is changed with its children. -/
theorem calleeIn?_map {forest : Forest α} (each : ∀ child ∈ forest,
      callee? (onTree child.2) = (callee? child.2).map (Callee.map onTag onTree)) :
    calleeIn? (forest.map fun child => (child.1, onTree child.2)) =
      (calleeIn? forest).map (Callee.map onTag onTree) := by
  induction forest with
  | nil => rfl
  | cons child rest ih =>
    obtain ⟨role, tree⟩ := child
    rw [List.map_cons, calleeIn?, calleeIn?, each (role, tree) List.mem_cons_self,
      ih fun child member => each child (List.mem_cons_of_mem _ member)]
    split <;> rfl

/-- The chain of a member is changed with its children. -/
theorem valueIn?_map {forest : Forest α} (each : ∀ child ∈ forest,
      upTo? (onTree child.2) = (upTo? child.2).map (Chain.map onTag onTree)) :
    valueIn? (forest.map fun child => (child.1, onTree child.2)) =
      (valueIn? forest).map (Chain.map onTag onTree) := by
  induction forest with
  | nil => rfl
  | cons child rest ih =>
    obtain ⟨role, tree⟩ := child
    rw [List.map_cons, valueIn?, valueIn?, each (role, tree) List.mem_cons_self,
      ih fun child member => each child (List.mem_cons_of_mem _ member)]
    split <;> rfl

/-- The chain that a call ends is changed with what is called. -/
theorem ended?_map (callee : Callee α) (arguments keywords : List (Tree α)) :
    (callee.map onTag onTree).ended? (arguments.map onTree) (keywords.map onTree) =
      (callee.ended? arguments keywords).map (Chain.map onTag onTree) := by
  cases callee with
  | head tag => rfl
  | member chain continuation =>
    match arguments, keywords with
    | [], [] =>
      simp only [Callee.map, List.map_nil, Callee.ended?]
      cases continuation.isTerminal <;> rfl
    | _ :: _, _ => rfl
    | [], _ :: _ => rfl

/-- The chain that ends at a node is changed with the children of the node. -/
theorem ofTree?_rebuilt {tree : Tree α} (each : ∀ child ∈ tree.children,
      callee? (onTree child.2) = (callee? child.2).map (Callee.map onTag onTree)) :
    ofTree? (rebuilt onTag onTree tree) = (ofTree? tree).map (Chain.map onTag onTree) := by
  obtain ⟨tag, label, children⟩ := tree
  have here : calleeIn? (children.map fun child => (child.1, onTree child.2)) =
      (calleeIn? children).map (Callee.map onTag onTree) := calleeIn?_map each
  cases label with
  | call =>
    rw [rebuilt, ofTree?, ofTree?, here, inRole_map_snd, inRole_map_snd]
    cases calleeIn? children with
    | none => rfl
    | some callee => exact ended?_map callee _ _
  | _ => rfl

namespace Rebuilds

variable (rebuilds : Rebuilds onTag onTree)

include rebuilds

/-- What is unpacked stays unpacked. -/
theorem isStarred_image (tree : Tree α) : (onTree tree).isStarred = tree.isStarred := by
  obtain ⟨tag, label, children⟩ := tree
  rcases rebuilds (.node tag label children) with same | ⟨⟨chain, ended⟩, -, -, starred⟩
  · rw [same]
    rfl
  · obtain ⟨rfl, -⟩ := exists_of_ended ended
    exact starred

/-- What a continuation adds is changed with its arguments. -/
theorem of?_image (continuation : Continuation) (arguments : List (Tree α)) :
    Step.of? continuation (arguments.map onTree) =
      (Step.of? continuation arguments).map (Step.map onTree) := by
  have single : ∀ (step : Tree α → Step (Tree α)) (step' : Tree β → Step (Tree β))
      (argument : Tree α), Step.map onTree (step argument) = step' (onTree argument) →
      (if (onTree argument).isStarred then none else some (step' (onTree argument))) =
        (if argument.isStarred then none else some (step argument)).map (Step.map onTree) := by
    intro step step' argument same
    rw [rebuilds.isStarred_image]
    cases argument.isStarred with
    | true => rfl
    | false => exact congrArg some same.symm
  cases continuation with
  | thenDo => rfl
  | elseDo => rfl
  | finish => rfl
  | finishMarked => rfl
  | andThen =>
    match arguments with
    | [] => rfl
    | [argument] => exact single (.value .consequent) (.value .consequent) argument rfl
    | _ :: _ :: _ => rfl
  | orElse =>
    match arguments with
    | [] => rfl
    | [argument] => exact single (.value .alternate) (.value .alternate) argument rfl
    | _ :: _ :: _ => rfl
  | elseIf =>
    match arguments with
    | [] => rfl
    | [argument] => exact single .elseIf .elseIf argument rfl
    | _ :: _ :: _ => rfl

/-- The chain up to a call is changed with what is called and the arguments. -/
theorem called?_image (callee : Callee α) (arguments keywords : List (Tree α)) :
    (callee.map onTag onTree).called? (arguments.map onTree) (keywords.map onTree) =
      (callee.called? arguments keywords).map (Chain.map onTag onTree) := by
  cases callee with
  | head tag =>
    rcases arguments with _ | ⟨condition, _ | ⟨second, rest⟩⟩
    · rfl
    · rcases keywords with _ | ⟨keyword, rest⟩
      · simp only [Callee.map, List.map_cons, List.map_nil, Callee.called?,
          rebuilds.isStarred_image]
        cases condition.isStarred <;> rfl
      · rfl
    · rfl
  | member chain continuation =>
    rcases keywords with _ | ⟨keyword, rest⟩
    · simp only [Callee.map, List.map_nil, Callee.called?, rebuilds.of?_image, Option.map_map]
      congr 1
      funext step
      simp [Chain.goOn, Chain.map]
    · rfl

/-- Chains up to a node and what a node is to a call are changed with the node. -/
theorem reading_image (tree : Tree α) :
    upTo? (onTree tree) = (upTo? tree).map (Chain.map onTag onTree) ∧
      callee? (onTree tree) = (callee? tree).map (Callee.map onTag onTree) := by
  induction tree with
  | node tag label children ih =>
    rcases rebuilds (.node tag label children) with same | ⟨⟨chain, ended⟩, none, none', -⟩
    · rw [same, rebuilt]
      constructor
      · cases label with
        | call =>
          rw [upTo?, upTo?, calleeIn?_map fun child member => (ih child member).2,
            inRole_map_snd, inRole_map_snd]
          cases calleeIn? children with
          | none => rfl
          | some callee => exact rebuilds.called?_image callee _ _
        | _ => rfl
      · cases label with
        | member name usage =>
          rw [callee?, callee?, valueIn?_map fun child member => (ih child member).1]
          cases valueIn? children with
          | none => rfl
          | some chain =>
            simp only [Option.map_some, Option.bind_some]
            cases Continuation.ofKeyword? name <;> rfl
        | _ => rfl
    · have image : ofTree? (rebuilt onTag onTree (.node tag label children)) =
          (ofTree? (.node tag label children)).map (Chain.map onTag onTree) :=
        ofTree?_rebuilt fun child member => (ih child member).2
      obtain ⟨original, ended', -⟩ := Option.map_eq_some_iff.mp (image.symm.trans ended)
      obtain ⟨up, callee⟩ := upTo?_eq_none_of_ended ended'
      rw [none, none', up, callee]
      exact ⟨rfl, rfl⟩

/-- **The chain that ends at a node** is changed with the node. -/
theorem ofTree?_image (tree : Tree α) :
    ofTree? (rebuilt onTag onTree tree) = (ofTree? tree).map (Chain.map onTag onTree) :=
  ofTree?_rebuilt fun child _ => (rebuilds.reading_image child.2).2

end Rebuilds

/-- A change of tags keeps labels and roles. -/
theorem rebuilds_map (change : α → β) : Rebuilds change (Tree.map change) := by
  intro tree
  obtain ⟨tag, label, children⟩ := tree
  exact Or.inl (by rw [Tree.map, mapForest_eq]; rfl)

/-- The chain that ends at a node with other tags. -/
theorem ofTree?_map (change : α → β) (tree : Tree α) :
    ofTree? (tree.map change) = (ofTree? tree).map (Chain.map change (Tree.map change)) := by
  rw [← (rebuilds_map change).ofTree?_image tree]
  obtain ⟨tag, label, children⟩ := tree
  rw [rebuilt, Tree.map, mapForest_eq]

end Image

section Frames

/-- What a call calls is the child in its hole, if no other child is called. -/
theorem calleeIn?_append {before after : Forest α} (tree : Tree α)
    (alone : inRole .func before = []) :
    calleeIn? (before ++ (.func, tree) :: after) = callee? tree := by
  induction before with
  | nil => rfl
  | cons child rest ih =>
    obtain ⟨role, sibling⟩ := child
    have other : role ≠ .func := by
      rintro rfl
      rw [inRole_cons_same] at alone
      exact nomatch alone
    rw [inRole_cons_other _ _ other] at alone
    rw [List.cons_append, calleeIn?, if_neg other, ih alone]

/-- The children in a role other than that of the hole are the other children. -/
theorem having_fill {frame : Frame α} (tree : Tree α) {role : Role} (other : frame.role ≠ role) :
    (frame.fill tree).having role = frame.others role := by
  rw [Frame.fill, having_node, inRole_append, inRole_cons_other _ _ other, Frame.others,
    inRole_append]

/-- A call whose callee is in its hole. -/
structure IsCall (frame : Frame α) : Prop where
  label : frame.label = .call
  role : frame.role = .func
  alone : inRole .func frame.before = []

/-- The chain up to a call of what is in its hole. -/
theorem upTo?_call {frame : Frame α} (call : IsCall frame) (tree : Tree α) :
    upTo? (frame.fill tree) = (callee? tree).bind fun callee =>
      callee.called? (frame.others .args) (frame.others .keywords) := by
  obtain ⟨label, role, alone⟩ := call
  have args : frame.role ≠ .args := by rw [role]; decide
  have keywords : frame.role ≠ .keywords := by rw [role]; decide
  rw [← having_fill tree args, ← having_fill tree keywords, Frame.fill, having_node, having_node,
    label, upTo?, role, calleeIn?_append tree alone]

/-- The chain that a call of what is in its hole ends. -/
theorem ofTree?_call {frame : Frame α} (call : IsCall frame) (tree : Tree α) :
    ofTree? (frame.fill tree) = (callee? tree).bind fun callee =>
      callee.ended? (frame.others .args) (frame.others .keywords) := by
  obtain ⟨label, role, alone⟩ := call
  have args : frame.role ≠ .args := by rw [role]; decide
  have keywords : frame.role ≠ .keywords := by rw [role]; decide
  rw [← having_fill tree args, ← having_fill tree keywords, Frame.fill, having_node, having_node,
    label, ofTree?, role, calleeIn?_append tree alone]

/-- A member of a node up to which there is a chain. -/
theorem callee?_member (tag : α) (name : String) (usage : Usage) (tree : Tree α) :
    callee? (.node tag (.member name usage) [(.value, tree)]) = (upTo? tree).bind fun chain =>
      (Continuation.ofKeyword? name).map (Callee.member chain) := by
  rw [callee?, valueIn?, if_pos rfl]

end Frames

end Chain

end IfChains
