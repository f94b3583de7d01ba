/-
**Evaluating expressions.**

Evaluation takes place in an arbitrary monad, whose computations may have effects, leave a trace, or
raise an exception. An evaluator gives every kind of node any meaning that is made of the meanings
of its children. Fixed are the forms that an expansion makes: conditional expressions, displays of
tuples with unpacked elements, negated integers, items of tuples, and the two constants among them.

* `operand`: what a tree comes to, from the leaves to the root;
* `operand_of_shape_eq`: tags do not matter to it;
* `value_branch`: the expression of a branch evaluates the gathered expressions in order and has the
  value of the last.
-/

import IfChains.Proofs.Chain.Expand

namespace IfChains

open IfChains.Tree

/-- What an expression evaluates to. The values that no form below looks into are objects. -/
inductive Value (Object : Type)
  | none
  | int (value : Int)
  | tuple (values : List (Value Object))
  | object (object : Object)

/-- What a node comes to as an operand of its parent: the computation of a value, or of the values
that an unpacked expression stands for. -/
inductive Operand (m : Type → Type) (Object : Type)
  | single (value : m (Value Object))
  | unpacked (values : m (List (Value Object)))

/-- The meanings of nodes. The truth of a value, the values it unpacks to, and what is no item of a
tuple or negated integer are arbitrary computations, and so is every node of another kind. -/
structure Evaluator (m : Type → Type) (Object : Type) where
  truth : Value Object → m Bool
  unpack : Value Object → m (List (Value Object))
  negate : Value Object → m (Value Object)
  item : (container index : Value Object) → m (Value Object)
  outOfRange : m (Value Object)
  other : Label → List (Role × Operand m Object) → m (Value Object)

variable {m : Type → Type} {Object α β : Type} [Monad m]

namespace Operand

/-- The values of an operand, in order. -/
def values : Operand m Object → m (List (Value Object))
  | single value => do return [← value]
  | unpacked values => values

/-- The value of an operand; unpacked values are together a tuple. -/
def value : Operand m Object → m (Value Object)
  | single value => value
  | unpacked values => do return .tuple (← values)

@[simp]
theorem value_single (value : m (Value Object)) : (single value).value = value := rfl

/-- Evaluates an operand for its effects. -/
def discard (operand : Operand m Object) : m Unit := do
  let _ ← operand.values

/-- The values of operands, in order. -/
def gather : List (Operand m Object) → m (List (Value Object))
  | [] => return []
  | operand :: rest => do
    let first ← operand.values
    let later ← gather rest
    return first ++ later

/-- Evaluates operands in order; the value is that of the last, if there is one. -/
def inOrder : List (Operand m Object) → m (Value Object)
  | [] => return .none
  | [last] => last.value
  | operand :: next :: rest => do
    operand.discard
    inOrder (next :: rest)

end Operand

/-- The item at an index, counted from the end if the index is negative. -/
def itemAt? {γ : Type} (items : List γ) (index : Int) : Option γ :=
  if 0 ≤ index then items[index.toNat]?
  else if -index ≤ items.length then items[items.length - (-index).toNat]?
  else none

/-- The item at minus one is the last. -/
theorem itemAt?_last {γ : Type} (front : List γ) (last : γ) :
    itemAt? (front ++ [last]) (-1) = some last := by
  have within : (1 : Int) ≤ front.length + 1 := by omega
  simp [itemAt?, within]

namespace Evaluator

variable (evaluator : Evaluator m Object)

/-- The negation of a value. -/
def negation : Value Object → m (Value Object)
  | .int value => return .int (-value)
  | value => evaluator.negate value

/-- The item of a container at an index. -/
def itemOf : (container index : Value Object) → m (Value Object)
  | .tuple values, .int index =>
    match itemAt? values index with
    | some value => return value
    | none => evaluator.outOfRange
  | container, index => evaluator.item container index

/-- Whether the value of an operand counts as true. -/
def holds (condition : Operand m Object) : m Bool := do
  evaluator.truth (← condition.value)

/-- The value of a node, from the operands its children are. -/
def apply : Label → List (Role × Operand m Object) → m (Value Object)
  | .ifExp, [(.test, test), (.body, body), (.orelse, orelse)] => do
    if ← evaluator.holds test then body.value else orelse.value
  | .tuple .load, operands => do return .tuple (← Operand.gather (operands.map (·.2)))
  | .unaryOp .minus, [(.operand, operand)] => do evaluator.negation (← operand.value)
  | .subscript .load, [(.value, container), (.slice, index)] => do
    let container ← container.value
    evaluator.itemOf container (← index.value)
  | .constant .none, [] => return .none
  | .constant (.int value), [] => return .int value
  | label, operands => evaluator.other label operands

/-- What a node comes to, from the operands its children are. -/
def combine : Label → List (Role × Operand m Object) → Operand m Object
  | .starred .load, [(.value, operand)] => .unpacked do evaluator.unpack (← operand.value)
  | label, operands => .single (evaluator.apply label operands)

mutual

/-- **What a tree comes to**, from the leaves to the root. -/
def operand : Tree α → Operand m Object
  | .node _ label children => evaluator.combine label (operands children)

/-- What the trees of a forest come to. -/
def operands : Forest α → List (Role × Operand m Object)
  | [] => []
  | (role, tree) :: rest => (role, operand tree) :: operands rest

end

/-- The trees of a forest are evaluated one by one. -/
theorem operands_eq (forest : Forest α) :
    evaluator.operands forest = forest.map fun child => (child.1, evaluator.operand child.2) := by
  induction forest with
  | nil => rfl
  | cons child rest ih =>
    obtain ⟨role, tree⟩ := child
    rw [operands, ih, List.map_cons]

/-- What a node comes to is made of what its children come to. -/
theorem operand_node (tag : α) (label : Label) (children : Forest α) :
    evaluator.operand (.node tag label children) =
      evaluator.combine label (children.map fun child => (child.1, evaluator.operand child.2)) := by
  rw [operand, operands_eq]

/-- Tags do not matter to what a tree comes to. -/
theorem operand_map (change : α → β) (tree : Tree α) :
    evaluator.operand (tree.map change) = evaluator.operand tree := by
  induction tree using Tree.induction with
  | node tag label children ih =>
    rw [Tree.map, mapForest_eq, operand_node, operand_node, List.map_map]
    congr 1
    exact List.map_congr_left fun child member => congrArg (Prod.mk child.1) (ih child member)

/-- **Trees of one shape** come to the same. -/
theorem operand_of_shape_eq {first : Tree α} {second : Tree β}
    (same : first.shape = second.shape) : evaluator.operand first = evaluator.operand second := by
  rw [← evaluator.operand_map (fun _ => ()) first, ← evaluator.operand_map (fun _ => ()) second]
  exact congrArg evaluator.operand same

/-- A tree that is not unpacked comes to a value. -/
theorem operand_eq_single {tree : Tree α} (plain : tree.isStarred = false) :
    evaluator.operand tree = .single (evaluator.operand tree).value := by
  obtain ⟨tag, label, children⟩ := tree
  rw [operand_node]
  unfold combine
  split
  · exact nomatch plain
  · rfl

section Made

open MarkedTree

/-- An undefined value is none. -/
theorem operand_undefined :
    evaluator.operand MarkedTree.undefined = .single (return .none) := rfl

/-- A conditional expression evaluates one of its branches. -/
theorem operand_ifExp (condition : MarkedTree) (branches : BranchSet MarkedTree) :
    evaluator.operand (MarkedTree.ifExp condition branches) = .single (do
      if ← evaluator.holds (evaluator.operand condition) then
        (evaluator.operand (branch branches.consequent)).value
      else (evaluator.operand (branch branches.alternate)).value) := rfl

variable [LawfulMonad m]

/-- The last item of a display of operands is that of evaluating them in order. -/
theorem gather_last (front : List (Value Object)) {operands : List (Operand m Object)}
    {last : m (Value Object)} (ends : operands.getLast? = some (.single last)) :
    (do evaluator.itemOf (.tuple (front ++ (← Operand.gather operands))) (.int (-1))) =
      Operand.inOrder operands := by
  induction operands generalizing front with
  | nil => exact nomatch ends
  | cons operand rest ih =>
    cases rest with
    | nil =>
      obtain rfl : operand = .single last := Option.some.inj ends
      simp [Operand.gather, Operand.values, Operand.inOrder, Operand.value, itemOf, itemAt?_last]
    | cons next rest =>
      rw [List.getLast?_cons_cons] at ends
      have later := fun first : List (Value Object) => ih (front ++ first) ends
      simp only [List.append_assoc] at later
      rw [Operand.gather, Operand.inOrder, Operand.discard]
      simp only [bind_assoc, pure_bind, later]

/-- The expression of a sequence has the value of the last expression. -/
theorem value_sequence {exprs : List MarkedTree} {last : m (Value Object)}
    (ends : (exprs.map evaluator.operand).getLast? = some (.single last)) :
    (evaluator.operand (sequence exprs)).value =
      Operand.inOrder (exprs.map evaluator.operand) := by
  rw [← evaluator.gather_last [] ends]
  have display : evaluator.operand (made (.tuple .load) (exprs.map fun expr => (.elts, expr))) =
      .single (do return .tuple (← Operand.gather (exprs.map evaluator.operand))) := by
    rw [made, operand_node, List.map_map]
    simp only [combine, apply, List.map_map, Function.comp_def]
  have index : evaluator.operand (made (.unaryOp .minus)
      [(.operand, made (.constant (.int 1)) [])]) = .single (return .int (-1)) := by
    simp [made, operand, operands, combine, apply, Operand.value, negation]
  rw [MarkedTree.sequence, made, operand_node, List.map_cons, List.map_cons, List.map_nil, display, index]
  simp [combine, apply, Operand.value]

/-- **The expression of a branch** evaluates the gathered expressions in order. -/
theorem value_branch {exprs : List MarkedTree}
    (ends : ∀ last ∈ exprs.getLast?, last.isStarred = false) :
    (evaluator.operand (branch exprs)).value = Operand.inOrder (exprs.map evaluator.operand) := by
  match exprs with
  | [] => rfl
  | [expr] => rfl
  | first :: second :: rest =>
    obtain ⟨last, found⟩ : ∃ last, (first :: second :: rest).getLast? = some last :=
      ⟨_, List.getLast?_eq_some_getLast (List.cons_ne_nil _ _)⟩
    refine @value_sequence _ _ _ evaluator _ _ (evaluator.operand last).value ?_
    rw [List.getLast?_map, found, Option.map_some]
    exact congrArg some (evaluator.operand_eq_single (ends last found))

end Made

end Evaluator

end IfChains
