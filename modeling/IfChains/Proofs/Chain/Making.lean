/-
**The expressions that a walk makes.**

The walk makes expressions from expressions that stand in the table, be they in the tree or not. What
it makes stands in the table too, holds the expressions it is made of, and is new otherwise.

* `builds_make`: a node above expressions;
* `builds_branch`, `builds_conditional`: the expression of a branch, and the conditional expression
  of a condition and two branches.
-/

import IfChains.Proofs.Chain.Sound

namespace IfChains

open IfChains.Tree IfChains.Walk

namespace NumberedTree

variable {listed : List NodeId} {live live' : LiveTree} {state state' : WalkState}

/-- An expression in the table without listed names; it need not be in the tree. -/
structure Loose (listed : List NodeId) (live : LiveTree) (tree : NumberedTree) : Prop where
  reads : live.Reads tree
  unlisted : Unlisted listed tree
  conforming : tree.Conforming
  expression : tree.label.family = .expression

/-- A loose expression stays so when the table grows. -/
theorem Loose.grown {tree : NumberedTree} (loose : Loose listed live tree)
    (grown : LiveTree.Grown live live') : Loose listed live' tree :=
  ⟨loose.reads.grown grown, loose.unlisted, loose.conforming, loose.expression⟩

/-- A loose expression is plain when the listed numbers are marked. -/
theorem Loose.plain {tree : NumberedTree} (loose : Loose listed live tree) :
    (marked listed tree).Plain :=
  ⟨loose.unlisted.unmarked, (conforming_map _ tree).mpr loose.conforming,
    (label_marked tree).symm ▸ loose.expression⟩

/-- An expression in the table is loose if it is plain when the listed numbers are marked. -/
theorem loose_of_plain {tree : NumberedTree} (reads : live.Reads tree)
    (plain : (marked listed tree).Plain) : Loose listed live tree := by
  refine ⟨reads, fun id inside member => ?_, (conforming_map _ tree).mp plain.conforming,
    (label_marked tree).symm ▸ plain.expression⟩
  have mark : listed.contains id ∈ (marked listed tree).tags := by
    rw [marked, tags_map]
    exact List.mem_map_of_mem inside
  have unmarked := plain.unmarked _ mark
  rw [List.contains_eq_mem, decide_eq_false_iff_not] at unmarked
  exact unmarked member

/-- A conditional expression in the table is loose if its condition and its branches are plain. -/
theorem loose_of_image {tree condition : NumberedTree} {branches : BranchSet NumberedTree}
    (reads : live.Reads tree)
    (image : marked listed tree = MarkedTree.ifExp (marked listed condition)
      (branches.map (marked listed)))
    (plain : ∀ expr ∈ condition :: branches.exprs, (marked listed expr).Plain) :
    Loose listed live tree := by
  refine loose_of_plain reads (image ▸ MarkedTree.plain_ifExp fun expr member => ?_)
  rw [BranchSet.exprs_map, ← List.map_cons] at member
  obtain ⟨inner, inside, rfl⟩ := List.mem_map.mp member
  exact plain inner inside

/-- An expression in the table whose numbers differ, that holds some expressions, and whose other
numbers are not below a bound. -/
structure Made (bound : Nat) (exprs : List NumberedTree) (live : LiveTree) (tree : NumberedTree) :
    Prop where
  reads : live.Reads tree
  distinct : tree.tags.Nodup
  origin : ∀ id ∈ tree.tags, id ∈ exprs.flatMap Tree.tags ∨ bound ≤ id
  inside : ∀ expr ∈ exprs, expr ∈ tree.preorder

variable {bound bound' : Nat} {exprs exprs' : List NumberedTree}

theorem Made.grown {tree : NumberedTree} (made : Made bound exprs live tree)
    (grown : LiveTree.Grown live live') : Made bound exprs live' tree :=
  ⟨made.reads.grown grown, made.distinct, made.origin, made.inside⟩

/-- What is new above a bound is so above a lower one. -/
theorem Made.mono {tree : NumberedTree} (made : Made bound exprs live tree)
    (lower : bound' ≤ bound) : Made bound' exprs live tree :=
  ⟨made.reads, made.distinct, fun id member => (made.origin id member).imp_right
    (Nat.le_trans lower), made.inside⟩

/-- An expression is made of itself. -/
theorem made_self {expr : NumberedTree} (reads : live.Reads expr) (distinct : expr.tags.Nodup) :
    Made bound [expr] live expr :=
  ⟨reads, distinct, fun _ member => Or.inl (List.flatMap_singleton .. ▸ member),
    List.forall_mem_singleton.mpr (self_mem_preorder expr)⟩

/-- Expressions that are made of different old numbers, and the second one of numbers that are newer
than those of the first one, have different numbers. -/
theorem Made.disjoint {first second : NumberedTree} (made : Made bound exprs live first)
    (made' : Made bound' exprs' live' second)
    (apart : (exprs.flatMap Tree.tags).Disjoint (exprs'.flatMap Tree.tags))
    (older : ∀ id ∈ exprs'.flatMap Tree.tags, id < bound) (below : ∀ id ∈ first.tags, id < bound') :
    first.tags.Disjoint second.tags := by
  intro id inFirst inSecond
  rcases made'.origin id inSecond with oldSecond | newSecond
  · rcases made.origin id inFirst with oldFirst | newFirst
    · exact apart oldFirst oldSecond
    · exact Nat.lt_irrefl id (Nat.lt_of_lt_of_le (older id oldSecond) newFirst)
  · exact Nat.lt_irrefl id (Nat.lt_of_lt_of_le (below id inFirst) newSecond)

/-- A walk makes an expression that looks like a given one when it is marked, out of some
expressions and new nodes. -/
def Builds (listed : List NodeId) (bound : Nat) (exprs : List NumberedTree) (state : WalkState)
    (image : MarkedTree) (walk : Walk NodeId) : Prop :=
  ∃ tree state', walk.outcome state = (.ok tree.tag, state') ∧
    LiveTree.Grown state.live state'.live ∧ state'.processed = state.processed ∧
    Made bound exprs state'.live tree ∧ marked listed tree = image

section Nodes

variable {label : Label} {children : Forest NodeId}

/-- **A node above expressions.** -/
theorem made_node (lower : bound ≤ live.size) (reads : ∀ child ∈ children, live.Reads child.2)
    (distinct : (tagsIn children).Nodup)
    (origin : ∀ id ∈ tagsIn children, id ∈ exprs.flatMap Tree.tags ∨ bound ≤ id)
    (inside : ∀ expr ∈ exprs, ∃ child ∈ children, expr ∈ child.2.preorder) :
    Made bound exprs (live.push label none (LiveTree.slotsOf children)).2
      (.node live.size label children) := by
  refine ⟨LiveTree.reads_push reads, ?_, fun id member => ?_, fun expr member => ?_⟩
  · rw [tags_node, List.nodup_cons]
    refine ⟨fun beneath => ?_, distinct⟩
    obtain ⟨child, inside, deeper⟩ := mem_tagsIn.mp beneath
    exact Nat.lt_irrefl _ ((reads child inside).lt_size deeper)
  · rw [tags_node, List.mem_cons] at member
    rcases member with rfl | beneath
    · exact Or.inr lower
    · exact origin id beneath
  · exact mem_preorder_node.mpr (Or.inr (inside expr member))

/-- Making a node. -/
theorem outcome_make (label : Label) (slots : List (Role × NodeId)) :
    (make label slots).outcome state =
      (.ok state.live.size, { state with live := (state.live.push label none slots).2 }) := rfl

/-- **A walk that makes a node above expressions.** -/
theorem builds_make (known : ∀ id ∈ listed, id < state.live.size) (lower : bound ≤ state.live.size)
    (reads : ∀ child ∈ children, state.live.Reads child.2) (distinct : (tagsIn children).Nodup)
    (origin : ∀ id ∈ tagsIn children, id ∈ exprs.flatMap Tree.tags ∨ bound ≤ id)
    (inside : ∀ expr ∈ exprs, ∃ child ∈ children, expr ∈ child.2.preorder) :
    Builds listed bound exprs state
      (.node false label (children.map fun child => (child.1, marked listed child.2)))
      (make label (LiveTree.slotsOf children)) := by
  refine ⟨.node state.live.size label children, _, outcome_make label _, LiveTree.grown_push ..,
    rfl, made_node lower reads distinct origin inside, ?_⟩
  have fresh : listed.contains state.live.size = false := by
    rw [List.contains_eq_mem, decide_eq_false_iff_not]
    exact fun member => Nat.lt_irrefl _ (known _ member)
  rw [marked, Tree.map, fresh, mapForest_eq]
  rfl

/-- A walk that makes one expression and then another one. -/
theorem Builds.bind {image image' : MarkedTree} {walk : Walk NodeId} {next : NodeId → Walk NodeId}
    (first : Builds listed bound' exprs' state image walk)
    (rest : ∀ tree state', LiveTree.Grown state.live state'.live →
      Made bound' exprs' state'.live tree → marked listed tree = image →
      Builds listed bound exprs state' image' (next tree.tag)) :
    Builds listed bound exprs state image' (walk >>= next) := by
  obtain ⟨tree, state', same, grown, processed, made, isImage⟩ := first
  obtain ⟨bigger, state'', same', grown', processed', made', isImage'⟩ :=
    rest tree state' grown made isImage
  exact ⟨bigger, state'', (outcome_bind_ok same).trans same', grown.trans grown',
    processed'.trans processed, made', isImage'⟩

end Nodes

section Branches

/-- A constant. -/
theorem builds_constant (known : ∀ id ∈ listed, id < state.live.size)
    (lower : bound ≤ state.live.size) (constant : Constant) :
    Builds listed bound [] state (MarkedTree.made (.constant constant) [])
      (make (.constant constant) []) :=
  @builds_make listed state bound [] (.constant constant) [] known lower (fun _ absent => absurd absent List.not_mem_nil)
    List.nodup_nil (fun _ absent => absurd absent List.not_mem_nil)
    fun _ absent => absurd absent List.not_mem_nil

/-- A display of expressions. -/
theorem builds_display (known : ∀ id ∈ listed, id < state.live.size)
    (lower : bound ≤ state.live.size) (reads : ∀ expr ∈ exprs, state.live.Reads expr)
    (distinct : (exprs.flatMap Tree.tags).Nodup) :
    Builds listed bound exprs state
      (MarkedTree.made (.tuple .load) ((exprs.map (marked listed)).map fun expr => (.elts, expr)))
      (make (.tuple .load) ((exprs.map Tree.tag).map fun id => (.elts, id))) := by
  have elements : tagsIn (exprs.map fun expr => (Role.elts, expr)) = exprs.flatMap Tree.tags := by
    rw [tagsIn, List.flatMap_map]
  have slots : (exprs.map Tree.tag).map (fun id => (Role.elts, id)) =
      LiveTree.slotsOf (exprs.map fun expr => (Role.elts, expr)) := by
    rw [LiveTree.slotsOf, List.map_map, List.map_map]
    rfl
  have images : (exprs.map fun expr => (Role.elts, expr)).map
      (fun child => (child.1, marked listed child.2)) =
      (exprs.map (marked listed)).map fun expr => (Role.elts, expr) := by
    rw [List.map_map, List.map_map]
    rfl
  rw [slots, MarkedTree.made, ← images]
  rw [← elements] at distinct
  refine @builds_make listed state bound exprs (.tuple .load)
    (exprs.map fun expr => (.elts, expr)) known lower (fun child member => ?_) distinct
    (fun id member => ?_) fun expr member => ?_
  · obtain ⟨expr, inside, rfl⟩ := List.mem_map.mp member
    exact reads expr inside
  · rw [elements] at member
    exact Or.inl member
  · exact ⟨(.elts, expr), List.mem_map_of_mem member, self_mem_preorder expr⟩

/-- The negation of an expression that is made anew. -/
theorem builds_negation {operand : NumberedTree} (known : ∀ id ∈ listed, id < state.live.size)
    (lower : bound ≤ state.live.size) (made : Made bound [] state.live operand) :
    Builds listed bound [] state
      (MarkedTree.made (.unaryOp .minus) [(.operand, marked listed operand)])
      (make (.unaryOp .minus) [(.operand, operand.tag)]) :=
  @builds_make listed state bound [] (.unaryOp .minus) [(.operand, operand)] known lower
    (List.forall_mem_singleton.mpr made.reads) (by simpa using made.distinct)
    (by simpa using made.origin) fun _ absent => absurd absent List.not_mem_nil

/-- An item of an expression, at an index that is newer. -/
theorem builds_item {container index : NumberedTree}
    (known : ∀ id ∈ listed, id < state.live.size) (lower : bound ≤ state.live.size)
    (madeContainer : Made bound exprs state.live container)
    (madeIndex : Made bound [] state.live index)
    (apart : container.tags.Disjoint index.tags) :
    Builds listed bound exprs state
      (MarkedTree.made (.subscript .load)
        [(.value, marked listed container), (.slice, marked listed index)])
      (make (.subscript .load) [(.value, container.tag), (.slice, index.tag)]) := by
  have flat : tagsIn [(Role.value, container), (Role.slice, index)] =
      container.tags ++ index.tags := by simp
  have reads : ∀ child ∈ [(Role.value, container), (Role.slice, index)],
      state.live.Reads child.2 :=
    List.forall_mem_cons.mpr ⟨madeContainer.reads, List.forall_mem_singleton.mpr madeIndex.reads⟩
  refine @builds_make listed state bound exprs (.subscript .load)
    [(.value, container), (.slice, index)] known lower reads ?_ ?_ fun expr member =>
    ⟨_, List.mem_cons_self, madeContainer.inside expr member⟩
  · rw [flat, List.nodup_append']
    exact ⟨madeContainer.distinct, madeIndex.distinct, apart⟩
  · rw [flat]
    intro id member
    rcases List.mem_append.mp member with inside | inside
    · exact madeContainer.origin id inside
    · exact Or.inr ((madeIndex.origin id inside).resolve_left List.not_mem_nil)

/-- Expressions from left to right, the last of which is the value. -/
theorem builds_sequence (known : ∀ id ∈ listed, id < state.live.size)
    (lower : bound ≤ state.live.size) (reads : ∀ expr ∈ exprs, state.live.Reads expr)
    (distinct : (exprs.flatMap Tree.tags).Nodup) :
    Builds listed bound exprs state (MarkedTree.sequence (exprs.map (marked listed)))
      (Walk.sequence (exprs.map Tree.tag)) := by
  unfold Walk.sequence
  refine (builds_display known lower reads distinct).bind
    fun display state₁ grown₁ made₁ image₁ => ?_
  have known₁ : ∀ id ∈ listed, id < state₁.live.size := fun id member =>
    Nat.lt_of_lt_of_le (known id member) grown₁.size
  -- The numbers of the index are above those of the display.
  have unit : Builds listed state₁.live.size [] state₁ _ (make (.constant (.int 1)) []) :=
    builds_constant known₁ (Nat.le_refl _) (.int 1)
  refine unit.bind fun one state₂ grown₂ made₂ image₂ => ?_
  have known₂ : ∀ id ∈ listed, id < state₂.live.size := fun id member =>
    Nat.lt_of_lt_of_le (known₁ id member) grown₂.size
  refine (builds_negation known₂ grown₂.size made₂).bind fun index state₃ grown₃ made₃ image₃ => ?_
  have known₃ : ∀ id ∈ listed, id < state₃.live.size := fun id member =>
    Nat.lt_of_lt_of_le (known₂ id member) grown₃.size
  have apart := made₁.disjoint made₃ (List.disjoint_nil_right _)
    (fun id absent => absurd absent List.not_mem_nil) fun id => made₁.reads.lt_size
  have lower₁ := Nat.le_trans lower grown₁.size
  have built := builds_item known₃ (Nat.le_trans lower₁ (grown₂.trans grown₃).size)
    (made₁.grown (grown₂.trans grown₃)) (made₃.mono lower₁) apart
  rw [image₁, image₃, image₂] at built
  exact built

/-- **The expression of a branch.** -/
theorem builds_branch (known : ∀ id ∈ listed, id < state.live.size)
    (lower : bound ≤ state.live.size) (reads : ∀ expr ∈ exprs, state.live.Reads expr)
    (distinct : (exprs.flatMap Tree.tags).Nodup) :
    Builds listed bound exprs state
      (MarkedTree.branch (exprs.map (marked listed))) (Synthesis.branch (exprs.map Tree.tag)) := by
  rcases exprs with _ | ⟨expr, _ | ⟨second, rest⟩⟩
  · exact builds_constant known lower .none
  · rw [List.flatMap_singleton] at distinct
    exact ⟨expr, state, rfl, .refl _, rfl, made_self (reads expr List.mem_cons_self) distinct, rfl⟩
  · exact builds_sequence known lower reads distinct

/-- A conditional expression of three expressions. -/
theorem builds_ifExp {exprsTest exprsBody exprsElse : List NumberedTree}
    {test body orelse : NumberedTree}
    (known : ∀ id ∈ listed, id < state.live.size) (lower : bound ≤ state.live.size)
    (madeTest : Made bound exprsTest state.live test)
    (madeBody : Made bound exprsBody state.live body)
    (madeElse : Made bound exprsElse state.live orelse)
    (apartBody : test.tags.Disjoint body.tags) (apartElse : test.tags.Disjoint orelse.tags)
    (apart : body.tags.Disjoint orelse.tags) :
    Builds listed bound (exprsTest ++ (exprsBody ++ exprsElse)) state
      (MarkedTree.made .ifExp [(.test, marked listed test), (.body, marked listed body),
        (.orelse, marked listed orelse)])
      (Walk.conditional test.tag body.tag orelse.tag) := by
  have flat : tagsIn [(Role.test, test), (Role.body, body), (Role.orelse, orelse)] =
      test.tags ++ (body.tags ++ orelse.tags) := by simp
  have reads : ∀ child ∈ [(Role.test, test), (Role.body, body), (Role.orelse, orelse)],
      state.live.Reads child.2 :=
    List.forall_mem_cons.mpr ⟨madeTest.reads, List.forall_mem_cons.mpr
      ⟨madeBody.reads, List.forall_mem_singleton.mpr madeElse.reads⟩⟩
  refine @builds_make listed state bound (exprsTest ++ (exprsBody ++ exprsElse)) .ifExp
    [(.test, test), (.body, body), (.orelse, orelse)] known lower reads ?_ (fun id member => ?_)
    fun expr member => ?_
  · rw [flat, List.nodup_append', List.nodup_append']
    exact ⟨madeTest.distinct, ⟨madeBody.distinct, madeElse.distinct, apart⟩,
      List.disjoint_append_right.mpr ⟨apartBody, apartElse⟩⟩
  · rw [flat] at member
    rw [List.flatMap_append, List.flatMap_append]
    rcases List.mem_append.mp member with inTest | rest
    · exact (madeTest.origin id inTest).imp_left fun inside => List.mem_append_left _ inside
    · rcases List.mem_append.mp rest with inBody | inElse
      · exact (madeBody.origin id inBody).imp_left fun inside =>
          List.mem_append_right _ (List.mem_append_left _ inside)
      · exact (madeElse.origin id inElse).imp_left fun inside =>
          List.mem_append_right _ (List.mem_append_right _ inside)
  · rcases List.mem_append.mp member with inTest | rest
    · exact ⟨(.test, test), List.mem_cons_self, madeTest.inside expr inTest⟩
    · rcases List.mem_append.mp rest with inBody | inElse
      · exact ⟨(.body, body), List.mem_cons_of_mem _ List.mem_cons_self,
          madeBody.inside expr inBody⟩
      · exact ⟨(.orelse, orelse),
          List.mem_cons_of_mem _ (List.mem_cons_of_mem _ List.mem_cons_self),
          madeElse.inside expr inElse⟩

/-- The numbers of expressions in the table are below its size. -/
theorem lt_size_of_reads (reads : ∀ expr ∈ exprs, live.Reads expr) :
    ∀ id ∈ exprs.flatMap Tree.tags, id < live.size := by
  intro id member
  obtain ⟨expr, inside, deeper⟩ := List.mem_flatMap.mp member
  exact (reads expr inside).lt_size deeper

/-- **The conditional expression of a condition and two branches.** -/
theorem builds_conditional {condition : NumberedTree} {branches : BranchSet NumberedTree}
    (known : ∀ id ∈ listed, id < state.live.size)
    (reads : ∀ expr ∈ condition :: branches.exprs, state.live.Reads expr)
    (distinct : ((condition :: branches.exprs).flatMap Tree.tags).Nodup) :
    Builds listed state.live.size (condition :: branches.exprs) state
      (MarkedTree.ifExp (marked listed condition) (branches.map (marked listed)))
      (Synthesis.conditional (branches.map Tree.tag) condition.tag) := by
  obtain ⟨consequent, alternate⟩ := branches
  simp only [BranchSet.exprs] at reads distinct ⊢
  rw [List.flatMap_cons, List.flatMap_append] at distinct
  obtain ⟨distinctTest, distinctBranches, apartTest⟩ := List.nodup_append'.mp distinct
  obtain ⟨distinctBody, distinctElse, apart⟩ := List.nodup_append'.mp distinctBranches
  rw [List.disjoint_append_right] at apartTest
  rw [List.forall_mem_cons, List.forall_mem_append] at reads
  obtain ⟨readsTest, readsBody, readsElse⟩ := reads
  have first : Builds listed state.live.size consequent state
      (MarkedTree.branch (consequent.map (marked listed)))
      (Synthesis.branch (consequent.map Tree.tag)) :=
    builds_branch known (Nat.le_refl _) readsBody distinctBody
  unfold Synthesis.conditional
  refine first.bind fun body state₁ grown₁ made₁ image₁ => ?_
  have known₁ : ∀ id ∈ listed, id < state₁.live.size := fun id member =>
    Nat.lt_of_lt_of_le (known id member) grown₁.size
  have second : Builds listed state₁.live.size alternate state₁
      (MarkedTree.branch (alternate.map (marked listed)))
      (Synthesis.branch (alternate.map Tree.tag)) :=
    builds_branch known₁ (Nat.le_refl _)
      (fun expr member => (readsElse expr member).grown grown₁) distinctElse
  refine second.bind fun orelse state₂ grown₂ made₂ image₂ => ?_
  have known₂ : ∀ id ∈ listed, id < state₂.live.size := fun id member =>
    Nat.lt_of_lt_of_le (known₁ id member) grown₂.size
  -- Old numbers differ from each other, and new ones come one block after the other.
  have test : Made state.live.size [condition] state.live condition :=
    made_self readsTest distinctTest
  have older := lt_size_of_reads readsElse
  have below := fun id (member : id ∈ condition.tags) => readsTest.lt_size member
  have single : [condition].flatMap Tree.tags = condition.tags := List.flatMap_singleton ..
  have apartBody := test.disjoint made₁ (single.symm ▸ apartTest.1) (lt_size_of_reads readsBody)
    below
  have apartElse := test.disjoint made₂ (single.symm ▸ apartTest.2) older fun id member =>
    Nat.lt_of_lt_of_le (below id member) grown₁.size
  have apartBoth := made₁.disjoint made₂ apart older fun id => made₁.reads.lt_size
  have built := builds_ifExp known₂ (Nat.le_trans grown₁.size grown₂.size)
    (test.grown (grown₁.trans grown₂)) (made₁.grown grown₂) (made₂.mono grown₁.size) apartBody
    apartElse apartBoth
  rw [image₁, image₂] at built
  exact built

end Branches

end NumberedTree

end IfChains
