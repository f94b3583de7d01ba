/-
**What is handed to the printer is legal.**

Expanding chains and removing imports keeps a program within the grammar. Statement lists stay
filled, for a `pass` stands in for imports that were all there was. What is unpacked stands where
that is allowed, or where it stood before. What an expansion builds is a conditional expression of
parts that are not unpacked, or a display of several elements of which the last one is not.

* `Legal`: what it is for a tree to be legal, beside the program that it comes from;
* `stays`, `blocks`, `starred`, `built`: the parts of that;
* `legal_handedOver`: what is handed to the printer for a program is legal.
-/

import IfChains.Proofs.Transform.HandedOver

namespace IfChains

open IfChains.Tree

/-- Whether an unpacked expression may have a role in a node: in the arguments of a call, the bases
of a class, and the elements of a display. -/
def Label.takesUnpacked : Label → Role → Bool
  | .call, .args | .classDef _, .bases | .tuple _, .elts | .list _, .elts | .set, .elts => true
  | _, _ => false

/-- A node that stands in the statements of a program, reached without going into an expression and
not in an import that is removed. -/
inductive Tree.InStatements {α : Type} (module : String) (tree : Tree α) : Tree α → Prop
  | root : InStatements module tree tree
  | child {node : Tree α} {child : Role × Tree α} (above : InStatements module tree node)
      (member : child ∈ node.children) (other : child.2.label.family ≠ .expression)
      (kept : Imports.isFrom module child.2.label = false) : InStatements module tree child.2

/-- A node as an expansion may build it, if it is a conditional expression or a display. -/
def Tree.WellBuilt {α : Type} (node : Tree α) : Prop :=
  match node.label with
  | .ifExp => ∀ child ∈ node.children, child.2.isStarred = false
  | .tuple _ => 2 ≤ (node.having .elts).length ∧
      ∀ last ∈ (node.having .elts).getLast?, last.isStarred = false
  | _ => True

/-- A tree that comes from a program is legal. A node of it with a number of the program is that
node; every other one was built, but for `pass` statements. -/
structure Tree.Legal (module : String) (parsed : NumberedTree) (printed : Tree LiveTree.Tag) :
    Prop where
  /-- What stands in the statements of the program is still there. -/
  stays : ∀ node, parsed.InStatements module node →
    ∃ left ∈ printed.preorder, left.tag.id = node.tag ∧ left.label = node.label
  /-- A list that held a statement still does, but for that of the module. -/
  blocks : ∀ node ∈ parsed.preorder, node.label ≠ .module → ∀ role : Role, role.isBlock = true →
    (∃ statement ∈ node.having role, statement.label.isStatement = true) →
    ∀ left ∈ printed.preorder, left.tag.id = node.tag → left.label = node.label →
    ∃ statement ∈ left.having role, statement.label.isStatement = true
  /-- What is unpacked stands where it may, or where it stood. -/
  starred : ∀ left ∈ printed.preorder, ∀ role, ∀ child ∈ left.having role, child.isStarred = true →
    left.label.takesUnpacked role = true ∨
      ∃ node ∈ parsed.preorder, node.tag = left.tag.id ∧ node.label = left.label ∧
        ∃ unpacked ∈ node.having role, unpacked.tag = child.tag.id ∧ unpacked.isStarred = true
  /-- Every node that was built is built well. -/
  built : ∀ left ∈ printed.preorder, left.tag.id ∉ parsed.tags → left.WellBuilt

namespace Transform

variable {module file source : String} {origin : Origin} {names : List String}
  {tree : SourceTree} {printed : Tree LiveTree.Tag}

section Parts

variable {live : LiveTree} {whole node : NumberedTree}

/-- A node as it is handed to the printer, with its position and without imports. -/
def left (module : String) (live : LiveTree) (node : NumberedTree) : Tree LiveTree.Tag :=
  Strip.strip module default (node.map fun id => ⟨id, live.position? id⟩)

@[simp]
theorem tag_left : (left module live node).tag.id = node.tag := by
  rw [left, Strip.tag_strip, tag_map]

@[simp]
theorem label_left : (left module live node).label = node.label := by
  rw [left, Strip.label_strip, label_map]

/-- What is handed over are the nodes as they are left, and `pass` statements. -/
theorem mem_left {inner : Tree LiveTree.Tag} (member : inner ∈ (left module live whole).preorder) :
    inner = Strip.pass default ∨ ∃ node ∈ whole.preorder, inner = left module live node := by
  refine (Strip.mem_strip member).imp_right fun ⟨before, inside, same⟩ => ?_
  rw [preorder_map] at inside
  obtain ⟨node, among, rfl⟩ := List.mem_map.mp inside
  exact ⟨node, among, same⟩

/-- A child of a node as it is left is a child as it is left, or a `pass` statement. -/
theorem child_left {child : Role × Tree LiveTree.Tag}
    (member : child ∈ (left module live node).children) :
    child.2 = Strip.pass default ∨
      ∃ before ∈ node.children, child = (before.1, left module live before.2) := by
  rw [left, Strip.children_strip_eq, children_map] at member
  refine (Strip.mem_stripForest member).imp_right fun ⟨before, inside, _, same⟩ => ?_
  obtain ⟨inner, among, rfl⟩ := List.mem_map.mp inside
  exact ⟨inner, among, same⟩

/-- A child that is no import from the module is left. -/
theorem left_child {child : Role × NumberedTree} (member : child ∈ node.children)
    (kept : Imports.isFrom module child.2.label = false) :
    (child.1, left module live child.2) ∈ (left module live node).children := by
  rw [left, Strip.children_strip_eq, children_map]
  have mapped := List.mem_map_of_mem
    (f := fun child : Role × NumberedTree =>
      (child.1, child.2.map fun id => (⟨id, live.position? id⟩ : LiveTree.Tag))) member
  exact Strip.mem_stripForest_of_mem mapped (by rwa [label_map])

variable {start : LiveTree} (expanded : start.Expanded live)

include expanded

/-- **A statement or a part of one stays where it was.** -/
theorem exists_same_child (reads : start.Reads node) {other : NumberedTree}
    (readsOther : live.Reads other) (tag : other.tag = node.tag) {child : Role × NumberedTree}
    (member : child ∈ node.children) (noCall : child.2.label ≠ .call) :
    ∃ child' ∈ other.children, child'.1 = child.1 ∧ child'.2.tag = child.2.tag ∧
      child'.2.label = child.2.label := by
  have known : node.tag < start.size := reads.lt_size (tag_mem_tags node)
  have readsChild := reads.of_mem (child_mem_preorder member)
  have knownChild := readsChild.lt_size (tag_mem_tags child.2)
  have slot : (child.1, child.2.tag) ∈ start.slots node.tag := by
    rw [reads.slots]
    exact List.mem_map_of_mem member
  have slot' := expanded.slot_of_slot known slot (readsChild.label ▸ noCall)
  rw [← tag, readsOther.slots] at slot'
  obtain ⟨child', inside, same⟩ := List.mem_map.mp slot'
  obtain ⟨role, sameTag⟩ := Prod.mk.inj same
  refine ⟨child', inside, role, sameTag, ?_⟩
  rw [← (readsOther.of_mem (child_mem_preorder inside)).label, sameTag,
    expanded.label _ knownChild, readsChild.label]

/-- **What stands in the statements of a program is still there.** -/
theorem stays {parsed : NumberedTree} (reads : start.Reads parsed) (readsWhole : live.Reads whole)
    (tag : whole.tag = parsed.tag) (inStatements : parsed.InStatements module node) :
    node ∈ parsed.preorder ∧ ∃ other ∈ whole.preorder, other.tag = node.tag ∧
      other.label = node.label ∧
      left module live other ∈ (left module live whole).preorder := by
  induction inStatements with
  | root =>
    refine ⟨self_mem_preorder _, whole, self_mem_preorder _, tag, ?_, self_mem_preorder _⟩
    rw [← readsWhole.label, ← reads.label, tag]
    exact expanded.label _ (reads.lt_size (tag_mem_tags parsed))
  | @child node child above member other kept ih =>
    obtain ⟨inside, there, among, same, label, isLeft⟩ := ih
    have noCall : child.2.label ≠ .call := fun isCall => other (by rw [isCall]; rfl)
    obtain ⟨child', isChild, role, sameTag, sameLabel⟩ := exists_same_child expanded
      (reads.of_mem inside) (readsWhole.of_mem among) same member noCall
    refine ⟨mem_preorder_trans (child_mem_preorder member) inside, child'.2,
      mem_preorder_trans (child_mem_preorder isChild) among, sameTag, sameLabel, ?_⟩
    exact mem_preorder_trans (child_mem_preorder (left_child isChild (sameLabel ▸ kept))) isLeft

/-- **A list that held a statement still does.** -/
theorem blocks (reads : start.Reads node) {other : NumberedTree} (readsOther : live.Reads other)
    (tag : other.tag = node.tag) (label : other.label = node.label) (inner : node.label ≠ .module)
    {role : Role} (isBlock : role.isBlock = true)
    (some : ∃ statement ∈ node.having role, statement.label.isStatement = true) :
    ∃ statement ∈ (left module live other).having role, statement.label.isStatement = true := by
  obtain ⟨statement, member, isStatement⟩ := some
  have noCall : statement.label ≠ .call := fun isCall => by
    rw [isCall] at isStatement
    exact nomatch isStatement
  obtain ⟨child, inside, role_eq, -, sameLabel⟩ := exists_same_child expanded reads readsOther tag
    (mem_having.mp member) noCall
  have statements : ∃ child ∈ (other.map fun id => (⟨id, live.position? id⟩ : LiveTree.Tag)).children,
      child.1 = role ∧ child.2.label.isStatement = true := by
    rw [children_map]
    refine ⟨_, List.mem_map_of_mem inside, role_eq, ?_⟩
    rw [label_map, sameLabel]
    exact isStatement
  obtain ⟨⟨role', kept⟩, isLeft, rfl, isStatement'⟩ :=
    Strip.exists_in_block isBlock (by rwa [label_map, label]) statements
  exact ⟨kept, mem_having.mpr isLeft, isStatement'⟩

/-- What is not unpacked in the table in which all began is not unpacked. -/
theorem isStarred_left (reads : live.Reads node) (plain : start.Plain node.tag) :
    (left module live node).isStarred = false := by
  rw [isStarred, label_left, ← reads.label, Bool.eq_false_iff]
  intro starred
  obtain ⟨-, same⟩ := expanded.old_of_starred starred
  rw [same, plain] at starred
  exact Bool.false_ne_true starred

/-- The children of a node that was built, as they are left, if they are not unpacked. -/
theorem children_plain (reads : live.Reads node)
    (plain : ∀ slot ∈ live.slots node.tag, start.Plain slot.2) :
    ∀ child ∈ (left module live node).children, child.2.isStarred = false := by
  intro child member
  rcases child_left member with same | ⟨before, inside, rfl⟩
  · rw [same]
    rfl
  · have slot : (before.1, before.2.tag) ∈ live.slots node.tag := by
      rw [reads.slots]
      exact List.mem_map_of_mem inside
    exact isStarred_left expanded (reads.of_mem (child_mem_preorder inside)) (plain _ slot)

omit expanded in
/-- The elements of a display are all left. -/
theorem having_elts_left {usage : Usage} (conforms : node.Conforms) (display : node.label = .tuple usage)
    (elements : ∀ child ∈ node.children, child.1 = .elts) :
    (left module live node).having .elts =
      node.children.map fun child => left module live child.2 := by
  have kept : ∀ child ∈ (node.map fun id => (⟨id, live.position? id⟩ : LiveTree.Tag)).children,
      Imports.isFrom module child.2.label = false := by
    intro child member
    rw [children_map] at member
    obtain ⟨inner, inside, rfl⟩ := List.mem_map.mp member
    have family := conforms.families inner inside
    rw [display, elements inner inside] at family
    rw [label_map]
    generalize inner.2.label = label at family
    cases label with
    | importFrom => exact nomatch family
    | _ => rfl
  have all : ∀ forest : Forest LiveTree.Tag, (∀ child ∈ forest, child.1 = .elts) →
      inRole .elts forest = forest.map Prod.snd := by
    intro forest same
    rw [inRole, ← List.filterMap_eq_map]
    exact List.filterMap_congr fun child member => if_pos (same child member)
  have children : (left module live node).children =
      node.children.map fun child => (child.1, left module live child.2) := by
    rw [left, Strip.children_strip kept, children_map, List.map_map]
    rfl
  have having : (left module live node).having .elts =
      inRole .elts (left module live node).children := rfl
  rw [having, children, all _ fun child member => ?_, List.map_map]
  · rfl
  · obtain ⟨inner, inside, rfl⟩ := List.mem_map.mp member
    exact elements inner inside

/-- **A node that was built is built well.** -/
theorem built (reads : live.Reads node) (conforms : node.Conforms) (new : start.size ≤ node.tag) :
    (left module live node).WellBuilt := by
  have makes := expanded.made node.tag (reads.lt_size (tag_mem_tags node)) new
  have plain := @children_plain module live node start expanded reads
  have label := reads.label
  rw [label] at makes
  rw [Tree.WellBuilt, label_left]
  generalize isLabel : node.label = label at makes
  cases label with
  | ifExp => exact plain makes
  | tuple usage =>
    cases usage with
    | load =>
      obtain ⟨several, elements, last⟩ := makes
      rw [reads.slots] at several elements last
      have elts : ∀ child ∈ node.children, child.1 = .elts := fun child member =>
        elements _ (List.mem_map_of_mem member)
      dsimp only
      rw [having_elts_left conforms isLabel elts, List.length_map, List.getLast?_map]
      rw [LiveTree.slotsOf, List.length_map] at several
      rw [LiveTree.slotsOf, List.getLast?_map] at last
      refine ⟨several, fun tree isLast => ?_⟩
      obtain ⟨child, same, rfl⟩ := Option.map_eq_some_iff.mp isLast
      have inside : child ∈ node.children := List.mem_of_getLast? same
      exact isStarred_left expanded (reads.of_mem (child_mem_preorder inside))
        (last _ (Option.map_eq_some_iff.mpr ⟨child, same, rfl⟩))
    | _ => exact makes.elim
  | _ => trivial

end Parts

section Whole

variable {live : LiveTree} {whole other : NumberedTree}

/-- **What is unpacked stands where it may, or where it stood.** -/
theorem starred (expanded : (LiveTree.ofTree tree).2.Expanded live) (reads : live.Reads other)
    {role : Role} {child : Tree LiveTree.Tag}
    (member : child ∈ (left module live other).having role) (isStarred : child.isStarred = true) :
    (left module live other).label.takesUnpacked role = true ∨
      ∃ node ∈ tree.numbered.preorder, node.tag = (left module live other).tag.id ∧
        node.label = (left module live other).label ∧
        ∃ unpacked ∈ node.having role, unpacked.tag = child.tag.id ∧
          unpacked.isStarred = true := by
  rcases child_left (mem_having.mp member) with same | ⟨before, inside, same⟩
  · dsimp only at same
    rw [same] at isStarred
    exact nomatch isStarred
  obtain ⟨rfl, rfl⟩ := Prod.mk.inj same
  rw [Tree.isStarred, label_left] at isStarred
  have label := (reads.of_mem (child_mem_preorder inside)).label
  rw [← label] at isStarred
  obtain ⟨old, same⟩ := expanded.old_of_starred isStarred
  have slot : (before.1, before.2.tag) ∈ live.slots other.tag := by
    rw [reads.slots]
    exact List.mem_map_of_mem inside
  rw [label_left, tag_left, tag_left]
  rcases Nat.lt_or_ge other.tag (LiveTree.ofTree tree).2.size with known | new
  · obtain ⟨node, isNode, tag, itsLabel⟩ := (numbering tree).exists_node known
    have slot' := expanded.slot_of_old known old slot
    obtain ⟨unpacked, isChild, itsTag, unpackedLabel⟩ :=
      (numbering tree).exists_child isNode (tag ▸ slot')
    refine Or.inr ⟨node, isNode, tag, ?_, unpacked, mem_having.mpr isChild, itsTag, ?_⟩
    · rw [itsLabel, ← expanded.label _ known, reads.label]
    · rw [Tree.isStarred, unpackedLabel, ← same]
      exact isStarred
  · -- An expansion makes a node above something unpacked only if that is a display.
    have makes := expanded.made other.tag (reads.lt_size (tag_mem_tags other)) new
    rw [reads.label] at makes
    have absurdity : (∀ slot ∈ live.slots other.tag, (LiveTree.ofTree tree).2.Plain slot.2) →
        False := fun plain => by
      rw [same, plain _ slot] at isStarred
      exact Bool.false_ne_true isStarred
    generalize other.label = itsLabel at makes
    unfold LiveTree.Makes at makes
    split at makes
    · rw [makes.2.1 _ slot]
      exact Or.inl rfl
    · exact (absurdity makes).elim
    · exact (absurdity makes).elim
    · exact (absurdity makes).elim
    · exact (absurdity makes).elim
    · exact makes.elim

/-- **What is left of a program is legal.** -/
theorem legal_rewritten (program : tree.IsProgram)
    (rewrites : rewritten file module names tree = some printed) :
    tree.numbered.Legal module printed := by
  obtain ⟨live, whole, expanded, reads, conforming, tag, rfl⟩ := exists_program program rewrites
  have numbers := numbering tree
  have conformingBefore := (conforming_of_shape_eq numbers.shape).mpr program.conforming
  refine ⟨fun node inStatements => ?_, fun node isNode inner role isBlock some printed member same
    label => ?_, fun printed member role child inside isStarred => ?_,
    fun printed member outside => ?_⟩
  · obtain ⟨-, other, -, same, label, isLeft⟩ := stays expanded numbers.reads reads
      (tag.trans numbers.root.symm) inStatements
    exact ⟨_, isLeft, tag_left.trans same, label_left.trans label⟩
  · rcases mem_left member with rfl | ⟨other, among, rfl⟩
    · obtain ⟨statement, held, -⟩ := some
      obtain ⟨number, itsLabel, children⟩ := node
      obtain rfl : Label.passStmt = itsLabel := label
      rw [having_node, (conformingBefore _ isNode).children_eq_nil rfl] at held
      exact absurd held List.not_mem_nil
    · exact blocks expanded (numbers.reads.of_mem isNode) (reads.of_mem among)
        (tag_left.symm.trans same) (label_left.symm.trans label) inner isBlock some
  · rcases mem_left member with rfl | ⟨other, among, rfl⟩
    · exact absurd inside List.not_mem_nil
    · exact starred expanded (reads.of_mem among) inside isStarred
  · rcases mem_left member with rfl | ⟨other, among, rfl⟩
    · trivial
    · refine built expanded (reads.of_mem among) (conforming other among) ?_
      rw [tag_left] at outside
      exact Nat.le_of_not_lt fun known => outside (numbers.covers _ known)

/-- **What is handed to the printer for a program is legal**, whatever names are bound to the macro
and in whatever order: lists of statements stay filled, what is unpacked stands where it may or where
it stood, and what expansions build is built well. -/
theorem legal_handedOver (read : parse origin source = .ok tree)
    (handed : handedOver module origin file source = some printed) :
    tree.numbered.Legal module printed := by
  obtain ⟨tree', names, read', -, rewrites⟩ := exists_rewritten handed
  obtain rfl := Except.ok.inj (read.symm.trans read')
  exact legal_rewritten (isProgram_of_parse read) rewrites

/-- The program `from m import If` and `If(b).then_do(*c).end()`. -/
def discarding : String := "from m import If\nIf(b).then_do(*c).end()\n"

set_option maxRecDepth 10000 in
/-- What is unpacked among discarded expressions leads to a legal display. -/
theorem legal_handedOver_discarding : ∃ tree printed, parse .file discarding = .ok tree ∧
    handedOver "m" .file "" discarding = some printed ∧ tree.numbered.Legal "m" printed := by
  have evaluated : ((Source.read .file discarding).toOption.bind fun tree =>
      (Imports.bindings "m" tree).toOption.bind fun names =>
        (rewritten "" "m" names tree).map fun _ => names) = some ["If"] := by
    decide +kernel
  obtain ⟨tree, read, evaluated⟩ := Option.bind_eq_some_iff.mp evaluated
  obtain ⟨names, bound, evaluated⟩ := Option.bind_eq_some_iff.mp evaluated
  obtain ⟨printed, rewrites, evaluated⟩ := Option.map_eq_some_iff.mp evaluated
  subst evaluated
  have parsed : parse .file discarding = .ok tree := parse_of_read (by decide_cbv) read
  have handed : handedOver "m" .file "" discarding = some printed :=
    (transform_eq parsed (eq_ok_of_toOption_eq_some bound)).2.trans rewrites
  exact ⟨tree, printed, parsed, handed, legal_handedOver parsed handed⟩

end Whole

end Transform

end IfChains
