/-
**Expanding the chains of a program twice.**

No import that the search for bindings reacts to is handed to the printer: those from the macro module
are removed wherever they stand, the module is not imported as a whole, and no expansion makes an
import. So if the text of what is handed over is read as that tree again, expanding the chains of
the text leaves it as it is.

* `not_reacts_of_handedOver`: the search reacts to nothing that is handed over;
* `transform_transformed`: expanding twice is expanding once.
-/

import IfChains.Proofs.Transform.Discovery
import IfChains.Proofs.Transform.HandedOver

namespace IfChains

open IfChains.Tree IfChains.Imports

namespace Transform

variable {module file source text : String} {origin : Origin} {names : List String}
  {tree : SourceTree} {printed : Tree LiveTree.Tag}

section Imports

variable {live : LiveTree} {node : Tree LiveTree.Tag}

/-- What an import statement lists is what it listed in the program. -/
theorem exists_alias (expanded : (LiveTree.ofTree tree).2.Expanded live)
    (member : node ∈ (live.toTree (LiveTree.ofTree tree).1).preorder)
    (isImport : node.label = .importStmt) {item : String × Option String}
    (listed : item ∈ aliases (Strip.strip module default node)) :
    ∃ statement ∈ tree.numbered.preorder, statement.label = .importStmt ∧
      item ∈ aliases statement := by
  have shown : live.Shown node := (LiveTree.shown_of_mem member).resolve_left fun cut =>
    nomatch isImport.symm.trans cut.1
  have label : live.label node.tag.id = .importStmt := shown.label.symm.trans isImport
  obtain ⟨known, same⟩ := expanded.old_of_label label nofun nofun
  obtain ⟨child, inside, isItem⟩ := List.mem_filterMap.mp listed
  rw [Strip.children_strip_eq] at inside
  rcases Strip.mem_stripForest inside with isPass | ⟨before, among, -, rfl⟩
  · rw [isPass] at isItem
    exact nomatch isItem
  -- The item is a child of the statement in the table, and was one from the start.
  rw [Strip.label_strip] at isItem
  obtain ⟨name, asname, itemLabel, rfl⟩ : ∃ name asname,
      before.2.label = .importItem name asname ∧ item = (name, asname) := by
    split at isItem
    · rename_i name asname itemLabel
      exact ⟨name, asname, itemLabel, (Option.some.inj isItem).symm⟩
    · exact nomatch isItem
  have beneath : before.2 ∈ (live.toTree (LiveTree.ofTree tree).1).preorder :=
    mem_preorder_trans (child_mem_preorder among) member
  have here : live.label before.2.tag.id = .importItem name asname :=
    ((LiveTree.label_of_mem beneath).resolve_left (by simp [itemLabel])).symm.trans itemLabel
  obtain ⟨old, same'⟩ := expanded.old_of_label here nofun nofun
  obtain ⟨statement, isNode, tag, label'⟩ := (numbering tree).exists_node known
  have slot := expanded.slot_of_old known old (shown.slot_of_child among)
  obtain ⟨child, isChild, -, itsLabel⟩ := (numbering tree).exists_child isNode (tag ▸ slot)
  rw [same'] at itsLabel
  refine ⟨statement, isNode, label'.trans same, List.mem_filterMap.mpr ⟨_, isChild, ?_⟩⟩
  simp only [itsLabel]

/-- **The search for bindings reacts to nothing that is handed to the printer.** -/
theorem not_reacts_of_handedOver (handed : handedOver module origin file source = some printed) :
    ∀ node ∈ printed.preorder, ¬Reacts module node := by
  obtain ⟨tree, names, read, bound, left⟩ := exists_rewritten handed
  obtain ⟨live, expanded, rfl⟩ := exists_expanded left
  have noWhole : NoWhole module tree.numbered :=
    noWhole_of_shape_eq (numbering tree).shape.symm (noWhole_of_bindings bound)
  have isModule : (live.toTree (LiveTree.ofTree tree).1).label = .module := by
    refine (LiveTree.label_of_mem (self_mem_preorder _)).elim id fun shown => shown.trans ?_
    have root := (numbering tree).label_root.trans (isProgram_of_parse read).root
    rw [LiveTree.tag_toTreeWithin]
    have known := (numbering tree).reads.lt_size (tag_mem_tags tree.numbered)
    rw [(numbering tree).root] at known
    exact (expanded.label _ known).trans root
  rintro node member (isFrom | ⟨isImport, item, listed, same⟩)
  · rw [Strip.isFrom_eq_false_of_mem (by rw [isModule]; rfl) member] at isFrom
    exact Bool.false_ne_true isFrom
  · rcases Strip.mem_strip member with rfl | ⟨before, beneath, rfl⟩
    · exact nomatch isImport
    · rw [Strip.label_strip] at isImport
      obtain ⟨statement, inside, isStatement, among⟩ := exists_alias expanded beneath isImport listed
      exact noWhole statement inside isStatement item among same

end Imports

section Twice

/-- **Expanding twice is expanding once.** If the text of the tree that is handed to the printer is
read as that tree, up to positions, then the text of a program is left as it is, for whatever file:
no chain is expanded in it and nothing is remarked. That is because the tree handed over has no
import, at any depth, that the search for bindings reacts to. -/
theorem transform_transformed (roundTrip : ∀ printed printedText,
      handedOver module origin file source = some printed → printed.print = .ok printedText →
      ∃ again, parse origin (printedText ++ "\n") = .ok again ∧ again.shape = printed.shape)
    (accepted : (transform module origin file source).result = .ok text) :
    (∀ file', transform module origin file' text = { result := .ok text }) ∧
      ∀ printed, handedOver module origin file source = some printed →
        ∀ node ∈ printed.preorder, ¬Reacts module node := by
  refine ⟨fun file' => ?_, fun printed handed => not_reacts_of_handedOver handed⟩
  obtain ⟨tree, read, bound⟩ : ∃ tree, parse origin text = .ok tree ∧
      bindings module tree = .ok [] := by
    rcases transform_cases accepted with ⟨tree, read, bound, rfl⟩ |
      ⟨printed, printedText, handed, same, rfl⟩
    · exact ⟨tree, read, bound⟩
    · obtain ⟨again, read, shape⟩ := roundTrip printed printedText handed same
      refine ⟨again, read, bindings_eq_nil ?_⟩
      exact not_reacts_of_shape_eq shape.symm (not_reacts_of_handedOver handed)
  rw [transform, read]
  dsimp only
  rw [bound]

/-- The program `from m import If` and `If(b).end()`. -/
def importing : String := "from m import If\nIf(b).end()\n"

/-- What a program comes to, step by step: it binds one name, what is left of it has a certain text,
and that text is read as what is left. -/
def comesTo (module name source printedText : String) : Option Bool :=
  (Source.read .file source).toOption.bind fun tree =>
    (bindings module tree).toOption.bind fun names =>
      (rewritten "" module names tree).bind fun printed =>
        printed.print.toOption.bind fun text =>
          (Source.read .file (text ++ "\n")).toOption.map fun again =>
            decide (names = [name]) && decide (text = printedText) &&
              decide (again.shape = printed.shape)

set_option maxRecDepth 10000 in
/-- The chain of a program is expanded, its import is removed, and expanding the result changes
nothing. -/
theorem transform_transformed_importing :
    (transform "m" .file "" importing).result = .ok "None if b else None\n" ∧
      transform "m" .file "" "None if b else None\n" = { result := .ok "None if b else None\n" } := by
  have evaluated : comesTo "m" "If" importing "None if b else None" = some true := by
    decide +kernel
  obtain ⟨tree, read, evaluated⟩ := Option.bind_eq_some_iff.mp evaluated
  obtain ⟨names, bound, evaluated⟩ := Option.bind_eq_some_iff.mp evaluated
  obtain ⟨printed, left, evaluated⟩ := Option.bind_eq_some_iff.mp evaluated
  obtain ⟨text, same, evaluated⟩ := Option.bind_eq_some_iff.mp evaluated
  obtain ⟨again, readAgain, evaluated⟩ := Option.map_eq_some_iff.mp evaluated
  simp only [Bool.and_eq_true, decide_eq_true_eq] at evaluated
  obtain ⟨⟨rfl, rfl⟩, shape⟩ := evaluated
  have parsed : parse .file importing = .ok tree := parse_of_read (by decide_cbv) read
  have parsedAgain : parse .file "None if b else None\n" = .ok again :=
    parse_of_read (by decide_cbv) readAgain
  have printing := eq_ok_of_toOption_eq_some same
  obtain ⟨isExpanded, isHanded⟩ := @transform_eq "m" "" importing .file [] tree "If" parsed
    (eq_ok_of_toOption_eq_some bound)
  have accepted : (transform "m" .file "" importing).result = .ok "None if b else None\n" := by
    rw [isExpanded]
    exact expandTree_result left printing
  have handed : handedOver "m" .file "" importing = some printed := isHanded.trans left
  refine ⟨accepted, (transform_transformed (fun other text handed' printing' => ?_) accepted).1 ""⟩
  obtain rfl := Option.some.inj (handed.symm.trans handed')
  obtain rfl := Except.ok.inj (printing.symm.trans printing')
  exact ⟨again, parsedAgain, shape⟩

end Twice

end Transform

end IfChains
