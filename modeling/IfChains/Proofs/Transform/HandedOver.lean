/-
**The tree that is handed to the printer.**

Expanding the chains of a program comes to the text of a tree, unless the program does not import the
macro. That tree is what is left without the imports once the chains of all names are expanded.

* `rewritten`, `handedOver`: the tree, for a program that is a tree and for one that is a text;
* `transform_cases`: the text of a program is its own one, or that of the tree handed to the printer;
* `isProgram_of_parse`: the tree of a text is that of a program;
* `exists_expanded`: the tree handed to the printer is left of one that a table shows which has come
  by expansions;
* `exists_program`: for a program that is left of a program.
-/

import IfChains.Proofs.Chain.Building
import IfChains.Proofs.Chain.Program
import IfChains.Proofs.Grammar.Programs
import IfChains.Proofs.Transform.Stripping
import IfChains.Proofs.Transform.View

namespace IfChains

open IfChains.Tree IfChains.Walk

namespace Transform

variable {module file source text : String} {origin : Origin} {names : List String}
  {tree : SourceTree} {printed : Tree LiveTree.Tag}

/-- The tree that is left of a program when the chains of some names are expanded and the imports of
the macro are removed. -/
def rewritten (file module : String) (names : List String) (tree : SourceTree) :
    Option (Tree LiveTree.Tag) :=
  let (root, live) := LiveTree.ofTree tree
  match expandNames file module root names ⟨{ live := live }, 0⟩ with
  | (none, progress) => some (Strip.strip module default (progress.state.live.toTree root))
  | (some _, _) => none

/-- The tree that is handed to the printer for a program which imports the macro. -/
def handedOver (module : String) (origin : Origin) (file source : String) :
    Option (Tree LiveTree.Tag) :=
  match parse origin source with
  | .error _ => none
  | .ok tree =>
    match Imports.bindings module tree with
    | .ok (name :: names) => rewritten file module (name :: names) tree
    | _ => none

section Outcomes

/-- A program that is a tree comes to the text of what is left of it. -/
theorem expandTree_cases (accepted : (expandTree file module names tree).result = .ok text) :
    ∃ printed printedText, rewritten file module names tree = some printed ∧
      printed.print = .ok printedText ∧ text = printedText ++ "\n" := by
  unfold expandTree at accepted
  unfold rewritten
  generalize LiveTree.ofTree tree = planted at accepted ⊢
  obtain ⟨root, live⟩ := planted
  dsimp only at accepted ⊢
  generalize expandNames file module root names ⟨{ live := live }, 0⟩ = run at accepted ⊢
  obtain ⟨fault, progress⟩ := run
  cases fault with
  | some fault => exact nomatch accepted
  | none =>
    have printing : Transform.printed module (progress.state.live.toTree root) = .ok text := accepted
    unfold Transform.printed at printing
    split at printing
    · rename_i printedText same
      exact ⟨_, printedText, rfl, same, (Except.ok.inj printing).symm⟩
    · exact nomatch printing

/-- The text of what is left of a program that is a tree. -/
theorem expandTree_result {printedText : String}
    (left : rewritten file module names tree = some printed)
    (same : printed.print = .ok printedText) :
    (expandTree file module names tree).result = .ok (printedText ++ "\n") := by
  unfold rewritten at left
  unfold expandTree
  generalize LiveTree.ofTree tree = planted at left ⊢
  obtain ⟨root, live⟩ := planted
  dsimp only at left ⊢
  generalize expandNames file module root names ⟨{ live := live }, 0⟩ = run at left ⊢
  obtain ⟨fault, progress⟩ := run
  cases fault with
  | some fault => exact nomatch left
  | none =>
    rw [← Option.some.inj left] at same
    dsimp only
    rw [Transform.printed, same]

/-- A program that imports the macro is expanded as a tree. -/
theorem transform_eq {name : String} (read : parse origin source = .ok tree)
    (bound : Imports.bindings module tree = .ok (name :: names)) :
    transform module origin file source = expandTree file module (name :: names) tree ∧
      handedOver module origin file source = rewritten file module (name :: names) tree := by
  constructor
  · rw [transform, read]
    simp only [bound]
  · rw [handedOver, read]
    simp only [bound]

/-- **The text of a program** is its own one if it does not import the macro, and else that of the
tree handed to the printer. -/
theorem transform_cases (accepted : (transform module origin file source).result = .ok text) :
    (∃ tree, parse origin source = .ok tree ∧ Imports.bindings module tree = .ok [] ∧
      text = source) ∨
    ∃ printed printedText, handedOver module origin file source = some printed ∧
      printed.print = .ok printedText ∧ text = printedText ++ "\n" := by
  unfold transform at accepted
  unfold handedOver
  split at accepted
  · exact nomatch accepted
  · rename_i tree read
    rw [read]
    split at accepted
    · exact nomatch accepted
    · rename_i bound
      exact Or.inl ⟨tree, rfl, bound, (Except.ok.inj accepted).symm⟩
    · rename_i names some bound
      obtain ⟨name, names, rfl⟩ := List.exists_cons_of_ne_nil some
      refine Or.inr ?_
      obtain ⟨printed, printedText, left, same, rfl⟩ := expandTree_cases accepted
      refine ⟨printed, printedText, ?_, same, rfl⟩
      simp only [bound]
      exact left

/-- A tree that is handed to the printer is left of a program which imports the macro. -/
theorem exists_rewritten (handed : handedOver module origin file source = some printed) :
    ∃ tree names, parse origin source = .ok tree ∧ Imports.bindings module tree = .ok names ∧
      rewritten file module names tree = some printed := by
  unfold handedOver at handed
  split at handed
  · exact nomatch handed
  · rename_i tree read
    split at handed
    · rename_i name names bound
      exact ⟨tree, _, read, bound, handed⟩
    · exact nomatch handed

end Outcomes

section Roots

/-- What an accepted result comes to. -/
theorem eq_ok_of_toOption_eq_some {ε α : Type} {result : Except ε α} {value : α}
    (same : result.toOption = some value) : result = .ok value := by
  cases result with
  | error fault => exact nomatch same
  | ok found => exact congrArg _ (Option.some.inj same)

/-- A text without the character of code zero is read as it is. -/
theorem parse_of_read (clean : source.contains '\x00' = false)
    (read : (Source.read origin source).toOption = some tree) : parse origin source = .ok tree := by
  rw [parse, clean, eq_ok_of_toOption_eq_some read]
  rfl

/-- **The tree of a text is that of a program.** -/
theorem isProgram_of_parse (read : parse origin source = .ok tree) : tree.IsProgram := by
  unfold parse at read
  split at read
  · cases read
  · split at read
    · rename_i found same
      obtain rfl := Except.ok.inj read
      exact Source.isProgram_of_read same
    · cases read

end Roots

section Expansions

variable {start : LiveTree} {root : NodeId}

/-- Expanding the chains of one name. -/
theorem expands_expandName (file module : String) (root : NodeId) (name : String) :
    start.Expands (expandName file module root name) fun _ => True := by
  refine upholds_look looks_live fun live state expanded => ?_
  exact meets_bind_ok rfl (LiveTree.expands_dispatch name _ _ expanded)

/-- Expanding the chains of names keeps what expanding those of each name keeps. -/
theorem held_expandNames {holds : WalkState → Prop} {progress : Progress}
    {result : Option WalkFault × Progress}
    (each : ∀ name, Upholds holds (expandName file module root name) fun _ => True)
    (held : holds progress.state)
    (done : expandNames file module root names progress = result) : holds result.2.state := by
  induction names generalizing progress with
  | nil => exact done ▸ held
  | cons name rest ih =>
    have met := (each name).after held
    unfold expandNames at done
    split at done <;> rename_i same
    · have after : (expandName file module root name).outcome progress.state = _ := same
      rw [after] at met
      exact ih met done
    · have after : (expandName file module root name).outcome progress.state = _ := same
      rw [after] at met
      exact done ▸ met

/-- Expanding the chains of names leads from table to table by expansions. -/
theorem expanded_expandNames (file module : String) (root : NodeId) {names : List String}
    {progress : Progress} (expanded : start.Expanded progress.state.live) :
    start.Expanded (expandNames file module root names progress).2.state.live :=
  held_expandNames (fun name => expands_expandName file module root name) expanded rfl

/-- Expanding the chains of a name keeps what lasts. -/
theorem lasts_expandName {holds : WalkState → Prop} {made : NodeId → Prop}
    (lasting : Lasting holds made) (file module : String) (root : NodeId) (name : String) :
    Upholds holds (expandName file module root name) fun _ => True :=
  upholds_look looks_live fun _ =>
    (lasting.upholds_remark _).bind fun _ _ => lasting.upholds_dispatch name _

/-- What is left of a program is what the table shows when the chains of all names are expanded. -/
theorem exists_progress (left : rewritten file module names tree = some printed) :
    ∃ progress, expandNames file module (LiveTree.ofTree tree).1 names
        ⟨{ live := (LiveTree.ofTree tree).2 }, 0⟩ = (none, progress) ∧
      printed = Strip.strip module default
        (progress.state.live.toTree (LiveTree.ofTree tree).1) := by
  unfold rewritten at left
  generalize LiveTree.ofTree tree = planted at left ⊢
  obtain ⟨root, live⟩ := planted
  dsimp only at left ⊢
  generalize expandNames file module root names ⟨{ live := live }, 0⟩ = run at left ⊢
  obtain ⟨fault, progress⟩ := run
  cases fault with
  | some fault => exact nomatch left
  | none => exact ⟨progress, rfl, (Option.some.inj left).symm⟩

/-- **What is handed to the printer** is left of a tree that a table shows which has come by
expansions from the table of the program. -/
theorem exists_expanded (left : rewritten file module names tree = some printed) :
    ∃ live, (LiveTree.ofTree tree).2.Expanded live ∧
      printed = Strip.strip module default (live.toTree (LiveTree.ofTree tree).1) := by
  obtain ⟨progress, done, same⟩ := exists_progress left
  have expanded := @expanded_expandNames _ file module (LiveTree.ofTree tree).1 names
    ⟨{ live := (LiveTree.ofTree tree).2 }, 0⟩ (LiveTree.expanded_refl _)
  rw [done] at expanded
  exact ⟨_, expanded, same⟩

end Expansions

section Programs

open NumberedTree

variable {listed : List NodeId} {state : WalkState} {numbered : NumberedTree}

/-- A tree without listed names, in a state in which no chain is noted as expanded. -/
theorem sound_unlisted (sound : Sound listed state numbered) :
    Sound [] { state with processed := [] } numbered :=
  ⟨sound.reads, sound.linked, sound.rootless, sound.distinct, sound.root, sound.conforming,
    fun _ absent => absurd absent List.not_mem_nil, fun _ absent => absurd absent List.not_mem_nil,
    List.nodup_nil, List.nil_subset _⟩

/-- The references to a name are listed. -/
theorem sound_referencesTo (module name : String)
    (sound : Sound [] { state with processed := [] } numbered) :
    Sound (referencesTo module name numbered.tag state.live) { state with processed := [] }
      numbered := by
  refine ⟨sound.reads, sound.linked, sound.rootless, sound.distinct, sound.root, sound.conforming,
    fun id member => ?_, fun id member => ?_, List.nodup_nil, List.nil_subset _⟩
  · obtain ⟨node, inside, rfl, label⟩ := mem_referencesTo sound.reads sound.distinct member
    exact ⟨name, .load, (sound.reads.of_mem inside).label.trans label⟩
  · obtain ⟨node, inside, rfl, -⟩ := mem_referencesTo sound.reads sound.distinct member
    exact iff_of_true (List.mem_map_of_mem inside) List.not_mem_nil

/-- **Expanding the chains of one name in a program** expands those of all references to it, or
stops at a malformed chain because some reference opens none. -/
theorem meets_expandName (file module name : String)
    (sound : Sound [] { state with processed := [] } numbered) :
    Meets (expandName file module numbered.tag name) state
      (fun _ after => ∃ left, Sound [] { after with processed := [] } left ∧
        left.tag = numbered.tag ∧
        Reduces (referencesTo module name numbered.tag state.live) numbered left ∧
        Unlisted (referencesTo module name numbered.tag state.live) left)
      fun fault _ => (∃ shape location, fault = .shape shape location) ∧
        ∃ id ∈ referencesTo module name numbered.tag state.live,
          numbered.opensChain id = false := by
  refine meets_bind_ok outcome_live (meets_bind_ok rfl ?_)
  have listed : Sound (referencesTo module name numbered.tag state.live) { state with
      processed := []
      remarks := state.remarks ++
        [.references file (referencesTo module name numbered.tag state.live).length name] }
      numbered :=
    (sound_referencesTo module name sound).grown (.refl _) rfl
  refine (meets_dispatch name listed).imp ?_ ?_
  · rintro count after ⟨left, sound', tag, reduces, unlisted, -⟩
    exact ⟨left, sound_unlisted sound', tag, reduces, unlisted⟩
  · rintro fault after ⟨shape, ⟨id, member, -, malformed⟩, -⟩
    exact ⟨shape, id, member, malformed⟩

/-- Expanding the chains of names in a program leaves a program. -/
theorem exists_sound_expandNames {progress after : Progress}
    (sound : Sound [] { progress.state with processed := [] } numbered)
    (done : expandNames file module numbered.tag names progress = (none, after)) :
    ∃ left, Sound [] { after.state with processed := [] } left ∧ left.tag = numbered.tag := by
  induction names generalizing progress numbered with
  | nil =>
    obtain rfl := (Prod.mk.inj done).2
    exact ⟨numbered, sound, rfl⟩
  | cons name rest ih =>
    have met := meets_expandName file module name sound
    rw [Meets] at met
    unfold expandNames at done
    split at done <;> rename_i same
    · have outcome : (expandName file module numbered.tag name).outcome progress.state = _ := same
      rw [outcome] at met
      obtain ⟨left, sound', tag, -⟩ := met
      rw [← tag] at done
      obtain ⟨left', sound'', tag'⟩ := ih sound' done
      exact ⟨left', sound'', tag'.trans tag⟩
    · cases done

/-- **What is handed to the printer for a program** is left of a program, which the table reads when
the chains of all names are expanded. -/
theorem exists_whole (program : tree.IsProgram)
    (left : rewritten file module names tree = some printed) :
    ∃ (progress : Progress) (whole : NumberedTree),
      expandNames file module (LiveTree.ofTree tree).1 names
        ⟨{ live := (LiveTree.ofTree tree).2 }, 0⟩ = (none, progress) ∧
      progress.state.live.Reads whole ∧ whole.Conforming ∧ whole.tag = (LiveTree.ofTree tree).1 ∧
      printed = Strip.strip module default
        (whole.map fun id => ⟨id, progress.state.live.position? id⟩) := by
  obtain ⟨progress, done, same⟩ := exists_progress left
  have none : NamesIn [] tree := fun _ absent => absurd absent List.not_mem_nil
  obtain ⟨sound, root, -⟩ := program.sound none
  rw [← root] at done same ⊢
  obtain ⟨whole, sound', tag⟩ := exists_sound_expandNames sound done
  refine ⟨progress, whole, done, sound'.reads, sound'.conforming, tag, ?_⟩
  rw [same, ← tag]
  exact congrArg _ (sound'.reads.toTree_eq sound'.distinct)

/-- That table has come by expansions. -/
theorem exists_program (program : tree.IsProgram)
    (left : rewritten file module names tree = some printed) :
    ∃ (live : LiveTree) (whole : NumberedTree), (LiveTree.ofTree tree).2.Expanded live ∧
      live.Reads whole ∧ whole.Conforming ∧ whole.tag = (LiveTree.ofTree tree).1 ∧
      printed = Strip.strip module default (whole.map fun id => ⟨id, live.position? id⟩) := by
  obtain ⟨progress, whole, done, reads, conforming, tag, same⟩ := exists_whole program left
  have expanded := @expanded_expandNames _ file module (LiveTree.ofTree tree).1 names
    ⟨{ live := (LiveTree.ofTree tree).2 }, 0⟩ (LiveTree.expanded_refl _)
  rw [done] at expanded
  exact ⟨_, whole, expanded, reads, conforming, tag, same⟩

end Programs

end Transform

end IfChains
