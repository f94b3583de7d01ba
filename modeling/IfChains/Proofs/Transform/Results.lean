/-
**What expanding the chains of a text comes to.**

Every step of an expansion can be evaluated. An expansion that fails does so with a report, unless
the text holds the character of code zero or what is left of it has no source text: in the tree of a
program, the walk along a chain stops at malformed chains only.

* `textOf?`, `transform_of_textOf?`: the text that a program comes to, evaluated;
* `expandNames_fault`: names are refused for a malformed chain;
* `transform_fault`: the ways in which an expansion fails.
-/

import IfChains.Proofs.Transform.HandedOver

namespace IfChains

open IfChains.Tree IfChains.Walk

namespace Transform

open NumberedTree

variable {module file source text : String} {origin : Origin} {names : List String}

section Evaluation

/-- The text that a program comes to, step by step; nothing if it cannot be read or printed, or does
not import the macro. -/
def textOf? (module : String) (origin : Origin) (file source : String) : Option String :=
  (Source.read origin source).toOption.bind fun tree =>
    (Imports.bindings module tree).toOption.bind fun
      | [] => none
      | name :: names => (rewritten file module (name :: names) tree).bind (·.print.toOption)

/-- What is evaluated is what the program comes to. -/
theorem transform_of_textOf? (clean : source.contains '\x00' = false)
    (evaluated : textOf? module origin file source = some text) :
    (transform module origin file source).result = .ok (text ++ "\n") := by
  obtain ⟨tree, read, evaluated⟩ := Option.bind_eq_some_iff.mp evaluated
  obtain ⟨names, bound, evaluated⟩ := Option.bind_eq_some_iff.mp evaluated
  match names with
  | [] => cases evaluated
  | name :: names =>
    obtain ⟨printed, left, same⟩ := Option.bind_eq_some_iff.mp evaluated
    rw [(transform_eq (parse_of_read clean read) (eq_ok_of_toOption_eq_some bound)).1]
    exact expandTree_result left (eq_ok_of_toOption_eq_some same)

end Evaluation

section Faults

variable {state : WalkState} {numbered : NumberedTree}

/-- Names in a program are refused for a malformed chain. -/
theorem expandNames_fault {progress after : Progress} {fault : WalkFault}
    (sound : Sound [] { progress.state with processed := [] } numbered)
    (stopped : expandNames file module numbered.tag names progress = (some fault, after)) :
    ∃ shape location, fault = .shape shape location := by
  induction names generalizing progress numbered with
  | nil => cases stopped
  | cons name rest ih =>
    have met := meets_expandName file module name sound
    rw [Meets] at met
    unfold expandNames at stopped
    split at stopped <;> rename_i same
    · have outcome : (expandName file module numbered.tag name).outcome progress.state = _ := same
      rw [outcome] at met
      obtain ⟨left, sound', tag, -⟩ := met
      rw [← tag] at stopped
      exact ih sound' stopped
    · have outcome : (expandName file module numbered.tag name).outcome progress.state = _ := same
      rw [outcome] at met
      cases stopped
      exact met.1

/-- The ways in which expanding the chains of a program fails. -/
theorem expandTree_fault {tree : SourceTree} {fault : Fault} (program : tree.IsProgram)
    (failed : (expandTree file module names tree).result = .error fault) :
    (∃ shape location, fault = .walk (.shape shape location)) ∨
      ∃ reason, fault = .print reason := by
  have none : NamesIn [] tree := fun _ absent => absurd absent List.not_mem_nil
  obtain ⟨sound, root, -⟩ := program.sound none
  unfold expandTree at failed
  dsimp only at failed
  rw [← root] at failed
  split at failed
  · rename_i walkFault done
    obtain rfl := Except.error.inj failed
    have stopped : expandNames file module tree.numbered.tag names
        ⟨{ live := (LiveTree.ofTree tree).2 }, 0⟩ = (some walkFault, _) := Prod.ext done rfl
    obtain ⟨shape, location, rfl⟩ := expandNames_fault sound stopped
    exact Or.inl ⟨shape, location, rfl⟩
  · unfold printed at failed
    split at failed
    · cases failed
    · exact Or.inr ⟨_, (Except.error.inj failed).symm⟩

/-- **The ways in which an expansion fails**: with a report, for the character of code zero, or
because what is left of the program has no source text. -/
theorem transform_fault {fault : Fault}
    (failed : (transform module origin file source).result = .error fault) :
    (∃ report, fault.report? = some report) ∨
      (fault = .nullCharacter ∧ source.contains '\x00' = true) ∨
      ∃ reason, fault = .print reason := by
  unfold transform at failed
  split at failed
  · rename_i parseFault unread
    obtain rfl := Except.error.inj failed
    unfold parse at unread
    split at unread
    · rename_i holds
      exact Or.inr (Or.inl ⟨(Except.error.inj unread).symm, holds⟩)
    · split at unread
      · cases unread
      · obtain rfl := Except.error.inj unread
        exact Or.inl ⟨_, rfl⟩
  · rename_i tree read
    split at failed
    · obtain rfl := Except.error.inj failed
      exact Or.inl ⟨_, rfl⟩
    · cases failed
    · rcases expandTree_fault (isProgram_of_parse read) failed with
        ⟨shape, location, rfl⟩ | ⟨reason, rfl⟩
      · exact Or.inl ⟨_, rfl⟩
      · exact Or.inr (Or.inr ⟨reason, rfl⟩)

end Faults

end Transform

end IfChains
