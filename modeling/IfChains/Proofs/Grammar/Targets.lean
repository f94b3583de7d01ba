/-
**What targets are read as.**

A primary expression grows by members, subscripts and calls, one node at a time, and stays an
expression. A target is an expression, whatever brackets stand around it, and so is what is deleted.

* `fits_callOf`: a call fits if its callee and its arguments do;
* `yields_targetPrimary`, `yields_lastSuffix`: a primary expression that goes on, and its last part;
* `yields_starTargets`, `yields_deleteTargets`: what is bound, and what is deleted.
-/

import IfChains.Proofs.Grammar.Yielding

namespace IfChains

open IfChains.Tree IfChains.Reading

namespace Grammar

section Arguments

variable {argument callee : SourceTree} {arguments : List SourceTree} {place : Position}

/-- An expression is an argument. -/
theorem isArgument_of_expression (fits : argument.Fits .expression) : argument.IsArgument := by
  unfold IsArgument
  have family := fits.family
  unfold isKeyword
  split
  · next same =>
    rw [same] at family
    cases family
  · exact fits

/-- The arguments without names are expressions. -/
theorem fits_of_positional (admitted : ∀ argument ∈ arguments, argument.IsArgument) :
    ∀ argument ∈ arguments.filter fun argument => !isKeyword argument,
      argument.Fits .expression := by
  intro argument member
  obtain ⟨inside, plain⟩ := List.mem_filter.mp member
  have argued := admitted argument inside
  rw [Bool.not_eq_true'] at plain
  rwa [IsArgument, plain] at argued

/-- The other arguments are parts. -/
theorem fits_of_keyword (admitted : ∀ argument ∈ arguments, argument.IsArgument) :
    ∀ argument ∈ arguments.filter isKeyword, argument.Fits .part := by
  intro argument member
  obtain ⟨inside, named⟩ := List.mem_filter.mp member
  have argued := admitted argument inside
  rwa [IsArgument, named] at argued

theorem fits_callOf (fits : callee.Fits .expression)
    (admitted : ∀ argument ∈ arguments, argument.IsArgument) :
    (callOf place callee arguments).Fits .expression := by
  have positional := fits_of_positional admitted
  have keywords := fits_of_keyword admitted
  simp_all [callOf]

end Arguments

section Suffixes

variable {value : SourceTree} (fits : value.Fits .expression) (place : Position)

include fits

theorem yields_memberSuffix (usage : Usage) :
    (memberSuffix place usage value).Yields (Fits .expression) :=
  .token fun _ => .token fun _ => yields_pure (by simp [fits])

theorem yields_subscriptSuffix (usage : Usage) :
    (subscriptSuffix place usage value).Yields (Fits .expression) :=
  .token fun _ => .expression rfl fun slice isSlice => .token fun _ =>
    yields_pure (by simp [fits, isSlice])

theorem yields_generatorSuffix : (generatorSuffix place value).Yields (Fits .expression) :=
  .expression rfl fun generator isGenerator =>
    yields_pure (fits_callOf fits (by simpa using isArgument_of_expression isGenerator))

theorem yields_callSuffix : (callSuffix place value).Yields (Fits .expression) := by
  refine .token fun _ => (yields_rule .arguments).attempt.bind fun arguments admitted => ?_
  exact .token fun _ => yields_pure (fits_callOf fits (forall_mem_getD admitted))

end Suffixes

section Primaries

variable {Good : SourceTree → Prop} {phrase : Reading SourceTree}

theorem yields_goesOn : goesOn.Yields fun _ => True :=
  (yields_tokenThat _).ignored

theorem yields_goingOn (yields : phrase.Yields Good) : (goingOn phrase).Yields Good :=
  yields.bind fun _ good => yields_goesOn.ahead.skip fun _ => yields_pure good

theorem yields_goneOn (yields : phrase.Yields Good) : (goneOn phrase).Yields Good :=
  yields.bind fun _ good => yields_goesOn.notAhead.skip fun _ => yields_pure good

theorem yields_targetPrimary : targetPrimary.Yields (Fits .expression) := by
  refine .place fun place => (yields_goingOn (yields_oneExpression rfl)).bind fun seed isSeed => ?_
  refine yields_grown (fun value fits => ?_) isSeed
  refine .or (yields_goingOn (yields_memberSuffix fits place .load)) (.or ?_ (.or ?_ (.or ?_ ?_)))
  · exact yields_goingOn (yields_subscriptSuffix fits place .load)
  · exact yields_goingOn (yields_generatorSuffix fits place)
  · exact yields_goingOn (yields_callSuffix fits place)
  · exact yields_choice_nil

theorem yields_lastSuffix (usage : Usage) : (lastSuffix usage).Yields (Fits .expression) := by
  refine .place fun place => .or ?_ (.or ?_ yields_choice_nil)
  · exact .expression rfl fun value fits => yields_goneOn (yields_memberSuffix fits place usage)
  · exact .expression rfl fun value fits => yields_goneOn (yields_subscriptSuffix fits place usage)

end Primaries

section Assigned

theorem yields_targetList : targetList.YieldsAll .expression :=
  (yields_tokenThat _).listed (yields_oneExpression rfl) (yields_tokenThat _)

theorem yields_targetTuple : targetTuple.YieldsAll .expression := by
  refine .or ?_ (.or ?_ yields_choice_nil)
  · refine .expression rfl fun first isFirst => ?_
    refine (Yields.token fun _ => yields_oneExpression rfl).several.bind fun others areOthers => ?_
    refine (yields_tokenThat _).attempt.skip fun _ => yields_pure ?_
    exact List.forall_mem_cons.mpr ⟨isFirst, areOthers⟩
  · exact .expression rfl fun first isFirst => .token fun _ => yields_pure (by simpa using isFirst)

theorem yields_starTargets : starTargets.Yields (Fits .expression) := by
  refine .place fun place => .or ?_ (.or ?_ yields_choice_nil)
  · exact .expression rfl fun target isTarget =>
      (yields_tokenThat _).notAhead.skip fun _ => yields_pure isTarget
  · refine .expression rfl fun first isFirst => ?_
    refine (Yields.token fun _ => yields_oneExpression rfl).many.bind fun others areOthers => ?_
    refine (yields_tokenThat _).attempt.skip fun _ => yields_pure ?_
    simp +contextual [isFirst, areOthers]

theorem yields_starTarget : starTarget.Yields (Fits .expression) := by
  refine .place fun place => .or ?_ (.or (yields_oneExpression rfl) yields_choice_nil)
  refine .token fun _ => (yields_tokenThat _).notAhead.skip fun _ => ?_
  exact .expression rfl fun target isTarget => yields_pure (by simp [fits_used isTarget])

theorem yields_starAtom : starAtom.Yields (Fits .expression) := by
  refine .place fun place => .or ?_ (.or ?_ (.or ?_ (.or ?_ yields_choice_nil)))
  · exact .token fun _ => yields_pure (by simp)
  · exact .token fun _ => .expression rfl fun target isTarget => .token fun _ =>
      yields_pure (fits_used isTarget)
  · refine .token fun _ => yields_targetTuple.attempt.bind fun targets areTargets => ?_
    exact .token fun _ => yields_pure (by simpa using forall_mem_getD areTargets)
  · refine .token fun _ => yields_targetList.attempt.bind fun targets areTargets => ?_
    exact .token fun _ => yields_pure (by simpa using forall_mem_getD areTargets)

theorem yields_targetWithStar : targetWithStar.Yields (Fits .expression) :=
  .or (yields_lastSuffix .store) (.or yields_starAtom yields_choice_nil)

theorem yields_singleTarget : singleTarget.Yields (Fits .expression) := by
  refine .place fun place => .or (yields_lastSuffix .store) (.or ?_ (.or ?_ yields_choice_nil))
  · exact .token fun _ => yields_pure (by simp)
  · exact .token fun _ => .expression rfl fun target isTarget => .token fun _ =>
      yields_pure isTarget

end Assigned

section Deleted

theorem yields_deleteTargets : deleteTargets.YieldsAll .expression :=
  (yields_tokenThat _).listed (yields_oneExpression rfl) (yields_tokenThat _)

theorem yields_deleteAtom : deleteAtom.Yields (Fits .expression) := by
  refine .place fun place => .or ?_ (.or ?_ (.or ?_ (.or ?_ yields_choice_nil)))
  · exact .token fun _ => yields_pure (by simp)
  · exact .token fun _ => .expression rfl fun target isTarget => .token fun _ =>
      yields_pure (fits_used isTarget)
  · refine .token fun _ => (yields_trees .expression rfl).attempt.bind fun targets areTargets => ?_
    exact .token fun _ => yields_pure (by simpa using forall_mem_getD areTargets)
  · refine .token fun _ => (yields_trees .expression rfl).attempt.bind fun targets areTargets => ?_
    exact .token fun _ => yields_pure (by simpa using forall_mem_getD areTargets)

theorem yields_deleteTarget : deleteTarget.Yields (Fits .expression) :=
  .or (yields_lastSuffix .delete) (.or yields_deleteAtom yields_choice_nil)

end Deleted

end Grammar

end IfChains
