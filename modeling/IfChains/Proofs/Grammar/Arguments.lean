/-
**What the arguments of a call are read as.**

The positional arguments of a call are expressions. From the first named one on, its arguments are
expressions that are unpacked, or parts with a name.
-/

import IfChains.Grammar.Argument
import IfChains.Proofs.Grammar.Targets

namespace IfChains

open IfChains.Tree IfChains.Reading

namespace Grammar

theorem yields_plainArgument : plainArgument.Yields (Fits .expression) := by
  refine .or (yields_oneExpression rfl) (.or ?_ yields_choice_nil)
  exact .expression rfl fun value isValue =>
    (yields_tokenThat _).notAhead.skip fun _ => yields_pure isValue

theorem yields_starredExpression : starredExpression.Yields (Fits .expression) :=
  .place fun _ => .token fun _ => .expression rfl fun value isValue =>
    yields_pure (by simp [isValue])

theorem yields_positionalArgument : positionalArgument.Yields IsArgument := by
  refine .or ((yields_oneExpression rfl).imp fun _ => isArgument_of_expression)
    (.or ?_ yields_choice_nil)
  exact yields_plainArgument.bind fun value isValue =>
    (yields_tokenThat _).notAhead.skip fun _ => yields_pure (isArgument_of_expression isValue)

/-- A part with a name is an argument. -/
theorem isArgument_keyword {value : SourceTree} (fits : value.Fits .expression) (place : Position)
    (name : Option String) : IsArgument (tree place (.keyword name) [(.value, value)]) := by
  have named : isKeyword (tree place (.keyword name) [(.value, value)]) = true := rfl
  rw [IsArgument, named]
  simp [fits]

theorem yields_namedArgument : namedArgument.Yields IsArgument :=
  .place fun place => .token fun _ => .token fun _ => .expression rfl fun _ isValue =>
    yields_pure (isArgument_keyword isValue place _)

theorem yields_namedOrStarred : namedOrStarred.Yields IsArgument :=
  .or yields_diagnosis (.or yields_namedArgument
    (.or ((yields_oneExpression rfl).imp fun _ => isArgument_of_expression) yields_choice_nil))

theorem yields_namedOrDoubleStarred : namedOrDoubleStarred.Yields IsArgument := by
  refine .or yields_diagnosis (.or yields_namedArgument (.or ?_ yields_choice_nil))
  exact .place fun place => .token fun _ => .expression rfl fun _ isValue =>
    yields_pure (isArgument_keyword isValue place none)

theorem yields_kwargs :
    kwargs.Yields fun arguments => ∀ argument ∈ arguments, argument.IsArgument := by
  have starred := (yields_mark ",").separated yields_namedOrStarred
  have doubleStarred := (yields_mark ",").separated yields_namedOrDoubleStarred
  refine .or ?_ (.or starred (.or doubleStarred yields_choice_nil))
  refine starred.bind fun first areFirst => .token fun _ => ?_
  refine doubleStarred.bind fun others areOthers => yields_pure ?_
  exact List.forall_mem_append.mpr ⟨areFirst, areOthers⟩

theorem yields_args :
    args.Yields fun arguments => ∀ argument ∈ arguments, argument.IsArgument := by
  refine .or ?_ (.or (yields_rule .kwargs) yields_choice_nil)
  refine ((yields_tokenThat _).separated yields_positionalArgument).bind fun first areFirst => ?_
  refine (Yields.token fun _ => yields_rule .kwargs).attempt.bind fun named areNamed => ?_
  exact yields_pure (List.forall_mem_append.mpr ⟨areFirst, forall_mem_getD areNamed⟩)

theorem yields_arguments :
    arguments.Yields fun arguments => ∀ argument ∈ arguments, argument.IsArgument := by
  refine .or ?_ (.or yields_diagnosis yields_choice_nil)
  refine (yields_rule .args).bind fun arguments admitted => ?_
  exact (yields_tokenThat _).attempt.skip fun _ => (yields_tokenThat _).ahead.skip fun _ =>
    yields_pure admitted

end Grammar

end IfChains
