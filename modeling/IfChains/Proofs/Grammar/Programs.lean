/-
**What a program is read as.**

The rules of the grammar call one another through a table, down to a depth. By induction on that
depth, every rule of the table reads trees of its class, whose nodes have the children of their
kind. So the tree of every text that is read as a program is that of a program.

* `yields_phraseOf`: what each rule yields, given the rules that it calls;
* `reliable_rules`: the rules of the table read the trees that they should;
* `isProgram_of_read`: the tree of a text is a module whose nodes have the children of their kind.
-/

import IfChains.Proofs.Grammar.Statements
import IfChains.Source

namespace IfChains

open IfChains.Tree IfChains.Reading IfChains.Grammar

namespace Source

section Rules

theorem yields_single {phrase : Reading SourceTree} {Good : SourceTree → Prop}
    (yields : phrase.Yields Good) :
    (single phrase).Yields fun trees => ∀ tree ∈ trees, Good tree :=
  yields.bind fun _ good => yields_pure (by simpa using good)

/-- **What a rule yields**, given the rules that it calls. -/
theorem yields_phraseOf (name : Rule) :
    (phraseOf name).Yields fun trees => ∀ tree ∈ trees, name.Admits tree := by
  cases name with
  | statements => exact yields_statements
  | simpleStatements => exact yields_simpleStatements
  | simpleStatement => exact yields_single yields_simpleStatement
  | block => exact yields_block
  | elifStatement => exact yields_ifStatement _ _
  | exceptBlock => exact yields_exceptBlock
  | exceptStarBlock => exact yields_exceptStarBlock
  | expressions => exact yields_single (yields_tupleOf rfl)
  | expression => exact yields_single yields_expression
  | undiagnosed => exact yields_single yields_soundExpression.undiagnosed
  | starExpressions => exact yields_single (yields_tupleOf rfl)
  | starExpression => exact yields_single (yields_starredOr (yields_oneExpression rfl))
  | starNamedExpressions => exact yields_starNamedExpressions
  | starNamedExpression => exact yields_single (yields_starredOr (yields_oneExpression rfl))
  | assignmentExpression => exact yields_single yields_assignmentExpression
  | namedExpression => exact yields_single yields_namedExpression
  | misnamedExpression => exact yields_single yields_misnamedExpression
  | yieldExpression => exact yields_single yields_yieldExpression
  | disjunction => exact yields_single (yields_joinedBy _ _ rfl)
  | conjunction => exact yields_single (yields_joinedBy _ _ rfl)
  | inversion => exact yields_single yields_inversion
  | bitOr => exact yields_single (yields_leftGrouped _ rfl)
  | bitXor => exact yields_single (yields_leftGrouped _ rfl)
  | bitAnd => exact yields_single (yields_leftGrouped _ rfl)
  | shift => exact yields_single (yields_leftGrouped _ rfl)
  | sum => exact yields_single (yields_leftGrouped _ rfl)
  | term => exact yields_single (yields_leftGrouped _ rfl)
  | factor => exact yields_single yields_factor
  | awaitPrimary => exact yields_single yields_awaitPrimary
  | primary => exact yields_single yields_primary
  | atom => exact yields_single yields_atom
  | list => exact yields_single yields_list
  | tuple => exact yields_single yields_tuple
  | generator => exact yields_single yields_generator
  | texts => exact yields_single yields_texts
  | slices => exact yields_single yields_slices
  | forIfClauses => exact yields_forIfClause.several
  | arguments => exact yields_arguments
  | args => exact yields_args
  | kwargs => exact yields_kwargs
  | starredExpression => exact yields_single yields_starredExpression
  | starTargets => exact yields_single yields_starTargets
  | starTarget => exact yields_single yields_starTarget
  | targetWithStar => exact yields_single yields_targetWithStar
  | singleTarget => exact yields_single yields_singleTarget
  | targetPrimary => exact yields_single yields_targetPrimary
  | deleteTargets => exact yields_deleteTargets
  | deleteTarget => exact yields_single yields_deleteTarget
  | misannotatedTarget => exact yields_single yields_misannotatedTarget
  | pattern => exact yields_single yields_pattern
  | closedPattern => exact yields_single yields_closedPattern
  | starPattern => exact yields_single yields_starPattern
  | maybeStarPattern => exact yields_single yields_maybeStarPattern
  | qualifiedName => exact yields_single yields_qualifiedName

/-- **The rules of the table read the trees that they should**, however deep they may call one
another. -/
theorem reliable_rules (depth : Nat) : Reliable (rules depth) := by
  induction depth with
  | zero => exact fun _ _ fitting => fitting
  | succ depth ih =>
    intro name state fitting
    have yields := yields_phraseOf name
    unfold rules
    dsimp only
    split
    · exact yields.remembered.outcome _ _ ih fitting
    · exact yields.outcome _ _ ih fitting

end Rules

section Texts

theorem yields_program : program.Yields (Fits .root) := by
  refine (yields_trees .statement rfl).attempt.bind fun statements fit => .token fun _ => ?_
  replace fit := forall_mem_getD fit
  exact yields_pure (by simpa using fit)

/-- **The tree of a text is that of a program.** -/
theorem isProgram_of_read {origin : Origin} {text : String} {tree : SourceTree}
    (read : Source.read origin text = .ok tree) : tree.IsProgram := by
  unfold Source.read readAs at read
  have fits : tree.Fits .root := by
    refine good_of_whole yields_program (reliable_rules _) ?_ read
    exact fitting_of_fresh rfl rfl
  refine ⟨?_, fits.conforming⟩
  have family := fits.family
  generalize tree.label = label at family
  cases label <;> first | rfl | cases family

end Texts

end Source

end IfChains
