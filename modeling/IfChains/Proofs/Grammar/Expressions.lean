/-
**What expressions are read as.**

Every rule for expressions yields an expression whose nodes have the children of their kind.
-/

import IfChains.Grammar.Expression
import IfChains.Proofs.Grammar.Arguments
import IfChains.Proofs.Grammar.Literals
import IfChains.Proofs.Grammar.Parameters

namespace IfChains

open IfChains.Tree IfChains.Reading

namespace Grammar

section Operators

theorem yields_joinedBy (keyword : String) (operator : BoolOperator) {operand : Rule}
    (reads : operand.Admits = Fits .expression) :
    (joinedBy keyword operator operand).Yields (Fits .expression) := by
  refine .place fun place => .expression reads fun first isFirst => ?_
  refine (Yields.token fun _ => yields_oneExpression reads).many.bind fun others areOthers => ?_
  split
  · exact yields_pure isFirst
  · exact yields_pure (by simpa [isFirst] using areOthers)

theorem yields_leftGrouped (operators : List (String × BinaryOperator)) {operand : Rule}
    (reads : operand.Admits = Fits .expression) :
    (leftGrouped operators operand).Yields (Fits .expression) := by
  refine .place fun place => .expression reads fun first isFirst => ?_
  refine yields_grown (fun left isLeft => ?_) isFirst
  refine .token fun token => .expression reads fun right isRight => ?_
  split
  · exact yields_pure (by simp [isLeft, isRight])
  · exact yields_noMatch

/-- Whatever stands behind some tokens is read if they are there. -/
theorem yields_comparison : comparison.Yields fun _ => True := by
  have one : ∀ {spelling : String} {value : Comparison},
      Yields (do let _ ← mark spelling; return value) fun _ => True :=
    .token fun _ => yields_pure trivial
  have two : ∀ {first second : String} {value : Comparison},
      Yields (do let _ ← mark first; let _ ← mark second; return value) fun _ => True :=
    .token fun _ => .token fun _ => yields_pure trivial
  exact .or one <| .or one <| .or one <| .or one <| .or one <| .or one <| .or two <| .or one <|
    .or two <| .or one yields_choice_nil

theorem yields_compared : compared.Yields (Fits .expression) := by
  refine .place fun place => .expression rfl fun first isFirst => ?_
  refine (yields_comparison.skip fun operator => ?_ : Yields _ fun pair : Comparison × SourceTree =>
    pair.2.Fits .expression).many.bind fun others areOthers => ?_
  · exact .expression rfl fun right isRight => yields_pure isRight
  · split
    · exact yields_pure isFirst
    · exact yields_pure (by simpa [isFirst] using fun right operator => areOthers (operator, right))

theorem yields_inversion : inversion.Yields (Fits .expression) := by
  refine .place fun place => .or ?_ (.or yields_compared yields_choice_nil)
  exact .token fun _ => .expression rfl fun operand fits => yields_pure (by simp [fits])

theorem yields_factor : factor.Yields (Fits .expression) := by
  refine .place fun place => ?_
  have signed : ∀ {spelling : String} {operator : UnaryOperator}, Yields (do
      let _ ← mark spelling
      return tree place (.unaryOp operator) [(.operand, ← one .factor)]) (Fits .expression) :=
    .token fun _ => .expression rfl fun operand fits => yields_pure (by simp [fits])
  refine .or signed (.or signed (.or signed (.or ?_ (.or (yields_oneExpression rfl)
    yields_choice_nil))))
  refine .expression rfl fun left isLeft => .token fun _ => ?_
  exact .expression rfl fun right isRight => yields_pure (by simp [isLeft, isRight])

theorem yields_awaitPrimary : awaitPrimary.Yields (Fits .expression) := by
  refine .place fun place => .or ?_ (.or (yields_oneExpression rfl) yields_choice_nil)
  exact .token fun _ => .expression rfl fun value fits => yields_pure (by simp [fits])

theorem yields_primary : primary.Yields (Fits .expression) := by
  refine .place fun place => .expression rfl fun first isFirst => ?_
  refine yields_grown (fun value fits => ?_) isFirst
  exact .or (yields_memberSuffix fits place .load) (.or (yields_generatorSuffix fits place)
    (.or (yields_callSuffix fits place) (.or (yields_subscriptSuffix fits place .load)
      yields_choice_nil)))

end Operators

section Subscripts

theorem yields_slice : slice.Yields (Fits .expression) := by
  refine .place fun place => .or ?_ (.or (yields_oneExpression rfl) yields_choice_nil)
  refine (yields_oneExpression rfl).attempt.bind fun lower isLower => .token fun _ => ?_
  refine (yields_oneExpression rfl).attempt.bind fun upper isUpper => ?_
  have step : Yields (do let _ ← mark ":"; attempt (one .expression))
      fun found => ∀ value ∈ found, value.Fits .expression :=
    .token fun _ => (yields_oneExpression rfl).attempt
  refine step.attempt.bind fun step isStep => ?_
  exact yields_pure (by simp_all [Option.join_eq_some_iff])

theorem yields_slices : slices.Yields (Fits .expression) := by
  refine .place fun place => .or ?_ (.or ?_ yields_choice_nil)
  · exact yields_slice.bind fun only isOnly => (yields_mark ",").notAhead.skip fun _ =>
      yields_pure isOnly
  · have part : (choice [slice, one .starredExpression]).Yields (Fits .expression) :=
      .or yields_slice (.or (yields_oneExpression rfl) yields_choice_nil)
    refine ((yields_mark ",").separated part).bind fun parts areParts => ?_
    exact (yields_mark ",").attempt.skip fun _ => yields_pure (by simpa using areParts)

end Subscripts

section Displays

theorem yields_forIfClause : forIfClause.Yields (Fits .part) := by
  have clause : ∀ async, (forIfClause.clause async).Yields (Fits .part) := by
    intro async
    have clause : Yields (do
        let _ ← mark "for"
        let target ← one .starTargets
        let _ ← mark "in"
        let iter ← committed (one .disjunction)
        let conditions ← many (do let _ ← mark "if"; one .disjunction)
        return part (.comprehension async)
          ((.target, target) :: (.iter, iter) :: each .ifs conditions)) (Fits .part) := by
      refine .token fun _ => .expression rfl fun target isTarget => .token fun _ => ?_
      refine (yields_oneExpression rfl).committed.bind fun iter isIter => ?_
      refine (Yields.token fun _ => yields_oneExpression rfl).many.bind fun conditions fit => ?_
      exact yields_pure (by simpa [isTarget, isIter] using fit)
    exact .ite (fun _ => (yields_mark "async").ignored.skip fun _ => clause) fun _ => clause
  exact .or (clause true) (.or (clause false) (.or yields_diagnosis yields_choice_nil))

theorem yields_list : list.Yields (Fits .expression) := by
  refine .place fun place => .token fun _ => ?_
  refine (yields_trees .expression rfl).attempt.bind fun values fit => .token fun _ => ?_
  exact yields_pure (by simpa using forall_mem_getD fit)

/-- A comprehension of one value fits. -/
theorem yields_comprehension {opening closing : String} {label : Label}
    {element : Reading SourceTree} (yields : element.Yields (Fits .expression))
    (kind : label ∈ [.listComp, .setComp, .generatorExp]) :
    (comprehension opening closing label element).Yields (Fits .expression) := by
  refine .place fun place => .or ?_ (.or yields_diagnosis yields_choice_nil)
  refine .token fun _ => yields.bind fun value isValue => ?_
  refine (yields_trees .part rfl).bind fun clauses fit => .token fun _ => yields_pure ?_
  simp only [List.mem_cons, List.not_mem_nil, or_false] at kind
  rcases kind with rfl | rfl | rfl <;> simpa [isValue] using fit

theorem yields_tuple : tuple.Yields (Fits .expression) := by
  refine .place fun place => .token fun _ => ?_
  have values : Yields (do
      let first ← one .starNamedExpression
      let _ ← mark ","
      let others ← attempt (rule .starNamedExpressions)
      return first :: others.getD []) fun values => ∀ value ∈ values, value.Fits .expression := by
    refine .expression rfl fun first isFirst => .token fun _ => ?_
    refine (yields_trees .expression rfl).attempt.bind fun others fit => yields_pure ?_
    exact List.forall_mem_cons.mpr ⟨isFirst, forall_mem_getD fit⟩
  refine values.attempt.bind fun values fit => .token fun _ => ?_
  exact yields_pure (by simpa using forall_mem_getD fit)

theorem yields_group : group.Yields (Fits .expression) := by
  refine .or ?_ (.or yields_diagnosis (.or yields_diagnosis yields_choice_nil))
  have value : (choice [one .yieldExpression, one .namedExpression]).Yields (Fits .expression) :=
    .or (yields_oneExpression rfl) (.or (yields_oneExpression rfl) yields_choice_nil)
  exact .token fun _ => value.bind fun value isValue => .token fun _ => yields_pure isValue

theorem yields_generator : generator.Yields (Fits .expression) :=
  yields_comprehension yields_plainArgument (by simp)

theorem yields_set : set.Yields (Fits .expression) :=
  .place fun place => .token fun _ => (yields_trees .expression rfl).bind fun values fit =>
    .token fun _ => yields_pure (by simpa using fit)

/-- The key of an entry, if it has one, and its value are expressions. -/
def IsEntry (entry : Option SourceTree × SourceTree) : Prop :=
  (∀ key ∈ entry.1, key.Fits .expression) ∧ entry.2.Fits .expression

theorem yields_keyedValue :
    keyedValue.Yields fun entry => IsEntry entry ∧ entry.1.isSome = true := by
  refine .expression rfl fun key isKey => .token fun _ => .expression rfl fun value isValue => ?_
  exact yields_pure ⟨⟨by simpa using isKey, isValue⟩, rfl⟩

theorem yields_entry : entry.Yields IsEntry := by
  refine .or ?_ (.or (yields_keyedValue.imp fun _ => And.left) yields_choice_nil)
  exact .token fun _ => .expression rfl fun value isValue => yields_pure ⟨by simp, isValue⟩

theorem yields_dict : dict.Yields (Fits .expression) := by
  refine .place fun place => .or ?_ (.or yields_diagnosis yields_choice_nil)
  have entries := (yields_mark ",").listed yields_entry (yields_mark ",")
  refine .token fun _ => entries.attempt.bind fun entries fit => .token fun _ => ?_
  replace fit := forall_mem_getD fit
  have keys : ∀ key ∈ (entries.getD []).filterMap (·.1), key.Fits .expression := by
    intro key member
    obtain ⟨entry, inside, same⟩ := List.mem_filterMap.mp member
    exact (fit entry inside).1 key same
  have values : ∀ value ∈ (entries.getD []).map (·.2), value.Fits .expression :=
    List.forall_mem_map.mpr fun entry member => (fit entry member).2
  exact yields_pure (fits_tree.mpr ⟨rfl, by simp, filling_append.mpr
    ⟨filling_of_forall (by simp) keys, filling_of_forall (by simp) values⟩⟩)

theorem yields_dictComprehension : dictComprehension.Yields (Fits .expression) := by
  refine .place fun place => .or ?_ (.or yields_diagnosis yields_choice_nil)
  refine .token fun _ => yields_keyedValue.bind fun entry isEntry => ?_
  refine (yields_trees .part rfl).bind fun clauses fit => .token fun _ => yields_pure ?_
  obtain ⟨key, value⟩ := entry
  obtain ⟨⟨isKey, isValue⟩, keyed⟩ := isEntry
  obtain ⟨key, rfl⟩ := Option.isSome_iff_exists.mp keyed
  simp_all [optional]

theorem yields_atom : atom.Yields (Fits .expression) := by
  refine .place fun place => ?_
  have constant : ∀ {token : Reading Token} {value : Constant}, token.Yields (fun _ => True) →
      Yields (do
        let _ ← token
        return tree place (.constant value) []) (Fits .expression) :=
    fun yields => yields.skip fun _ => yields_pure (by simp)
  refine .or ?_ (.or (constant (yields_mark _)) (.or (constant (yields_mark _))
    (.or (constant (yields_mark _)) (.or (yields_oneExpression rfl) (.or yields_number
      (.or ?_ (.or ?_ (.or ?_ (.or (constant (yields_mark _)) yields_choice_nil)))))))))
  · exact .token fun _ => yields_pure (by simp)
  · exact (yields_mark "(").ahead.skip fun _ => .or (yields_oneExpression rfl)
      (.or yields_group (.or (yields_oneExpression rfl) yields_choice_nil))
  · exact (yields_mark "[").ahead.skip fun _ => .or (yields_oneExpression rfl)
      (.or (yields_comprehension (yields_oneExpression rfl) (by simp)) yields_choice_nil)
  · exact (yields_mark "\x7b").ahead.skip fun _ => .or yields_dict (.or yields_set
      (.or yields_dictComprehension
        (.or (yields_comprehension (yields_oneExpression rfl) (by simp)) yields_choice_nil)))

end Displays

section Expressions

theorem yields_tupleOf {element : Rule} (reads : element.Admits = Fits .expression) :
    (tupleOf element).Yields (Fits .expression) := by
  refine .place fun place => .or ?_ (.or ?_ (.or (yields_oneExpression reads) yields_choice_nil))
  · refine .expression reads fun first isFirst => ?_
    refine (Yields.token fun _ => yields_oneExpression reads).several.bind fun others fit => ?_
    exact (yields_mark ",").attempt.skip fun _ => yields_pure (by simpa [isFirst] using fit)
  · exact .expression reads fun first isFirst => .token fun _ => yields_pure (by simp [isFirst])

theorem yields_starredOr {phrase : Reading SourceTree} (yields : phrase.Yields (Fits .expression)) :
    (starredOr phrase).Yields (Fits .expression) := by
  refine .place fun place => .or ?_ (.or yields yields_choice_nil)
  exact .token fun _ => .expression rfl fun value isValue => yields_pure (by simp [isValue])

theorem yields_starNamedExpressions : starNamedExpressions.YieldsAll .expression :=
  (yields_mark ",").listed (yields_oneExpression rfl) (yields_mark ",")

theorem yields_assignmentExpression : assignmentExpression.Yields (Fits .expression) := by
  refine .place fun place => .or ?_ yields_choice_nil
  refine .token fun _ => .token fun _ => ?_
  exact (yields_oneExpression rfl).committed.bind fun value isValue =>
    yields_pure (by simp [isValue])

theorem yields_faultOn {α : Type} {Good : α → Prop} {tree : SourceTree} {fault : SyntaxFault} :
    (faultOn tree fault : Reading α).Yields Good :=
  yields_faultAt

theorem yields_misnamedExpression : misnamedExpression.Yields (Fits .expression) := by
  refine .or ?_ (.or ?_ (.or ?_ yields_choice_nil))
  · exact .expression rfl fun _ _ => .token fun _ => .expression rfl fun _ _ => yields_faultOn
  · exact .token fun _ => .token fun _ => .expression rfl fun _ _ =>
      (yields_tokenThat _).notAhead.skip fun _ => yields_faultAt
  · have display : Yields (choice [ignored (one .list), ignored (one .tuple),
        ignored (one .generator), ignored (markOf ["True", "None", "False"])]) fun _ => True :=
      .or (yields_one _).ignored (.or (yields_one _).ignored (.or (yields_one _).ignored
        (.or (yields_tokenThat _).ignored yields_choice_nil)))
    exact display.notAhead.skip fun _ => .expression rfl fun _ _ => .token fun _ =>
      .expression rfl fun _ _ => (yields_tokenThat _).notAhead.skip fun _ => yields_faultOn

theorem yields_namedExpression : namedExpression.Yields (Fits .expression) := by
  refine .or (yields_oneExpression rfl) (.or yields_diagnosis (.or ?_ yields_choice_nil))
  exact .expression rfl fun value isValue => (yields_mark ":=").notAhead.skip fun _ =>
    yields_pure isValue

theorem yields_yieldExpression : yieldExpression.Yields (Fits .expression) := by
  refine .place fun place => .or ?_ (.or ?_ yields_choice_nil)
  · exact .token fun _ => .token fun _ => .expression rfl fun value isValue =>
      yields_pure (by simp [isValue])
  · exact .token fun _ => (yields_oneExpression rfl).attempt.bind fun value isValue =>
      yields_pure (by simpa using isValue)

theorem yields_conditional : conditional.Yields (Fits .expression) := by
  refine .place fun place => .expression rfl fun body isBody => .token fun _ => ?_
  refine .expression rfl fun test isTest => .token fun _ => ?_
  exact .expression rfl fun orelse isOrelse => yields_pure (by simp [isBody, isTest, isOrelse])

theorem yields_lambda : lambda.Yields (Fits .expression) := by
  refine .place fun place => .token fun _ => ?_
  refine (yields_parameters ":").attempt.bind fun list isList => .token fun _ => ?_
  refine .expression rfl fun body isBody => yields_pure ?_
  simp [isBody, fits_getD isList]

theorem yields_soundExpression : soundExpression.Yields (Fits .expression) :=
  .or yields_conditional (.or (yields_oneExpression rfl) (.or yields_lambda yields_choice_nil))

theorem yields_expression : expression.Yields (Fits .expression) :=
  .or yields_diagnosis (.or yields_diagnosis (.or yields_conditional
    (.or (yields_oneExpression rfl) (.or yields_lambda yields_choice_nil))))

end Expressions

end Grammar

end IfChains
