/-
**What statements are read as.**

Every rule for statements yields statements whose nodes have the children of their kind, and every
rule for their parts yields such parts. A block is a list of statements.
-/

import IfChains.Grammar.Statement
import IfChains.Proofs.Grammar.Expressions
import IfChains.Proofs.Grammar.Patterns

namespace IfChains

open IfChains.Tree IfChains.Reading

namespace Grammar

section Simple

theorem yields_augmentation : augmentation.Yields fun _ => True :=
  .token fun _ => yields_pure trivial

theorem yields_assignedValue : assignedValue.Yields (Fits .expression) :=
  .or (yields_oneExpression rfl) (.or (yields_oneExpression rfl) yields_choice_nil)

theorem yields_annotatedValue :
    annotatedValue.Yields fun found => ∀ value ∈ found, value.Fits .expression :=
  (Yields.token fun _ => yields_assignedValue).attempt

theorem yields_misannotatedTarget : misannotatedTarget.Yields (Fits .expression) := by
  refine .or (yields_oneExpression rfl) (.or (yields_oneExpression rfl) (.or ?_ yields_choice_nil))
  exact .token fun _ => .expression rfl fun _ isTarget => .token fun _ => yields_pure isTarget

theorem yields_assignedTargets : assignedTargets.Yields (Fits .expression) :=
  .expression rfl fun _ isTarget => .token fun _ => yields_pure isTarget

theorem yields_assignment : assignment.Yields (Fits .statement) := by
  refine .place fun place => .or ?_ (.or ?_ (.or ?_ (.or ?_ (.or yields_diagnosis
    yields_choice_nil))))
  · refine .token fun _ => .token fun _ => .expression rfl fun hint isHint => ?_
    exact yields_annotatedValue.bind fun value isValue =>
      yields_pure (by simpa [isHint] using isValue)
  · have target : Yields (choice [
        do
          let _ ← mark "("
          let target ← one .singleTarget
          let _ ← mark ")"
          return target,
        lastSuffix .store]) (Fits .expression) := by
      refine .or ?_ (.or (yields_lastSuffix .store) yields_choice_nil)
      exact .token fun _ => .expression rfl fun target isTarget => .token fun _ =>
        yields_pure isTarget
    refine target.bind fun target isTarget => .token fun _ => .expression rfl fun hint isHint => ?_
    exact yields_annotatedValue.bind fun value isValue =>
      yields_pure (by simpa [isTarget, isHint] using isValue)
  · refine yields_assignedTargets.several.bind fun targets fit => ?_
    refine yields_assignedValue.bind fun value isValue => ?_
    exact (yields_mark "=").notAhead.skip fun _ => yields_pure (by simpa [isValue] using fit)
  · refine .expression rfl fun target isTarget => yields_augmentation.skip fun operator => ?_
    exact yields_assignedValue.committed.bind fun value isValue =>
      yields_pure (by simp [isTarget, isValue])

theorem yields_wordStatement : wordStatement.Yields (Fits .statement) := by
  refine .place fun place => .or ?_ (.or ?_ (.or ?_ (.or ?_ yields_choice_nil)))
  · exact .token fun _ => (yields_oneExpression rfl).attempt.bind fun value isValue =>
      yields_pure (by simpa using isValue)
  · exact .token fun _ => yields_pure (by simp)
  · exact .token fun _ => yields_pure (by simp)
  · exact .token fun _ => yields_pure (by simp)

theorem yields_raiseStatement : raiseStatement.Yields (Fits .statement) := by
  refine .place fun place => .token fun _ => ?_
  refine (yields_oneExpression rfl).attempt.bind fun exc isExc => ?_
  split
  · refine (Yields.token fun _ => yields_oneExpression rfl).attempt.bind fun cause isCause => ?_
    exact yields_pure (by simpa [isExc _ rfl] using isCause)
  · exact yields_pure (by simp)

theorem yields_deleteStatement : deleteStatement.Yields (Fits .statement) := by
  refine .place fun place => .or ?_ (.or yields_diagnosis yields_choice_nil)
  refine .token fun _ => (yields_trees .expression rfl).bind fun targets fit => ?_
  have ending : (choice [ignored (mark ";"), ignored (kind .newline)]).Yields fun _ => True :=
    .or (yields_mark ";").ignored (.or (yields_tokenThat _).ignored yields_choice_nil)
  exact ending.ahead.skip fun _ => yields_pure (by simpa using fit)

theorem yields_assertStatement : assertStatement.Yields (Fits .statement) := by
  refine .place fun place => .token fun _ => .expression rfl fun test isTest => ?_
  exact (Yields.token fun _ => yields_oneExpression rfl).attempt.bind fun message isMessage =>
    yields_pure (by simpa [isTest] using isMessage)

/-- A declaration has no parts. -/
theorem yields_declaration {keyword : String} {label : List String → Label}
    (kind : ∀ names, (label names).family = .statement)
    (bare : ∀ names, (label names).fields = []) :
    (declaration keyword label).Yields (Fits .statement) := by
  refine .place fun place => .token fun _ => ?_
  refine ((yields_mark ",").separated (yields_tokenThat _)).skip fun names => yields_pure ?_
  exact fits_tree.mpr ⟨kind _, by rw [bare]; simp, filling_nil⟩

end Simple

section Imports

theorem yields_dottedName : dottedName.Yields fun _ => True :=
  ((yields_mark ".").separated (yields_tokenThat _)).skip fun _ => yields_pure trivial

theorem yields_otherName : otherName.Yields fun _ => True := by
  have renamed : Yields (do let _ ← mark "as"; return nameOf (← name)) fun _ => True :=
    .token fun _ => .token fun _ => yields_pure trivial
  exact renamed.attempt.imp fun _ _ => trivial

theorem yields_importStatement : importStatement.Yields (Fits .statement) := by
  refine .place fun place => .token fun _ => ?_
  have item : Yields (do
      let place ← Reading.place
      let module ← dottedName
      return tree place (.importItem module (← otherName)) []) (Fits .part) :=
    .place fun place => yields_dottedName.skip fun module => yields_otherName.skip fun other =>
      yields_pure (by simp)
  exact ((yields_mark ",").separated item).bind fun names fit => yields_pure (by simpa using fit)

theorem yields_importedNames : importedNames.YieldsAll .part := by
  refine (yields_mark ",").separated ?_
  exact .place fun place => .token fun token => yields_otherName.skip fun other =>
    yields_pure (by simp)

theorem yields_imported : imported.YieldsAll .part := by
  refine .place fun place => .or ?_ (.or ?_ (.or ?_ (.or yields_diagnosis yields_choice_nil)))
  · exact .token fun _ => yields_importedNames.bind fun names fit =>
      (yields_mark ",").attempt.skip fun _ => .token fun _ => yields_pure fit
  · exact yields_importedNames.bind fun names fit => (yields_mark ",").notAhead.skip fun _ =>
      yields_pure fit
  · exact .token fun _ => yields_pure (by simp)

theorem yields_importFromStatement : importFromStatement.Yields (Fits .statement) := by
  refine .place fun place => .or ?_ (.or ?_ yields_choice_nil)
  · refine .token fun _ => (yields_tokenThat _).many.skip fun tokens => ?_
    refine yields_dottedName.skip fun module => .token fun _ => ?_
    exact yields_imported.bind fun names fit => yields_pure (by simpa using fit)
  · refine .token fun _ => (yields_tokenThat _).several.skip fun tokens => .token fun _ => ?_
    exact yields_imported.bind fun names fit => yields_pure (by simpa using fit)

theorem yields_simpleStatement : simpleStatement.Yields (Fits .statement) := by
  refine .place fun place => ?_
  have value : ∀ {name : Rule}, name.Admits = Fits .expression →
      Yields (do return tree place .exprStmt [(.value, ← one name)]) (Fits .statement) :=
    fun reads => .expression reads fun value isValue => yields_pure (by simp [isValue])
  exact .or yields_assignment <| .or (value rfl) <| .or yields_wordStatement <|
    .or yields_importStatement <| .or yields_importFromStatement <| .or yields_raiseStatement <|
    .or yields_deleteStatement <| .or (value rfl) <| .or yields_assertStatement <|
    .or (yields_declaration (fun _ => rfl) fun _ => rfl) <|
    .or (yields_declaration (fun _ => rfl) fun _ => rfl) yields_choice_nil

theorem yields_simpleStatements : simpleStatements.YieldsAll .statement := by
  refine .or ?_ (.or ?_ yields_choice_nil)
  · exact (yields_tree .statement rfl).bind fun only isOnly =>
      (yields_mark ";").notAhead.skip fun _ => .token fun _ => yields_pure (by simpa using isOnly)
  · refine ((yields_mark ";").separated (yields_tree .statement rfl)).bind fun statements fit => ?_
    exact (yields_mark ";").attempt.skip fun _ => .token fun _ => yields_pure fit

end Imports

section Blocks

theorem yields_block : block.YieldsAll .statement := by
  refine .or ?_ (.or (yields_trees .statement rfl) (.or yields_diagnosis yields_choice_nil))
  exact .token fun _ => .token fun _ => (yields_trees .statement rfl).bind fun statements fit =>
    .token fun _ => yields_pure fit

theorem yields_elseBlock : elseBlock.YieldsAll .statement := by
  refine .or yields_diagnosis (.or ?_ yields_choice_nil)
  exact .token fun _ => (yields_due ":").skip fun _ => yields_trees .statement rfl

theorem yields_maybeElse : maybeElse.YieldsAll .statement :=
  yields_elseBlock.attempt.bind fun _ fit => yields_pure (forall_mem_getD fit)

theorem yields_ifStatement (opener : BlockOpener) (word : String) :
    (ifStatement opener word).YieldsAll .statement := by
  refine .place fun place => ?_
  have head : Yields (do
      let _ ← mark word
      let test ← one .namedExpression
      let _ ← mark ":"
      return (test, ← rule .block)) fun head : SourceTree × List SourceTree =>
        head.1.Fits .expression ∧ ∀ statement ∈ head.2, statement.Fits .statement :=
    .token fun _ => .expression rfl fun test isTest => .token fun _ =>
      (yields_trees .statement rfl).bind fun body fit => yields_pure ⟨isTest, fit⟩
  have built : ∀ {head : SourceTree × List SourceTree} {orelse : List SourceTree},
      (head.1.Fits .expression ∧ ∀ statement ∈ head.2, statement.Fits .statement) →
      (∀ statement ∈ orelse, statement.Fits .statement) →
      ∀ statement ∈ [tree place .ifStmt
        ((.test, head.1) :: each .body head.2 ++ each .orelse orelse)],
        statement.Fits .statement := by
    simp +contextual
  refine .or yields_diagnosis (.or yields_diagnosis (.or ?_ (.or ?_ yields_choice_nil)))
  · exact head.bind fun head fits => (yields_trees .statement rfl).bind fun orelse fit =>
      yields_pure (built fits fit)
  · exact head.bind fun head fits => yields_maybeElse.bind fun orelse fit =>
      yields_pure (built fits fit)

theorem yields_whileStatement : whileStatement.YieldsAll .statement := by
  refine .place fun place => ?_
  refine .or yields_diagnosis (.or yields_diagnosis (.or ?_ yields_choice_nil))
  refine .token fun _ => .expression rfl fun test isTest => .token fun _ => ?_
  refine (yields_trees .statement rfl).bind fun body isBody => ?_
  refine yields_maybeElse.bind fun orelse isOrelse => yields_pure ?_
  simp_all

theorem yields_forStatement : forStatement.YieldsAll .statement := by
  refine .place fun place => ?_
  have loop : ∀ async, YieldsAll .statement (do
      let _ ← mark "for"
      let target ← one .starTargets
      let _ ← mark "in"
      committed do
        let iter ← one .starExpressions
        let _ ← mark ":"
        let body ← rule .block
        let orelse ← maybeElse
        return [tree place (.forStmt async) ((.target, target) :: (.iter, iter) ::
          each .body body ++ each .orelse orelse)]) := by
    intro async
    refine .token fun _ => .expression rfl fun target isTarget => .token fun _ => .committed ?_
    refine .expression rfl fun iter isIter => .token fun _ => ?_
    refine (yields_trees .statement rfl).bind fun body isBody => ?_
    refine yields_maybeElse.bind fun orelse isOrelse => yields_pure ?_
    simp_all
  refine .or yields_diagnosis (.or yields_diagnosis (.or ?_ (.or ?_
    (.or yields_diagnosis yields_choice_nil))))
  · exact .ite (fun _ => (yields_mark "async").ignored.skip fun _ => loop _) fun _ => loop _
  · exact .ite (fun _ => (yields_mark "async").ignored.skip fun _ => loop _) fun _ => loop _

theorem yields_withItem : withItem.Yields (Fits .part) := by
  refine .or ?_ (.or yields_diagnosis (.or ?_ yields_choice_nil))
  · refine .expression rfl fun context isContext => .token fun _ => ?_
    refine .expression rfl fun target isTarget => (yields_tokenThat _).ahead.skip fun _ => ?_
    exact yields_pure (by simp [isContext, isTarget])
  · exact .expression rfl fun context isContext => yields_pure (by simp [isContext])

theorem yields_withStatement : withStatement.YieldsAll .statement := by
  refine .place fun place => ?_
  have items := (yields_mark ",").separated yields_withItem
  have built : ∀ async brackets : Bool, YieldsAll .statement (do
      if async then ignored (mark "async")
      let _ ← mark "with"
      if brackets then ignored (mark "(")
      let items ← separated (mark ",") withItem
      if brackets then
        let _ ← attempt (mark ",")
        let _ ← mark ")"
      let _ ← mark ":"
      let body ← rule .block
      return [tree place (.withStmt async) (each .items items ++ each .body body)]) := by
    intro async brackets
    have suite : ∀ {items : List SourceTree}, (∀ item ∈ items, item.Fits .part) →
        YieldsAll .statement (do
          let _ ← mark ":"
          let body ← rule .block
          return [tree place (.withStmt async) (each .items items ++ each .body body)]) := by
      intro items areItems
      refine .token fun _ => (yields_trees .statement rfl).bind fun body isBody => yields_pure ?_
      simp_all
    have managed : YieldsAll .statement (do
        let items ← separated (mark ",") withItem
        if brackets then
          let _ ← attempt (mark ",")
          let _ ← mark ")"
        let _ ← mark ":"
        let body ← rule .block
        return [tree place (.withStmt async) (each .items items ++ each .body body)]) := by
      refine items.bind fun items fit => .ite (fun _ => ?_) fun _ => suite fit
      exact (yields_mark ",").attempt.skip fun _ => .token fun _ => suite fit
    refine .ite (fun _ => (yields_mark "async").ignored.skip fun _ => ?_) fun _ => ?_
    · exact .token fun _ => .ite (fun _ => (yields_mark "(").ignored.skip fun _ => managed)
        fun _ => managed
    · exact .token fun _ => .ite (fun _ => (yields_mark "(").ignored.skip fun _ => managed)
        fun _ => managed
  refine .or yields_diagnosis <| .or yields_diagnosis <| .or (built false true) <|
    .or (built false false) <| .or (built true true) <| .or (built true false) <|
    .or yields_diagnosis <| .or yields_diagnosis yields_choice_nil

end Blocks

section Handlers

theorem yields_exceptBlock : exceptBlock.YieldsAll .part := by
  refine .place fun place => .or yields_diagnosis (.or yields_diagnosis (.or ?_ (.or ?_
    (.or yields_diagnosis yields_choice_nil))))
  · refine .token fun _ => .expression rfl fun type isType => yields_otherName.skip fun name => ?_
    refine .token fun _ => (yields_trees .statement rfl).bind fun body isBody => yields_pure ?_
    simp_all
  · refine .token fun _ => .token fun _ => (yields_trees .statement rfl).bind fun body isBody => ?_
    exact yields_pure (by simpa using isBody)

theorem yields_exceptStarBlock : exceptStarBlock.YieldsAll .part := by
  refine .place fun place => .or yields_diagnosis (.or ?_ (.or yields_diagnosis yields_choice_nil))
  refine .token fun _ => .token fun _ => .expression rfl fun type isType => ?_
  refine yields_otherName.skip fun name => .token fun _ => ?_
  exact (yields_trees .statement rfl).bind fun body isBody =>
    yields_pure (by simpa [isType] using isBody)

theorem yields_finallyBlock : finallyBlock.YieldsAll .statement := by
  refine .or yields_diagnosis (.or ?_ yields_choice_nil)
  exact .token fun _ => (yields_due ":").skip fun _ => yields_trees .statement rfl

theorem yields_tryStatement : tryStatement.YieldsAll .statement := by
  refine .place fun place => ?_
  have body : YieldsAll .statement (do
      let _ ← mark "try"
      let _ ← due ":"
      rule .block) :=
    .token fun _ => (yields_due ":").skip fun _ => yields_trees .statement rfl
  have handled : ∀ (groups : Bool) {handler : Rule}, handler.Admits = Fits .part →
      YieldsAll .statement (do
        let body ← (do
          let _ ← mark "try"
          let _ ← due ":"
          rule .block)
        let handlers ← several (rule handler)
        let orelse ← maybeElse
        let final ← attempt finallyBlock
        return [tree place (.tryStmt groups) (each .body body ++ each .handlers handlers.flatten ++
          each .orelse orelse ++ each .finalbody (final.getD []))]) := by
    intro groups handler reads
    refine body.bind fun body isBody => ?_
    refine (yields_trees .part reads).several.bind fun handlers fit => ?_
    refine yields_maybeElse.bind fun orelse isOrelse => ?_
    refine yields_finallyBlock.attempt.bind fun final isFinal => yields_pure ?_
    replace isFinal := forall_mem_getD isFinal
    replace fit : ∀ handler ∈ handlers.flatten, handler.Fits .part :=
      List.forall_mem_flatten.mpr fit
    generalize handlers.flatten = handlers at fit ⊢
    simp_all
  refine .or yields_diagnosis (.or ?_ (.or (handled false rfl) (.or (handled true rfl)
    yields_choice_nil)))
  refine body.bind fun body isBody => yields_finallyBlock.bind fun final isFinal => yields_pure ?_
  simp_all

end Handlers

section Cases

theorem yields_subject : subject.Yields (Fits .expression) := by
  refine .place fun place => .or ?_ (.or (yields_oneExpression rfl) yields_choice_nil)
  refine .expression rfl fun first isFirst => .token fun _ => ?_
  exact (yields_trees .expression rfl).attempt.bind fun others fit =>
    yields_pure (by simpa [isFirst] using forall_mem_getD fit)

theorem yields_guard : guard.Yields fun found => ∀ value ∈ found, value.Fits .expression :=
  (Yields.token fun _ => yields_oneExpression rfl).attempt

theorem yields_caseBlock : caseBlock.YieldsAll .part := by
  refine .or yields_diagnosis (.or yields_diagnosis (.or ?_ yields_choice_nil))
  refine .token fun _ => yields_casePattern.bind fun pattern isPattern => ?_
  refine yields_guard.bind fun condition isCondition => .token fun _ => ?_
  refine (yields_trees .statement rfl).bind fun body isBody => yields_pure ?_
  simp_all

theorem yields_matchStatement : matchStatement.YieldsAll .statement := by
  refine .place fun place => .or ?_ (.or yields_diagnosis (.or yields_diagnosis yields_choice_nil))
  refine .token fun _ => yields_subject.bind fun value isValue => .token fun _ => .token fun _ => ?_
  refine .token fun _ => yields_caseBlock.several.bind fun cases fit => .token fun _ => ?_
  replace fit : ∀ case ∈ cases.flatten, case.Fits .part := List.forall_mem_flatten.mpr fit
  exact yields_pure (by simpa [isValue] using fit)

end Cases

section Definitions

theorem yields_decorators : decorators.YieldsAll .expression :=
  (Yields.token fun _ => .expression rfl fun _ isValue => .token fun _ => yields_pure isValue).many

theorem yields_returned : returned.Yields fun found => ∀ value ∈ found, value.Fits .expression :=
  (Yields.token fun _ => yields_oneExpression rfl).attempt

variable {decorators : List SourceTree} (fit : ∀ decorator ∈ decorators, decorator.Fits .expression)

include fit

theorem yields_functionDefinition : (functionDefinition decorators).YieldsAll .statement := by
  refine .place fun place => ?_
  have definition : ∀ async : Bool, YieldsAll .statement (do
      let _ ← mark "def"
      let token ← name
      let _ ← due "("
      let list ← attempt (parameters ")")
      let _ ← mark ")"
      let returns ← returned
      let _ ← due ":"
      let body ← rule .block
      return [tree place (.functionDef async (nameOf token))
        ((.args, list.getD (ParameterList.node {})) :: each .body body ++
          each .decoratorList decorators ++ optional .returns returns)]) := by
    intro async
    refine .token fun _ => .token fun token => (yields_due "(").skip fun _ => ?_
    refine (yields_parameters ")").attempt.bind fun list isList => .token fun _ => ?_
    refine yields_returned.bind fun returns isReturns => (yields_due ":").skip fun _ => ?_
    refine (yields_trees .statement rfl).bind fun body isBody => yields_pure ?_
    have isList := fits_getD isList
    simp_all
  refine .or yields_diagnosis (.or ?_ (.or ?_ yields_choice_nil))
  · exact .ite (fun _ => (yields_mark "async").ignored.skip fun _ => definition _)
      fun _ => definition _
  · exact .ite (fun _ => (yields_mark "async").ignored.skip fun _ => definition _)
      fun _ => definition _

theorem yields_classDefinition : (classDefinition decorators).YieldsAll .statement := by
  refine .place fun place => ?_
  have bases : Yields (do
      let arguments ← attempt do
        let _ ← mark "("
        let arguments ← attempt (rule .arguments)
        let _ ← mark ")"
        return arguments.getD []
      return arguments.getD []) fun arguments => ∀ argument ∈ arguments, argument.IsArgument := by
    have bracketed : Yields (do
        let _ ← mark "("
        let arguments ← attempt (rule .arguments)
        let _ ← mark ")"
        return arguments.getD []) fun arguments => ∀ argument ∈ arguments, argument.IsArgument :=
      .token fun _ => (yields_rule .arguments).attempt.bind fun _ admitted => .token fun _ =>
        yields_pure (forall_mem_getD admitted)
    exact bracketed.attempt.bind fun _ admitted => yields_pure (forall_mem_getD admitted)
  refine .or yields_diagnosis (.or yields_diagnosis (.or ?_ yields_choice_nil))
  refine .token fun _ => .token fun token => bases.bind fun arguments admitted => ?_
  refine .token fun _ => (yields_trees .statement rfl).bind fun body isBody => yields_pure ?_
  have positional := fits_of_positional admitted
  have keywords := fits_of_keyword admitted
  simp_all

end Definitions

section Programs

theorem yields_decorated {definition : List SourceTree → Reading (List SourceTree)}
    (yields : ∀ {decorators : List SourceTree},
      (∀ decorator ∈ decorators, decorator.Fits .expression) →
        (definition decorators).YieldsAll .statement) :
    (decorated definition).YieldsAll .statement :=
  yields_decorators.bind fun _ fit => yields fit

theorem yields_compoundStatement : compoundStatement.YieldsAll .statement := by
  have opened : ∀ {start : Reading Token} {phrase : Reading (List SourceTree)},
      start.Yields (fun _ => True) → phrase.YieldsAll .statement →
      YieldsAll .statement (do
        ahead start
        phrase) :=
    fun starts yields => starts.ahead.skip fun _ => yields
  exact .or (opened (yields_tokenThat _) (yields_decorated yields_functionDefinition)) <|
    .or (opened (yields_tokenThat _) (yields_ifStatement _ _)) <|
    .or (opened (yields_tokenThat _) (yields_decorated yields_classDefinition)) <|
    .or (opened (yields_tokenThat _) yields_withStatement) <|
    .or (opened (yields_tokenThat _) yields_forStatement) <|
    .or (opened (yields_tokenThat _) yields_tryStatement) <|
    .or (opened (yields_tokenThat _) yields_whileStatement) <|
    .or yields_matchStatement yields_choice_nil

theorem yields_statements : statements.YieldsAll .statement := by
  have line : YieldsAll .statement (choice [compoundStatement, rule .simpleStatements]) :=
    .or yields_compoundStatement (.or (yields_trees .statement rfl) yields_choice_nil)
  exact line.several.bind fun _ fit => yields_pure (List.forall_mem_flatten.mpr fit)

end Programs

end Grammar

end IfChains
