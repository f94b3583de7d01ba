/-
**What patterns are read as.**

Every rule for patterns yields a pattern whose nodes have the children of their kind. The literals
and dotted names in patterns are expressions.
-/

import IfChains.Grammar.Pattern
import IfChains.Proofs.Grammar.Literals
import IfChains.Proofs.Grammar.Targets

namespace IfChains

open IfChains.Tree IfChains.Reading

namespace Grammar

section Literals

theorem yields_signed {operand : Reading SourceTree} (yields : operand.Yields (Fits .expression)) :
    (signed operand).Yields (Fits .expression) := by
  refine .place fun place => .or yields (.or ?_ yields_choice_nil)
  exact .token fun _ => yields.bind fun value isValue => yields_pure (by simp [isValue])

theorem yields_realNumber : realNumber.Yields (Fits .expression) := by
  refine yields_number.bind fun value isValue => .ite (fun _ => ?_) fun _ => yields_pure isValue
  exact yields_faultAt.bind fun _ (never : False) => never.elim

theorem yields_imaginaryNumber : imaginaryNumber.Yields (Fits .expression) := by
  refine yields_number.bind fun value isValue => .ite (fun _ => ?_) fun _ => yields_pure isValue
  exact yields_faultAt.bind fun _ (never : False) => never.elim

theorem yields_complexNumber : complexNumber.Yields (Fits .expression) := by
  refine .place fun place => (yields_signed yields_realNumber).bind fun real isReal => ?_
  refine .token fun sign => yields_imaginaryNumber.bind fun imaginary isImaginary => ?_
  exact yields_pure (by simp [isReal, isImaginary])

theorem yields_comparedLiteral : comparedLiteral.Yields (Fits .expression) := by
  refine .or ?_ (.or yields_complexNumber (.or (yields_oneExpression rfl) yields_choice_nil))
  exact (yields_signed yields_number).bind fun value isValue =>
    (yields_tokenThat _).notAhead.skip fun _ => yields_pure isValue

theorem yields_singleton : singleton.Yields fun _ => True := by
  have read : ∀ {spelling : String} {value : Constant},
      Yields (do let _ ← mark spelling; return value) fun _ => True :=
    .token fun _ => yields_pure trivial
  exact .or read (.or read (.or read yields_choice_nil))

theorem yields_literalPattern : literalPattern.Yields (Fits .pattern) := by
  refine .place fun place => .or ?_ (.or ?_ yields_choice_nil)
  · exact yields_comparedLiteral.bind fun value isValue => yields_pure (by simp [isValue])
  · exact yields_singleton.skip fun value => yields_pure (by simp)

theorem yields_literalKey : literalKey.Yields (Fits .expression) := by
  refine .place fun place => .or yields_comparedLiteral (.or ?_ yields_choice_nil)
  exact yields_singleton.skip fun value => yields_pure (by simp)

end Literals

section Names

theorem yields_captured : captured.Yields fun _ => True :=
  (yields_tokenThat _).notAhead.skip fun _ => .token fun _ =>
    (yields_tokenThat _).notAhead.skip fun _ => yields_pure trivial

theorem yields_qualifiedName : qualifiedName.Yields (Fits .expression) := by
  refine .place fun place => .token fun first => ?_
  exact yields_grown (fun value fits => yields_memberSuffix fits place .load) (by simp)

theorem yields_dottedPath : dottedPath.Yields (Fits .expression) := by
  refine .expression rfl fun value isValue => ?_
  split
  · exact yields_pure isValue
  · exact yields_noMatch

end Names

section Patterns

theorem yields_starPattern : starPattern.Yields (Fits .pattern) := by
  refine .place fun place => .or ?_ (.or ?_ yields_choice_nil)
  · exact .token fun _ => yields_captured.skip fun name => yields_pure (by simp)
  · exact .token fun _ => .token fun _ => yields_pure (by simp)

theorem yields_maybeStarPattern : maybeStarPattern.Yields (Fits .pattern) :=
  .or (yields_tree .pattern rfl) (.or (yields_tree .pattern rfl) yields_choice_nil)

theorem yields_sequenceParts : sequenceParts.YieldsAll .pattern :=
  (yields_mark ",").listed (yields_tree .pattern rfl) (yields_mark ",")

theorem yields_openSequence : openSequence.YieldsAll .pattern := by
  refine (yields_tree .pattern rfl).bind fun first isFirst => .token fun _ => ?_
  refine yields_sequenceParts.attempt.bind fun others fit => yields_pure ?_
  exact List.forall_mem_cons.mpr ⟨isFirst, forall_mem_getD fit⟩

theorem yields_sequencePattern : sequencePattern.Yields (Fits .pattern) := by
  refine .place fun place => .or ?_ (.or ?_ yields_choice_nil)
  · exact .token fun _ => yields_sequenceParts.attempt.bind fun parts fit => .token fun _ =>
      yields_pure (by simpa using forall_mem_getD fit)
  · exact .token fun _ => yields_openSequence.attempt.bind fun parts fit => .token fun _ =>
      yields_pure (by simpa using forall_mem_getD fit)

theorem yields_entryPatterns : entryPatterns.Yields fun entries =>
    ∀ entry ∈ entries, entry.1.Fits .expression ∧ entry.2.Fits .pattern := by
  have key : (choice [literalKey, dottedPath]).Yields (Fits .expression) :=
    .or yields_literalKey (.or yields_dottedPath yields_choice_nil)
  refine (yields_mark ",").separated ?_
  exact key.bind fun key isKey => .token fun _ => (yields_tree .pattern rfl).bind fun _ isPattern =>
    yields_pure ⟨isKey, isPattern⟩

theorem yields_restPattern : restPattern.Yields fun _ => True :=
  .token fun _ => yields_captured

theorem yields_mappingPattern : mappingPattern.Yields (Fits .pattern) := by
  refine .place fun place => .token fun _ => ?_
  have close : Yields (do
      let _ ← attempt (mark ",")
      ignored (mark "\x7d")) fun _ => True :=
    (yields_mark ",").attempt.skip fun _ => (yields_mark _).ignored
  have built : ∀ {entries : List (SourceTree × SourceTree)} {rest : Option String},
      (∀ entry ∈ entries, entry.1.Fits .expression ∧ entry.2.Fits .pattern) →
      (tree place (.matchMapping rest)
        (each .keys (entries.map (·.1)) ++ each .patterns (entries.map (·.2)))).Fits .pattern := by
    intro entries rest fit
    have keys : ∀ key ∈ entries.map (·.1), key.Fits .expression :=
      List.forall_mem_map.mpr fun entry member => (fit entry member).1
    have patterns : ∀ pattern ∈ entries.map (·.2), pattern.Fits .pattern :=
      List.forall_mem_map.mpr fun entry member => (fit entry member).2
    exact fits_tree.mpr ⟨rfl, by simp, filling_append.mpr
      ⟨filling_of_forall (by simp) keys, filling_of_forall (by simp) patterns⟩⟩
  refine .or ?_ (.or ?_ (.or ?_ (.or ?_ yields_choice_nil)))
  · exact .token fun _ => yields_pure (built (by simp))
  · exact yields_restPattern.skip fun rest => close.skip fun _ => yields_pure (built (by simp))
  · exact yields_entryPatterns.bind fun entries fit => .token fun _ =>
      yields_restPattern.skip fun rest => close.skip fun _ => yields_pure (built fit)
  · exact yields_entryPatterns.bind fun entries fit => close.skip fun _ => yields_pure (built fit)

theorem yields_positionalPatterns : positionalPatterns.YieldsAll .pattern :=
  (yields_mark ",").separated (yields_tree .pattern rfl)

theorem yields_keywordPatterns : keywordPatterns.Yields fun patterns =>
    ∀ pattern ∈ patterns, pattern.2.Fits .pattern := by
  refine (yields_mark ",").separated ?_
  exact .token fun _ => .token fun _ => (yields_tree .pattern rfl).bind fun _ isPattern =>
    yields_pure isPattern

theorem yields_classPattern : classPattern.Yields (Fits .pattern) := by
  have close : Yields (do
      let _ ← attempt (mark ",")
      ignored (mark ")")) fun _ => True :=
    (yields_mark ",").attempt.skip fun _ => (yields_mark _).ignored
  refine .place fun place => .expression rfl fun cls isClass => .token fun _ => ?_
  have built : ∀ {positional : List SourceTree} {keywords : List (String × SourceTree)},
      (∀ pattern ∈ positional, pattern.Fits .pattern) →
      (∀ pattern ∈ keywords, pattern.2.Fits .pattern) →
      (tree place (.matchClass (keywords.map (·.1))) ((.cls, cls) :: each .patterns positional ++
        each .kwdPatterns (keywords.map (·.2)))).Fits .pattern := by
    intro positional keywords fit fit'
    have named : ∀ pattern ∈ keywords.map (·.2), pattern.Fits .pattern :=
      List.forall_mem_map.mpr fit'
    exact fits_tree.mpr ⟨rfl, by simp, filling_append.mpr
      ⟨by simpa [isClass] using fit, filling_of_forall (by simp) named⟩⟩
  refine .or ?_ (.or ?_ (.or ?_ (.or ?_ (.or yields_diagnosis yields_choice_nil))))
  · exact .token fun _ => yields_pure (built (by simp) (by simp))
  · exact yields_positionalPatterns.bind fun positional fit => close.skip fun _ =>
      yields_pure (built fit (by simp))
  · exact yields_keywordPatterns.bind fun keywords fit => close.skip fun _ =>
      yields_pure (built (by simp) fit)
  · exact yields_positionalPatterns.bind fun positional fit => .token fun _ =>
      yields_keywordPatterns.bind fun keywords fit' => close.skip fun _ =>
        yields_pure (built fit fit')

theorem yields_closedPattern : closedPattern.Yields (Fits .pattern) := by
  refine .place fun place => .or yields_literalPattern (.or ?_ (.or ?_ (.or ?_ (.or ?_
    (.or yields_sequencePattern (.or yields_mappingPattern (.or yields_classPattern
      yields_choice_nil)))))))
  · exact yields_captured.skip fun name => yields_pure (by simp)
  · exact .token fun _ => yields_pure (by simp)
  · exact yields_dottedPath.bind fun path isPath => (yields_tokenThat _).notAhead.skip fun _ =>
      yields_pure (by simp [isPath])
  · exact .token fun _ => (yields_tree .pattern rfl).bind fun inner isInner => .token fun _ =>
      yields_pure isInner

theorem yields_orPattern : orPattern.Yields (Fits .pattern) := by
  refine .place fun place => ?_
  refine ((yields_mark "|").separated (yields_tree .pattern rfl)).bind fun alternatives fit => ?_
  split
  · exact yields_pure (fit _ List.mem_cons_self)
  · exact yields_pure (by simpa using fit)

theorem yields_pattern : pattern.Yields (Fits .pattern) := by
  refine .place fun place => .or ?_ (.or yields_diagnosis (.or yields_diagnosis
    (.or yields_orPattern yields_choice_nil)))
  exact yields_orPattern.bind fun inner isInner => .token fun _ =>
    yields_captured.skip fun name => yields_pure (by simp [isInner])

theorem yields_casePattern : casePattern.Yields (Fits .pattern) := by
  refine .place fun place => .or ?_ (.or (yields_tree .pattern rfl) yields_choice_nil)
  exact yields_openSequence.bind fun parts fit => yields_pure (by simpa using fit)

end Patterns

end Grammar

end IfChains
