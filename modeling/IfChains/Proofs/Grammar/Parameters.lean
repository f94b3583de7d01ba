/-
**What parameter lists are read as.**

A parameter is a part of a definition, and its default is an expression. A parameter list is taken
apart into such parameters, and its node has them as children.
-/

import IfChains.Grammar.Parameter
import IfChains.Proofs.Grammar.Yielding

namespace IfChains

open IfChains.Tree IfChains.Reading

namespace Grammar

/-- A parameter that fits, and so does its default. -/
structure Parameter.Fits (parameter : Parameter) : Prop where
  node : parameter.node.Fits .part
  value : ∀ value ∈ parameter.value, value.Fits .expression

/-- A parameter list whose parameters fit. -/
structure ParameterList.Fits (list : ParameterList) : Prop where
  positionalOnly : ∀ parameter ∈ list.positionalOnly, parameter.Fits
  plain : ∀ parameter ∈ list.plain, parameter.Fits
  rest : ∀ node ∈ list.rest, node.Fits .part
  keywordOnly : ∀ parameter ∈ list.keywordOnly, parameter.Fits
  keywordRest : ∀ node ∈ list.keywordRest, node.Fits .part

section Nodes

variable {list : ParameterList} {parameters : List Parameter}

theorem fits_nodes (fit : ∀ parameter ∈ parameters, parameter.Fits) :
    ∀ node ∈ parameters.map Parameter.node, node.Fits .part :=
  List.forall_mem_map.mpr fun parameter member => (fit parameter member).node

theorem fits_values (fit : ∀ parameter ∈ parameters, parameter.Fits) :
    ∀ value ∈ parameters.filterMap Parameter.value, value.Fits .expression := by
  intro value member
  obtain ⟨parameter, inside, same⟩ := List.mem_filterMap.mp member
  exact (fit parameter inside).value value same

/-- **The node of a parameter list fits.** -/
theorem ParameterList.Fits.node (fits : list.Fits) : list.node.Fits .part := by
  have positional := List.forall_mem_append.mpr ⟨fits.positionalOnly, fits.plain⟩
  refine fits_part.mpr ⟨rfl, by simp, ?_⟩
  simp only [filling_append, optional]
  refine ⟨⟨⟨⟨⟨⟨?_, ?_⟩, ?_⟩, ?_⟩, ?_⟩, ?_⟩, ?_⟩
  · exact filling_of_forall (by simp) (fits_nodes fits.positionalOnly)
  · exact filling_of_forall (by simp) (fits_nodes fits.plain)
  · exact filling_of_forall (by simp) (by simpa using fits.rest)
  · exact filling_of_forall (by simp) (fits_nodes fits.keywordOnly)
  · exact filling_of_forall (by simp) (fits_values fits.keywordOnly)
  · exact filling_of_forall (by simp) (by simpa using fits.keywordRest)
  · exact filling_of_forall (by simp) (fits_values positional)

/-- A parameter list that may be there fits, or there are no parameters. -/
theorem fits_getD {list : Option SourceTree} (fits : ∀ node ∈ list, node.Fits .part) :
    (list.getD (ParameterList.node {})).Fits .part := by
  cases list with
  | none => exact ParameterList.Fits.node ⟨by simp, by simp, by simp, by simp, by simp⟩
  | some node => exact fits node rfl

theorem ParameterList.Fits.followedBy {others : Option ParameterList} (fits : list.Fits)
    (behind : ∀ others' ∈ others, others'.Fits) : (list.followedBy others).Fits := by
  cases others with
  | none => exact fits
  | some others =>
    have behind := behind others rfl
    exact ⟨fits.positionalOnly, fits.plain, behind.rest, behind.keywordOnly, behind.keywordRest⟩

end Nodes

section One

variable (closing : String)

theorem yields_parameter : (parameter closing).Yields (Fits .part) := by
  refine .place fun place => .token fun token => ?_
  have node : ∀ hint : Option SourceTree, (∀ value ∈ hint, value.Fits .expression) →
      Yields (pure (tree place (.arg (nameOf token)) (optional .hint hint))) (Fits .part) :=
    fun hint isHint => yields_pure (by simpa using isHint)
  split
  · exact (Yields.token fun _ => yields_oneExpression rfl).attempt.bind node
  · exact node none (by simp)

theorem yields_parameterDefault : parameterDefault.Yields (Fits .expression) :=
  .or (.token fun _ => yields_oneExpression rfl) (.or yields_diagnosis yields_choice_nil)

theorem yields_parameterEnd : (parameterEnd closing).Yields fun _ => True :=
  .or (yields_mark ",").ignored (.or (yields_mark closing).ahead yields_choice_nil)

theorem yields_bareParameter : (bareParameter closing).Yields Parameter.Fits :=
  (yields_parameter closing).bind fun _ isNode => (yields_parameterEnd closing).skip fun _ =>
    yields_pure ⟨isNode, by simp⟩

theorem yields_defaultedParameter : (defaultedParameter closing).Yields Parameter.Fits :=
  (yields_parameter closing).bind fun _ isNode => yields_parameterDefault.bind fun _ isValue =>
    (yields_parameterEnd closing).skip fun _ => yields_pure ⟨isNode, by simpa using isValue⟩

theorem yields_anyParameter : (anyParameter closing).Yields Parameter.Fits :=
  (yields_parameter closing).bind fun _ isNode =>
    yields_parameterDefault.attempt.bind fun _ isValue => (yields_parameterEnd closing).skip fun _ =>
      yields_pure ⟨isNode, isValue⟩

theorem yields_starAnnotated : (starAnnotated closing).Yields Parameter.Fits := by
  unfold starAnnotated
  split
  · exact yields_stop_bind
  · refine .place fun place => .token fun _ => .token fun _ => .expression rfl fun hint isHint => ?_
    exact (yields_parameterEnd closing).skip fun _ => yields_pure ⟨by simp [isHint], by simp⟩

end One

section Lists

variable (closing : String)

theorem yields_bareBeforeSlash :
    (bareBeforeSlash closing).Yields fun list => ∀ parameter ∈ list, parameter.Fits :=
  (yields_bareParameter closing).several.bind fun _ fit => .token fun _ =>
    (yields_parameterEnd closing).skip fun _ => yields_pure fit

theorem yields_defaultedBeforeSlash :
    (defaultedBeforeSlash closing).Yields fun list => ∀ parameter ∈ list, parameter.Fits :=
  (yields_bareParameter closing).many.bind fun _ bare =>
    (yields_defaultedParameter closing).several.bind fun _ defaulted => .token fun _ =>
      (yields_parameterEnd closing).skip fun _ =>
        yields_pure (List.forall_mem_append.mpr ⟨bare, defaulted⟩)

theorem yields_keywordRest : (keywordRest closing).Yields (Fits .part) :=
  .or yields_diagnosis (.or
    (.token fun _ => (yields_bareParameter closing).bind fun _ fits => yields_pure fits.node)
    yields_choice_nil)

theorem yields_fromStar : (fromStar closing).Yields ParameterList.Fits := by
  have others := (yields_anyParameter closing).many
  have last := (yields_keywordRest closing).attempt
  refine .or yields_diagnosis (.or ?_ (.or ?_ (.or ?_ yields_choice_nil)))
  · have rest : (choice [bareParameter closing, starAnnotated closing]).Yields Parameter.Fits :=
      .or (yields_bareParameter closing) (.or (yields_starAnnotated closing) yields_choice_nil)
    refine .token fun _ => rest.bind fun rest isRest => others.bind fun others fit => ?_
    refine last.bind fun last isLast => yields_pure ?_
    exact ⟨by simp, by simp, by simpa using isRest.node, fit, isLast⟩
  · refine .token fun _ => .token fun _ => ?_
    refine (yields_anyParameter closing).several.bind fun others fit => ?_
    refine last.bind fun last isLast => yields_pure ?_
    exact ⟨by simp, by simp, by simp, fit, isLast⟩
  · refine (yields_keywordRest closing).bind fun last isLast => yields_pure ?_
    exact ⟨by simp, by simp, by simp, by simp, by simpa using isLast⟩

/-- The parameters before a star, and those behind it if there are any. -/
theorem yields_followedBy {list : ParameterList} (fits : list.Fits) :
    Yields (do return list.followedBy (← attempt (fromStar closing))) ParameterList.Fits :=
  (yields_fromStar closing).attempt.bind fun _ behind => yields_pure (fits.followedBy behind)

theorem yields_parameters : (parameters closing).Yields (Fits .part) := by
  suffices lists : Yields _ ParameterList.Fits from
    lists.bind fun list fits => yields_pure fits.node
  have bare := yields_bareParameter closing
  have defaulted := yields_defaultedParameter closing
  refine .or yields_diagnosis (.or ?_ (.or ?_ (.or ?_ (.or ?_
    (.or (yields_fromStar closing) yields_choice_nil)))))
  · refine (yields_bareBeforeSlash closing).bind fun before fit => bare.many.bind fun _ bare => ?_
    refine defaulted.many.bind fun _ defaulted => yields_followedBy closing ?_
    exact ⟨fit, List.forall_mem_append.mpr ⟨bare, defaulted⟩, by simp, by simp, by simp⟩
  · refine (yields_defaultedBeforeSlash closing).bind fun before fit => ?_
    refine defaulted.many.bind fun _ defaulted => yields_followedBy closing ?_
    exact ⟨fit, defaulted, by simp, by simp, by simp⟩
  · refine bare.several.bind fun _ bare => ?_
    refine defaulted.many.bind fun _ defaulted => yields_followedBy closing ?_
    exact ⟨by simp, List.forall_mem_append.mpr ⟨bare, defaulted⟩, by simp, by simp, by simp⟩
  · refine defaulted.several.bind fun _ defaulted => yields_followedBy closing ?_
    exact ⟨by simp, defaulted, by simp, by simp, by simp⟩

end Lists

end Grammar

end IfChains
