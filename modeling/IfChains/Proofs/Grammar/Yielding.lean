/-
**What a reading yields.**

Only a reading that diagnoses no faults comes to the tree of a program. It yields values of some sort
if it does so whenever the rules that it calls read the trees that they should, and the results that
are remembered are such trees. Each way to combine readings keeps to that, so what a phrase of the
grammar yields follows its definition step by step.

* `Rule.Admits`: the trees that a rule reads;
* `Yields`, `YieldsAll`: a reading yields only values of some sort, or only trees of one class;
* `Yields.bind`, `Yields.or`, `Yields.many`, `yields_grown`, …: what combined readings yield;
* `Yields.remembered`: what a rule yields whose results are remembered;
* `good_of_whole`: what is read as a whole text.
-/

import IfChains.Grammar.Conclusion
import IfChains.Grammar.Target
import IfChains.Proofs.Grammar.Fitting

namespace IfChains

open IfChains.Tree IfChains.Grammar

/-- The class of the trees that a rule reads; for arguments, of those that are not named. -/
def Rule.family : Rule → Label.Family
  | .statements | .simpleStatements | .simpleStatement | .block | .elifStatement => .statement
  | .exceptBlock | .exceptStarBlock | .forIfClauses => .part
  | .pattern | .closedPattern | .starPattern | .maybeStarPattern => .pattern
  | _ => .expression

/-- A tree that may be an argument of a call: an expression, or one with a name. -/
def Tree.IsArgument (tree : SourceTree) : Prop :=
  tree.Fits (if isKeyword tree then .part else .expression)

/-- The trees that a rule reads. -/
def Rule.Admits : Rule → SourceTree → Prop
  | .arguments | .args | .kwargs => IsArgument
  | name => Fits name.family

/-- No faults are diagnosed, and the results of rules that are remembered fit the rules. -/
structure ReadingState.Fitting (state : ReadingState) : Prop where
  plain : state.diagnosing = false
  kept : ∀ position, ∀ entry ∈ state.keptAt position, ∀ result ∈ entry.result, ∀ tree ∈ result.1,
    entry.rule.Admits tree

namespace Reading

variable {α β : Type} {phrase : Reading α} {rest : α → Reading β} {Good : α → Prop}
  {Better : β → Prop} {table : RuleTable} {state : ReadingState}

/-- A result leaves a state in which results fit, and is of some sort if it is a value. -/
def Outcome (Good : α → Prop) : Except Stop α × ReadingState → Prop
  | (.ok value, state) => state.Fitting ∧ Good value
  | (.error _, state) => state.Fitting

/-- The rules of a table read the trees that they should. -/
def Reliable (table : RuleTable) : Prop :=
  ∀ name state, state.Fitting →
    Outcome (fun trees => ∀ tree ∈ trees, name.Admits tree) (table name state)

/-- A reading yields only values of some sort. -/
structure Yields (phrase : Reading α) (Good : α → Prop) : Prop where
  outcome : ∀ table state, Reliable table → state.Fitting → Outcome Good (phrase table state)

/-- A reading yields only trees of one class. -/
abbrev YieldsAll (family : Label.Family) (phrase : Reading (List SourceTree)) : Prop :=
  phrase.Yields fun trees => ∀ tree ∈ trees, tree.Fits family

section States

/-- Going back to an earlier token changes nothing that is remembered. -/
theorem fitting_at (fitting : state.Fitting) (position : Nat) :
    ReadingState.Fitting { state with position := position } :=
  ⟨fitting.plain, fitting.kept⟩

/-- What is remembered at a token once a result is kept was remembered before, or is that result. -/
theorem mem_keptAt_keep {position other : Nat} {new entry : Kept}
    (member : entry ∈ (state.keep position new).keptAt other) :
    entry = new ∨ entry ∈ state.keptAt other := by
  unfold ReadingState.keep ReadingState.keptAt at *
  simp only [Array.getD_eq_getD_getElem?, Array.getElem?_modify, Array.getElem?_append,
    Array.getElem?_replicate] at member ⊢
  grind

/-- Remembering a result that fits its rule leaves results that fit. -/
theorem fitting_keep {position : Nat} {entry : Kept} (fitting : state.Fitting)
    (admitted : ∀ result ∈ entry.result, ∀ tree ∈ result.1, entry.rule.Admits tree) :
    (state.keep position entry).Fitting := by
  refine ⟨fitting.plain, fun other kept member => ?_⟩
  rcases mem_keptAt_keep member with rfl | member
  · exact admitted
  · exact fitting.kept other kept member

/-- Nothing is remembered yet at the start of a text. -/
theorem fitting_of_fresh (plain : state.diagnosing = false) (fresh : state.kept = #[]) :
    state.Fitting := by
  refine ⟨plain, fun position entry member => ?_⟩
  rw [ReadingState.keptAt, fresh] at member
  exact absurd member List.not_mem_nil

end States

section Steps

theorem yields_pure {value : α} (good : Good value) : (pure value : Reading α).Yields Good :=
  ⟨fun _ _ _ fitting => ⟨fitting, good⟩⟩

theorem yields_stop {reason : Stop} : (stop reason : Reading α).Yields Good :=
  ⟨fun _ _ _ fitting => fitting⟩

/-- A value goes on as itself. -/
theorem yields_pure_bind {value : α} (next : (rest value).Yields Better) :
    (pure value >>= rest).Yields Better :=
  next

/-- Nothing follows where a reading stops. -/
theorem yields_stop_bind {reason : Stop} : (stop reason >>= rest).Yields Better :=
  ⟨fun _ _ _ fitting => fitting⟩

theorem yields_noMatch : (noMatch : Reading α).Yields Good :=
  yields_stop

theorem Yields.imp {Weak : α → Prop} (yields : phrase.Yields Good)
    (weakens : ∀ value, Good value → Weak value) : phrase.Yields Weak := by
  refine ⟨fun table state reliable fitting => ?_⟩
  have outcome := yields.outcome table state reliable fitting
  generalize phrase table state = result at outcome ⊢
  obtain ⟨stop | value, after⟩ := result
  · exact outcome
  · exact ⟨outcome.1, weakens _ outcome.2⟩

/-- A reading and what goes on from the values that it yields. -/
theorem Yields.bind (first : phrase.Yields Good)
    (next : ∀ value, Good value → (rest value).Yields Better) :
    (phrase >>= rest).Yields Better := by
  refine ⟨fun table state reliable fitting => ?_⟩
  have outcome := first.outcome table state reliable fitting
  change Outcome Better (match phrase table state with
    | (.ok value, state) => rest value table state
    | (.error stop, state) => (.error stop, state))
  generalize phrase table state = result at outcome ⊢
  obtain ⟨stop | value, after⟩ := result
  · exact outcome
  · exact (next _ outcome.2).outcome table after reliable outcome.1

/-- A reading whose value does not matter, and what follows it. -/
theorem Yields.skip (first : phrase.Yields Good) (next : ∀ value, (rest value).Yields Better) :
    (phrase >>= rest).Yields Better :=
  first.bind fun value _ => next value

theorem yields_get : Reading.get.Yields ReadingState.Fitting :=
  ⟨fun _ _ _ fitting => ⟨fitting, fitting⟩⟩

theorem yields_rule (name : Rule) :
    (rule name).Yields fun trees => ∀ tree ∈ trees, name.Admits tree :=
  ⟨fun _ state reliable fitting => reliable name state fitting⟩

/-- The one tree that a rule reads. -/
theorem yields_one (name : Rule) : (one name).Yields name.Admits := by
  refine (yields_rule name).bind fun trees admitted => ?_
  split
  · exact yields_pure (admitted _ List.mem_cons_self)
  · exact yields_noMatch

theorem Yields.attempt (yields : phrase.Yields Good) :
    (attempt phrase).Yields fun found => ∀ value ∈ found, Good value := by
  refine ⟨fun table state reliable fitting => ?_⟩
  have outcome := yields.outcome table state reliable fitting
  unfold Reading.attempt
  generalize phrase table state = result at outcome ⊢
  obtain ⟨stop | value, after⟩ := result
  · cases stop with
    | noMatch => exact ⟨fitting_at outcome _, by simp⟩
    | settled => exact ⟨fitting_at outcome _, by simp⟩
    | fault failure lexical => exact outcome
  · exact ⟨outcome.1, by simpa using outcome.2⟩

theorem Yields.committed (yields : phrase.Yields Good) : (committed phrase).Yields Good := by
  refine ⟨fun table state reliable fitting => ?_⟩
  have outcome := yields.outcome table state reliable fitting
  unfold Reading.committed
  generalize phrase table state = result at outcome ⊢
  obtain ⟨stop | value, after⟩ := result
  · cases stop <;> exact outcome
  · exact outcome

theorem Yields.ahead (yields : phrase.Yields Good) : (ahead phrase).Yields fun _ => True := by
  refine ⟨fun table state reliable fitting => ?_⟩
  have outcome := yields.outcome table state reliable fitting
  unfold Reading.ahead
  generalize phrase table state = result at outcome ⊢
  obtain ⟨stop | value, after⟩ := result
  · exact fitting_at outcome _
  · exact ⟨fitting_at outcome.1 _, trivial⟩

theorem Yields.notAhead (yields : phrase.Yields Good) : (notAhead phrase).Yields fun _ => True := by
  refine yields.ahead.attempt.skip fun found => ?_
  split
  · exact yields_noMatch
  · exact yields_pure trivial

theorem Yields.ignored (yields : phrase.Yields Good) :
    (ignored phrase).Yields fun _ => True :=
  yields.skip fun _ => yields_pure trivial

/-- One of two readings, by a condition. -/
theorem Yields.ite {condition : Prop} [Decidable condition] {other : Reading α}
    (holds : condition → phrase.Yields Good) (fails : ¬ condition → other.Yields Good) :
    (if condition then phrase else other).Yields Good := by
  split
  · next true => exact holds true
  · next false => exact fails false

/-- No alternative is left. -/
theorem yields_choice_nil : (choice [] : Reading α).Yields Good :=
  yields_noMatch

/-- An alternative, and the ones behind it. -/
theorem Yields.or {others : List (Reading α)} (yields : phrase.Yields Good)
    (rest : (choice others).Yields Good) : (choice (phrase :: others)).Yields Good := by
  refine ⟨fun table state reliable fitting => ?_⟩
  have outcome := yields.outcome table state reliable fitting
  unfold choice
  generalize phrase table state = result at outcome ⊢
  obtain ⟨stop | value, after⟩ := result
  · cases stop with
    | noMatch => exact rest.outcome table _ reliable (fitting_at outcome _)
    | settled => exact fitting_at outcome _
    | fault failure lexical => exact outcome
  · exact outcome

/-- What is tried only when faults are diagnosed yields nothing. -/
theorem yields_diagnosis : (diagnosis phrase).Yields Good := by
  refine yields_get.bind fun state fitting => ?_
  rw [fitting.plain]
  exact yields_noMatch

theorem Yields.undiagnosed (yields : phrase.Yields Good) : (undiagnosed phrase).Yields Good := by
  refine ⟨fun table state reliable fitting => ?_⟩
  have plain : ReadingState.Fitting { state with diagnosing := false } := ⟨rfl, fitting.kept⟩
  have outcome := yields.outcome table _ reliable plain
  unfold Reading.undiagnosed
  generalize phrase table _ = result at outcome ⊢
  obtain ⟨stop | value, after⟩ := result
  · exact ⟨fitting.plain, outcome.kept⟩
  · exact ⟨⟨fitting.plain, outcome.1.kept⟩, outcome.2⟩

end Steps

section Repetitions

theorem Yields.repeated (yields : phrase.Yields Good) (bound : Nat) :
    (repeated phrase bound).Yields fun values => ∀ value ∈ values, Good value := by
  induction bound with
  | zero => exact yields_pure (by simp)
  | succ bound ih =>
    refine yields.attempt.bind fun found good => ?_
    split
    · refine ih.bind fun values others => yields_pure ?_
      exact List.forall_mem_cons.mpr ⟨good _ rfl, others⟩
    · exact yields_pure (by simp)

theorem Yields.many (yields : phrase.Yields Good) :
    (many phrase).Yields fun values => ∀ value ∈ values, Good value :=
  yields_get.skip fun state => yields.repeated state.bound

theorem Yields.several (yields : phrase.Yields Good) :
    (several phrase).Yields fun values => ∀ value ∈ values, Good value :=
  yields.bind fun _ good => yields.many.bind fun _ others =>
    yields_pure (List.forall_mem_cons.mpr ⟨good, others⟩)

theorem Yields.separated {separator : Reading β} (between : separator.Yields Better)
    (yields : phrase.Yields Good) :
    (separated separator phrase).Yields fun values => ∀ value ∈ values, Good value :=
  yields.bind fun _ good => (between.skip fun _ => yields).many.bind fun _ others =>
    yields_pure (List.forall_mem_cons.mpr ⟨good, others⟩)

/-- Phrases with separators between and perhaps one behind. -/
theorem Yields.listed {γ : Type} {Any : γ → Prop} {separator : Reading β} {behind : Reading γ}
    (between : separator.Yields Better) (yields : phrase.Yields Good)
    (trailing : behind.Yields Any) :
    Yields (do
      let values ← Reading.separated separator phrase
      let _ ← Reading.attempt behind
      return values) fun values => ∀ value ∈ values, Good value :=
  (between.separated yields).bind fun _ good => trailing.attempt.skip fun _ => yields_pure good

/-- What holds of the values that may be there holds of them, or there are none. -/
theorem forall_mem_getD {found : Option (List α)}
    (good : ∀ values ∈ found, ∀ value ∈ values, Good value) :
    ∀ value ∈ found.getD [], Good value := by
  cases found with
  | none => exact fun _ member => absurd member List.not_mem_nil
  | some values => exact good values rfl

theorem yields_grown {step : α → Reading α} (grows : ∀ value, Good value → (step value).Yields Good)
    {value : α} (good : Good value) : (grown step value).Yields Good := by
  refine yields_get.skip fun state => ?_
  generalize state.bound = bound
  induction bound generalizing value with
  | zero => exact yields_pure good
  | succ bound ih =>
    refine (grows value good).attempt.bind fun found larger => ?_
    split
    · exact ih (larger _ rfl)
    · exact yields_pure good

end Repetitions

section Tokens

theorem yields_peek : peek.Yields fun _ => True := by
  refine ⟨fun table state reliable fitting => ?_⟩
  unfold peek
  split
  · exact ⟨fitting, trivial⟩
  · split
    · exact ⟨⟨fitting.plain, fitting.kept⟩, trivial⟩
    · exact ⟨fitting.plain, fitting.kept⟩

theorem yields_tokenThat (condition : Token → Bool) :
    (tokenThat condition).Yields fun _ => True := by
  refine yields_peek.skip fun token => ?_
  split
  · have onward : Yields (Reading.modify fun state => { state with position := state.position + 1 })
        fun _ => True := ⟨fun _ state _ fitting => ⟨fitting_at fitting _, trivial⟩⟩
    exact onward.skip fun _ => yields_pure trivial
  · exact yields_noMatch

theorem yields_mark (spelling : String) : (mark spelling).Yields fun _ => True :=
  yields_tokenThat _

theorem yields_place : place.Yields fun _ => True :=
  yields_peek.skip fun _ => yields_pure trivial

theorem yields_raise {failure : SyntaxFailure} : (raise failure : Reading α).Yields Good :=
  yields_stop

theorem yields_faultAt {place : Position} {fault : SyntaxFault} :
    (faultAt place fault : Reading α).Yields Good :=
  yields_get.skip fun _ => yields_raise

theorem yields_faultAtLast {fault : SyntaxFault} : (faultAtLast fault : Reading α).Yields Good :=
  yields_get.skip fun _ => yields_raise

theorem yields_due (spelling : String) : (due spelling).Yields fun _ => True := by
  refine (yields_tokenThat _).attempt.skip fun found => ?_
  split
  · exact yields_pure trivial
  · exact yields_peek.skip fun _ => yields_get.skip fun _ => yields_raise

/-- A token, and what follows it. -/
theorem Yields.token {condition : Token → Bool} {rest : Token → Reading β}
    (next : ∀ token, (rest token).Yields Better) : (tokenThat condition >>= rest).Yields Better :=
  (yields_tokenThat condition).skip next

/-- The place of the next token, and what stands there. -/
theorem Yields.place {rest : Position → Reading β}
    (next : ∀ place, (rest place).Yields Better) : (Reading.place >>= rest).Yields Better :=
  yields_place.skip next

end Tokens

section Rules

variable {name : Rule}

theorem yields_tree (family : Label.Family) (reads : name.Admits = Fits family) :
    (one name).Yields (Fits family) :=
  reads ▸ yields_one name

theorem yields_trees (family : Label.Family) (reads : name.Admits = Fits family) :
    (rule name).YieldsAll family := by
  have yields := yields_rule name
  rwa [reads] at yields

theorem yields_oneExpression (reads : name.Admits = Fits .expression) :
    (one name).Yields (Fits .expression) :=
  yields_tree .expression reads

/-- An expression, and what follows it. -/
theorem Yields.expression {rest : SourceTree → Reading β} (reads : name.Admits = Fits .expression)
    (next : ∀ tree, tree.Fits .expression → (rest tree).Yields Better) :
    (one name >>= rest).Yields Better :=
  (yields_oneExpression reads).bind next

/-- The result of a rule that is remembered is one that the rule reads. -/
theorem Yields.remembered {name : Rule} {phrase : Reading (List SourceTree)}
    (yields : phrase.Yields fun trees => ∀ tree ∈ trees, name.Admits tree) :
    (remembered name phrase).Yields fun trees => ∀ tree ∈ trees, name.Admits tree := by
  refine ⟨fun table state reliable fitting => ?_⟩
  have outcome := yields.outcome table state reliable fitting
  unfold Reading.remembered
  split
  · rename_i found
    have same := List.find?_some found
    have admitted := fitting.kept _ _ (List.mem_of_find?_eq_some found) _ rfl
    simp only [decide_eq_true_eq] at same
    exact ⟨fitting_at fitting _, same ▸ admitted⟩
  · exact fitting
  · generalize phrase table state = result at outcome ⊢
    obtain ⟨stop | trees, after⟩ := result
    · cases stop with
      | noMatch => exact fitting_at (fitting_keep outcome (by simp)) _
      | settled => exact fitting_at (fitting_keep outcome (by simp)) _
      | fault failure lexical => exact outcome
    · refine ⟨fitting_keep outcome.1 ?_, outcome.2⟩
      rintro result ⟨⟩
      exact outcome.2

end Rules

section Texts

/-- **What is read as a whole text.** Only a first reading, which diagnoses no faults, comes to a
value. -/
theorem good_of_whole {value : α} (yields : phrase.Yields Good) (reliable : Reliable table)
    (fitting : state.Fitting) (read : whole phrase table state = .ok value) : Good value := by
  have outcome := yields.outcome table state reliable fitting
  unfold whole at read
  split at read
  · next same =>
    rw [same] at outcome
    exact Except.ok.inj read ▸ outcome.2
  · cases read
  · split at read <;> cases read

end Texts

end Reading

end IfChains
