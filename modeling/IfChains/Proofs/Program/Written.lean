/-
**What a program writes.**

A program adds to what has been written and never looks at it. So it ends in the same way whatever
was written before, and writes the same.

* `Streams.append`: what has been written, and what is written after it;
* `Blind`: steps that do not look at what has been written;
* `blind_eval`, `blind_follow`: evaluating terms and following instructions are such steps;
* `run_append`: **a program writes the same whatever was written before.**
-/

import IfChains.Program.Run
import IfChains.Proofs.Steps

namespace IfChains

namespace Program

open Steps

namespace Streams

/-- What has been written, and what is written after it. -/
def append (before written : Streams) : Streams :=
  ⟨before.out ++ written.out, before.err ++ written.err⟩

@[simp]
theorem append_empty (streams : Streams) : streams.append {} = streams := by
  simp [append]

/-- Writing comes after what has been written. -/
theorem append_write (before written : Streams) (channel : Channel) (text : CodePoints) :
    (before.append written).write channel text = before.append (written.write channel text) := by
  cases channel <;> simp [append, write]

end Streams

/-- A machine for which something else has been written before. -/
def Machine.after (before : Streams) (machine : Machine) : Machine :=
  { machine with streams := before.append machine.streams }

/-- A step that does not look at what has been written: it does the same after something else has
been written. -/
def Blind {α : Type} (step : Exec α) : Prop :=
  ∀ before machine, outcome step (machine.after before) =
    ((outcome step machine).1, (outcome step machine).2.after before)

variable {α β : Type} {first : Exec α} {next : α → Exec β}

section Combining

theorem blind_pure (value : α) : Blind (pure value : Exec α) := fun _ _ => rfl

theorem blind_throw (stop : Stop) : Blind (throw stop : Exec α) := fun _ _ => rfl

/-- What follows a step that does not look at what has been written. -/
theorem Blind.bind (blind : Blind first) (blind' : ∀ value, Blind (next value)) :
    Blind (first >>= next) := by
  intro before machine
  have shifted := blind before machine
  rcases ran : outcome first machine with ⟨result, after⟩
  rw [ran] at shifted
  cases result with
  | ok value => rw [outcome_bind_ok shifted, outcome_bind_ok ran, blind']
  | error stop => rw [outcome_bind_error shifted, outcome_bind_error ran]

/-- A look at the machine that is not one at what has been written. -/
theorem blind_get {next : Machine → Exec β}
    (same : ∀ before machine, next (machine.after before) = next machine)
    (blind : ∀ machine, Blind (next machine)) : Blind (get >>= next) := by
  intro before machine
  rw [outcome_get_bind, outcome_get_bind, same]
  exact blind machine before machine

/-- A check before a step. -/
theorem blind_check {condition : Prop} [Decidable condition] {check : Exec Unit} {step : Exec α}
    (blind : Blind check) (blind' : Blind step) :
    Blind (if condition then check >>= fun _ => step else step) := by
  split
  · exact blind.bind fun _ => blind'
  · exact blind'

end Combining

section Basics

theorem blind_raising (kind : ExceptionKind) (text : String) :
    Blind (raising kind text : Exec α) := blind_throw _

theorem blind_orBeyond (value : Option α) : Blind (orBeyond value) := by
  cases value with
  | some value => exact blind_pure value
  | none => exact blind_throw _

/-- Writing does not look at what has been written. -/
theorem blind_emit (channel : Channel) (text : CodePoints) : Blind (emit channel text) := by
  intro before machine
  show (Except.ok (), { machine.after before with
    streams := (before.append machine.streams).write channel text }) = _
  rw [Streams.append_write]
  rfl

theorem blind_bindName (name : String) (value : Value) : Blind (bindName name value) :=
  fun _ _ => rfl

theorem blind_valueOf (name : String) : Blind (valueOf name) := by
  unfold valueOf
  refine blind_get (fun _ _ => rfl) fun machine => ?_
  split
  · exact blind_pure _
  · exact blind_raising _ _

end Basics

section Operations

theorem blind_greaterThan (left right : Value) : Blind (greaterThan left right) :=
  (blind_orBeyond _).bind fun _ => (blind_orBeyond _).bind fun _ => blind_pure _

theorem blind_dividedBy (left right : Value) : Blind (dividedBy left right) := by
  refine (blind_orBeyond _).bind fun _ => (blind_orBeyond _).bind fun divisor => ?_
  split
  · exact blind_raising _ _
  · exact blind_throw _

theorem blind_itemOf (base index : Value) : Blind (itemOf base index) := by
  unfold itemOf
  split
  · apply blind_check (blind_raising _ _)
    split
    · exact blind_pure _
    · exact blind_raising _ _
  · exact blind_throw _

theorem blind_memberOf (base : Value) (name : String) : Blind (memberOf base name) := by
  unfold memberOf
  split <;> first | exact blind_pure _ | exact blind_throw _

theorem blind_textOption (keywords : List (String × Value)) (name default : String) :
    Blind (textOption keywords name default) := by
  unfold textOption
  split
  · exact blind_pure _
  · exact blind_pure _
  · exact blind_pure _
  · exact blind_throw _

theorem blind_printAll (separator : CodePoints) (values : List Value) :
    Blind (printAll separator values) := by
  induction values with
  | nil => exact blind_pure ()
  | cons value rest ih =>
    have others : Blind (do
        emit .out (← orBeyond value.text?)
        if !rest.isEmpty then emit .out separator
        printAll separator rest) := by
      exact (blind_orBeyond _).bind fun text => (blind_emit _ _).bind fun _ =>
        blind_check (blind_emit _ _) ih
    rw [printAll]
    exact blind_check (blind_raising _ _) others

theorem blind_invoke (callee : Value) (arguments : List Value) (keywords : List (String × Value)) :
    Blind (invoke callee arguments keywords) := by
  unfold invoke
  split
  · have printed : Blind (do
        let separator ← textOption keywords "sep" " "
        let ending ← textOption keywords "end" "\n"
        printAll separator arguments
        emit .out ending
        return Value.none) :=
      (blind_textOption _ _ _).bind fun _ => (blind_textOption _ _ _).bind fun _ =>
        (blind_printAll _ _).bind fun _ => (blind_emit _ _).bind fun _ => blind_pure _
    exact blind_check (blind_throw _) printed
  · exact (blind_emit _ _).bind fun _ => blind_pure _
  · exact blind_pure _
  · exact blind_pure _
  · exact blind_raising _ _
  · exact blind_throw _

end Operations

section Evaluation

mutual

/-- **Evaluating a term** does not look at what has been written. -/
theorem blind_eval : (term : Term) → Blind (eval term)
  | .none => by rw [eval]; exact blind_pure _
  | .bool _ => by rw [eval]; exact blind_pure _
  | .int _ => by rw [eval]; exact blind_pure _
  | .text _ => by rw [eval]; exact blind_pure _
  | .name id => by rw [eval]; exact blind_valueOf id
  | .greater left right => by
    rw [eval]
    exact (blind_eval left).bind fun _ => (blind_eval right).bind fun _ => blind_greaterThan _ _
  | .quotient left right => by
    rw [eval]
    exact (blind_eval left).bind fun _ => (blind_eval right).bind fun _ => blind_dividedBy _ _
  | .negative operand => by
    rw [eval]
    exact (blind_eval operand).bind fun _ => (blind_orBeyond _).bind fun _ => blind_pure _
  | .conditional test consequent alternate => by
    rw [eval]
    refine (blind_eval test).bind fun value => ?_
    split
    · exact blind_eval consequent
    · exact blind_eval alternate
  | .tuple items => by
    rw [eval]
    exact (blind_evalAll items).bind fun _ => blind_pure _
  | .item base index => by
    rw [eval]
    exact (blind_eval base).bind fun _ => (blind_eval index).bind fun _ => blind_itemOf _ _
  | .member base name => by
    rw [eval]
    exact (blind_eval base).bind fun _ => blind_memberOf _ _
  | .call callee arguments keywords => by
    rw [eval]
    exact (blind_eval callee).bind fun _ => (blind_evalAll arguments).bind fun _ =>
      (blind_evalKeywords keywords).bind fun _ => blind_invoke _ _ _

/-- Evaluating terms does not look at what has been written. -/
theorem blind_evalAll : (terms : List Term) → Blind (evalAll terms)
  | [] => by rw [evalAll]; exact blind_pure _
  | term :: rest => by
    rw [evalAll]
    exact (blind_eval term).bind fun _ => (blind_evalAll rest).bind fun _ => blind_pure _

/-- Evaluating keyword arguments does not look at what has been written. -/
theorem blind_evalKeywords : (keywords : List (String × Term)) → Blind (evalKeywords keywords)
  | [] => by rw [evalKeywords]; exact blind_pure _
  | (name, term) :: rest => by
    rw [evalKeywords]
    exact (blind_eval term).bind fun _ => (blind_evalKeywords rest).bind fun _ => blind_pure _

end

/-- **Following an instruction** does not look at what has been written. -/
theorem blind_follow (instruction : Instruction) : Blind (follow instruction) := by
  cases instruction with
  | assign name value => exact (blind_eval value).bind fun _ => blind_bindName _ _
  | evaluate value => exact (blind_eval value).bind fun _ => blind_pure _
  | bind name imported => cases imported <;> exact blind_bindName _ _
  | raise value =>
    refine (blind_eval value).bind fun raised => ?_
    split <;> exact blind_throw _

/-- Following instructions one after the other does not look at what has been written. -/
theorem blind_followAll (instructions : List Instruction) : Blind (followAll instructions) := by
  induction instructions with
  | nil => exact blind_pure ()
  | cons instruction rest ih => exact (blind_follow instruction).bind fun _ => ih

end Evaluation

section Running

variable (before : Streams)

theorem execute_append (instructions : List Instruction) :
    (execute instructions).run before = (((execute instructions).run {}).1,
      before.append ((execute instructions).run {}).2) := by
  have shifted := blind_followAll instructions before { streams := {} }
  have here : Machine.after before { streams := {} } = { streams := before } := by
    rw [Machine.after, Streams.append_empty]
  rw [here] at shifted
  unfold outcome at shifted
  unfold execute
  simp only [StateT.run] at shifted ⊢
  rw [shifted]
  rfl

/-- **A program writes the same whatever was written before**, and ends in the same way. -/
theorem run_append (file source : String) :
    (run file source).run before = (((run file source).run {}).1,
      before.append ((run file source).run {}).2) := by
  have silent : ∀ ending, ((pure ending : StateM Streams Ending).run before) =
      (((pure ending : StateM Streams Ending).run {}).1,
        before.append ((pure ending : StateM Streams Ending).run {}).2) := by
    intro ending
    show (ending, before) = (ending, before.append {})
    rw [Streams.append_empty]
  unfold run
  split
  · exact silent _
  · split
    · exact silent _
    · split
      · exact execute_append before _
      · exact silent _

end Running

end Program

end IfChains
