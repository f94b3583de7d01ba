/-
**The spines of chains in a table.**

From the call of a reference a chain goes up through members and their calls. The calls and members
that it passes are a spine; the arguments of the calls hang on it.

* `Spine.above`: a spine is closed upwards, and nothing on it but the last call can end a chain or
  be an argument;
* `Spine.not_beneath`, `Spine.eq_of_climbs`: nothing on a spine lies in an argument that hangs on
  it, and such arguments do not lie in each other;
* `confined_arguments`: a chain inside an argument stays in there.
-/

import IfChains.Chain.Continuation
import IfChains.Proofs.LiveTree.Ancestry

namespace IfChains

namespace LiveTree

variable {live : LiveTree} {id head position call call' argument argument' : NodeId}
  {path : List NodeId}

section Slots

theorem mem_having {role : Role} : id ∈ live.having role call ↔ (role, id) ∈ live.slots call := by
  rw [having, List.mem_filterMap]
  constructor
  · rintro ⟨slot, member, taken⟩
    split at taken
    · rename_i same
      obtain rfl := Option.some.inj taken
      exact same ▸ member
    · cases taken
  · exact fun member => ⟨_, member, if_pos rfl⟩

/-- What is no node passes for a module. -/
theorem label_of_size_le (outside : live.size ≤ id) : live.label id = .module := by
  rw [label_eq, content?, find?, Array.getElem?_eq_none outside]
  rfl

/-- What is no module is the label of a node. -/
theorem lt_size_of_label (label : live.label id ≠ .module) : id < live.size :=
  Nat.lt_of_not_le fun outside => label (label_of_size_le outside)

/-- What is no node has no parent. -/
theorem parent?_of_size_le (outside : live.size ≤ id) : live.parent? id = none := by
  rw [parent?, find?, Array.getElem?_eq_none outside]
  rfl

/-- What has children is a node. -/
theorem lt_size_of_slot {slot : Role × NodeId} (member : slot ∈ live.slots id) :
    id < live.size := by
  by_contra outside
  rw [slots_eq, content?, find?, Array.getElem?_eq_none (Nat.le_of_not_lt outside)] at member
  exact absurd member List.not_mem_nil

theorem Whole.rises (whole : live.Whole) {slot : Role × NodeId} (member : slot ∈ live.slots id) :
    live.Rises slot.2 id :=
  (whole.kept.child id (lt_size_of_slot member) slot member).2

/-- A child of a node has one role. -/
theorem Whole.role_unique (whole : live.Whole) {one two : Role}
    (first : (one, id) ∈ live.slots call) (second : (two, id) ∈ live.slots call) : one = two := by
  have distinct := whole.kept.distinct call (lt_size_of_slot first)
  exact (Prod.mk.inj (List.inj_on_of_nodup_map distinct first second rfl)).1

end Slots

/-- A node is a positional argument of a call. -/
def Argument (live : LiveTree) (call argument : NodeId) : Prop :=
  live.label call = .call ∧ (.args, argument) ∈ live.slots call

/-- What lies in the positional arguments of a call. -/
def inArguments (live : LiveTree) (call : NodeId) : Set NodeId :=
  {id | ∃ argument, live.Argument call argument ∧ live.Climbs id argument}

/-- A call without arguments of a member that ends a chain. -/
def Ends (live : LiveTree) (call : NodeId) : Prop :=
  live.label call = .call ∧ live.having .args call = [] ∧
    ∃ member name usage continuation, live.having .func call = [member] ∧
      live.label member = .member name usage ∧
      Continuation.ofKeyword? name = some continuation ∧ continuation.isTerminal = true

/-- A chain goes up from the call at its head to another call: through members and calls of them,
none of which ends the chain. The path holds all that it passes, the last call first. -/
inductive Spine (live : LiveTree) (head : NodeId) : NodeId → List NodeId → Prop
  | head (isCall : live.label head = .call) : Spine live head head [head]
  | step {position member call : NodeId} {path : List NodeId}
      (below : Spine live head position path) (goesOn : ¬live.Ends position)
      (rises : live.Rises position member) (isMember : ∃ name usage, live.label member =
        .member name usage)
      (rises' : live.Rises member call) (isCall : live.label call = .call)
      (callee : (.func, member) ∈ live.slots call) : Spine live head call (call :: member :: path)

namespace Spine

theorem position_mem (spine : live.Spine head position path) : position ∈ path := by
  cases spine <;> exact List.mem_cons_self

theorem head_mem (spine : live.Spine head position path) : head ∈ path := by
  induction spine with
  | head => exact List.mem_cons_self
  | step _ _ _ _ _ _ _ ih => exact List.mem_cons_of_mem _ (List.mem_cons_of_mem _ ih)

/-- What is on a spine are nodes. -/
theorem lt_size (spine : live.Spine head position path) (member : id ∈ path) : id < live.size := by
  induction spine with
  | head isCall =>
    obtain rfl := List.mem_singleton.mp member
    exact lt_size_of_label (by simp [isCall])
  | step _ _ _ _ rises' isCall _ ih =>
    rcases List.mem_cons.mp member with rfl | member
    · exact lt_size_of_label (by simp [isCall])
    · exact (List.mem_cons.mp member).elim (fun same => same ▸ rises'.lt_size) ih

/-- **A spine is closed upwards.** Nothing on it but the last call ends a chain or is an
argument. -/
theorem above (spine : live.Spine head position path) (whole : live.Whole) (member : id ∈ path) :
    id = position ∨ ((∃ above ∈ path, live.Rises id above) ∧ ¬live.Ends id ∧
      ∀ call, ¬live.Argument call id) := by
  induction spine with
  | head => exact Or.inl (List.mem_singleton.mp member)
  | @step position between call path below goesOn rises isMember rises' isCall callee ih =>
    refine (List.mem_cons.mp member).imp_right fun member => ?_
    obtain ⟨name, usage, label⟩ := isMember
    rcases List.mem_cons.mp member with rfl | member
    · refine ⟨⟨call, List.mem_cons_self, rises'⟩, fun ends => ?_, fun other argument => ?_⟩
      · exact nomatch label.symm.trans ends.1
      · obtain rfl : other = call := (whole.rises argument.2).unique rises'
        exact nomatch whole.role_unique argument.2 callee
    · rcases ih member with rfl | ⟨⟨above, among, risesAbove⟩, rest⟩
      · refine ⟨⟨between, List.mem_cons_of_mem _ List.mem_cons_self, rises⟩, goesOn,
          fun other argument => ?_⟩
        obtain rfl : other = between := (whole.rises argument.2).unique rises
        exact nomatch label.symm.trans argument.1
      · exact ⟨⟨above, List.mem_cons_of_mem _ (List.mem_cons_of_mem _ among), risesAbove⟩, rest⟩

/-- From a spine one climbs to its last call. -/
theorem climbs (spine : live.Spine head position path) (member : id ∈ path) :
    live.Climbs id position := by
  induction spine with
  | head => exact List.mem_singleton.mp member ▸ .refl
  | step below goesOn rises isMember rises' isCall callee ih =>
    rcases List.mem_cons.mp member with rfl | member
    · exact .refl
    rcases List.mem_cons.mp member with rfl | member
    · exact .single rises'
    · exact ((ih member).tail rises).tail rises'

/-- An argument that is above something on a spine is above its last call. -/
theorem within (spine : live.Spine head position path) (whole : live.Whole) (member : id ∈ path)
    (isArgument : live.Argument call argument) (climbs : live.Climbs id argument) :
    live.Climbs position argument := by
  -- The argument is not on the spine below its last call, so that the way to it goes on from there.
  induction spine with
  | head => exact List.mem_singleton.mp member ▸ climbs
  | @step position between top path below goesOn rises isMember rises' isCall callee ih =>
    obtain ⟨name, usage, label⟩ := isMember
    have notBetween : between ≠ argument := by
      rintro rfl
      obtain rfl := (whole.rises isArgument.2).unique rises'
      exact nomatch whole.role_unique isArgument.2 callee
    have notBelow : position ≠ argument := by
      rintro rfl
      obtain rfl : call = between := (whole.rises isArgument.2).unique rises
      exact nomatch label.symm.trans isArgument.1
    rcases List.mem_cons.mp member with rfl | member
    · exact climbs
    rcases List.mem_cons.mp member with rfl | member
    · exact climbs.of_rises notBetween rises'
    · exact ((ih member).of_rises notBelow rises).of_rises notBetween rises'

/-- An argument above the head of a spine is above all of it. -/
theorem all_within (spine : live.Spine head position path) (whole : live.Whole)
    (isArgument : live.Argument call argument) (climbs : live.Climbs head argument)
    (member : id ∈ path) : live.Climbs id argument := by
  induction spine with
  | head => exact List.mem_singleton.mp member ▸ climbs
  | @step position between top path below goesOn rises isMember rises' isCall callee ih =>
    have last := (step below goesOn rises isMember rises' isCall callee).within whole
      (List.mem_cons_of_mem _ (List.mem_cons_of_mem _ below.head_mem)) isArgument climbs
    rcases List.mem_cons.mp member with rfl | member
    · exact last
    rcases List.mem_cons.mp member with rfl | member
    · exact last.head rises'
    · exact ih member

/-- **Nothing on a spine lies in an argument that hangs on it.** -/
theorem not_beneath (spine : live.Spine head position path) (whole : live.Whole)
    (member : id ∈ path) (among : call ∈ path) (isArgument : live.Argument call argument) :
    ¬live.Climbs id argument := fun climbs =>
  whole.grounded.not_climbs (whole.rises isArgument.2)
    ((spine.climbs among).trans (spine.within whole member isArgument climbs))

/-- **The arguments that hang on a spine do not lie in each other.** -/
theorem eq_of_climbs (spine : live.Spine head position path) (whole : live.Whole)
    (among : call ∈ path) (among' : call' ∈ path) (isArgument : live.Argument call argument)
    (isArgument' : live.Argument call' argument') (climbs : live.Climbs argument argument') :
    argument = argument' := by
  by_contra other
  exact spine.not_beneath whole among among' isArgument'
    (climbs.of_rises other (whole.rises isArgument.2))

end Spine

/-- The chain of a call stays in a zone with all that lies in its arguments. -/
def Confined (live : LiveTree) (zone : Set NodeId) (head : NodeId) : Prop :=
  ∀ position path, live.Spine head position path → ∀ id ∈ path,
    id ∈ zone ∧ live.inArguments id ⊆ zone

theorem confined_univ : live.Confined Set.univ head :=
  fun _ _ _ _ _ => ⟨trivial, Set.subset_univ _⟩

/-- **A chain inside an argument stays in there.** -/
theorem confined_arguments (whole : live.Whole) (isArgument : live.Argument call argument)
    (climbs : live.Climbs head argument) : live.Confined (live.inArguments call) head := by
  intro position path spine id member
  have inside := spine.all_within whole isArgument climbs member
  refine ⟨⟨argument, isArgument, inside⟩, ?_⟩
  rintro other ⟨inner, isInner, beneath⟩
  exact ⟨argument, isArgument, (beneath.tail (whole.rises isInner.2)).trans inside⟩

end LiveTree

end IfChains
