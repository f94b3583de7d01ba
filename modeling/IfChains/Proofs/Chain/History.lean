/-
**What a branch holds after any history.**

The branches of a chain are changed by three operations. What matters to a branch are the operations
on it; if the branch is replaced, what was done to it before does not matter, and what replaces it
is its value. The expressions of a branch then follow from what it is fed, in order: a value comes
last, and discarded expressions come before the value that is there.

* `get_after`: a branch holds what is relevant to it;
* `exists_layout`: every expression of a branch has one origin, and the order of each origin is that
  in which the branch was fed;
* `exists_between`: where discarded expressions stand once more operations have followed;
* `history_determines`: what a branch holds after any history.
-/

import IfChains.Chain.Branches
import Mathlib.Data.List.Basic
import Mathlib.Data.List.Induction

namespace IfChains

namespace BranchSet

variable {α : Type}

/-- Something that is done to the branches of a chain. An operation that discards expressions brings
an undefined value with it, in case there is none. -/
inductive Operation (α : Type)
  | push (branch : Branch) (expr : α)
  | pushDiscarded (branch : Branch) (exprs : List α) (undefined : α)
  | replaceAlternate (expr : α)
deriving DecidableEq, Repr

namespace Operation

/-- The branch that is changed. -/
def branch : Operation α → Branch
  | push branch _ => branch
  | pushDiscarded branch _ _ => branch
  | replaceAlternate _ => .alternate

/-- The branches after an operation. -/
def perform (branches : BranchSet α) : Operation α → BranchSet α
  | push branch expr => branches.push branch expr
  | pushDiscarded branch exprs undefined => branches.pushDiscarded branch exprs undefined
  | replaceAlternate expr => branches.replaceAlternate expr

end Operation

/-- The branches after some operations, the earliest first. -/
def after (history : List (Operation α)) : BranchSet α :=
  history.foldl Operation.perform {}

/-- What a branch is fed: an expression that becomes its value, or expressions that come before its
value, which is undefined if there is none. -/
inductive Feed (α : Type)
  | value (expr : α)
  | discarded (exprs : List α) (undefined : α)
deriving DecidableEq, Repr

namespace Feed

/-- The expressions of a branch that is fed. -/
def extend (items : List α) : Feed α → List α
  | value expr => items ++ [expr]
  | discarded exprs undefined => items.dropLast ++ exprs ++ [items.getLastD undefined]

/-- The value that is fed. -/
def value? : Feed α → Option α
  | value expr => some expr
  | discarded .. => none

/-- The discarded expressions that are fed. -/
def exprs : Feed α → List α
  | value _ => []
  | discarded exprs _ => exprs

end Feed

/-- The expressions of a branch that was fed some things, in order. -/
def held (feeds : List (Feed α)) : List α :=
  feeds.foldl Feed.extend []

/-- What is relevant to a branch after one more operation. -/
def relevantStep (branch : Branch) (feeds : List (Feed α)) : Operation α → List (Feed α)
  | .push fed expr => if fed = branch then feeds ++ [.value expr] else feeds
  | .pushDiscarded fed exprs undefined =>
    if fed = branch then feeds ++ [.discarded exprs undefined] else feeds
  | .replaceAlternate expr => if branch = .alternate then [.value expr] else feeds

/-- What is relevant to a branch in a history. -/
def relevant (branch : Branch) (history : List (Operation α)) : List (Feed α) :=
  history.foldl (relevantStep branch) []

/-- The values that a branch is fed, in order. -/
def valuesOf (feeds : List (Feed α)) : List α :=
  feeds.filterMap Feed.value?

/-- The discarded expressions that a branch is fed, in order. -/
def discardedOf (feeds : List (Feed α)) : List α :=
  feeds.flatMap Feed.exprs

/-- The undefined value of a branch that is fed discarded expressions before any value. -/
def undefinedOf : List (Feed α) → List α
  | .discarded _ undefined :: _ => [undefined]
  | _ => []

/-- Where an expression of a branch comes from. -/
inductive Origin
  | value | discarded | undefined
deriving DecidableEq, Repr

/-- The expressions of one origin, in order. -/
def ofOrigin (origin : Origin) (layout : List (Origin × α)) : List α :=
  (layout.filter fun item => item.1 = origin).map Prod.snd

section Operations

variable {branch : Branch}

/-- An operation on one branch leaves the other one alone. -/
theorem get_perform_other (branches : BranchSet α) {operation : Operation α}
    (other : operation.branch ≠ branch) :
    (operation.perform branches).get branch = branches.get branch := by
  cases operation with
  | push fed expr => cases fed <;> cases branch <;> first | rfl | exact absurd rfl other
  | pushDiscarded fed exprs undefined =>
    cases fed <;> cases branch <;> first | rfl | exact absurd rfl other
  | replaceAlternate expr => cases branch <;> first | rfl | exact absurd rfl other

/-- An operation that does not replace a branch feeds it or leaves it alone. -/
theorem get_perform (branches : BranchSet α) (operation : Operation α)
    (kept : ∀ expr, operation = .replaceAlternate expr → branch ≠ .alternate) :
    (operation.perform branches).get branch = branches.get branch ∨
      ∃ feed : Feed α,
        (operation.perform branches).get branch = feed.extend (branches.get branch) := by
  by_cases same : operation.branch = branch
  · subst same
    cases operation with
    | push fed expr => exact Or.inr ⟨.value expr, get_set ..⟩
    | pushDiscarded fed exprs undefined => exact Or.inr ⟨.discarded exprs undefined, get_set ..⟩
    | replaceAlternate expr => exact absurd rfl (kept expr rfl)
  · exact Or.inl (get_perform_other branches same)

theorem after_concat (history : List (Operation α)) (operation : Operation α) :
    after (history ++ [operation]) = operation.perform (after history) := by
  simp [after]

theorem held_concat (feeds : List (Feed α)) (feed : Feed α) :
    held (feeds ++ [feed]) = feed.extend (held feeds) := by
  simp [held]

/-- **A branch holds what is relevant to it.** -/
theorem get_after (branch : Branch) (history : List (Operation α)) :
    (after history).get branch = held (relevant branch history) := by
  induction history using List.reverseRecOn with
  | nil => cases branch <;> rfl
  | append_singleton history operation ih =>
    have relevant_concat : relevant branch (history ++ [operation]) =
        relevantStep branch (relevant branch history) operation := by
      simp [relevant]
    rw [after_concat, relevant_concat]
    by_cases same : operation.branch = branch
    · cases operation with
      | push fed expr =>
        obtain rfl : fed = branch := same
        rw [relevantStep, if_pos rfl, held_concat, ← ih]
        exact get_set ..
      | pushDiscarded fed exprs undefined =>
        obtain rfl : fed = branch := same
        rw [relevantStep, if_pos rfl, held_concat, ← ih]
        exact get_set ..
      | replaceAlternate expr =>
        obtain rfl : .alternate = branch := same
        rfl
    · rw [get_perform_other _ same, ih]
      cases operation with
      | push fed expr => exact congrArg held (if_neg same).symm
      | pushDiscarded fed exprs undefined => exact congrArg held (if_neg same).symm
      | replaceAlternate expr => exact congrArg held (if_neg fun is => same is.symm).symm

end Operations

section Feeding

variable {feeds : List (Feed α)} {feed : Feed α}

/-- A branch that is fed is not empty. -/
theorem extend_ne_nil (items : List α) (feed : Feed α) : feed.extend items ≠ [] := by
  cases feed <;> simp [Feed.extend]

/-- A branch is empty exactly if it was fed nothing. -/
theorem held_eq_nil_iff : held feeds = [] ↔ feeds = [] := by
  constructor
  · intro empty
    induction feeds using List.reverseRecOn with
    | nil => rfl
    | append_singleton feeds feed ih =>
      rw [held_concat] at empty
      exact absurd empty (extend_ne_nil _ feed)
  · rintro rfl
    rfl

/-- One more feed brings its value. -/
theorem valuesOf_concat (feeds : List (Feed α)) (feed : Feed α) :
    valuesOf (feeds ++ [feed]) = valuesOf feeds ++ feed.value?.toList := by
  cases feed <;> simp [valuesOf, Feed.value?]

/-- One more feed brings its discarded expressions. -/
theorem discardedOf_concat (feeds : List (Feed α)) (feed : Feed α) :
    discardedOf (feeds ++ [feed]) = discardedOf feeds ++ feed.exprs := by
  simp [discardedOf]

/-- One more feed brings no undefined value unless it is the first. -/
theorem undefinedOf_concat (some : feeds ≠ []) (feed : Feed α) :
    undefinedOf (feeds ++ [feed]) = undefinedOf feeds := by
  cases feeds with
  | nil => exact absurd rfl some
  | cons first rest => cases first <;> rfl

theorem ofOrigin_append (origin : Origin) (first second : List (Origin × α)) :
    ofOrigin origin (first ++ second) = ofOrigin origin first ++ ofOrigin origin second := by
  simp [ofOrigin]

/-- Expressions that all have one origin. -/
theorem ofOrigin_map (origin other : Origin) (exprs : List α) :
    ofOrigin origin (exprs.map fun expr => (other, expr)) =
      if other = origin then exprs else [] := by
  by_cases same : other = origin
  · simp [ofOrigin, same, List.filter_map, Function.comp_def]
  · simp [ofOrigin, same, List.filter_map, Function.comp_def]

/-- The expressions of a branch with their origins: each origin has the expressions that the branch
was fed, in order, and the last expression is no discarded one. -/
structure Laid (feeds : List (Feed α)) (layout : List (Origin × α)) : Prop where
  items : layout.map Prod.snd = held feeds
  values : ofOrigin .value layout = valuesOf feeds
  discarded : ofOrigin .discarded layout = discardedOf feeds
  undefined : ofOrigin .undefined layout = undefinedOf feeds
  last : ∀ item ∈ layout.getLast?, item.1 ≠ .discarded

/-- A value comes last. -/
theorem Laid.value {layout : List (Origin × α)} (laid : Laid feeds layout) (expr : α) :
    Laid (feeds ++ [.value expr]) (layout ++ [(.value, expr)]) := by
  have sentinel : undefinedOf (feeds ++ [.value expr]) = undefinedOf feeds := by
    cases feeds with
    | nil => rfl
    | cons first rest => cases first <;> rfl
  constructor
  · rw [List.map_append, held_concat, laid.items]
    rfl
  · rw [ofOrigin_append, laid.values, valuesOf_concat]
    rfl
  · rw [ofOrigin_append, laid.discarded, discardedOf_concat]
    rfl
  · rw [ofOrigin_append, laid.undefined, sentinel]
    exact List.append_nil _
  · simp

/-- Discarded expressions come before the last one. -/
theorem Laid.beforeLast {layout : List (Origin × α)} {last : Origin × α}
    (laid : Laid feeds (layout ++ [last])) (exprs : List α) (undefined : α) :
    Laid (feeds ++ [.discarded exprs undefined])
      (layout ++ exprs.map (fun expr => (.discarded, expr)) ++ [last]) := by
  have kept : last.1 ≠ .discarded := laid.last last (by simp)
  have others : ∀ origin, origin ≠ .discarded →
      ofOrigin origin (layout ++ exprs.map (fun expr => (.discarded, expr)) ++ [last]) =
        ofOrigin origin (layout ++ [last]) := by
    intro origin other
    simp [ofOrigin_append, ofOrigin_map, other.symm]
  have some : feeds ≠ [] := by
    rintro rfl
    have items := laid.items
    simp [held] at items
  constructor
  · rw [held_concat, ← laid.items]
    simp [Feed.extend, Function.comp_def]
  · rw [others _ Origin.noConfusion, laid.values, valuesOf_concat]
    exact (List.append_nil _).symm
  · have none : ofOrigin .discarded [last] = [] := by simp [ofOrigin, kept]
    have discarded := laid.discarded
    rw [ofOrigin_append, none, List.append_nil] at discarded
    rw [ofOrigin_append, ofOrigin_append, ofOrigin_map, if_pos rfl, none, List.append_nil,
      discarded, discardedOf_concat]
    rfl
  · rw [others _ Origin.noConfusion, laid.undefined, undefinedOf_concat some]
  · intro item member
    rw [List.getLast?_concat] at member
    exact Option.mem_some.mp member ▸ kept

/-- If discarded expressions are fed first, an undefined value comes last. -/
theorem laid_undefined (exprs : List α) (undefined : α) :
    Laid [.discarded exprs undefined]
      (exprs.map (fun expr => (.discarded, expr)) ++ [(.undefined, undefined)]) := by
  constructor
  · simp [held, Feed.extend, Function.comp_def]
  · rw [ofOrigin_append, ofOrigin_map]
    rfl
  · rw [ofOrigin_append, ofOrigin_map]
    simp [ofOrigin, discardedOf, Feed.exprs]
  · rw [ofOrigin_append, ofOrigin_map]
    rfl
  · simp

/-- **Every expression of a branch has one origin.** -/
theorem exists_layout (feeds : List (Feed α)) : ∃ layout, Laid feeds layout := by
  induction feeds using List.reverseRecOn with
  | nil => exact ⟨[], rfl, rfl, rfl, rfl, by simp⟩
  | append_singleton feeds feed ih =>
    obtain ⟨layout, laid⟩ := ih
    cases feed with
    | value expr => exact ⟨_, laid.value expr⟩
    | discarded exprs undefined =>
      rcases List.eq_nil_or_concat' layout with rfl | ⟨before, last, rfl⟩
      · obtain rfl : feeds = [] := held_eq_nil_iff.mp laid.items.symm
        exact ⟨_, laid_undefined exprs undefined⟩
      · exact ⟨_, laid.beforeLast exprs undefined⟩

/-- **The last expression of a branch** is the latest value, or else the undefined one. -/
theorem getLast?_held (feeds : List (Feed α)) :
    (held feeds).getLast? = (valuesOf feeds).getLast?.or (undefinedOf feeds).head? := by
  induction feeds using List.reverseRecOn with
  | nil => rfl
  | append_singleton feeds feed ih =>
    rw [held_concat]
    cases feed with
    | value expr => simp [Feed.extend, valuesOf, Feed.value?]
    | discarded exprs undefined =>
      have values : valuesOf (feeds ++ [.discarded exprs undefined]) = valuesOf feeds := by
        rw [valuesOf_concat]
        exact List.append_nil _
      rw [values]
      by_cases none : feeds = []
      · subst none
        simp [held, Feed.extend, valuesOf, undefinedOf]
      · have some : held feeds ≠ [] := fun empty =>
          none (held_eq_nil_iff.mp empty)
        rw [undefinedOf_concat none, ← ih, Feed.extend, List.getLast?_concat,
          List.getLastD_eq_getLast?, List.getLast?_eq_some_getLast some, Option.getD_some]

/-- What is fed to a branch leaves discarded expressions where they stand before a value. -/
theorem extend_between (front between rest : List α) (tail : α) (feed : Feed α) :
    ∃ between' rest', feed.extend (front ++ between ++ tail :: rest) =
      front ++ between' ++ tail :: rest' := by
  cases feed with
  | value expr => exact ⟨between, rest ++ [expr], by simp [Feed.extend]⟩
  | discarded exprs undefined =>
    -- Further discarded expressions stand before the value, or after it if it is not the last.
    rcases List.eq_nil_or_concat' rest with rfl | ⟨rest, last, rfl⟩
    · exact ⟨between ++ exprs, [], by simp [Feed.extend]⟩
    · refine ⟨between, rest ++ exprs ++ [last], ?_⟩
      have whole : front ++ between ++ tail :: (rest ++ [last]) =
          (front ++ between ++ tail :: rest) ++ [last] := by simp
      rw [whole, Feed.extend, List.dropLast_concat, List.getLastD_concat]
      simp

end Feeding

/-- **Where discarded expressions stand** once more operations have followed: after all that was
there before but the value, and before that value. -/
theorem exists_between {branch : Branch} (earlier : List (Operation α)) (exprs : List α)
    (undefined : α) {later : List (Operation α)}
    (kept : ∀ expr, .replaceAlternate expr ∈ later → branch ≠ .alternate) :
    ∃ between rest, (after (earlier ++ .pushDiscarded branch exprs undefined :: later)).get branch =
      ((after earlier).get branch).dropLast ++ exprs ++ between ++
        ((after earlier).get branch).getLastD undefined :: rest := by
  induction later using List.reverseRecOn with
  | nil =>
    refine ⟨[], [], ?_⟩
    rw [after_concat, List.append_nil]
    exact get_set ..
  | append_singleton later operation ih =>
    obtain ⟨between, rest, holds⟩ := ih fun expr member => kept expr (List.mem_append_left _ member)
    have longer : earlier ++ .pushDiscarded branch exprs undefined :: (later ++ [operation]) =
        (earlier ++ .pushDiscarded branch exprs undefined :: later) ++ [operation] := by simp
    rw [longer, after_concat]
    rcases get_perform (after (earlier ++ .pushDiscarded branch exprs undefined :: later)) operation
      fun expr same => kept expr (by simp [same]) with same | ⟨feed, extended⟩
    · exact ⟨between, rest, same.trans holds⟩
    · rw [extended, holds]
      exact extend_between _ between rest _ feed

/-- **What a branch holds after any history.** It is empty exactly if nothing in the history is
relevant to it. Its last expression is the latest value, or else the undefined one. Its expressions
have origins, and those of one origin are the values, the discarded expressions or the undefined
value that the branch was fed, each of them once for every time and in the same order; there is an
undefined value exactly if discarded expressions were fed first. Unless the branch is replaced
later, the expressions of an operation that discards stand after all that was there before but the
value, and before that value. And an operation on the other branch leaves the branch alone. -/
theorem history_determines (history : List (Operation α)) (branch : Branch) :
    ((after history).get branch = [] ↔ relevant branch history = []) ∧
    ((after history).get branch).getLast? = (valuesOf (relevant branch history)).getLast?.or
      (undefinedOf (relevant branch history)).head? ∧
    (∃ layout : List (Origin × α), layout.map Prod.snd = (after history).get branch ∧
      ofOrigin .value layout = valuesOf (relevant branch history) ∧
      ofOrigin .discarded layout = discardedOf (relevant branch history) ∧
      ofOrigin .undefined layout = undefinedOf (relevant branch history)) ∧
    (∀ earlier exprs undefined later,
      history = earlier ++ .pushDiscarded branch exprs undefined :: later →
      (∀ expr, .replaceAlternate expr ∈ later → branch ≠ .alternate) →
      ∃ between rest, (after history).get branch =
        ((after earlier).get branch).dropLast ++ exprs ++ between ++
          ((after earlier).get branch).getLastD undefined :: rest) ∧
    ∀ (branches : BranchSet α) (operation : Operation α), operation.branch ≠ branch →
      (operation.perform branches).get branch = branches.get branch := by
  refine ⟨?_, ?_, ?_, ?_, fun branches operation => get_perform_other branches⟩
  · rw [get_after, held_eq_nil_iff]
  · rw [get_after, getLast?_held]
  · obtain ⟨layout, laid⟩ := exists_layout (relevant branch history)
    exact ⟨layout, (get_after branch history).symm ▸ laid.items, laid.values, laid.discarded,
      laid.undefined⟩
  · rintro earlier exprs undefined later rfl kept
    exact exists_between earlier exprs undefined kept

example : (after [.push .consequent 1, .pushDiscarded .consequent [2, 3] 0, .push .consequent 4,
    .pushDiscarded .consequent [5] 0]).get .consequent = [2, 3, 1, 5, 4] := by
  decide

end BranchSet

end IfChains
