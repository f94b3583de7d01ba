/-
**Programs with rewritten chains.**

Two programs, each with a list of names in it, differ in one chain only, and a law of chains leads
from the chain of the first to that of the second. If the names of the first list open chains then
so do those of the second one, and expanding the chains of the lists leaves the same program, up to
positions.

* `Tree.Holds`: a program, with a list of names in it, that has an expression at some place;
* `dispatched_replace`: expressions that expand to the same may take each other's place;
* `dispatched_elseIf`: an `else_if` is sugar for a chain of its own in the alternate branch;
* `dispatched_rearranged`: the branches do not interfere, and discarded expressions may be split.
-/

import IfChains.Proofs.Chain.Laws
import IfChains.Proofs.Chain.Program

namespace IfChains

open IfChains.Tree

namespace Tree

open NumberedTree MarkedTree

section Replacing

variable {tree tree' : SourceTree} {references references' : List NodeId} {context : Context Bool}
  {first second : MarkedTree}

/-- A program with a list of names in it, which has an expression in a context once the names of the
list are marked. -/
structure Holds (tree : SourceTree) (references : List NodeId) (context : Context Bool)
    (expr : MarkedTree) : Prop where
  program : tree.IsProgram
  names : NamesIn references tree
  marked : tree.numbered.map references.contains = Context.fill context expr

/-- The names of the list open chains exactly if the marked names do. -/
theorem Holds.opensChain_iff (holds : tree.Holds references context first) :
    (∀ id ∈ references, tree.numbered.opensChain id = true) ↔
      Opens [] (Context.fill context first) := by
  obtain ⟨sound, -⟩ := holds.program.sound holds.names
  rw [← holds.marked]
  refine MarkedTree.opensChain_iff sound.distinct fun id member => ?_
  obtain ⟨node, inside, rfl, -⟩ := holds.names id member
  exact List.mem_map_of_mem inside

/-- **Expressions that expand to the same** may take each other's place: if the names of the first
list open chains then both lists are accepted, and leave the same program. -/
theorem dispatched_replace (before : tree.Holds references context first)
    (after : tree'.Holds references' context second)
    (starred : first.isStarred = second.isStarred)
    (opens : Opens context first → Opens context second)
    (same : Opens context first → expand first = expand second)
    (accepted : ∀ id ∈ references, tree.numbered.opensChain id = true) (entry : String) :
    ∃ left left', tree.dispatched entry references = (.ok references.dedup.length, left) ∧
      tree'.dispatched entry references' = (.ok references'.dedup.length, left') ∧
      (tree.leftIn left).shape = (tree'.leftIn left').shape := by
  have whole := before.opensChain_iff.mp accepted
  have judged : Opens context first := by
    have inside := whole.of_fill
    rwa [List.append_nil] at inside
  have accepted' : ∀ id ∈ references', tree'.numbered.opensChain id = true := by
    refine after.opensChain_iff.mpr (whole.replace starred ?_)
    rw [List.append_nil]
    exact opens judged
  obtain ⟨left, returned⟩ := dispatched_of_opens before.program before.names entry accepted
  obtain ⟨left', returned'⟩ := dispatched_of_opens after.program after.names entry accepted'
  obtain ⟨-, shape, -⟩ := dispatched_returned before.program before.names returned
  obtain ⟨-, shape', -⟩ := dispatched_returned after.program after.names returned'
  refine ⟨left, left', returned, returned', ?_⟩
  rw [shape, shape', before.marked, after.marked, expand_fill_congr context (same judged)]

end Replacing

section Samples

/-- A chain of a head called `when`, with the calls of some members. -/
def chaining (condition : String) (calls : List (String × List SourceTree)) : SourceTree :=
  calls.foldl (fun before call => continuing before call.1 call.2)
    (opening "when" (reading condition))

/-- A name that is no head of a chain. -/
def naming (name : String) : MarkedTree :=
  .node false (.name name .load) []

/-- The program `when(a).then_do(b).else_(c).else_if(d).then(e).end()`. -/
def ladder : SourceTree :=
  stating (chaining "a" [("then_do", [reading "b"]), ("else_", [reading "c"]),
    ("else_if", [reading "d"]), ("then", [reading "e"]), ("end", [])])

/-- The program `when(a).then_do(b).else_(when(d).then(e).end()).end()`. -/
def nestedLadder : SourceTree :=
  stating (chaining "a" [("then_do", [reading "b"]),
    ("else_", [chaining "d" [("then", [reading "e"]), ("end", [])]]), ("end", [])])

/-- The program `when(a).then_do(b, c).else_(d).end()`. -/
def consequentFirst : SourceTree :=
  stating (chaining "a" [("then_do", [reading "b", reading "c"]), ("else_", [reading "d"]),
    ("end", [])])

/-- The program `when(a).else_(d).then_do(b, c).end()`. -/
def alternateFirst : SourceTree :=
  stating (chaining "a" [("else_", [reading "d"]), ("then_do", [reading "b", reading "c"]),
    ("end", [])])

/-- The program `when(a).then_do(b).then_do(c).else_(d).end()`. -/
def splitDiscard : SourceTree :=
  stating (chaining "a" [("then_do", [reading "b"]), ("then_do", [reading "c"]),
    ("else_", [reading "d"]), ("end", [])])

/-- What is around the only statement of a program. -/
def aroundStatement : Context Bool :=
  [⟨false, .exprStmt, [], .value, []⟩, ⟨false, .module, [], .body, []⟩]

end Samples

section Laws

variable {tree tree' : SourceTree} {references references' : List NodeId} {context : Context Bool}
  {name : String} {ending nested : Continuation} {condition inner : MarkedTree}
  {before later steps steps' : List (Step MarkedTree)}

/-- **An `else_if` is sugar for a chain of its own** in the alternate branch. In any context, let a
chain have an `else_if` after steps without one. In the other program the steps that feed its
alternate branch are left out, and the value of that branch is the chain of what follows. If the
names of the first program open chains then both programs are expanded, to the same program up to
positions. -/
theorem dispatched_elseIf (flat : Step.Flat before)
    (ends : ending.isTerminal = true) (nestedEnds : nested.isTerminal = true)
    (sugared : tree.Holds references context
      (written name ⟨true, condition, before ++ .elseIf inner :: later⟩ ending))
    (plain : tree'.Holds references' context
      (written name ⟨true, condition, desugared name before inner later nested⟩ ending))
    (accepted : ∀ id ∈ references, tree.numbered.opensChain id = true) (entry : String) :
    ∃ left left', tree.dispatched entry references = (.ok references.dedup.length, left) ∧
      tree'.dispatched entry references' = (.ok references'.dedup.length, left') ∧
      (tree.leftIn left).shape = (tree'.leftIn left').shape := by
  refine dispatched_replace sugared plain rfl (fun opens => ?_) (fun opens => ?_) accepted entry
  · have proper := (opens_written_iff rfl ends).mp opens
    exact (opens_written_iff rfl ends).mpr (proper.desugared nestedEnds)
  · have proper := (opens_written_iff rfl ends).mp opens
    rw [proper.expand_written rfl ends,
      (proper.desugared nestedEnds).expand_written rfl ends]
    exact proper.build_desugared nestedEnds flat

/-- A ladder of two rungs leaves the same program as a chain in the alternate branch of another. -/
theorem dispatched_elseIf_ladder :
    ∃ left left', ladder.dispatched "when" [0] = (.ok 1, left) ∧
      nestedLadder.dispatched "when" [0, 7] = (.ok 2, left') ∧
      (ladder.leftIn left).shape = (nestedLadder.leftIn left').shape := by
  refine @dispatched_elseIf ladder nestedLadder [0] [0, 7] aroundStatement "when" .finish .finish
    (naming "a") (naming "d") [.discarded .consequent [naming "b"], .value .alternate (naming "c")]
    [.value .consequent (naming "e")] (by decide) rfl rfl ⟨by decide, by decide, ?_⟩
    ⟨by decide, by decide, ?_⟩ (by decide) "when"
  · decide +kernel
  · decide +kernel

/-- **The branches do not interfere, and discarded expressions may be split.** In any context, let
the steps of a chain be rearranged in the other program. If the names of the first program open
chains then both programs are expanded, to the same program up to positions. -/
theorem dispatched_rearranged (rearranged : Step.Rearranged steps steps')
    (ends : ending.isTerminal = true)
    (before : tree.Holds references context (written name ⟨true, condition, steps⟩ ending))
    (after : tree'.Holds references' context (written name ⟨true, condition, steps'⟩ ending))
    (accepted : ∀ id ∈ references, tree.numbered.opensChain id = true) (entry : String) :
    ∃ left left', tree.dispatched entry references = (.ok references.dedup.length, left) ∧
      tree'.dispatched entry references' = (.ok references'.dedup.length, left') ∧
      (tree.leftIn left).shape = (tree'.leftIn left').shape := by
  refine dispatched_replace before after rfl (fun opens => ?_) (fun opens => ?_) accepted entry
  · have proper := (opens_written_iff rfl ends).mp opens
    exact (opens_written_iff rfl ends).mpr (proper.rearranged rearranged)
  · have proper := (opens_written_iff rfl ends).mp opens
    rw [proper.expand_written rfl ends, (proper.rearranged rearranged).expand_written rfl ends]
    exact build_rearranged (rearranged.map expand)

/-- The branches of a chain may be fed in the other order, and what it discards may be split. -/
theorem dispatched_rearranged_samples :
    (∃ left left', consequentFirst.dispatched "when" [0] = (.ok 1, left) ∧
      alternateFirst.dispatched "when" [0] = (.ok 1, left') ∧
      (consequentFirst.leftIn left).shape = (alternateFirst.leftIn left').shape) ∧
    ∃ left left', consequentFirst.dispatched "when" [0] = (.ok 1, left) ∧
      splitDiscard.dispatched "when" [0] = (.ok 1, left') ∧
      (consequentFirst.leftIn left).shape = (splitDiscard.leftIn left').shape := by
  have before : consequentFirst.Holds [0] aroundStatement (written "when" ⟨true, naming "a",
      [.discarded .consequent [naming "b", naming "c"], .value .alternate (naming "d")]⟩ .finish) :=
    ⟨by decide, by decide, by decide +kernel⟩
  constructor
  · have after : alternateFirst.Holds [0] aroundStatement (written "when" ⟨true, naming "a",
        [.value .alternate (naming "d"), .discarded .consequent [naming "b", naming "c"]]⟩
        .finish) :=
      ⟨by decide, by decide, by decide +kernel⟩
    have rearranged := @Step.Rearranged.interleaved MarkedTree []
      [.discarded .consequent [naming "b", naming "c"], .value .alternate (naming "d")]
      [.value .alternate (naming "d"), .discarded .consequent [naming "b", naming "c"]] []
      (by decide) (by decide) (by rintro (_ | _) <;> rfl)
    exact dispatched_rearranged rearranged rfl before after (by decide) "when"
  · have after : splitDiscard.Holds [0] aroundStatement (written "when" ⟨true, naming "a",
        [.discarded .consequent [naming "b"], .discarded .consequent [naming "c"],
          .value .alternate (naming "d")]⟩ .finish) :=
      ⟨by decide, by decide, by decide +kernel⟩
    exact dispatched_rearranged (.split [] .consequent [naming "b"] [naming "c"] _) rfl before
      after (by decide) "when"

end Laws

end Tree

end IfChains
