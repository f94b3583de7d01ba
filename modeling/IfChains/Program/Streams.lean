/-
**What has been written.**

A program writes to two streams. What it writes can be kept apart from what was written before,
which then stays as it was.

* `capture_restores`: after capturing, the streams are what they were before.
-/

import IfChains.Text.CodePoints

namespace IfChains

namespace Program

/-- Where a program writes to. -/
inductive Channel
  | out | err
deriving DecidableEq, Repr

/-- The texts written so far. -/
structure Streams where
  out : CodePoints := []
  err : CodePoints := []
deriving DecidableEq, Repr

namespace Streams

/-- Writes a text. -/
def write (streams : Streams) (channel : Channel) (text : CodePoints) : Streams :=
  match channel with
  | .out => { streams with out := streams.out ++ text }
  | .err => { streams with err := streams.err ++ text }

/-- Lets something write to streams of its own, and returns what was written to them. -/
def capture {α : Type} (steps : StateM Streams α) : StateM Streams (α × Streams) := do
  let before ← get
  set ({} : Streams)
  let result ← steps
  let written ← get
  set before
  return (result, written)

/-- After capturing, the streams are what they were before. -/
theorem capture_restores {α : Type} (steps : StateM Streams α) (streams : Streams) :
    ((capture steps).run streams).2 = streams := rfl

end Streams

end Program

end IfChains
