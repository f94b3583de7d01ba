/-
**What becomes of the output of a program.**

A tool that runs a program lets it write to streams of its own, and the streams of the server are
what they were, however the program ends. The answer about a program that comes to its end holds all
that it has written. Of a program that raises something only what it has written to the output
stream is in the answer: what it has written to the error stream is lost.

* `CodePoints.toText_append`: a text that is written between two others;
* `outputText_eq`: the answer about a program that comes to its end;
* `streams_serve`: **no answer changes the streams**;
* `serve_run_written`: what of the output of a program is in the answer.
-/

import IfChains.Proofs.Program.Written
import IfChains.Proofs.Tools.Answers

namespace IfChains

namespace CodePoints

variable {point : Nat} {first second : CodePoints}

/-- A code point that is no half stays alone. -/
theorem joinHalves_cons (whole : isHalf point = false) :
    joinHalves (point :: second) = point :: joinHalves second := by
  cases second with
  | nil => rfl
  | cons low rest =>
    rw [joinHalves, if_neg]
    intro joined
    simp only [isHalf, Bool.and_eq_true, Bool.and_eq_false_iff, decide_eq_true_eq,
      decide_eq_false_iff_not] at whole joined
    omega

/-- Nothing is joined across a code point that is no half. -/
theorem joinHalves_append (whole : isHalf point = false) :
    joinHalves (first ++ point :: second) = joinHalves first ++ point :: joinHalves second := by
  fun_induction joinHalves first with
  | case1 high low rest halves ih =>
    rw [List.cons_append, List.cons_append, joinHalves, if_pos halves, ih]
    rfl
  | case2 high low rest halves ih =>
    rw [List.cons_append, List.cons_append, joinHalves, if_neg halves, ← List.cons_append, ih]
    rfl
  | case3 points short =>
    rcases points with _ | ⟨high, _ | ⟨low, rest⟩⟩
    · exact joinHalves_cons whole
    · rw [List.singleton_append, joinHalves, if_neg, joinHalves_cons whole]
      · rfl
      · intro joined
        simp only [isHalf, Bool.and_eq_true, Bool.and_eq_false_iff, decide_eq_true_eq,
          decide_eq_false_iff_not] at whole joined
        omega
    · exact absurd rfl (short high low rest)

/-- A character is no half. -/
theorem isHalf_toNat (char : Char) : isHalf char.toNat = false := by
  have valid := char.valid
  simp only [UInt32.isValidChar, Nat.isValidChar] at valid
  simp only [isHalf, Char.toNat, Bool.and_eq_false_iff, decide_eq_false_iff_not]
  omega

/-- Characters in front of something stay as they are. -/
theorem joinHalves_map_toNat (chars : List Char) :
    joinHalves (chars.map Char.toNat ++ second) = chars.map Char.toNat ++ joinHalves second := by
  induction chars with
  | nil => rfl
  | cons char rest ih =>
    rw [List.map_cons, List.cons_append, joinHalves_cons (isHalf_toNat _), ih, List.cons_append]

/-- The character that a code point spells. -/
def spelled (point : Nat) : Char :=
  if point.isValidChar then Char.ofNat point else Char.ofNat 0xFFFD

theorem toText_eq (points : CodePoints) :
    toText points = String.ofList ((joinHalves points).map spelled) := rfl

/-- A character is spelled by its code point. -/
theorem spelled_toNat (char : Char) : spelled char.toNat = char := by
  have valid : char.toNat.isValidChar := char.valid
  rw [spelled, if_pos valid, Char.ofNat_toNat]

/-- **A text that is written between two others.** -/
theorem toText_append (text : String) (some : text ≠ "") :
    toText (first ++ (ofString text ++ second)) = toText first ++ text ++ toText second := by
  obtain ⟨char, rest, same⟩ := List.exists_cons_of_ne_nil (mt String.toList_eq_nil_iff.mp some)
  have chars : text = String.ofList (char :: rest) := by rw [← same, String.ofList_toList]
  rw [toText_eq, ofString, same, List.map_cons, List.cons_append,
    joinHalves_append (isHalf_toNat _), joinHalves_map_toNat, toText_eq, toText_eq, chars,
    ← String.ofList_append, ← String.ofList_append]
  simp [spelled_toNat, Function.comp_def]

end CodePoints

namespace Tools

open Steps

variable {reader : Settings.Reader} {path source module text : String} {store : FileStore}
  {server : Server}

section Streams

variable {α β : Type} {first : Serving α} {next : α → Serving β}

/-- A step that leaves the streams what they were. -/
def Steady (step : Serving α) : Prop :=
  ∀ server, (outcome step server).2.streams = server.streams

theorem steady_pure (value : α) : Steady (pure value : Serving α) := fun _ => rfl

theorem steady_throw (failure : Failure) : Steady (throw failure : Serving α) := fun _ => rfl

/-- A step after another one. -/
theorem Steady.bind (steady : Steady first) (steady' : ∀ value, Steady (next value)) :
    Steady (first >>= next) := by
  intro server
  have kept := steady server
  rcases ran : outcome first server with ⟨result, after⟩
  rw [ran] at kept
  cases result with
  | ok value => rw [outcome_bind_ok ran, steady' value after, kept]
  | error failure => rw [outcome_bind_error ran, kept]

theorem steady_sourceOf (store : FileStore) (path : String) : Steady (sourceOf store path) := by
  unfold sourceOf
  split
  · exact steady_pure _
  · split
    · exact steady_pure _
    · exact steady_throw _
    · exact steady_pure _
  · exact steady_throw _

theorem steady_settings (reader : Settings.Reader) (store : FileStore) :
    Steady (settings reader store) := by
  intro server
  rw [outcome_settings]
  rfl

theorem steady_expandText (reader : Settings.Reader) (store : FileStore) (path source : String) :
    Steady (expandText reader store path source) := by
  refine (steady_settings reader store).bind fun settings => ?_
  split
  · exact steady_throw _
  · split
    · exact steady_pure _
    · split
      · exact steady_pure _
      · exact steady_throw _

theorem steady_expandFile (reader : Settings.Reader) (store : FileStore) (path : String) :
    Steady (expandFile reader store path) := by
  refine (steady_sourceOf store path).bind fun read => ?_
  cases read with
  | ok source => exact steady_expandText reader store path source
  | error answer => exact steady_pure _

theorem steady_capture (program : StateM Program.Streams Program.Ending) :
    Steady (capture program) := capture_streams program

/-- Running a program leaves the streams what they were, however it ends. -/
theorem steady_runText (path text : String) : Steady (runText path text) := by
  unfold runText
  refine (steady_capture (Program.run path text)).bind fun ran => ?_
  split
  · exact steady_pure _
  · exact steady_throw _
  · split
    · exact steady_throw _
    · exact steady_pure _

/-- **No answer changes the streams**, nor does a tool that gives none. -/
theorem streams_serve (reader : Settings.Reader) (tool : Tool) (path : String) (store : FileStore)
    (server : Server) : (serve reader tool path store server).2.streams = server.streams := by
  have steady : Steady (answer reader tool store path) := by
    refine (steady_expandFile reader store path).bind fun expanded => ?_
    cases expanded with
    | error answer => exact steady_pure _
    | ok text =>
      cases tool with
      | check => exact steady_pure _
      | build => exact steady_pure _
      | run => exact steady_runText path text
  exact steady server

end Streams

section Outputs

variable {written : Program.Streams}

/-- **The answer about a program that comes to its end**: what it has written to the output stream,
and then what it has written to the error stream. -/
theorem outputText_eq (written : Program.Streams) : outputText written =
    if written.err = [] then
      if written.out = [] then "(program produced no output)" else CodePoints.toText written.out
    else CodePoints.toText written.out ++ "\n[stderr]: " ++ CodePoints.toText written.err := by
  obtain ⟨out, err⟩ := written
  cases err with
  | nil =>
    cases out with
    | nil => rfl
    | cons point rest =>
      rw [if_pos rfl, if_neg (List.cons_ne_nil _ _)]
      simp [outputText]
  | cons point rest =>
    rw [if_neg (List.cons_ne_nil _ _), ← CodePoints.toText_append _ (by decide)]
    simp [outputText]

/-- A text is part of an answer. -/
def Holds (answer text : String) : Prop :=
  text.toList <:+: answer.toList

/-- The answer about a program that comes to its end holds all that it has written. -/
theorem holds_outputText (written : Program.Streams) :
    Holds (outputText written) (CodePoints.toText written.out) ∧
      Holds (outputText written) (CodePoints.toText written.err) := by
  rw [outputText_eq]
  have nothing : ∀ answer, Holds answer (CodePoints.toText []) := fun answer => List.nil_infix
  split
  · rename_i silent
    rw [silent]
    refine ⟨?_, nothing _⟩
    split
    · rename_i blank
      rw [blank]
      exact nothing _
    · exact List.infix_rfl
  · unfold Holds
    rw [String.toList_append, String.toList_append]
    exact ⟨(List.prefix_append _ _).isInfix.trans (List.prefix_append _ _).isInfix,
      (List.suffix_append _ _).isInfix⟩

end Outputs

/-- **What of the output of a program is in the answer.** A program writes the same whatever was
written before. If it comes to its end, the answer holds all that it has written to both streams. If
it raises something that is no request to exit, the answer is what it has written to the output
stream, and then what was raised; what it has written to the error stream is lost. If it asks to
exit there is no answer. In any case the streams of the server are what they were. -/
theorem serve_run_written (serves : Serves reader store server path source module)
    (same : (Transform.transform module .file path source).result = .ok text) :
    let (ending, written) := (Program.run path text).run {}
    (∀ before, (Program.run path text).run before = (ending, before.append written)) ∧
    (match ending with
      | .finished => ∃ answer, (serve reader .run path store server).1 = .ok answer ∧
          Holds answer (CodePoints.toText written.out) ∧
          Holds answer (CodePoints.toText written.err)
      | .raised exception =>
        match exception.exitCode? with
        | some _ => (serve reader .run path store server).1 = .error (.program exception)
        | none => (serve reader .run path store server).1 = .ok (CodePoints.toText written.out ++
            "Error during execution: " ++ exception.kind.name ++ ": " ++ exception.message)
      | .beyond => (serve reader .run path store server).1 = .error .beyond) ∧
    (serve reader .run path store server).2.streams = server.streams := by
  have answers := serve_run serves same
  have before := fun streams => Program.run_append streams path text
  rcases ran : (Program.run path text).run {} with ⟨ending, written⟩
  rw [ran] at answers before
  refine ⟨before, ?_, streams_serve reader .run path store server⟩
  cases ending with
  | finished => exact ⟨_, answers, holds_outputText written⟩
  | beyond => exact answers
  | raised exception =>
    cases exits : exception.exitCode? <;> simpa only [exits] using answers

end Tools

end IfChains
