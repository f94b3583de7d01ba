/-
**The steps of a command.**

A command comes to the point where the chains of its file are expanded if the file is there and can
be read, the settings can be read, and the level of the log in them is one. From there on, `check`
and `run` leave the files alone, and `build` writes the text that the expansion has returned.

* `outcome_refuse`: a refusal ends a command with one, after its lines;
* `outcome_perform`, `perform_cases`: the way to the point where the chains are expanded;
* `conclude_error`, `build_cases`, `run_store`: what a command does from there on.
-/

import IfChains.CommandLine
import IfChains.Proofs.Steps

namespace IfChains

namespace CommandLine

open Steps

section Lines

/-- A terminal with lines added to its error stream. -/
def Terminal.complain (terminal : Terminal) (lines : List String) : Terminal :=
  { terminal with streams := { terminal.streams with
      err := terminal.streams.err ++
        lines.flatMap fun line => CodePoints.ofString (line ++ "\n") } }

variable {terminal : Terminal} {lines : List String}

theorem Terminal.complain_nil : terminal.complain [] = terminal := by
  simp [complain]

theorem Terminal.complain_complain (more : List String) :
    (terminal.complain lines).complain more = terminal.complain (lines ++ more) := by
  simp [complain]

/-- A line is never empty: it has an end. -/
theorem Terminal.complain_err_ne_nil (some : lines ≠ []) :
    (terminal.complain lines).streams.err ≠ [] := by
  obtain ⟨line, rest, rfl⟩ := List.exists_cons_of_ne_nil some
  simp [complain, CodePoints.ofString]

/-- Lines on the error stream are added in their order. -/
theorem outcome_forM_writeLine {α : Type} (line : α → String) (items : List α) :
    outcome (items.forM fun item => writeLine .err (line item)) terminal =
      (.ok (), terminal.complain (items.map line)) := by
  have single : ∀ (item : α) (terminal : Terminal),
      outcome (writeLine .err (line item)) terminal = (.ok (), terminal.complain [line item]) := by
    intro item terminal
    rw [Terminal.complain, List.flatMap_singleton]
    rfl
  rw [outcome_forM single]
  congr 1
  induction items generalizing terminal with
  | nil => exact Terminal.complain_nil.symm
  | cons item rest ih =>
    rw [List.foldl_cons, ih, Terminal.complain_complain]
    rfl

/-- A command that is refused exits with one after its lines. -/
theorem outcome_refuse {α : Type} :
    outcome (refuse lines : Task α) terminal =
      (.error (.exit (.int 1)), terminal.complain lines) := by
  have written := @outcome_forM_writeLine terminal _ id lines
  rw [List.map_id] at written
  exact outcome_bind_ok written

/-- A result that is there is gone on with. -/
theorem outcome_orFail_ok {ε' α β : Type} {failure : ε' → Failure} {next : α → Task β} {value : α}
    {result : Except ε' α} (same : result = .ok value) :
    outcome (orFail failure result >>= next) terminal = outcome (next value) terminal := by
  subst same
  exact outcome_bind_ok rfl

/-- A result that is missing ends the command. -/
theorem exists_failed_or_ok {ε' α β : Type} (failure : ε' → Failure) (result : Except ε' α)
    (next : α → Task β) (terminal : Terminal) :
    (∃ reason, outcome (orFail failure result >>= next) terminal =
      (.error (.failed reason), terminal)) ∨ ∃ value, result = .ok value := by
  cases result with
  | ok value => exact Or.inr ⟨value, rfl⟩
  | error fault => exact Or.inl ⟨failure fault, outcome_bind_error rfl⟩

end Lines

section Expanding

/-- The chains of a file come to be expanded: the file is there and is read, the settings are read
and have a level, and the module of the macro is looked up in them. -/
structure Reaches (reader : Settings.Reader) (store : FileStore) (path : String)
    (settings : Data) (level : Int) (outcome : Outcome) : Prop where
  found : store.hasPath path = true
  loaded : Settings.load reader store none = .ok settings
  leveled : ∃ value, settings.lookUpIn "logging" "level" = .ok value ∧
    LogLevel.ofData value = .ok level
  expanded : ∃ source, store.readText path = .ok source ∧
    Transform.underSettings settings .file path source = .ok outcome

/-- What a command does with what the expansion has come to. -/
def conclude (command : Command) (path : String) (settings : Data) (outcome : Outcome) :
    Task Unit :=
  match outcome.result with
  | .error fault =>
    match fault.report? with
    | some report => refuse ["Error: " ++ report.text]
    | none => throw (.failed (.expansion fault))
  | .ok text =>
    match command with
    | .check => writeLine .out ("OK: " ++ path)
    | .build => build path text settings
    | .run => run path text

/-- The remarks that are shown at a level. -/
def shown (level : Int) (outcome : Outcome) : List String :=
  if LogLevel.showsRemarks level then outcome.remarks.map Remark.line else []

variable {reader : Settings.Reader} {command : Command} {path : String} {terminal : Terminal}
  {settings : Data} {level : Int} {expansion : Outcome}

/-- **From where the chains are expanded**, a command shows the remarks and goes on with what the
expansion has come to. -/
theorem outcome_perform (reaches : Reaches reader terminal.store path settings level expansion) :
    outcome (perform reader command path) terminal =
      outcome (conclude command path settings expansion)
        (terminal.complain (shown level expansion)) := by
  obtain ⟨found, loaded, ⟨value, looked, leveled⟩, source, read, expanded⟩ := reaches
  unfold perform
  rw [outcome_get_bind]
  simp only [found, Bool.not_true, Bool.false_eq_true, if_false]
  refine (outcome_orFail_ok read).trans ?_
  refine (outcome_orFail_ok loaded).trans ?_
  refine (outcome_orFail_ok looked).trans ?_
  refine (outcome_orFail_ok leveled).trans ?_
  refine (outcome_orFail_ok expanded).trans ?_
  unfold shown
  split
  · exact outcome_bind_ok (outcome_forM_writeLine Remark.line expansion.remarks)
  · rw [Terminal.complain_nil]
    rfl

/-- A command whose file is not there is refused. -/
theorem outcome_perform_missing (missing : terminal.store.hasPath path = false) :
    outcome (perform reader command path) terminal =
      (.error (.exit (.int 1)), terminal.complain ["Error: file not found: " ++ path]) := by
  unfold perform
  rw [outcome_get_bind]
  simp only [missing, Bool.not_false, if_true]
  exact outcome_bind_error outcome_refuse

/-- **The way of a command**: its file is not there, it fails before the chains are expanded, or it
reaches the point where they are. -/
theorem perform_cases (reader : Settings.Reader) (command : Command) (path : String)
    (terminal : Terminal) :
    (terminal.store.hasPath path = false ∧ outcome (perform reader command path) terminal =
      (.error (.exit (.int 1)), terminal.complain ["Error: file not found: " ++ path])) ∨
    (∃ failure,
      outcome (perform reader command path) terminal = (.error (.failed failure), terminal)) ∨
    ∃ settings level expansion, Reaches reader terminal.store path settings level expansion := by
  cases found : terminal.store.hasPath path with
  | false => exact Or.inl ⟨rfl, outcome_perform_missing found⟩
  | true =>
    refine Or.inr ?_
    unfold perform
    rw [outcome_get_bind]
    simp only [found, Bool.not_true, Bool.false_eq_true, if_false]
    rcases exists_failed_or_ok _ (terminal.store.readText path) _ terminal with
      ⟨failure, failed⟩ | ⟨source, read⟩
    · exact Or.inl ⟨failure, failed⟩
    rw [outcome_orFail_ok read]
    rcases exists_failed_or_ok _ (Settings.load reader terminal.store none) _ terminal with
      ⟨failure, failed⟩ | ⟨settings, loaded⟩
    · exact Or.inl ⟨failure, failed⟩
    rw [outcome_orFail_ok loaded]
    rcases exists_failed_or_ok _ (settings.lookUpIn "logging" "level") _ terminal with
      ⟨failure, failed⟩ | ⟨value, looked⟩
    · exact Or.inl ⟨failure, failed⟩
    rw [outcome_orFail_ok looked]
    rcases exists_failed_or_ok _ (LogLevel.ofData value) _ terminal with
      ⟨failure, failed⟩ | ⟨level, leveled⟩
    · exact Or.inl ⟨failure, failed⟩
    rw [outcome_orFail_ok leveled]
    rcases exists_failed_or_ok _ (Transform.underSettings settings .file path source) _ terminal
      with ⟨failure, failed⟩ | ⟨expansion, expanded⟩
    · exact Or.inl ⟨failure, failed⟩
    exact Or.inr ⟨settings, level, expansion, found, loaded, ⟨value, looked, leveled⟩, source, read,
      expanded⟩

end Expanding

section Concluding

/-- The chains of a file are expanded under settings, and a text is what that returns. -/
def Expands (reader : Settings.Reader) (store : FileStore) (path : String) (settings : Data)
    (text : String) : Prop :=
  ∃ level expansion, Reaches reader store path settings level expansion ∧
    expansion.result = .ok text

/-- Writing a text to the output path that settings give to a file leaves a store. -/
def Builds (store : FileStore) (path : String) (settings : Data) (text : String)
    (after : FileStore) : Prop :=
  ∃ suffix, settings.lookUpIn "build" "output_suffix" = .ok (.scalar (.text suffix)) ∧
    Utf8.unspelled? (CodePoints.ofString (Path.output path "") ++ suffix) = none ∧
    store.writeText (Path.output path (CodePoints.toText suffix)) text = .ok after

variable {command : Command} {path text : String} {terminal : Terminal} {settings : Data}
  {expansion : Outcome} {after : FileStore}

/-- What a command does with a text that the expansion has returned. -/
theorem conclude_ok (same : expansion.result = .ok text) :
    conclude command path settings expansion =
      match command with
      | .check => writeLine .out ("OK: " ++ path)
      | .build => build path text settings
      | .run => run path text := by
  rw [conclude, same]

/-- A report of the expansion ends the command. -/
theorem outcome_conclude_reported {fault : Fault} {report : Report}
    (failed : expansion.result = .error fault) (reported : fault.report? = some report) :
    outcome (conclude command path settings expansion) terminal =
      (.error (.exit (.int 1)), terminal.complain ["Error: " ++ report.text]) := by
  rw [conclude, failed]
  simp only [reported]
  exact outcome_refuse

/-- An expansion that has failed ends the command, but not with zero; the files are left alone. -/
theorem conclude_error {fault : Fault} (failed : expansion.result = .error fault) :
    ∃ finish after, outcome (conclude command path settings expansion) terminal =
      (.error finish, after) ∧ finish ≠ .exit (.int 0) ∧ after.store = terminal.store := by
  cases reported : fault.report? with
  | some report =>
    refine ⟨_, _, outcome_conclude_reported failed reported, ?_, rfl⟩
    simp
  | none =>
    refine ⟨.failed (.expansion fault), terminal, ?_, ?_, rfl⟩
    · rw [conclude, failed]
      simp only [reported]
      rfl
    · simp

/-- A write that goes through ends the command well. -/
theorem outcome_build (builds : Builds terminal.store path settings text after) :
    ∃ streams, outcome (build path text settings) terminal = (.ok (), ⟨after, streams⟩) := by
  obtain ⟨suffix, looked, spelled, written⟩ := builds
  unfold build
  rw [outcome_orFail_ok looked]
  simp only [spelled]
  rw [outcome_get_bind, outcome_orFail_ok written]
  exact ⟨_, rfl⟩

/-- A command that builds fails and leaves everything as it was, or the write goes through. -/
theorem build_cases (path text : String) (settings : Data) (terminal : Terminal) :
    (∃ failure, outcome (build path text settings) terminal =
      (.error (.failed failure), terminal)) ∨
    ∃ after, Builds terminal.store path settings text after := by
  unfold build
  rcases exists_failed_or_ok _ (settings.lookUpIn "build" "output_suffix") _ terminal with
    ⟨failure, failed⟩ | ⟨value, looked⟩
  · exact Or.inl ⟨failure, failed⟩
  rw [outcome_orFail_ok looked]
  split
  · rename_i suffix
    cases spelled : Utf8.unspelled? (CodePoints.ofString (Path.output path "") ++ suffix) with
    | some halves => exact Or.inl ⟨.halves halves, by simp only [spelled]; rfl⟩
    | none =>
      simp only [spelled]
      rw [outcome_get_bind]
      rcases exists_failed_or_ok _ (terminal.store.writeText
        (Path.output path (CodePoints.toText suffix)) text) _ terminal with
        ⟨failure, failed⟩ | ⟨after, written⟩
      · exact Or.inl ⟨failure, failed⟩
      · exact Or.inr ⟨after, suffix, looked, spelled, written⟩
  · exact Or.inl ⟨_, rfl⟩

/-- A program that runs comes to an end, and writes to the streams only. -/
theorem exists_runProgram (path text : String) (terminal : Terminal) :
    ∃ ending streams, outcome (runProgram path text) terminal =
      (.ok ending, { terminal with streams := streams }) := by
  unfold runProgram
  rw [outcome_get_bind]
  rcases (Program.run path text).run terminal.streams with ⟨ending, streams⟩
  exact ⟨ending, streams, rfl⟩

/-- A command that runs a program leaves the files alone. -/
theorem run_store (path text : String) (terminal : Terminal) :
    (outcome (run path text) terminal).2.store = terminal.store := by
  obtain ⟨ending, streams, ran⟩ := exists_runProgram path text terminal
  unfold run
  rw [outcome_bind_ok ran]
  split
  · rfl
  · rfl
  · split <;> rfl

end Concluding

end CommandLine

end IfChains
