/-
**The commands and the tools agree.**

A command and the tool of its name do the same with a file, each in its own way: a command first
asks whether the file is there, sets up the log and writes to the streams of its terminal, while a
tool reads at once, keeps the settings and answers with a text. Whatever the program is, and
whatever the settings are if only they are usable, both come to the same.

* `Workable`: a file, settings for it, and a path to which its expansion can be written;
* `main_of_finished`: what a command leaves behind that runs a program to its end;
* `serve_of_ok`, `serve_of_reported`: the answers about a file;
* `serve_agrees`: **commands and tools agree**.
-/

import IfChains.Proofs.CommandLine.Finished
import IfChains.Proofs.Tools.Captured

namespace IfChains

open Steps

namespace CommandLine

variable {reader : Settings.Reader} {rest : List String} {store : FileStore} {path text : String}
  {settings : Data} {level : Int} {expansion : Outcome} {written : Program.Streams}
  {terminal : Terminal}

/-- A program that comes to its end adds what it writes to the streams. -/
theorem outcome_run (ran : (Program.run path text).run {} = (.finished, written)) :
    outcome (run path text) terminal =
      (.ok (), { terminal with streams := terminal.streams.append written }) := by
  have ended : outcome (runProgram path text) terminal =
      (.ok .finished, { terminal with streams := terminal.streams.append written }) := by
    unfold runProgram
    rw [outcome_get_bind, Program.run_append, ran]
    rfl
  unfold run
  rw [outcome_bind_ok ended]
  rfl

/-- **A command that runs a program to its end** exits with zero. After the remarks the streams hold
what the program has written. -/
theorem main_of_finished (reaches : Reaches reader store path settings level expansion)
    (same : expansion.result = .ok text)
    (ran : (Program.run path text).run {} = (.finished, written)) :
    main reader (Command.run.name :: path :: rest) store = (.exit (.int 0),
      { store := store
        streams := (({ store := store } : Terminal).complain
          (shown level expansion)).streams.append written }) := by
  have ended := @outcome_interpret reader rest store path settings level expansion .run reaches
  rw [conclude_ok same] at ended
  exact main_of_ok (ended.trans (outcome_run ran))

end CommandLine

namespace Tools

open CommandLine (Command Reaches Builds shown)

variable {reader : Settings.Reader} {path source module target text : String} {store : FileStore}
  {settings : Data} {level : Int} {server : Server}

section Working

/-- A path that leads to a file with a text, settings with a module of the macro and a level of the
log, and a path to which their suffix makes the expansion of the file be written. -/
structure Workable (reader : Settings.Reader) (store : FileStore) (path source module : String)
    (settings : Data) (level : Int) (target : String) : Prop where
  read : store.readText path = .ok source
  loaded : Settings.load reader store none = .ok settings
  named : ∃ name, settings.lookUpIn "macro" "module" = .ok (.scalar (.text name)) ∧
    CodePoints.toText name = module
  leveled : ∃ value, settings.lookUpIn "logging" "level" = .ok value ∧
    LogLevel.ofData value = .ok level
  suffixed : ∃ suffix, settings.lookUpIn "build" "output_suffix" = .ok (.scalar (.text suffix)) ∧
    Utf8.unspelled? (CodePoints.ofString (Path.output path "") ++ suffix) = none ∧
    Path.output path (CodePoints.toText suffix) = target
  writable : ∃ place, store.target target = .ok place

/-- A path whose file is read leads to something. -/
theorem hasPath_of_readText (read : store.readText path = .ok source) :
    store.hasPath path = true := by
  unfold FileStore.readText FileStore.read at read
  rw [FileStore.hasPath]
  cases followed : store.follow path with
  | error reason =>
    rw [followed] at read
    cases read
  | ok place =>
    rw [followed] at read
    dsimp only at read ⊢
    cases found : store.find? place with
    | none =>
      rw [found] at read
      cases read
    | some entry => rfl

variable (workable : Workable reader store path source module settings level target)
include workable

theorem Workable.macroModule_eq : settings.macroModule = .ok module := by
  obtain ⟨name, looked, same⟩ := workable.named
  rw [Data.macroModule, looked, ← same]
  rfl

/-- The commands come to the point where the chains of the file are expanded. -/
theorem Workable.reaches : Reaches reader store path settings level
    (Transform.transform module .file path source) := by
  refine ⟨hasPath_of_readText workable.read, workable.loaded, workable.leveled, source,
    workable.read, ?_⟩
  rw [Transform.underSettings, workable.macroModule_eq]
  rfl

/-- The tools come to that point too, if the settings have not been read before. -/
theorem Workable.serves (fresh : server.cache.current = none) :
    Serves reader store server path source module := by
  refine ⟨workable.read, ⟨server.cache.readings, settings⟩, ?_, workable.macroModule_eq⟩
  simp only [SettingsCache.get, fresh, workable.loaded]

/-- A text is written to its path, and is there then. -/
theorem Workable.exists_builds (text : String) : ∃ after,
    Builds store path settings text after ∧ after.read target = .ok (Utf8.encode text) := by
  obtain ⟨suffix, looked, spelled, same⟩ := workable.suffixed
  obtain ⟨place, found⟩ := workable.writable
  have written : store.writeText target text =
      .ok (store.set place (.file (Utf8.encode text))) := by
    rw [FileStore.writeText, FileStore.write, found]
  refine ⟨_, ⟨suffix, looked, spelled, ?_⟩, FileStore.read_write written⟩
  rw [same]
  exact written

end Working

section Answers

variable (serves : Serves reader store server path source module)
include serves

/-- The answers about a file whose chains are expanded. -/
theorem serve_of_ok (same : (Transform.transform module .file path source).result = .ok text) :
    (serve reader .check path store server).1 = .ok ("OK: " ++ path) ∧
      (serve reader .build path store server).1 = .ok text := by
  have answers := fun tool => @outcome_answer reader tool path source module store server serves
  simp only [same] at answers
  exact ⟨congrArg Prod.fst (answers .check), congrArg Prod.fst (answers .build)⟩

/-- The one answer of all tools about a file whose expansion reports what is wrong with it. -/
theorem serve_of_reported {fault : Fault} {report : Report}
    (failed : (Transform.transform module .file path source).result = .error fault)
    (reported : fault.report? = some report) (tool : Tool) :
    (serve reader tool path store server).1 = .ok ("Error: " ++ report.text) := by
  have answers := @outcome_answer reader tool path source module store server serves
  simp only [failed, reported] at answers
  exact congrArg Prod.fst answers

end Answers

/-- What is all right is not said like what is wrong. -/
theorem right_ne_wrong (path message : String) : "OK: " ++ path ≠ "Error: " ++ message := by
  intro same
  have first := congrArg (·.toList.head?) same
  simp at first

section Agreeing

variable (workable : Workable reader store path source module settings level target)
  (fresh : server.cache.current = none) (rest : List String)
include workable fresh

/-- A file whose chains are expanded passes as right, and `build` writes the text that the tool
answers. -/
theorem passes_of_ok (same : (Transform.transform module .file path source).result = .ok text) :
    (CommandLine.main reader (Command.check.name :: path :: rest) store).1 = .exit (.int 0) ∧
    (serve reader .check path store server).1 = .ok ("OK: " ++ path) ∧
    (CommandLine.main reader (Command.build.name :: path :: rest) store).1 = .exit (.int 0) ∧
    (CommandLine.main reader (Command.build.name :: path :: rest) store).2.store.read target =
      .ok (Utf8.encode text) ∧
    (serve reader .build path store server).1 = .ok text := by
  have expands : CommandLine.Expands reader store path settings text :=
    ⟨level, _, workable.reaches, same⟩
  obtain ⟨after, builds, holds⟩ := workable.exists_builds text
  obtain ⟨streams, built⟩ :=
    @CommandLine.main_of_builds reader rest store after path text settings expands builds
  obtain ⟨checks, answers⟩ := serve_of_ok (workable.serves fresh) same
  refine ⟨CommandLine.main_check_iff.mpr ⟨settings, text, expands⟩, checks,
    congrArg Prod.fst built, ?_, answers⟩
  rw [show Command.build.name = "build" from rfl, built]
  exact holds

/-- A program that comes to its end and writes nothing to the error stream writes to the output
stream what the tool answers that runs it. -/
theorem prints_of_finished (text : String) (written : Program.Streams)
    (same : (Transform.transform module .file path source).result = .ok text)
    (ran : (Program.run path text).run {} = (.finished, written))
    (silent : written.err = []) :
    (CommandLine.main reader (Command.run.name :: path :: rest) store).1 = .exit (.int 0) ∧
    (CommandLine.main reader (Command.run.name :: path :: rest) store).2.streams.out = written.out ∧
    (serve reader .run path store server).1 =
      .ok (if written.out = [] then "(program produced no output)"
        else CodePoints.toText written.out) := by
  rw [CommandLine.main_of_finished workable.reaches same ran,
    serve_run (workable.serves fresh) same, ran]
  refine ⟨rfl, rfl, ?_⟩
  dsimp only
  rw [outputText_eq, if_pos silent]

/-- About a file whose expansion reports what is wrong with it, all commands and tools say the
same. -/
theorem exists_line_of_reported {fault : Fault} {report : Report}
    (failed : (Transform.transform module .file path source).result = .error fault)
    (reported : fault.report? = some report) :
    ∃ line, line ≠ "OK: " ++ path ∧
      (∀ command : Command, CommandLine.main reader (command.name :: path :: rest) store =
        (.exit (.int 1), ({ store := store } : CommandLine.Terminal).complain
          (shown level (Transform.transform module .file path source) ++ [line]))) ∧
      ∀ tool, (serve reader tool path store server).1 = .ok line :=
  ⟨"Error: " ++ report.text, (right_ne_wrong path report.text).symm,
    fun command => CommandLine.main_of_reported command workable.reaches failed reported,
    serve_of_reported (workable.serves fresh) failed reported⟩

/-- **Commands and tools agree** about every program whose expansion returns a text or reports what
is wrong with it, whichever reader makes data of the settings file, as long as the tools have not
read the settings before. `check` exits with zero exactly if its tool says that the file is all
right, and exactly if the tool that builds answers with the expanded text and `build` exits with
zero; the text of that answer is then what `build` has written. Otherwise the last line of every
command is the answer of every tool. Of a program that comes to its end and writes nothing to the
error stream, the tool answers what `run` lets it write to the output stream, unless that is
nothing. -/
theorem serve_agrees
    (reports : ∀ fault, (Transform.transform module .file path source).result = .error fault →
      ∃ report, fault.report? = some report) :
    let expansion := Transform.transform module .file path source
    let ends := fun command : Command =>
      CommandLine.main reader (command.name :: path :: rest) store
    let answer := fun tool => (serve reader tool path store server).1
    ((ends .check).1 = .exit (.int 0) ↔ answer .check = .ok ("OK: " ++ path)) ∧
    ((ends .check).1 = .exit (.int 0) ↔
      (∃ text, expansion.result = .ok text ∧ answer .build = .ok text) ∧
        (ends .build).1 = .exit (.int 0)) ∧
    ((ends .check).1 = .exit (.int 0) → ∃ text, answer .build = .ok text ∧
      (ends .build).2.store.read target = .ok (Utf8.encode text)) ∧
    ((ends .check).1 ≠ .exit (.int 0) → ∃ line,
      (∀ command, ends command = (.exit (.int 1), ({ store := store } :
        CommandLine.Terminal).complain (shown level expansion ++ [line]))) ∧
      ∀ tool, answer tool = .ok line) ∧
    ∀ text written, expansion.result = .ok text →
      (Program.run path text).run {} = (.finished, written) → written.err = [] →
        (ends .run).1 = .exit (.int 0) ∧ (ends .run).2.streams.out = written.out ∧
        answer .run = .ok (if written.out = [] then "(program produced no output)"
          else CodePoints.toText written.out) := by
  intro expansion ends answer
  have prints := prints_of_finished workable fresh rest
  cases same : (Transform.transform module .file path source).result with
  | ok text =>
    obtain ⟨zero, checks, zero', holds, answers⟩ := passes_of_ok workable fresh rest same
    rw [same] at prints
    exact ⟨iff_of_true zero checks, iff_of_true zero ⟨⟨text, rfl, answers⟩, zero'⟩,
      fun _ => ⟨text, answers, holds⟩, fun nonzero => absurd zero nonzero, prints⟩
  | error fault =>
    obtain ⟨report, reported⟩ := reports fault same
    obtain ⟨line, wrong, stops, answers⟩ :=
      exists_line_of_reported workable fresh rest same reported
    have nonzero : ∀ command, (ends command).1 ≠ .exit (.int 0) := by
      intro command zero
      rw [show ends command = _ from stops command] at zero
      simp at zero
    have unlike : answer .check ≠ .ok ("OK: " ++ path) := fun right =>
      wrong (Except.ok.inj ((answers .check).symm.trans right))
    rw [same] at prints
    exact ⟨iff_of_false (nonzero _) unlike, iff_of_false (nonzero _) fun both => nonzero _ both.2,
      fun zero => absurd zero (nonzero _), fun _ => ⟨line, stops, answers⟩, prints⟩

end Agreeing

section Sample

/-- The program `print(If(1).then(2).end())` with its import. -/
def printingMacro : String := "from ifexpr.macro import If\nprint(If(1).then(2).end())\n"

/-- A working directory with this program as its one file. -/
def printingFile : FileStore :=
  ⟨[(⟨.working, ["a.py"]⟩, .file (Utf8.encode printingMacro))]⟩

theorem workable_printingFile : Workable reader printingFile "a.py" printingMacro "ifexpr.macro"
    (.mapping Settings.defaults) 30 "a.expanded.py" := by
  obtain ⟨file, -, output, -⟩ := CommandLine.isName_samples
  have decoded : Utf8.decode (Utf8.encode printingMacro) = .ok printingMacro :=
    Transform.eq_ok_of_toOption_eq_some (by decide +kernel)
  have feeds : unifyBreaks printingMacro.toList = printingMacro.toList := by decide +kernel
  have free : printingFile.find? ⟨.working, ["a.expanded.py"]⟩ ≠ some .directory := by
    decide +kernel
  refine ⟨?_, CommandLine.load_of_missing rfl, ⟨_, rfl, by decide +kernel⟩, ⟨_, rfl, rfl⟩,
    ⟨CodePoints.ofString ".expanded.py", rfl, by decide +kernel, by decide +kernel⟩,
    ⟨_, output.target_eq free⟩⟩
  rw [file.readText_eq rfl decoded, feeds, String.ofList_toList]

/-- What the program prints once its chain is expanded. -/
theorem run_expanded : (Program.run "a.py" "print(2 if 1 else None)\n").run {} =
    (.finished, ⟨CodePoints.ofString "2\n", []⟩) := by
  have finishes : (match ((Program.run "a.py" "print(2 if 1 else None)\n").run {}).1 with
    | .finished => true
    | _ => false) = true := by decide +kernel
  have written : ((Program.run "a.py" "print(2 if 1 else None)\n").run {}).2 =
    ⟨CodePoints.ofString "2\n", []⟩ := by decide +kernel
  generalize (Program.run "a.py" "print(2 if 1 else None)\n").run {} = ran at finishes written ⊢
  obtain ⟨ending, streams⟩ := ran
  cases ending with
  | finished => exact congrArg _ written
  | raised exception => cases finishes
  | beyond => cases finishes

/-- `check` and its tool are content with the program, `build` writes what its tool answers, and
what `run` lets the program print is what the tool answers that runs it. -/
theorem serve_agrees_printingFile :
    (CommandLine.main Yaml.read ["check", "a.py"] printingFile).1 = .exit (.int 0) ∧
    (serve Yaml.read .check "a.py" printingFile {}).1 = .ok "OK: a.py" ∧
    (serve Yaml.read .build "a.py" printingFile {}).1 = .ok "print(2 if 1 else None)\n" ∧
    (CommandLine.main Yaml.read ["build", "a.py"] printingFile).2.store.read "a.expanded.py" =
      .ok (Utf8.encode "print(2 if 1 else None)\n") ∧
    (CommandLine.main Yaml.read ["run", "a.py"] printingFile).2.streams.out =
      CodePoints.ofString "2\n" ∧
    (serve Yaml.read .run "a.py" printingFile {}).1 = .ok "2\n" := by
  have evaluated : Transform.textOf? "ifexpr.macro" .file "a.py" printingMacro =
    some "print(2 if 1 else None)" := by decide +kernel
  have result := Transform.transform_of_textOf? (by decide_cbv) evaluated
  have reports : ∀ fault, (Transform.transform "ifexpr.macro" .file "a.py" printingMacro).result =
      .error fault → ∃ report, fault.report? = some report := by
    intro fault failed
    rw [result] at failed
    cases failed
  obtain ⟨checks, builds, writes, -, runs⟩ :=
    @serve_agrees Yaml.read "a.py" printingMacro "ifexpr.macro" "a.expanded.py" printingFile
      (.mapping Settings.defaults) 30 {} workable_printingFile rfl [] reports
  have zero : (CommandLine.main Yaml.read ["check", "a.py"] printingFile).1 = .exit (.int 0) :=
    CommandLine.main_check_iff.mpr ⟨_, _, 30, _, workable_printingFile.reaches, result⟩
  obtain ⟨text, same, answers⟩ := (builds.mp zero).1
  obtain rfl := Except.ok.inj (result.symm.trans same)
  obtain ⟨text', answers', writes⟩ := writes zero
  obtain rfl := Except.ok.inj (answers.symm.trans answers')
  obtain ⟨-, prints, answered⟩ := runs _ _ result run_expanded rfl
  refine ⟨zero, checks.mp zero, answers, writes, prints, answered.trans ?_⟩
  have spelled : (if CodePoints.ofString "2\n" = [] then "(program produced no output)"
    else CodePoints.toText (CodePoints.ofString "2\n")) = "2\n" := by decide +kernel
  rw [spelled]

end Sample

end Tools

end IfChains
