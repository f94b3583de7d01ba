/-
**What a command leaves behind.**

A command that is given some arguments is refused, fails, or comes to its end. Files are changed in
the last case only, by `build`, which writes the text of the expansion into one file. What is wrong
with the arguments or with the program is said on the error stream.

* `main_of_refused`: how a command exits that is refused;
* `main_store`: a file is written by `build` alone;
* `main_check_iff`, `main_build_iff`: when `check` and `build` exit with zero;
* `main_finished`: how commands finish, and what they leave behind.
-/

import IfChains.Proofs.CommandLine.Performing
import IfChains.Proofs.Files.Writing
import IfChains.Proofs.Transform.Results
import IfChains.Yaml.Value

namespace IfChains

namespace CommandLine

open Steps

section Arguments

/-- A command by its name. -/
theorem Command.name_of_ofName? {name : String} {command : Command}
    (known : Command.ofName? name = some command) : name = command.name := by
  have same := List.find?_some known
  exact (beq_iff_eq.mp same).symm

/-- The ways in which a command is refused. -/
inductive Refused (reader : Settings.Reader) (store : FileStore) : List String → Prop
  /-- There are no arguments. -/
  | nothing : Refused reader store []
  | unknown {name : String} {rest : List String} (unknown : Command.ofName? name = none) :
    Refused reader store (name :: rest)
  /-- There is no file. -/
  | alone (command : Command) : Refused reader store [command.name]
  | missing (command : Command) {path : String} (rest : List String)
    (missing : store.hasPath path = false) : Refused reader store (command.name :: path :: rest)
  /-- The expansion reports what is wrong with the program. -/
  | reported (command : Command) {path : String} (rest : List String) {settings : Data}
    {level : Int} {expansion : Outcome} {fault : Fault} {report : Report}
    (reaches : Reaches reader store path settings level expansion)
    (failed : expansion.result = .error fault) (reported : fault.report? = some report) :
    Refused reader store (command.name :: path :: rest)

variable {reader : Settings.Reader} {arguments rest : List String} {store after : FileStore}
  {terminal : Terminal} {path text : String} {settings : Data} {level : Int} {expansion : Outcome}

/-- A command that comes to its end exits with zero. -/
theorem main_of_ok
    (ended : outcome (interpret reader arguments) { store := store } = (.ok (), terminal)) :
    main reader arguments store = (.exit (.int 0), terminal) := by
  have ran : (interpret reader arguments).run { store := store } = (.ok (), terminal) := ended
  unfold main
  rw [ran]

/-- A command that stops finishes as it says. -/
theorem main_of_error {finish : Finish}
    (stopped :
      outcome (interpret reader arguments) { store := store } = (.error finish, terminal)) :
    main reader arguments store = (finish, terminal) := by
  have ran : (interpret reader arguments).run { store := store } = (.error finish, terminal) :=
    stopped
  unfold main
  rw [ran]

/-- A name that is no command is refused. -/
theorem interpret_unknown {name : String} (unknown : Command.ofName? name = none) :
    interpret reader (name :: rest) = refuse ["Unknown command: " ++ name] := by
  simp only [interpret, unknown]

/-- A command without the path of a file is refused. -/
theorem interpret_alone (command : Command) :
    interpret reader [command.name] =
      refuse ["Usage: ifexpr " ++ command.name ++ " <file.py>"] := by
  cases command <;> rfl

/-- A command with the path of a file is performed. -/
theorem interpret_command (command : Command) :
    interpret reader (command.name :: path :: rest) = perform reader command path := by
  cases command <;> rfl

/-- From where the chains are expanded, a command shows the remarks and goes on with what the
expansion has come to. -/
theorem outcome_interpret (command : Command)
    (reaches : Reaches reader store path settings level expansion) :
    outcome (interpret reader (command.name :: path :: rest)) { store := store } =
      outcome (conclude command path settings expansion)
        (({ store := store } : Terminal).complain (shown level expansion)) := by
  rw [interpret_command]
  exact @outcome_perform reader command path { store := store } settings level expansion reaches

/-- What a command leaves behind when the expansion reports what is wrong with the program: the
report is the last line on the error stream. -/
theorem main_of_reported (command : Command) {fault : Fault} {report : Report}
    (reaches : Reaches reader store path settings level expansion)
    (failed : expansion.result = .error fault) (reported : fault.report? = some report) :
    main reader (command.name :: path :: rest) store = (.exit (.int 1), ({ store := store } :
      Terminal).complain (shown level expansion ++ ["Error: " ++ report.text])) := by
  refine main_of_error ?_
  rw [outcome_interpret command reaches, outcome_conclude_reported failed reported,
    Terminal.complain_complain]

/-- Arguments are refused as such, or are a command with the path of a file. -/
theorem refused_or_command (reader : Settings.Reader) (arguments : List String)
    (store : FileStore) : Refused reader store arguments ∨
    ∃ (command : Command) (path : String) (rest : List String),
      arguments = command.name :: path :: rest := by
  match arguments with
  | [] => exact Or.inl .nothing
  | name :: rest =>
    cases known : Command.ofName? name with
    | none => exact Or.inl (.unknown known)
    | some command =>
      obtain rfl := Command.name_of_ofName? known
      match rest with
      | [] => exact Or.inl (.alone command)
      | path :: rest => exact Or.inr ⟨command, path, rest, rfl⟩

/-- **Who is refused** exits with one after a message on the error stream; nothing is written to the
output stream, and no file is changed. -/
theorem main_of_refused (refused : Refused reader store arguments) :
    ∃ lines, lines ≠ [] ∧ main reader arguments store =
      (.exit (.int 1), ({ store := store } : Terminal).complain lines) := by
  cases refused with
  | nothing => exact ⟨_, List.cons_ne_nil _ _, main_of_error outcome_refuse⟩
  | unknown unknown =>
    exact ⟨_, List.cons_ne_nil _ _, main_of_error (interpret_unknown unknown ▸ outcome_refuse)⟩
  | alone command =>
    exact ⟨_, List.cons_ne_nil _ _, main_of_error (interpret_alone command ▸ outcome_refuse)⟩
  | @missing command path rest missing =>
    refine ⟨["Error: file not found: " ++ path], List.cons_ne_nil _ _, main_of_error ?_⟩
    rw [interpret_command]
    exact outcome_perform_missing missing
  | @reported command path rest settings level expansion fault report reaches failed reported =>
    exact ⟨_, List.append_ne_nil_of_right_ne_nil _ (List.cons_ne_nil _ _),
      main_of_reported command reaches failed reported⟩

/-- What a command does with an expansion changes the files only if it builds: then the text of the
expansion is written. -/
theorem conclude_store (command : Command) (path : String) (settings : Data) (expansion : Outcome)
    (terminal : Terminal) :
    (outcome (conclude command path settings expansion) terminal).2.store = terminal.store ∨
      command = .build ∧ ∃ text, expansion.result = .ok text ∧ Builds terminal.store path settings
        text (outcome (conclude command path settings expansion) terminal).2.store := by
  cases same : expansion.result with
  | error fault =>
    obtain ⟨finish, after, stopped, -, kept⟩ := @conclude_error command path terminal _ _ _ same
    exact Or.inl ((congrArg (·.2.store) stopped).trans kept)
  | ok text =>
    rw [conclude_ok same]
    cases command with
    | check => exact Or.inl rfl
    | run =>
      dsimp only
      exact Or.inl (run_store path text terminal)
    | build =>
      dsimp only
      rcases build_cases path text settings terminal with ⟨failure, failed⟩ | ⟨after, builds⟩
      · rw [failed]
        exact Or.inl rfl
      · obtain ⟨streams, built⟩ := outcome_build builds
        rw [built]
        exact Or.inr ⟨rfl, text, rfl, builds⟩

/-- **A file is written only by a command that builds**, after the chains of its file have been
expanded. -/
theorem main_store (reader : Settings.Reader) (arguments : List String) (store : FileStore) :
    (main reader arguments store).2.store = store ∨
      ∃ path rest settings text, arguments = "build" :: path :: rest ∧
        Expands reader store path settings text ∧
        Builds store path settings text (main reader arguments store).2.store := by
  rcases refused_or_command reader arguments store with refused | ⟨command, path, rest, rfl⟩
  · obtain ⟨lines, -, same⟩ := main_of_refused refused
    exact Or.inl (congrArg (·.2.store) same)
  have left : (main reader (command.name :: path :: rest) store).2 =
      (outcome (perform reader command path) { store := store }).2 := by
    rw [← @interpret_command reader rest path command]
    rfl
  rw [left]
  rcases perform_cases reader command path { store := store } with
    ⟨-, stopped⟩ | ⟨failure, stopped⟩ | ⟨settings, level, expansion, reaches⟩
  · exact Or.inl (congrArg (·.2.store) stopped)
  · exact Or.inl (congrArg (·.2.store) stopped)
  · rw [outcome_perform reaches]
    rcases conclude_store command path settings expansion _ with kept | ⟨rfl, text, same, builds⟩
    · exact Or.inl kept
    · exact Or.inr ⟨path, rest, settings, text, rfl, ⟨level, expansion, reaches, same⟩, builds⟩

/-- A command with a file that exits with zero has expanded the chains of the file. -/
theorem exists_expands (command : Command)
    (zero : (main reader (command.name :: path :: rest) store).1 = .exit (.int 0)) :
    ∃ settings text, Expands reader store path settings text := by
  rcases perform_cases reader command path { store := store } with
    ⟨-, stopped⟩ | ⟨failure, stopped⟩ | ⟨settings, level, expansion, reaches⟩
  · rw [main_of_error (interpret_command command ▸ stopped)] at zero
    simp at zero
  · rw [main_of_error (interpret_command command ▸ stopped)] at zero
    simp at zero
  · cases same : expansion.result with
    | ok text => exact ⟨settings, text, level, expansion, reaches, same⟩
    | error fault =>
      obtain ⟨finish, after, stopped, nonzero, -⟩ := conclude_error same
      rw [main_of_error ((outcome_interpret command reaches).trans stopped)] at zero
      exact absurd zero nonzero

/-- **When `check` exits with zero**: exactly if the chains of the file are expanded. -/
theorem main_check_iff : (main reader ("check" :: path :: rest) store).1 = .exit (.int 0) ↔
    ∃ settings text, Expands reader store path settings text := by
  refine ⟨exists_expands .check, ?_⟩
  rintro ⟨settings, text, level, expansion, reaches, same⟩
  have ended := @outcome_interpret reader rest store path settings level expansion .check reaches
  rw [conclude_ok same] at ended
  exact congrArg Prod.fst (main_of_ok ended)

/-- A command that expands the chains of its file and writes the text exits with zero. -/
theorem main_of_builds (expands : Expands reader store path settings text)
    (builds : Builds store path settings text after) :
    ∃ streams,
      main reader ("build" :: path :: rest) store = (.exit (.int 0), ⟨after, streams⟩) := by
  obtain ⟨level, expansion, reaches, same⟩ := expands
  have ended := @outcome_interpret reader rest store path settings level expansion .build reaches
  rw [conclude_ok same] at ended
  obtain ⟨streams, built⟩ := @outcome_build path text (({ store := store } : Terminal).complain
    (shown level expansion)) settings after builds
  exact ⟨streams, main_of_ok (ended.trans built)⟩

/-- **When `build` exits with zero**: exactly if the chains of the file are expanded and the text is
written. -/
theorem main_build_iff : (main reader ("build" :: path :: rest) store).1 = .exit (.int 0) ↔
    ∃ settings text after, Expands reader store path settings text ∧
      Builds store path settings text after := by
  constructor
  · intro zero
    obtain ⟨settings, text, level, expansion, reaches, same⟩ := exists_expands .build zero
    have ended := @outcome_interpret reader rest store path settings level expansion .build reaches
    rw [conclude_ok same] at ended
    rcases build_cases path text settings (({ store := store } : Terminal).complain
      (shown level expansion)) with ⟨failure, failed⟩ | ⟨after, builds⟩
    · rw [show "build" = Command.build.name from rfl, main_of_error (ended.trans failed)] at zero
      simp at zero
    · exact ⟨settings, text, after, ⟨level, expansion, reaches, same⟩, builds⟩
  · rintro ⟨settings, text, after, expands, builds⟩
    obtain ⟨streams, same⟩ :=
      @main_of_builds reader rest store after path text settings expands builds
    rw [same]

/-- What a command that builds has written: the text at the one place to which the output path
leads. -/
theorem Builds.exists_place (builds : Builds store path settings text after) :
    ∃ suffix place, settings.lookUpIn "build" "output_suffix" = .ok (.scalar (.text suffix)) ∧
      store.target (Path.output path (CodePoints.toText suffix)) = .ok place ∧
      after.read (Path.output path (CodePoints.toText suffix)) = .ok (Utf8.encode text) ∧
      after.find? place = some (.file (Utf8.encode text)) ∧
      ∀ other, other ≠ place → after.find? other = store.find? other := by
  obtain ⟨suffix, looked, -, written⟩ := builds
  obtain ⟨place, found, rfl⟩ := FileStore.write_cases written
  refine ⟨suffix, place, looked, found, FileStore.read_write written, ?_,
    fun other different => ?_⟩
  · exact store.find?_set_same place _ (FileStore.components_ne_nil_of_target found)
  · exact store.find?_set_other place other _ different

end Arguments

section Sample

variable {reader : Settings.Reader} {store : FileStore}

/-- The program `If(b).end()` with its import. -/
def importingMacro : String := "from ifexpr.macro import If\nIf(b).end()\n"

/-- A working directory with one file. -/
def singleFile : FileStore :=
  ⟨[(⟨.working, ["a.py"]⟩, .file (Utf8.encode importingMacro))]⟩

theorem isName_samples : FileStore.IsName "a.py" ∧ FileStore.IsName "b.py" ∧
    FileStore.IsName "a.expanded.py" ∧ FileStore.IsName "ifexpr.config" :=
  ⟨⟨by decide +kernel, by decide, by decide, by decide, by decide⟩,
    ⟨by decide +kernel, by decide, by decide, by decide, by decide⟩,
    ⟨by decide +kernel, by decide, by decide, by decide, by decide⟩,
    ⟨by decide +kernel, by decide, by decide, by decide, by decide⟩⟩

/-- The settings of a directory without a settings file are the defaults. -/
theorem load_of_missing (missing : store.find? ⟨.working, ["ifexpr.config"]⟩ = none) :
    Settings.load reader store none = .ok (.mapping Settings.defaults) := by
  obtain ⟨-, -, -, settings⟩ := isName_samples
  have absent : store.hasPath "ifexpr.config" = false := by
    rw [settings.hasPath_eq, missing]
    rfl
  exact if_neg (Bool.eq_false_iff.mp absent)

set_option maxRecDepth 10000 in
/-- The chain of a program in a file is expanded under the settings that count without a settings
file. -/
theorem expands_singleFile :
    Expands reader singleFile "a.py" (.mapping Settings.defaults) "None if b else None\n" := by
  obtain ⟨file, -, -, -⟩ := isName_samples
  have evaluated : Transform.textOf? "ifexpr.macro" .file "a.py" importingMacro =
    some "None if b else None" := by decide +kernel
  have result := Transform.transform_of_textOf? (by decide_cbv) evaluated
  refine ⟨30, Transform.transform "ifexpr.macro" .file "a.py" importingMacro, ⟨?_, ?_, ?_, ?_⟩,
    result⟩
  · rw [file.hasPath_eq]
    rfl
  · exact load_of_missing rfl
  · exact ⟨.scalar (.text (CodePoints.ofString "WARNING")), rfl, rfl⟩
  · refine ⟨importingMacro, ?_, ?_⟩
    · have decoded : Utf8.decode (Utf8.encode importingMacro) = .ok importingMacro :=
        Transform.eq_ok_of_toOption_eq_some (by decide +kernel)
      have feeds : unifyBreaks importingMacro.toList = importingMacro.toList := by decide +kernel
      rw [file.readText_eq rfl decoded, feeds, String.ofList_toList]
    · have named : (Data.mapping Settings.defaults).macroModule = .ok "ifexpr.macro" :=
        Transform.eq_ok_of_toOption_eq_some (by decide +kernel)
      rw [Transform.underSettings, named]
      rfl

/-- The text of the program is written to the output path of its file. -/
theorem builds_singleFile : ∃ after, Builds singleFile "a.py" (.mapping Settings.defaults)
    "None if b else None\n" after ∧
      after.read "a.expanded.py" = .ok (Utf8.encode "None if b else None\n") := by
  obtain ⟨-, -, output, -⟩ := isName_samples
  have free : singleFile.find? ⟨.working, ["a.expanded.py"]⟩ ≠ some .directory := by decide +kernel
  have same : Path.output "a.py" (CodePoints.toText (CodePoints.ofString ".expanded.py")) =
    "a.expanded.py" := by decide +kernel
  have written : singleFile.writeText "a.expanded.py" "None if b else None\n" =
      .ok (singleFile.set ⟨.working, ["a.expanded.py"]⟩
        (.file (Utf8.encode "None if b else None\n"))) := by
    rw [FileStore.writeText, FileStore.write, output.target_eq free]
  refine ⟨_, ⟨CodePoints.ofString ".expanded.py", rfl, by decide +kernel, ?_⟩,
    FileStore.read_write written⟩
  rw [same]
  exact written

end Sample

section Finishing

/-- **How commands finish, and what they leave behind**, whichever reader makes data of the settings
file. Either all files are as before, or the command builds, the chains of its file were expanded
under settings whose level is one, and the one file to which the output path leads has become the
text of the expansion. `check` exits with zero exactly if the chains are expanded, and `build`
exactly if the text is then written. Who is refused exits with one, after a message on the error
stream and none on the output stream. -/
theorem main_finished (reader : Settings.Reader) (arguments : List String) (store : FileStore) :
    ((main reader arguments store).2.store = store ∨
      ∃ path rest settings text suffix place, arguments = "build" :: path :: rest ∧
        Expands reader store path settings text ∧
        settings.lookUpIn "build" "output_suffix" = .ok (.scalar (.text suffix)) ∧
        store.target (Path.output path (CodePoints.toText suffix)) = .ok place ∧
        (main reader arguments store).2.store.read (Path.output path (CodePoints.toText suffix)) =
          .ok (Utf8.encode text) ∧
        (main reader arguments store).2.store.find? place = some (.file (Utf8.encode text)) ∧
        ∀ other, other ≠ place →
          (main reader arguments store).2.store.find? other = store.find? other) ∧
    (∀ path rest, arguments = "check" :: path :: rest →
      ((main reader arguments store).1 = .exit (.int 0) ↔
        ∃ settings text, Expands reader store path settings text)) ∧
    (∀ path rest, arguments = "build" :: path :: rest →
      ((main reader arguments store).1 = .exit (.int 0) ↔
        ∃ settings text after, Expands reader store path settings text ∧
          Builds store path settings text after) ∧
      ∀ settings text after, Expands reader store path settings text →
        Builds store path settings text after → (main reader arguments store).2.store = after) ∧
    (Refused reader store arguments → (main reader arguments store).1 = .exit (.int 1) ∧
      (main reader arguments store).2.streams.err ≠ [] ∧
      (main reader arguments store).2.streams.out = []) := by
  refine ⟨?_, ?_, ?_, ?_⟩
  · rcases main_store reader arguments store with
      kept | ⟨path, rest, settings, text, same, expands, builds⟩
    · exact Or.inl kept
    · obtain ⟨suffix, place, written⟩ := builds.exists_place
      exact Or.inr ⟨path, rest, settings, text, suffix, place, same, expands, written⟩
  · rintro path rest rfl
    exact main_check_iff
  · rintro path rest rfl
    refine ⟨main_build_iff, fun settings text after expands builds => ?_⟩
    obtain ⟨streams, same⟩ :=
      @main_of_builds reader rest store after path text settings expands builds
    rw [same]
  · intro refused
    obtain ⟨lines, some, same⟩ := main_of_refused refused
    rw [same]
    exact ⟨rfl, Terminal.complain_err_ne_nil some, rfl⟩

/-- `check` and `build` exit with zero for the program, `build` writes its text, and a file that is
not there is refused. The settings would be read as YAML. -/
theorem main_finished_singleFile :
    (main Yaml.read ["check", "a.py"] singleFile).1 = .exit (.int 0) ∧
    (main Yaml.read ["build", "a.py"] singleFile).1 = .exit (.int 0) ∧
    (main Yaml.read ["build", "a.py"] singleFile).2.store.read "a.expanded.py" =
      .ok (Utf8.encode "None if b else None\n") ∧
    (main Yaml.read ["check", "b.py"] singleFile).1 = .exit (.int 1) := by
  obtain ⟨after, builds, written⟩ := builds_singleFile
  have build := (main_finished Yaml.read ["build", "a.py"] singleFile).2.2.1 "a.py" [] rfl
  refine ⟨?_, ?_, ?_, ?_⟩
  · exact ((main_finished Yaml.read ["check", "a.py"] singleFile).2.1 "a.py" [] rfl).mpr
      ⟨_, _, expands_singleFile⟩
  · exact build.1.mpr ⟨_, _, after, expands_singleFile, builds⟩
  · rw [build.2 _ _ _ expands_singleFile builds]
    exact written
  · obtain ⟨-, missing, -, -⟩ := isName_samples
    refine ((main_finished Yaml.read ["check", "b.py"] singleFile).2.2.2 (.missing .check [] ?_)).1
    rw [missing.hasPath_eq]
    rfl

end Finishing

end CommandLine

end IfChains
