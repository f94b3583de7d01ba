/-
**The command line.**

`check` expands the chains of a file and says whether that succeeds, `build` writes the expanded
text beside the file, and `run` runs it. A report of what is wrong with the program, or with the way
the command is given, goes to the error stream, and the exit code is one. Remarks go there too if
the settings ask for them. Only `build` writes a file, and only as its last step.

* `perform`: what a command does with a file;
* `main`: how the command of some arguments ends, and what it leaves behind. The settings are read
  by a reader that is given.
-/

import IfChains.Failure
import IfChains.Program.Run

namespace IfChains

namespace CommandLine

/-- The commands. -/
inductive Command
  | run | build | check
deriving DecidableEq, Repr

namespace Command

/-- The commands in the order in which they are listed. -/
def all : List Command :=
  [run, build, check]

/-- The name of a command. -/
def name : Command → String
  | run => "run"
  | build => "build"
  | check => "check"

/-- The command of a name. -/
def ofName? (name : String) : Option Command :=
  all.find? fun command => command.name == name

end Command

/-- What a command works on: the files, and what has been written to the streams. -/
structure Terminal where
  store : FileStore
  streams : Program.Streams := {}
deriving Repr

/-- How a command ends. -/
inductive Finish
  | exit (code : Program.Value)
  | failed (failure : Failure)
deriving Repr

/-- A step of a command. -/
abbrev Task := ExceptT Finish (StateM Terminal)

section Steps

/-- Writes a line to a stream. -/
def writeLine (channel : Program.Channel) (line : String) : Task Unit :=
  modify fun terminal =>
    { terminal with streams := terminal.streams.write channel (.ofString (line ++ "\n")) }

/-- Ends with lines on the error stream. -/
def refuse {α : Type} (lines : List String) : Task α := do
  lines.forM (writeLine .err)
  throw (.exit (.int 1))

/-- Goes on with a result, unless it is a failure. -/
def orFail {ε α : Type} (failure : ε → Failure) (result : Except ε α) : Task α :=
  match result with
  | .ok value => return value
  | .error fault => throw (.failed (failure fault))

/-- Lets a program write to the streams. -/
def runProgram (path text : String) : Task Program.Ending := do
  let terminal ← get
  let (ending, streams) := (Program.run path text).run terminal.streams
  set { terminal with streams := streams }
  return ending

end Steps

section Commands

/-- Writes expanded text beside a file. -/
def build (path text : String) (settings : Data) : Task Unit := do
  let suffix ← orFail .lookup (settings.lookUpIn "build" "output_suffix")
  match suffix with
  | .scalar (.text suffix) =>
    let stem := CodePoints.ofString (Path.output path "")
    if let some halves := Utf8.unspelled? (stem ++ suffix) then throw (.failed (.halves halves))
    let target := Path.output path (CodePoints.toText suffix)
    let terminal ← get
    let store ← orFail .file (terminal.store.writeText target text)
    set { terminal with store := store }
    writeLine .out ("Built: " ++ target)
  | value => throw (.failed (.suffix value.typeName))

/-- Runs expanded text. -/
def run (path text : String) : Task Unit := do
  match ← runProgram path text with
  | .finished => return
  | .beyond => throw (.failed .beyond)
  | .raised exception =>
    match exception.exitCode? with
    | some code => throw (.exit code)
    | none => throw (.failed (.program exception))

/-- Expands the chains of a file and does with the text what a command says. -/
def perform (reader : Settings.Reader) (command : Command) (path : String) : Task Unit := do
  let store := (← get).store
  if !store.hasPath path then refuse ["Error: file not found: " ++ path]
  let source ← orFail .ofRead (store.readText path)
  let settings ← orFail .ofSettings (Settings.load reader store none)
  let level ← orFail .level
    (LogLevel.ofData (← orFail .lookup (settings.lookUpIn "logging" "level")))
  let outcome ← orFail .lookup (Transform.underSettings settings .file path source)
  if LogLevel.showsRemarks level then
    outcome.remarks.forM fun remark => writeLine .err remark.line
  match outcome.result with
  | .error fault =>
    match fault.report? with
    | some report => refuse ["Error: " ++ report.text]
    | none => throw (.failed (.expansion fault))
  | .ok text =>
    match command with
    | .check => writeLine .out ("OK: " ++ path)
    | .build => build path text settings
    | .run => run path text

/-- Does what the arguments say. -/
def interpret (reader : Settings.Reader) : List String → Task Unit
  | [] => refuse ["Usage: ifexpr <command> [file.py]",
      "Commands: " ++ ", ".intercalate (Command.all.map Command.name)]
  | name :: arguments =>
    match Command.ofName? name, arguments with
    | none, _ => refuse ["Unknown command: " ++ name]
    | some command, [] => refuse ["Usage: ifexpr " ++ command.name ++ " <file.py>"]
    | some command, path :: _ => perform reader command path

/-- How the command of some arguments ends, and what it leaves behind. -/
def main (reader : Settings.Reader) (arguments : List String) (store : FileStore) :
    Finish × Terminal :=
  let (result, terminal) := (interpret reader arguments).run { store := store }
  (match result with
    | .ok _ => .exit (.int 0)
    | .error finish => finish, terminal)

end Commands

end CommandLine

end IfChains
