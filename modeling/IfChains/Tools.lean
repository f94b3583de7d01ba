/-
**Tools for assistants.**

The tools do what the commands do, and answer with a text: `check` says that a file is all right,
`build` returns the expanded text, and `run` returns what the program writes. What is wrong with a
file or a program is part of the answer. The settings are read once, by a reader that is given, and
then count for all answers.

* `capture_streams`: running a program leaves the streams what they were.
-/

import IfChains.Failure
import IfChains.Program.Run

namespace IfChains

namespace Tools

/-- The tools. -/
inductive Tool
  | check | build | run
deriving DecidableEq, Repr

/-- What outlives an answer: the settings, and what has been written to the streams. -/
structure Server where
  cache : SettingsCache := {}
  streams : Program.Streams := {}
deriving Repr

/-- A step towards an answer. -/
abbrev Serving := ExceptT Failure (StateM Server)

section Expanding

/-- A text, or an answer that says why there is none. -/
abbrev TextOrAnswer := Except String String

/-- The source of a file. -/
def sourceOf (store : FileStore) (path : String) : Serving TextOrAnswer :=
  match store.readText path with
  | .ok source => return .ok source
  | .error (.file fault) =>
    match fault.reason with
    | .missing => return .error ("Error: file not found: " ++ path)
    | .nullCharacter => throw (.file fault)
    | _ => return .error ("Error reading file: " ++ fault.message)
  | .error (.bytes fault) => throw (.bytes fault)

/-- The settings, which are read if they have not been. -/
def settings (reader : Settings.Reader) (store : FileStore) : Serving Data := do
  let server ← get
  let (result, cache) := server.cache.get reader store none
  set { server with cache := cache }
  match result with
  | .ok snapshot => return snapshot.value
  | .error fault => throw (.ofSettings fault)

/-- The text of a program with its chains expanded. -/
def expandText (reader : Settings.Reader) (store : FileStore) (path source : String) :
    Serving TextOrAnswer := do
  match Transform.underSettings (← settings reader store) .file path source with
  | .error fault => throw (.lookup fault)
  | .ok outcome =>
    match outcome.result with
    | .ok text => return .ok text
    | .error fault =>
      match fault.report? with
      | some report => return .error ("Error: " ++ report.text)
      | none => throw (.expansion fault)

/-- The text of a file with its chains expanded. -/
def expandFile (reader : Settings.Reader) (store : FileStore) (path : String) :
    Serving TextOrAnswer := do
  match ← sourceOf store path with
  | .ok source => expandText reader store path source
  | .error answer => return .error answer

end Expanding

section Running

/-- Runs a program with streams of its own. -/
def capture (program : StateM Program.Streams Program.Ending) :
    Serving (Program.Ending × Program.Streams) := do
  let server ← get
  let (result, streams) := (Program.Streams.capture program).run server.streams
  set { server with streams := streams }
  return result

/-- Running a program leaves the streams what they were. -/
theorem capture_streams (program : StateM Program.Streams Program.Ending) (server : Server) :
    ((capture program).run server).2.streams = server.streams :=
  Program.Streams.capture_restores program server.streams

/-- The answer about a program that has run to its end. -/
def outputText (written : Program.Streams) : String :=
  let errors := if written.err.isEmpty then []
    else CodePoints.ofString "\n[stderr]: " ++ written.err
  let output := written.out ++ errors
  if output.isEmpty then "(program produced no output)" else CodePoints.toText output

/-- The answer about a program that has run. -/
def runText (path text : String) : Serving String := do
  match ← capture (Program.run path text) with
  | (.finished, written) => return outputText written
  | (.beyond, _) => throw .beyond
  | (.raised exception, written) =>
    match exception.exitCode? with
    | some _ => throw (.program exception)
    | none =>
      return CodePoints.toText written.out ++ "Error during execution: " ++
        exception.kind.name ++ ": " ++ exception.message

end Running

/-- The answer of a tool about a file. -/
def answer (reader : Settings.Reader) (tool : Tool) (store : FileStore) (path : String) :
    Serving String := do
  match ← expandFile reader store path with
  | .error answer => return answer
  | .ok text =>
    match tool with
    | .check => return "OK: " ++ path
    | .build => return text
    | .run => runText path text

/-- Answers, and keeps what outlives the answer. -/
def serve (reader : Settings.Reader) (tool : Tool) (path : String) (store : FileStore)
    (server : Server) : Except Failure String × Server :=
  (answer reader tool store path).run server

end Tools

end IfChains
