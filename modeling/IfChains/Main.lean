/-
**The program.**

It loads the files that the arguments and the settings are about, lets the command line work on
them, writes the files that have changed, and shows what was written to the streams. Settings are
read as YAML.
-/

import IfChains.CommandLine
import IfChains.Yaml.Value

namespace IfChains

/-- Loads a file into a store, if it is there. -/
def loadFile (store : FileStore) (path : String) : IO FileStore := do
  let place := FilePlace.ofPath path
  try
    let content ← IO.FS.readBinFile path
    return store.addFile place content.toList
  catch
    | .inappropriateType _ 21 _ => return store.addDirectories place
    | _ => return store

/-- Writes the files that are not in a store as they are in another one. -/
def writeChanges (old new : FileStore) : IO Unit := do
  for (place, content) in new.files do
    if old.find? place != some (.file content) then
      IO.FS.writeBinFile place.path (ByteArray.mk content.toArray)

/-- Shows why a command failed, and returns the exit code. -/
def exitCode : CommandLine.Finish → IO UInt32
  | .exit .none => return 0
  | .exit (.int code) => return UInt32.ofNat (code % 256).toNat
  | .exit code => do
    IO.eprintln (CodePoints.toText (code.text?.getD []))
    return 1
  | .failed failure => do
    IO.eprintln (failure.message?.getD "The settings are malformed.")
    return 1

end IfChains

open IfChains in
/-- Runs the command that the arguments give. -/
def main (arguments : List String) : IO UInt32 := do
  let paths := Settings.fileName :: (arguments.drop 1).take 1
  let store ← paths.foldlM loadFile {}
  let (finish, terminal) := CommandLine.main Yaml.read arguments store
  writeChanges store terminal.store
  IO.print (CodePoints.toText terminal.streams.out)
  IO.eprint (CodePoints.toText terminal.streams.err)
  exitCode finish
