/-
**Settings, read once.**

The settings of a directory are those of its settings file, merged into the defaults. A reader that
is given makes data of the text of the file. What has been read once counts until it is forgotten,
whatever becomes of the file; a file that cannot be read leaves nothing behind.

* `Reader`: what makes data of the text of a settings file;
* `SettingsCache.get`: the settings that count, which are read if they have not been;
* `SettingsCache.get_error`: a failure leaves everything as it was.
-/

import IfChains.Data.Merge
import IfChains.Files.Store
import IfChains.Yaml.Fault

namespace IfChains

/-- Why settings cannot be read. -/
inductive SettingsFault
  | unreadable (fault : ReadFault)
  | malformed (fault : YamlFault)
deriving DecidableEq, Repr

namespace Settings

/-- What makes data of the text of a settings file, or says why it cannot. -/
abbrev Reader := String → Except YamlFault Data

/-- The name of a settings file. -/
def fileName : String := "ifexpr.config"

/-- The settings that count when a file does not say otherwise. -/
def defaults : Mapping :=
  [(.ofString "macro", .mapping [(.ofString "module", .text "ifexpr.macro")]),
    (.ofString "build", .mapping [(.ofString "output_suffix", .text ".expanded.py")]),
    (.ofString "logging", .mapping [(.ofString "level", .text "WARNING")])]

/-- The defaults with what overrides them; only a mapping does. -/
def overDefaults : Data → Data
  | .mapping entries => .mapping (Data.mergeEntries defaults entries)
  | _ => .mapping defaults

/-- The path of the settings file of a directory. -/
def pathIn : Option String → String
  | some directory => Path.join directory fileName
  | none => fileName

/-- A fault of the bytes of a settings file. The file is read piece by piece, so a character that
its end cuts off is told by its own bytes. -/
def unreadable : ReadFault → SettingsFault
  | .bytes ⟨.truncated, first, past, byte⟩ =>
    .unreadable (.bytes ⟨.truncated, 0, past - first, byte⟩)
  | fault => .unreadable fault

/-- Reads the settings of a directory. -/
def load (reader : Reader) (store : FileStore) (directory : Option String) :
    Except SettingsFault Data :=
  let path := pathIn directory
  if store.hasPath path then
    match store.readText path with
    | .error fault => .error (unreadable fault)
    | .ok text =>
      match reader text with
      | .error fault => .error (.malformed fault)
      | .ok data => .ok (overDefaults data)
  else .ok (.mapping defaults)

end Settings

/-- Settings that have been read, with the number of the reading. -/
structure Snapshot where
  reading : Nat
  value : Data
deriving Repr

/-- The settings that count now, if they have been read, and the number of readings. -/
structure SettingsCache where
  current : Option Snapshot := none
  readings : Nat := 0
deriving Repr

namespace SettingsCache

/-- The settings that count, which are read if they have not been. -/
def get (cache : SettingsCache) (reader : Settings.Reader) (store : FileStore)
    (directory : Option String) : Except SettingsFault Snapshot × SettingsCache :=
  match cache.current with
  | some snapshot => (.ok snapshot, cache)
  | none =>
    match Settings.load reader store directory with
    | .error fault => (.error fault, cache)
    | .ok value =>
      let snapshot : Snapshot := ⟨cache.readings, value⟩
      (.ok snapshot, ⟨some snapshot, cache.readings + 1⟩)

/-- Forgets the settings. -/
def reset (cache : SettingsCache) : SettingsCache :=
  { cache with current := none }

/-- A failure leaves everything as it was. -/
theorem get_error (cache : SettingsCache) (reader : Settings.Reader) (store : FileStore)
    (directory : Option String) (fault : SettingsFault)
    (failed : (cache.get reader store directory).1 = .error fault) :
    (cache.get reader store directory).2 = cache := by
  unfold get at failed ⊢
  split at failed
  · simp at failed
  · split at failed <;> simp_all

end SettingsCache

end IfChains
