/-
**A store of files and directories.**

A store holds files and directories by their places. A path is followed component by component, and
each of them is looked up in a directory. Where paths begin there are always directories: the
working directory, those above it, and the root.

* `find?_set_other`: setting what a place holds leaves the others alone.
-/

import IfChains.Files.Path
import IfChains.Text.Breaks
import IfChains.Text.Quoted
import IfChains.Text.Utf8

namespace IfChains

/-- What a path can lead to. -/
inductive FileEntry
  | directory
  | file (content : Bytes)
deriving DecidableEq, Repr

/-- Why a path cannot be used. -/
inductive FileReason
  | missing | isDirectory | notDirectory
  /-- The path or one of its components has too many bytes. -/
  | tooLong
  /-- The path holds the character of code zero. -/
  | nullCharacter
deriving DecidableEq, Repr

/-- A path that cannot be used, and why. -/
structure FileFault where
  reason : FileReason
  path : String
deriving DecidableEq, Repr

namespace FileFault

/-- The wording of a fault. -/
def message (fault : FileFault) : String :=
  let withPath := fun reason => reason ++ ": " ++ quotedText fault.path
  match fault.reason with
  | .missing => withPath "[Errno 2] No such file or directory"
  | .isDirectory => withPath "[Errno 21] Is a directory"
  | .notDirectory => withPath "[Errno 20] Not a directory"
  | .tooLong => withPath "[Errno 36] File name too long"
  | .nullCharacter => "embedded null byte"

end FileFault

/-- Where a path begins: in the working directory, in one some levels above it, or at the root. -/
inductive FileBase
  | working
  | above (levels : Nat)
  | root
deriving DecidableEq, Repr

/-- A place that a path leads to, which need not hold anything. -/
structure FilePlace where
  base : FileBase
  components : List String
deriving DecidableEq, Repr

namespace FilePlace

/-- The place of a component in a directory. -/
def child (place : FilePlace) (component : String) : FilePlace :=
  { place with components := place.components ++ [component] }

/-- The directory that holds a place. -/
def parent (place : FilePlace) : FilePlace :=
  match place.base, place.components with
  | .working, [] => ⟨.above 1, []⟩
  | .above levels, [] => ⟨.above (levels + 1), []⟩
  | .root, [] => place
  | base, components => ⟨base, components.dropLast⟩

/-- The place where a path begins. -/
def start (path : String) : FilePlace :=
  ⟨if path.startsWith "/" then .root else .working, []⟩

/-- The place that a component leads to from a directory. -/
def enter (place : FilePlace) (component : String) : FilePlace :=
  if component.isEmpty || component == "." then place
  else if component == ".." then place.parent
  else place.child component

/-- The place that a path leads to if all of it is there. -/
def ofPath (path : String) : FilePlace :=
  (Path.components path).foldl enter (start path)

/-- A path that leads to a place. -/
def path (place : FilePlace) : String :=
  let start := match place.base with
    | .working => ""
    | .above levels => String.join (List.replicate levels "../")
    | .root => "/"
  start ++ "/".intercalate place.components

end FilePlace

/-- Files and directories by their places. -/
structure FileStore where
  entries : List (FilePlace × FileEntry) := []
deriving DecidableEq, Repr

namespace FileStore

section Entries

/-- What a place holds; where paths begin there is always a directory. -/
def find? (store : FileStore) (place : FilePlace) : Option FileEntry :=
  if place.components.isEmpty then some .directory else store.entries.lookup place

/-- Sets what a place holds. -/
def set (store : FileStore) (place : FilePlace) (entry : FileEntry) : FileStore :=
  ⟨(place, entry) :: store.entries.filter (·.1 != place)⟩

/-- Removes what a place holds. -/
def erase (store : FileStore) (place : FilePlace) : FileStore :=
  ⟨store.entries.filter (·.1 != place)⟩

/-- Makes a directory unless there is something. -/
def addDirectory (store : FileStore) (place : FilePlace) : FileStore :=
  match store.find? place with
  | some _ => store
  | none => store.set place .directory

/-- Makes a directory and the ones above it. -/
def addDirectories (store : FileStore) (place : FilePlace) : FileStore :=
  (List.range (place.components.length + 1)).foldl (fun store count =>
    store.addDirectory { place with components := place.components.take count }) store

/-- Makes a file and the directories above it. -/
def addFile (store : FileStore) (place : FilePlace) (content : Bytes) : FileStore :=
  (store.addDirectories place.parent).set place (.file content)

end Entries

section Walking

/-- The place that a component leads to from a place, which has to be a directory. -/
def step (store : FileStore) (place : FilePlace) (component : String) :
    Except FileReason FilePlace :=
  match store.find? place with
  | none => .error .missing
  | some (.file _) => .error .notDirectory
  | some .directory =>
    if 255 < component.utf8ByteSize then .error .tooLong else .ok (place.enter component)

/-- The components of a path, if it can be one. -/
def componentsOf (path : String) : Except FileReason (List String) :=
  if path.contains '\x00' then .error .nullCharacter
  else if path.isEmpty then .error .missing
  else if 4096 ≤ path.utf8ByteSize then .error .tooLong
  else .ok (Path.components path)

/-- The place that a path leads to. -/
def follow (store : FileStore) (path : String) : Except FileReason FilePlace := do
  (← componentsOf path).foldlM store.step (.start path)

/-- Whether a path leads to something. -/
def hasPath (store : FileStore) (path : String) : Bool :=
  match store.follow path with
  | .ok place => (store.find? place).isSome
  | .error _ => false

end Walking

section Contents

/-- The content of a file. -/
def read (store : FileStore) (path : String) : Except FileFault Bytes :=
  match store.follow path with
  | .error reason => .error ⟨reason, path⟩
  | .ok place =>
    match store.find? place with
    | none => .error ⟨.missing, path⟩
    | some .directory => .error ⟨.isDirectory, path⟩
    | some (.file content) => .ok content

/-- The place of a file that a path names, which need not be there yet. -/
def target (store : FileStore) (path : String) : Except FileReason FilePlace := do
  let components ← componentsOf path
  let named := (components.reverse.dropWhile String.isEmpty).reverse
  let above ← named.dropLast.foldlM store.step (.start path)
  let place ← store.step above (named.getLast?.getD "")
  if named.length < components.length then throw .isDirectory
  match store.find? place with
  | some .directory => throw .isDirectory
  | _ => return place

/-- Writes a file. -/
def write (store : FileStore) (path : String) (content : Bytes) : Except FileFault FileStore :=
  match store.target path with
  | .ok place => .ok (store.set place (.file content))
  | .error reason => .error ⟨reason, path⟩

/-- The files with their places. -/
def files (store : FileStore) : List (FilePlace × Bytes) :=
  store.entries.filterMap fun
    | (place, .file content) => some (place, content)
    | (_, .directory) => none

end Contents

section Lemmas

variable (store : FileStore)

/-- What was set is there. -/
theorem find?_set_same (place : FilePlace) (entry : FileEntry) (below : place.components ≠ []) :
    (store.set place entry).find? place = some entry := by
  simp [set, find?, below]

/-- Setting what a place holds leaves the others alone. -/
theorem find?_set_other (place other : FilePlace) (entry : FileEntry) (different : other ≠ place) :
    (store.set place entry).find? other = store.find? other := by
  have here : (other == place) = false := by simp [different]
  simp only [set, find?, List.lookup_cons, here]
  split
  · rfl
  · induction store.entries with
    | nil => rfl
    | cons head tail ih =>
      obtain ⟨key, value⟩ := head
      by_cases kept : key = place
      · subst kept
        simp [List.filter, List.lookup_cons, ih, here]
      · have keep : (key != place) = true := by simp [kept]
        simp only [List.filter, keep, List.lookup_cons, ih]

end Lemmas

end FileStore

/-- Why a text file cannot be read. -/
inductive ReadFault
  | file (fault : FileFault)
  | bytes (fault : Utf8.Fault)
deriving DecidableEq, Repr

namespace FileStore

/-- The text of a file, with a line feed for each line break. -/
def readText (store : FileStore) (path : String) : Except ReadFault String :=
  match store.read path with
  | .error fault => .error (.file fault)
  | .ok content =>
    match Utf8.decode content with
    | .ok text => .ok (String.ofList (unifyBreaks text.toList))
    | .error fault => .error (.bytes fault)

/-- Writes a text file. -/
def writeText (store : FileStore) (path text : String) : Except FileFault FileStore :=
  store.write path (Utf8.encode text)

end FileStore

end IfChains
