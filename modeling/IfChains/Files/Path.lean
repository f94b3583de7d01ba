/-
**Paths and the path of an output file.**

A path is a text whose components are separated by slashes. The extension of a path begins at the
last dot of the last component, where the dots that the component begins with do not count. An
output path has a suffix in the place of the extension.

* `splitDirectory_append`, `splitExtension_append`: the parts of a path make up the path.
-/

namespace IfChains

namespace Path

section Parts

/-- The part of a path up to its last slash, and the last component. -/
def splitDirectory : List Char → List Char × List Char
  | [] => ([], [])
  | char :: rest =>
    let parts := splitDirectory rest
    if parts.1.isEmpty && char != '/' then ([], char :: parts.2) else (char :: parts.1, parts.2)

/-- A name cut before its last dot; all of it if there is none. -/
def splitDot : List Char → List Char × List Char
  | [] => ([], [])
  | char :: rest =>
    let parts := splitDot rest
    if parts.2.isEmpty && char == '.' then ([], char :: rest) else (char :: parts.1, parts.2)

/-- A component cut before its extension. -/
def splitName (name : List Char) : List Char × List Char :=
  let parts := splitDot (name.dropWhile (· == '.'))
  (name.takeWhile (· == '.') ++ parts.1, parts.2)

/-- A path cut before the extension of its last component. -/
def splitExtension (path : List Char) : List Char × List Char :=
  let parts := splitDirectory path
  let name := splitName parts.2
  (parts.1 ++ name.1, name.2)

end Parts

section Names

/-- The components of a path, which stand between its slashes. -/
def components (path : String) : List String :=
  (path.toList.splitOn '/').map String.ofList

/-- The extension of a path. -/
def extension (path : String) : String :=
  String.ofList (splitExtension path.toList).2

/-- The part of a path up to its last slash. -/
def directory (path : String) : String :=
  String.ofList (splitDirectory path.toList).1

/-- The last component of a path. -/
def baseName (path : String) : String :=
  String.ofList (splitDirectory path.toList).2

/-- A path with a suffix in the place of its extension. -/
def output (path suffix : String) : String :=
  String.ofList (splitExtension path.toList).1 ++ suffix

/-- The path of a name in a directory. -/
def join (directory name : String) : String :=
  if directory.isEmpty || directory.toList.getLast? = some '/' then directory ++ name
  else directory ++ "/" ++ name

end Names

section Lemmas

/-- The directory part and the last component make up a path. -/
theorem splitDirectory_append (path : List Char) :
    (splitDirectory path).1 ++ (splitDirectory path).2 = path := by
  induction path with
  | nil => rfl
  | cons char rest ih =>
    simp only [splitDirectory]
    split
    · rename_i first
      simp_all
    · simp [ih]

/-- The parts before and from the last dot make up a name. -/
theorem splitDot_append (name : List Char) : (splitDot name).1 ++ (splitDot name).2 = name := by
  induction name with
  | nil => rfl
  | cons char rest ih =>
    simp only [splitDot]
    split
    · rfl
    · simp [ih]

/-- A path is made up of what stands before its extension and the extension. -/
theorem splitExtension_append (path : List Char) :
    (splitExtension path).1 ++ (splitExtension path).2 = path := by
  simp only [splitExtension, splitName, List.append_assoc, splitDot_append,
    List.takeWhile_append_dropWhile, splitDirectory_append]

end Lemmas

example : output "a.b.py" ".out" = "a.b.out" := by decide +kernel
example : output "dir.x/..a.b" "" = "dir.x/..a" := by decide +kernel
example : output "dir/..py" ".out" = "dir/..py.out" := by decide +kernel

end Path

end IfChains
