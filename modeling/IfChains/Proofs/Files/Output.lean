/-
**Output paths.**

The extension of a path is told without the way in which it is found. A path is a directory part,
dots, a stem and an extension. The directory part ends with the last slash, and the dots are those
that the last component begins with. The extension begins with the last dot that is left.

* `Parted`: the parts of a path;
* `parted_parts`, `Parted.splitExtension_eq`: every path has such parts, and it has them once;
* `Parted.of_suffix`: the directory part stays when the extension is replaced;
* `output_eq_self_iff`: **when an output path is the path itself.**
-/

import Mathlib.Data.List.TakeWhile
import IfChains.Files.Path
import IfChains.Settings.Section
import IfChains.Settings.Cache

namespace IfChains

namespace Path

/-- The parts of a path. -/
structure Parted (path above dots stem mark : List Char) : Prop where
  whole : path = above ++ (dots ++ (stem ++ mark))
  closed : above = [] ∨ ∃ before, above = before ++ ['/']
  component : '/' ∉ dots ++ (stem ++ mark)
  leading : ∀ char ∈ dots, char = '.'
  solid : stem.head? ≠ some '.'
  marked : (mark = [] ∧ '.' ∉ stem) ∨ (stem ≠ [] ∧ ∃ rest, mark = '.' :: rest ∧ '.' ∉ rest)

section Directories

/-- The last component has no slash. -/
theorem slash_notMem_component (path : List Char) : '/' ∉ (splitDirectory path).2 := by
  induction path with
  | nil => exact List.not_mem_nil
  | cons char rest ih =>
    simp only [splitDirectory]
    split
    · rename_i plain
      simp only [Bool.and_eq_true, bne_iff_ne] at plain
      rw [List.mem_cons, not_or]
      exact ⟨Ne.symm plain.2, ih⟩
    · exact ih

/-- The directory part is empty or ends with a slash. -/
theorem directory_closed (path : List Char) :
    (splitDirectory path).1 = [] ∨ ∃ before, (splitDirectory path).1 = before ++ ['/'] := by
  induction path with
  | nil => exact Or.inl rfl
  | cons char rest ih =>
    simp only [splitDirectory]
    split
    · exact Or.inl rfl
    · rename_i slashed
      right
      rcases ih with none | ⟨before, some⟩
      · -- Nothing ends with a slash further on, so the slash is here.
        rw [none] at slashed ⊢
        have slash : char = '/' := by simpa using slashed
        exact ⟨[], by rw [slash, List.nil_append]⟩
      · exact ⟨char :: before, by rw [some, List.cons_append]⟩

/-- What has no slash is part of the last component. -/
theorem splitDirectory_of_notMem {name : List Char} (plain : '/' ∉ name) :
    splitDirectory name = ([], name) := by
  induction name with
  | nil => rfl
  | cons char rest ih =>
    rw [List.mem_cons, not_or] at plain
    simp only [splitDirectory, ih plain.2]
    rw [if_pos]
    simp [Ne.symm plain.1]

/-- A path is cut behind its last slash. -/
theorem splitDirectory_of_closed {above name : List Char}
    (closed : above = [] ∨ ∃ before, above = before ++ ['/']) (plain : '/' ∉ name) :
    splitDirectory (above ++ name) = (above, name) := by
  rcases closed with rfl | ⟨before, rfl⟩
  · exact splitDirectory_of_notMem plain
  · induction before with
    | nil =>
      simp only [List.nil_append, List.cons_append, splitDirectory, splitDirectory_of_notMem plain]
      rfl
    | cons char rest ih =>
      simp only [List.cons_append, splitDirectory, ih]
      rw [if_neg]
      simp

end Directories

section Dots

/-- What is behind the last dot has none. -/
theorem splitDot_cases (name : List Char) :
    (splitDot name = (name, []) ∧ '.' ∉ name) ∨
      ∃ rest, (splitDot name).2 = '.' :: rest ∧ '.' ∉ rest := by
  induction name with
  | nil => exact Or.inl ⟨rfl, List.not_mem_nil⟩
  | cons char rest ih =>
    simp only [splitDot]
    rcases ih with ⟨same, dotless⟩ | ⟨behind, some, dotless⟩
    · rw [same]
      by_cases dot : char = '.'
      · subst dot
        exact Or.inr ⟨rest, rfl, dotless⟩
      · left
        rw [if_neg (by simpa using dot), List.mem_cons, not_or]
        exact ⟨rfl, Ne.symm dot, dotless⟩
    · right
      rw [some, if_neg (by simp)]
      exact ⟨behind, rfl, dotless⟩

/-- A name without a dot has nothing behind it. -/
theorem splitDot_of_notMem {name : List Char} (dotless : '.' ∉ name) :
    splitDot name = (name, []) := by
  induction name with
  | nil => rfl
  | cons char rest ih =>
    rw [List.mem_cons, not_or] at dotless
    simp only [splitDot, ih dotless.2]
    rw [if_neg]
    simpa using Ne.symm dotless.1

/-- A name is cut before its last dot. -/
theorem splitDot_of_dot {stem rest : List Char} (dotless : '.' ∉ rest) :
    splitDot (stem ++ '.' :: rest) = (stem, '.' :: rest) := by
  induction stem with
  | nil =>
    simp only [List.nil_append, splitDot, splitDot_of_notMem dotless]
    rfl
  | cons char front ih =>
    simp only [List.cons_append, splitDot, ih]
    rw [if_neg]
    simp

end Dots

section Parts

variable {path above dots stem mark : List Char}

/-- The dots that a component begins with are cut off. -/
theorem leading_dots {dots name : List Char} (leading : ∀ char ∈ dots, char = '.')
    (solid : name.head? ≠ some '.') :
    (dots ++ name).takeWhile (· == '.') = dots ∧ (dots ++ name).dropWhile (· == '.') = name := by
  induction dots with
  | nil =>
    cases name with
    | nil => exact ⟨rfl, rfl⟩
    | cons char rest =>
      have other : (char == '.') = false := by simpa using solid
      simp [other]
  | cons char rest ih =>
    obtain ⟨dot, dots⟩ := List.forall_mem_cons.mp leading
    obtain ⟨taken, dropped⟩ := ih dots
    simp [dot, taken, dropped]

/-- A path has its parts once: they are those between which it is cut. -/
theorem Parted.splitExtension_eq (parted : Parted path above dots stem mark) :
    splitDirectory path = (above, dots ++ (stem ++ mark)) ∧
      splitExtension path = (above ++ (dots ++ stem), mark) := by
  have last : splitDirectory path = (above, dots ++ (stem ++ mark)) := by
    rw [parted.whole]
    exact splitDirectory_of_closed parted.closed parted.component
  have cut : splitDot (stem ++ mark) = (stem, mark) ∧ (stem ++ mark).head? ≠ some '.' := by
    rcases parted.marked with ⟨rfl, dotless⟩ | ⟨some, rest, rfl, dotless⟩
    · rw [List.append_nil]
      exact ⟨splitDot_of_notMem dotless, parted.solid⟩
    · refine ⟨splitDot_of_dot dotless, ?_⟩
      obtain ⟨first, more, rfl⟩ := List.exists_cons_of_ne_nil some
      exact parted.solid
  obtain ⟨taken, dropped⟩ := leading_dots parted.leading cut.2
  refine ⟨last, ?_⟩
  simp only [splitExtension, splitName, last, taken, dropped, cut.1]

/-- Every path has parts, and the last one is its extension. -/
theorem parted_parts (path : List Char) :
    ∃ above dots stem, Parted path above dots stem (splitExtension path).2 := by
  have whole := splitDirectory_append path
  have plain := slash_notMem_component path
  have closed := directory_closed path
  generalize sides : splitDirectory path = parts at whole plain closed
  obtain ⟨above, name⟩ := parts
  have cut := List.takeWhile_append_dropWhile (p := (· == '.')) (l := name)
  have leading : ∀ char ∈ name.takeWhile (· == '.'), char = '.' := fun char inside => by
    simpa using List.mem_takeWhile_imp inside
  have solid : (name.dropWhile (· == '.')).head? ≠ some '.' := fun dot => by
    have kept := List.head?_dropWhile_not (· == '.') name
    rw [dot] at kept
    simp at kept
  generalize name.takeWhile (· == '.') = dots at cut leading
  generalize name.dropWhile (· == '.') = rest at cut solid
  have joined := splitDot_append rest
  have mark : (splitExtension path).2 = (splitDot rest).2 := by
    simp only [splitExtension, splitName, sides, ← cut, (leading_dots leading solid).2]
  rw [mark]
  refine ⟨above, dots, (splitDot rest).1, ?_, closed, ?_, leading, ?_, ?_⟩
  · rw [joined, cut, whole]
  · rw [joined, cut]
    exact plain
  · intro dot
    rw [← joined, List.head?_append, dot] at solid
    exact solid rfl
  · rcases splitDot_cases rest with ⟨same, dotless⟩ | ⟨behind, some, dotless⟩
    · rw [same]
      exact Or.inl ⟨rfl, dotless⟩
    · refine Or.inr ⟨fun none => solid ?_, behind, some, dotless⟩
      rw [← joined, none, some]
      rfl

/-- **The extension of a path** is the last of its parts. -/
theorem eq_extension_iff {path mark : String} :
    mark = extension path ↔
      ∃ above dots stem, Parted path.toList above dots stem mark.toList := by
  constructor
  · rintro rfl
    rw [extension, String.toList_ofList]
    exact parted_parts path.toList
  · rintro ⟨above, dots, stem, parted⟩
    rw [extension, parted.splitExtension_eq.2, String.ofList_toList]

/-- The directory part stays when what is behind the stem is replaced by something without a
slash. -/
theorem Parted.splitDirectory_output {suffix : List Char}
    (parted : Parted path above dots stem mark) (plain : '/' ∉ suffix) :
    (splitDirectory ((splitExtension path).1 ++ suffix)).1 = (splitDirectory path).1 := by
  have component : '/' ∉ dots ++ (stem ++ suffix) := by
    have before := parted.component
    simp only [List.mem_append, not_or] at before ⊢
    exact ⟨before.1, before.2.1, plain⟩
  rw [parted.splitExtension_eq.1, parted.splitExtension_eq.2, List.append_assoc, List.append_assoc,
    splitDirectory_of_closed parted.closed component]

/-- An extension has one dot, if any. -/
theorem Parted.count_mark_le (parted : Parted path above dots stem mark) :
    mark.count '.' ≤ 1 := by
  rcases parted.marked with ⟨rfl, -⟩ | ⟨-, rest, rfl, dotless⟩
  · exact Nat.zero_le 1
  · rw [List.count_cons_self, List.count_eq_zero.mpr dotless]

end Parts

section Outputs

/-- A path has its own extension behind its stem. -/
theorem output_extension (path : String) : output path (extension path) = path := by
  rw [output, extension, ← String.ofList_append, splitExtension_append, String.ofList_toList]

/-- Another suffix makes another path. -/
theorem eq_of_output_eq {path suffix other : String} (same : output path suffix = output path other) :
    suffix = other := by
  have texts := congrArg String.toList same
  simp only [output, String.toList_append, String.toList_ofList] at texts
  exact String.toList_inj.mp (List.append_cancel_left texts)

/-- **When an output path is the path itself.** The extension of a path is the last of its parts. An
output path is the path itself exactly if the suffix is the extension. So it never is with the
suffix of the defaults, which has two dots. A suffix without a slash leads to a file in the same
directory. -/
theorem output_eq_self_iff (path suffix : String) :
    (∀ mark, mark = extension path ↔
      ∃ above dots stem, Parted path.toList above dots stem mark.toList) ∧
    (output path suffix = path ↔ suffix = extension path) ∧
    (∃ preset, (Data.mapping Settings.defaults).lookUpIn "build" "output_suffix" =
        .ok (.scalar (.text preset)) ∧
      CodePoints.toText preset = ".expanded.py" ∧ output path (CodePoints.toText preset) ≠ path) ∧
    ('/' ∉ suffix.toList → directory (output path suffix) = directory path) := by
  have same : ∀ suffix, output path suffix = path ↔ suffix = extension path := fun suffix => by
    constructor
    · intro kept
      exact eq_of_output_eq (kept.trans (output_extension path).symm)
    · rintro rfl
      exact output_extension path
  refine ⟨fun mark => eq_extension_iff, same suffix, ?_, fun plain => ?_⟩
  · have text : CodePoints.toText (CodePoints.ofString ".expanded.py") = ".expanded.py" := by
      decide +kernel
    refine ⟨CodePoints.ofString ".expanded.py", rfl, text, fun kept => ?_⟩
    rw [text, same] at kept
    obtain ⟨above, dots, stem, parted⟩ := eq_extension_iff.mp kept
    have twice : (".expanded.py".toList.count '.') = 2 := by decide +kernel
    have once := parted.count_mark_le
    omega
  · obtain ⟨above, dots, stem, parted⟩ := parted_parts path.toList
    rw [directory, directory, output, String.toList_append, String.toList_ofList,
      parted.splitDirectory_output plain]

/-- A path with dots in its directory and at the beginning of its last component, whose extension is
`.b`. -/
theorem output_eq_self_iff_hidden :
    output "dir.x/..a.b" ".b" = "dir.x/..a.b" ∧ output "dir.x/..a.b" ".x/..a.b" ≠ "dir.x/..a.b" ∧
      '/' ∉ ".out".toList ∧
      directory (output "dir.x/..a.b" ".out") = directory "dir.x/..a.b" := by
  have extension_eq : extension "dir.x/..a.b" = ".b" := by decide +kernel
  have free : '/' ∉ ".out".toList := by decide +kernel
  refine ⟨?_, ?_, free, (output_eq_self_iff "dir.x/..a.b" ".out").2.2.2 free⟩
  · rw [(output_eq_self_iff "dir.x/..a.b" ".b").2.1, extension_eq]
  · rw [Ne, (output_eq_self_iff "dir.x/..a.b" ".x/..a.b").2.1, extension_eq]
    decide

end Outputs

end Path

end IfChains
