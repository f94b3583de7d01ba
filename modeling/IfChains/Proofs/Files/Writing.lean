/-
**Writing a file.**

A path leads through directories to a place. Writing a file sets what that place holds and nothing
else. So the directories on the way are still there, and the path leads to what was written.

* `step_set`, `foldlM_step_set`: components lead where they led before;
* `write_cases`: what a write has done;
* `read_write`: what was written is read back;
* `IsName`: paths that are names of files in the working directory.
-/

import IfChains.Files.Store

namespace IfChains

namespace FileStore

variable {store : FileStore} {place : FilePlace} {entry : FileEntry}

section Walking

variable {start next : FilePlace} {components : List String}

/-- A component leads on from a directory only. -/
theorem find?_of_step {component : String} (leads : store.step start component = .ok next) :
    store.find? start = some .directory := by
  unfold step at leads
  split at leads
  · cases leads
  · cases leads
  · assumption

/-- A component leads where it led before something that is no directory was replaced. -/
theorem step_set {component : String} (replaced : store.find? place ≠ some .directory)
    (leads : store.step start component = .ok next) :
    (store.set place entry).step start component = .ok next := by
  have directory := find?_of_step leads
  have different : start ≠ place := by
    rintro rfl
    exact replaced directory
  rw [step, find?_set_other store place start entry different, ← step]
  exact leads

/-- Components lead where they led before something that is no directory was replaced. -/
theorem foldlM_step_set (replaced : store.find? place ≠ some .directory)
    (leads : components.foldlM store.step start = .ok next) :
    components.foldlM (store.set place entry).step start = .ok next := by
  induction components generalizing start with
  | nil => exact leads
  | cons component rest ih =>
    rw [List.foldlM_cons] at leads ⊢
    cases first : store.step start component with
    | error reason =>
      rw [first] at leads
      cases leads
    | ok middle =>
      rw [first] at leads
      rw [step_set replaced first]
      exact ih leads

end Walking

section Targets

variable {path : String}

/-- Where a list ends that is cut after its last component that is not empty. -/
theorem reverse_dropWhile_eq {components : List String}
    (uncut : ¬(components.reverse.dropWhile String.isEmpty).reverse.length < components.length) :
    (components.reverse.dropWhile String.isEmpty).reverse = components := by
  have suffix := @List.dropWhile_suffix _ components.reverse String.isEmpty
  have same := suffix.eq_of_length_le (by
    rw [List.length_reverse] at uncut ⊢
    exact Nat.le_of_not_lt uncut)
  rw [same, List.reverse_reverse]

/-- **The place of a file to be written**: it is the last component in a directory, and holds no
directory itself. -/
theorem target_cases (found : store.target path = .ok place) :
    ∃ components above, componentsOf path = .ok components ∧
      components.dropLast.foldlM store.step (.start path) = .ok above ∧
      store.step above (components.getLast?.getD "") = .ok place ∧
      store.find? place ≠ some .directory := by
  unfold target at found
  cases split : componentsOf path with
  | error reason =>
    rw [split] at found
    cases found
  | ok components =>
    rw [split] at found
    simp only [bind, Except.bind] at found
    split at found
    · cases found
    · rename_i above walked
      split at found
      · cases found
      · rename_i last entered
        split at found
        · cases found
        · rename_i uncut
          rw [reverse_dropWhile_eq uncut] at walked entered
          simp only [pure, Except.pure] at found
          split at found
          · cases found
          · rename_i free
            cases found
            exact ⟨components, above, rfl, walked, entered, free⟩

/-- The place of a file is below the places where paths begin. -/
theorem components_ne_nil_of_target (found : store.target path = .ok place) :
    place.components ≠ [] := by
  obtain ⟨-, -, -, -, -, free⟩ := target_cases found
  intro top
  refine free ?_
  rw [find?, top]
  rfl

/-- The empty component leads nowhere else. -/
theorem eq_of_step_empty {start : FilePlace} (leads : store.step start "" = .ok place) :
    place = start := by
  rw [step, find?_of_step leads] at leads
  exact (Except.ok.inj leads).symm

/-- A path leads to the place of the file that it names, whatever is set there. -/
theorem follow_set (found : store.target path = .ok place) :
    (store.set place entry).follow path = .ok place := by
  obtain ⟨components, above, split, walked, entered, free⟩ := target_cases found
  rw [follow, split]
  show components.foldlM (store.set place entry).step (.start path) = .ok place
  rcases components.eq_nil_or_concat with rfl | ⟨before, last, rfl⟩
  · -- Without components the place would be the directory where the path begins.
    obtain rfl := eq_of_step_empty entered
    exact absurd (find?_of_step entered) free
  · rw [List.concat_eq_append, List.dropLast_concat] at walked
    rw [List.concat_eq_append, List.getLast?_concat, Option.getD_some] at entered
    rw [List.concat_eq_append, List.foldlM_append, foldlM_step_set free walked]
    show [last].foldlM (store.set place entry).step above = .ok place
    rw [List.foldlM_cons, step_set free entered]
    rfl

end Targets

section Names

/-- A path that is the name of something in the working directory. -/
structure IsName (path : String) : Prop where
  whole : Path.components path = [path]
  named : path ≠ "" ∧ path ≠ "." ∧ path ≠ ".."
  clean : '\x00' ∉ path.toList
  relative : path.toList.head? ≠ some '/'
  short : path.utf8ByteSize ≤ 255

variable {path : String}

theorem IsName.isEmpty_eq (name : IsName path) : path.isEmpty = false := by
  rw [Bool.eq_false_iff, ne_eq, String.isEmpty_iff]
  exact name.named.1

theorem IsName.componentsOf_eq (name : IsName path) : componentsOf path = .ok [path] := by
  have clean : path.contains '\x00' = false := by
    rw [String.contains_char_eq, decide_eq_false_iff_not]
    exact name.clean
  have short : ¬4096 ≤ path.utf8ByteSize := by
    have := name.short
    omega
  rw [componentsOf, clean, name.isEmpty_eq, if_neg short, name.whole]
  rfl

/-- A name leads on from the working directory. -/
theorem IsName.step_eq (name : IsName path) (store : FileStore) :
    store.step (.start path) path = .ok ⟨.working, [path]⟩ := by
  have relative : path.startsWith "/" = false := by
    rw [String.startsWith_string_eq_false_iff]
    rintro ⟨rest, same⟩
    exact name.relative (same ▸ rfl)
  have start : FilePlace.start path = ⟨.working, []⟩ := by
    rw [FilePlace.start, relative]
    rfl
  have enter : (⟨.working, []⟩ : FilePlace).enter path = ⟨.working, [path]⟩ := by
    obtain ⟨-, noSelf, noParent⟩ := name.named
    simp [FilePlace.enter, name.isEmpty_eq, noSelf, noParent, FilePlace.child]
  rw [start, step]
  show (if 255 < path.utf8ByteSize then _ else _) = _
  rw [if_neg (Nat.not_lt.mpr name.short), enter]

/-- A name leads to its place in the working directory. -/
theorem IsName.follow_eq (name : IsName path) (store : FileStore) :
    store.follow path = .ok ⟨.working, [path]⟩ := by
  rw [follow, name.componentsOf_eq]
  show [path].foldlM store.step (.start path) = _
  rw [List.foldlM_cons, name.step_eq]
  rfl

/-- A name leads to what is held under it. -/
theorem IsName.hasPath_eq (name : IsName path) (store : FileStore) :
    store.hasPath path = (store.find? ⟨.working, [path]⟩).isSome := by
  rw [hasPath, name.follow_eq]

/-- The text of the file of a name is read. -/
theorem IsName.readText_eq (name : IsName path) {content : Bytes} {text : String}
    (held : store.find? ⟨.working, [path]⟩ = some (.file content))
    (decoded : Utf8.decode content = .ok text) :
    store.readText path = .ok (String.ofList (unifyBreaks text.toList)) := by
  have read : store.read path = .ok content := by
    rw [FileStore.read, name.follow_eq]
    simp only [held]
  simp only [readText, read, decoded]

/-- A name is that of a file to be written, unless there is a directory. -/
theorem IsName.target_eq (name : IsName path)
    (free : store.find? ⟨.working, [path]⟩ ≠ some .directory) :
    store.target path = .ok ⟨.working, [path]⟩ := by
  have named : ([path].reverse.dropWhile String.isEmpty).reverse = [path] := by
    rw [List.reverse_singleton, List.dropWhile_cons_of_neg (Bool.eq_false_iff.mp name.isEmpty_eq),
      List.reverse_singleton]
  unfold target
  simp only [name.componentsOf_eq, bind, Except.bind, named]
  have entered : store.step (.start path) ([path].getLast?.getD "") =
    .ok ⟨.working, [path]⟩ := name.step_eq store
  have stays : [path].dropLast.foldlM store.step (.start path) = .ok (.start path) := rfl
  simp only [stays, entered, Nat.lt_irrefl, if_false]
  rfl

end Names

section Writing

variable {after : FileStore} {path : String} {content : Bytes}

/-- **What a write has done**: it has set what one place holds. -/
theorem write_cases (written : store.write path content = .ok after) :
    ∃ place, store.target path = .ok place ∧ after = store.set place (.file content) := by
  unfold write at written
  split at written
  · rename_i place found
    exact ⟨place, found, (Except.ok.inj written).symm⟩
  · cases written

/-- **What was written is read back.** -/
theorem read_write (written : store.write path content = .ok after) :
    after.read path = .ok content := by
  obtain ⟨place, found, rfl⟩ := write_cases written
  have here := find?_set_same store place (.file content) (components_ne_nil_of_target found)
  simp only [read, follow_set found, here]

end Writing

end FileStore

end IfChains
