/-
**Settings between two resets.**

Files are written and removed, settings are asked for, by themselves or for the expansion of a
program, and they are forgotten. What is asked for first and can be read counts until settings are
forgotten, whichever reader makes data of a text. All of this is told twice: of values, and of
mappings in memory, where what is read shares parts with the defaults.

* `heldIn`: the mapping that the settings file of a directory holds;
* `firstHeld?`: the mapping that is held when settings are first asked for and can be read;
* `Situation`: the files and the settings; `Process`: the same with mappings in memory;
* `Mirrors.after`: what happens to both alike;
* `one_snapshot`: **what is answered after anything that may happen.**
-/

import IfChains.Failure
import IfChains.Proofs.Files.Writing
import IfChains.Proofs.Settings.Memory
import IfChains.Yaml.Value

namespace IfChains

namespace Settings

/-- What may happen to settings and to the files that they come from. A program may be expanded for
a given module, and otherwise settings are asked for. -/
inductive Happening
  | write (path : String) (content : Bytes)
  | remove (path : String)
  | get (directory : Option String)
  | transform (module : Option String) (file source : String)
  | reset
deriving DecidableEq, Repr

section Files

variable {reader : Reader}

/-- The files after one of them was removed, if it is there. -/
def removed (store : FileStore) (path : String) : FileStore :=
  match store.follow path with
  | .error _ => store
  | .ok place =>
    match store.find? place with
    | some (.file _) => store.erase place
    | _ => store

/-- The files after something has happened. -/
def Happening.alter (store : FileStore) : Happening → FileStore
  | write path content =>
    match store.write path content with
    | .ok store => store
    | .error _ => store
  | remove path => removed store path
  | _ => store

/-- The module that is given for an expansion; an empty one is none. -/
def given? (module : Option String) : Option String :=
  module.filter (· ≠ "")

/-- The directory for which settings are asked, if they are. -/
def Happening.asks? : Happening → Option (Option String)
  | get directory => some directory
  | transform module _ _ => if (given? module).isNone then some none else none
  | _ => none

/-- Asking for settings leaves the files alone. -/
theorem Happening.alter_of_asks {store : FileStore} {happening : Happening}
    {directory : Option String} (asks : happening.asks? = some directory) :
    happening.alter store = store := by
  cases happening with
  | get | transform => rfl
  | _ => exact nomatch asks

/-- The mapping that the settings file of a directory holds; an empty one if there is no file or it
holds no mapping. -/
def heldIn (reader : Reader) (store : FileStore) (directory : Option String) :
    Except SettingsFault Mapping :=
  if store.hasPath (pathIn directory) then
    match store.readText (pathIn directory) with
    | .error fault => .error (unreadable fault)
    | .ok text =>
      match reader text with
      | .error fault => .error (.malformed fault)
      | .ok (.mapping entries) => .ok entries
      | .ok _ => .ok []
  else .ok []

/-- The mapping that is held where settings are asked for, if it can be read. -/
def Happening.held? (reader : Reader) (store : FileStore) (happening : Happening) :
    Option Mapping :=
  happening.asks?.bind fun directory => (heldIn reader store directory).toOption

/-- The mapping that is held when settings are first asked for and can be read. -/
def firstHeld? (reader : Reader) (store : FileStore) : List Happening → Option Mapping
  | [] => none
  | happening :: rest =>
    (happening.held? reader store).or (firstHeld? reader (happening.alter store) rest)

/-- The defaults, deeply merged with a mapping. -/
def overridden (entries : Mapping) : Data :=
  Data.merge (.mapping defaults) (.mapping entries)

/-- **What is read** are the defaults, merged with the mapping that is held. -/
theorem load_eq (store : FileStore) (directory : Option String) :
    load reader store directory = (heldIn reader store directory).map overridden := by
  have merged : ∀ entries, overridden entries = .mapping (Data.mergeEntries defaults entries) := by
    intro entries
    rw [overridden, Data.merge, Data.mergeInto]
  have untouched : overridden [] = .mapping defaults := by
    rw [merged, Data.mergeEntries]
  rw [load, heldIn]
  split
  · cases store.readText (pathIn directory) with
    | error fault => rfl
    | ok text =>
      dsimp only
      cases reader text with
      | error fault => rfl
      | ok data =>
        cases data with
        | mapping entries => exact congrArg Except.ok (merged entries).symm
        | _ => exact congrArg Except.ok untouched.symm
  · exact congrArg Except.ok untouched.symm

end Files

section WorkingDirectory

variable {reader : Reader} {store : FileStore} {content : Bytes}

/-- The place of the settings file of the working directory. -/
def workingPlace : FilePlace := ⟨.working, [fileName]⟩

theorem isName_fileName : FileStore.IsName fileName :=
  ⟨by decide +kernel, by decide, by decide, by decide, by decide⟩

/-- Writing the settings file sets what its place holds. -/
theorem alter_write (free : store.find? workingPlace ≠ some .directory) :
    Happening.alter store (.write fileName content) = store.set workingPlace (.file content) := by
  rw [Happening.alter, FileStore.write, isName_fileName.target_eq free]
  rfl

/-- The mapping that the settings file holds is what its text stands for, if it has one. -/
theorem held?_of_file (here : store.find? workingPlace = some (.file content)) :
    (Happening.get none).held? reader store =
      (Utf8.decode content).toOption.bind fun text =>
        match reader (String.ofList (unifyBreaks text.toList)) with
        | .error _ => none
        | .ok (.mapping entries) => some entries
        | .ok _ => some [] := by
  have leads : store.follow (pathIn none) = .ok workingPlace := isName_fileName.follow_eq store
  have there : store.hasPath (pathIn none) = true := by
    simp only [FileStore.hasPath, leads, here, Option.isSome_some]
  have read : store.read (pathIn none) = .ok content := by
    simp only [FileStore.read, leads, here]
  show (heldIn reader store none).toOption = _
  rw [heldIn, if_pos there, FileStore.readText, read]
  dsimp only
  cases Utf8.decode content with
  | error fault => rfl
  | ok text =>
    simp only [Except.toOption, Option.bind_some]
    cases reader (String.ofList (unifyBreaks text.toList)) with
    | error fault => rfl
    | ok data => cases data <;> rfl

end WorkingDirectory

/-- The files, and the settings that have been read. -/
@[ext]
structure Situation where
  store : FileStore
  cache : SettingsCache := {}

namespace Situation

/-- Expands a program for a given module, or else for the one that the settings name. -/
def transform (reader : Reader) (situation : Situation) (module : Option String)
    (file source : String) : Except Failure Outcome × Situation :=
  match given? module with
  | some module => (.ok (Transform.transform module .loose file source), situation)
  | none =>
    let (settings, cache) := situation.cache.get reader situation.store none
    let outcome := match settings with
      | .ok snapshot => (Transform.underSettings snapshot.value .loose file source).mapError .lookup
      | .error fault => .error (.ofSettings fault)
    (outcome, { situation with cache := cache })

/-- What is there after something has happened. -/
def after (reader : Reader) (situation : Situation) : Happening → Situation
  | .get directory =>
    { situation with cache := (situation.cache.get reader situation.store directory).2 }
  | .transform module file source => (situation.transform reader module file source).2
  | .reset => { situation with cache := situation.cache.reset }
  | happening => { situation with store := happening.alter situation.store }

variable {reader : Reader} {situation : Situation} {happening : Happening}

@[simp]
theorem store_after :
    (situation.after reader happening).store = happening.alter situation.store := by
  cases happening with
  | transform module file source =>
    rw [after, transform]
    cases given? module <;> rfl
  | _ => rfl

/-- Settings change where they are asked for, and where they are forgotten. -/
theorem cache_after (unbroken : happening ≠ .reset) : (situation.after reader happening).cache =
    match happening.asks? with
    | some directory => (situation.cache.get reader situation.store directory).2
    | none => situation.cache := by
  cases happening with
  | transform module file source =>
    rw [after, transform, Happening.asks?]
    cases given? module <;> rfl
  | reset => exact absurd rfl unbroken
  | _ => rfl

end Situation

section Answers

variable {cache : SettingsCache} {reader : Reader} {store : FileStore} {directory : Option String}

/-- What counts after settings have been asked for. -/
theorem current_get : (cache.get reader store directory).2.current.map (·.value) =
    (cache.current.map (·.value)).or ((heldIn reader store directory).map overridden).toOption := by
  obtain ⟨current, readings⟩ := cache
  rw [SettingsCache.get, ← load_eq]
  cases current with
  | some snapshot => rfl
  | none => cases load reader store directory <;> rfl

/-- What is answered where settings are asked for. -/
theorem value_get : (cache.get reader store directory).1.map (·.value) =
    match cache.current.map (·.value) with
    | some value => .ok value
    | none => (heldIn reader store directory).map overridden := by
  obtain ⟨current, readings⟩ := cache
  rw [SettingsCache.get, ← load_eq]
  cases current with
  | some snapshot => rfl
  | none => cases load reader store directory <;> rfl

/-- What is to be answered where settings are asked for, after something has happened since they
were forgotten: what was read first counts, and if nothing was, what can be read now. -/
def answer (reader : Reader) (store : FileStore) (since : List Happening)
    (directory : Option String) : Except SettingsFault Data :=
  match firstHeld? reader store since with
  | some entries => .ok (overridden entries)
  | none => (heldIn reader (since.foldl Happening.alter store) directory).map overridden

end Answers

namespace Situation

variable {reader : Reader} {situation : Situation} {since : List Happening}

theorem store_foldl (happenings : List Happening) :
    (happenings.foldl (after reader) situation).store =
      happenings.foldl Happening.alter situation.store := by
  induction happenings generalizing situation with
  | nil => rfl
  | cons happening rest ih => rw [List.foldl_cons, ih, store_after, List.foldl_cons]

/-- **What counts until settings are forgotten** is what was read first. -/
theorem current_foldl (unbroken : .reset ∉ since) :
    (since.foldl (after reader) situation).cache.current.map (·.value) =
      (situation.cache.current.map (·.value)).or
        ((firstHeld? reader situation.store since).map overridden) := by
  induction since generalizing situation with
  | nil => simp [firstHeld?]
  | cons happening rest ih =>
    rw [List.mem_cons, not_or] at unbroken
    obtain ⟨here, later⟩ := unbroken
    have one : (situation.after reader happening).cache.current.map (·.value) =
        (situation.cache.current.map (·.value)).or
          ((happening.held? reader situation.store).map overridden) := by
      rw [cache_after (Ne.symm here), Happening.held?]
      cases happening.asks? with
      | none => simp
      | some directory =>
        rw [current_get, Option.bind_some]
        cases heldIn reader situation.store directory <;> rfl
    rw [List.foldl_cons, ih later, one, store_after, firstHeld?, Option.or_assoc, Option.map_or]

/-- **What is answered** where settings are asked for, after they were forgotten. -/
theorem answer_foldl (reader : Reader) (forgotten : situation.cache.current = none)
    (unbroken : .reset ∉ since) (directory : Option String) :
    ((since.foldl (after reader) situation).cache.get reader
      (since.foldl (after reader) situation).store directory).1.map (·.value) =
        answer reader situation.store since directory := by
  rw [value_get, current_foldl unbroken, forgotten, store_foldl, answer]
  cases firstHeld? reader situation.store since <;> rfl

/-- Nothing counts at first and after settings were forgotten. -/
theorem current_of_fresh (reader : Reader) {before : List Happening} (store : FileStore)
    (fresh : before = [] ∨ before.getLast? = some .reset) :
    (before.foldl (after reader) ⟨store, {}⟩).cache.current = none := by
  rcases fresh with rfl | last
  · rfl
  · obtain ⟨earlier, rfl⟩ := List.getLast?_eq_some_iff.mp last
    rw [List.foldl_append]
    rfl

end Situation

/-- The place in memory where the defaults are. -/
def defaultsPlace : Nat :=
  (Memory.keepAll {} defaults).2.size

/-- The files, the mappings in memory, and the place of the settings that have been read. -/
structure Process where
  store : FileStore
  memory : Memory
  current : Option Nat := none
deriving Repr

namespace Process

/-- A process whose memory holds the defaults. -/
def start (store : FileStore) : Process :=
  { store := store, memory := (Memory.keep {} (.mapping defaults)).2 }

/-- The place of the settings that count; they are read and merged if they have not been. -/
def get (reader : Reader) (process : Process) (directory : Option String) :
    Except SettingsFault Nat × Process :=
  match process.current with
  | some place => (.ok place, process)
  | none =>
    match heldIn reader process.store directory with
    | .error fault => (.error fault, process)
    | .ok entries =>
      let (place, memory) := process.memory.merge defaultsPlace entries
      (.ok place, { process with memory := memory, current := some place })

/-- What is there after something has happened. -/
def after (reader : Reader) (process : Process) (happening : Happening) : Process :=
  if happening = .reset then { process with current := none }
  else match happening.asks? with
    | some directory => (process.get reader directory).2
    | none => { process with store := happening.alter process.store }

/-- What is at the place that a process answers. A fault leaves the process as it was. -/
def Gives (reader : Reader) (process : Process) (directory : Option String) :
    Except SettingsFault Data → Prop
  | .ok value => ∃ place, (process.get reader directory).1 = .ok place ∧
      (process.get reader directory).2.memory.Means [] (.at place) value
  | .error fault => process.get reader directory = (.error fault, process)

end Process

/-- A process holds the settings that count and the defaults in memory. -/
structure Mirrors (process : Process) (situation : Situation) : Prop where
  store : process.store = situation.store
  defaults : process.memory.Means [] (.at defaultsPlace) (.mapping defaults)
  current : Option.Rel (fun place snapshot => process.memory.Means [] (.at place) snapshot.value)
    process.current situation.cache.current

section Mirroring

variable {reader : Reader} {process : Process} {situation : Situation}

theorem mirrors_start (store : FileStore) : Mirrors (.start store) ⟨store, {}⟩ := by
  have kept := (Memory.means_keep.1 (.mapping defaults) {} [] (List.forall_mem_nil _)).2
  have place : (Memory.keep {} (.mapping defaults)).1 = .at defaultsPlace := by
    rw [Memory.keep, defaultsPlace]
  exact ⟨rfl, place ▸ kept, .none⟩

/-- **A process answers what is answered**, and holds it in memory. -/
theorem Mirrors.get (mirrors : Mirrors process situation) (directory : Option String) :
    Mirrors (process.get reader directory).2
      { situation with cache := (situation.cache.get reader situation.store directory).2 } ∧
    process.Gives reader directory
      ((situation.cache.get reader situation.store directory).1.map (·.value)) := by
  obtain ⟨store, memory, current⟩ := process
  obtain ⟨store', ⟨current', readings⟩⟩ := situation
  obtain ⟨rfl, defaults, same⟩ := mirrors
  cases same with
  | @some place snapshot means =>
    exact ⟨⟨rfl, defaults, .some means⟩, place, rfl, means⟩
  | none =>
    rw [value_get, Process.get, SettingsCache.get, load_eq]
    cases held : heldIn reader store directory with
    | error fault =>
      refine ⟨⟨rfl, defaults, .none⟩, ?_⟩
      show Process.get _ _ _ = _
      rw [Process.get]
      simp only [held]
    | ok entries =>
      obtain ⟨keeps, means⟩ := Memory.means_merge defaults entries
      have answers : Process.get reader ⟨store, memory, none⟩ directory =
          (.ok (memory.merge defaultsPlace entries).1,
            ⟨store, (memory.merge defaultsPlace entries).2,
              some (memory.merge defaultsPlace entries).1⟩) := by
        simp only [Process.get, held]
      exact ⟨⟨rfl, keeps.means defaults, .some means⟩, (memory.merge defaultsPlace entries).1,
        congrArg Prod.fst answers, answers ▸ means⟩

/-- **What happens** to a process happens to what it mirrors. -/
theorem Mirrors.after (mirrors : Mirrors process situation) (happening : Happening) :
    Mirrors (process.after reader happening) (situation.after reader happening) := by
  by_cases forgets : happening = .reset
  · subst forgets
    exact ⟨mirrors.store, mirrors.defaults, .none⟩
  cases asks : happening.asks? with
  | some directory =>
    have same : situation.after reader happening =
        { situation with cache := (situation.cache.get reader situation.store directory).2 } := by
      refine Situation.ext ?_ ?_
      · rw [Situation.store_after, Happening.alter_of_asks asks]
      · rw [Situation.cache_after forgets, asks]
    rw [same, Process.after, if_neg forgets, asks]
    exact (mirrors.get directory).1
  | none =>
    have same : situation.after reader happening =
        { situation with store := happening.alter situation.store } := by
      refine Situation.ext Situation.store_after ?_
      rw [Situation.cache_after forgets, asks]
    rw [same, Process.after, if_neg forgets, asks, mirrors.store]
    exact ⟨rfl, mirrors.defaults, mirrors.current⟩

/-- **Whatever happens**, a process mirrors the files and the settings. -/
theorem Mirrors.foldl (mirrors : Mirrors process situation) (happenings : List Happening) :
    Mirrors (happenings.foldl (Process.after reader) process)
      (happenings.foldl (Situation.after reader) situation) := by
  induction happenings generalizing process situation with
  | nil => exact mirrors
  | cons happening rest ih => exact ih (mirrors.after happening)

end Mirroring

/-- **Settings are one snapshot between two resets**, whichever reader makes data of a text. Let
anything happen, and settings be asked for some time after they were forgotten. What is answered is
what was answered first since then: the defaults, deeply merged with the mapping that the file held
that was read at that time. If nothing could be read since, it is what the file holds now, and if
that cannot be read, nothing changes. The expansion of a program for which no module is given works
with the same settings. And in memory, where what is answered shares parts with the defaults, these
are what they were. -/
theorem one_snapshot (reader : Reader) (store : FileStore) (before since : List Happening)
    (fresh : before = [] ∨ before.getLast? = some .reset) (unbroken : .reset ∉ since)
    (directory : Option String) (file source : String) :
    let situation := (before ++ since).foldl (Situation.after reader) ⟨store, {}⟩
    let process := (before ++ since).foldl (Process.after reader) (.start store)
    let answered := answer reader (before.foldl Happening.alter store) since
    (situation.cache.get reader situation.store directory).1.map (·.value) = answered directory ∧
    (∀ fault, answered directory = .error fault →
      (situation.cache.get reader situation.store directory).2 = situation.cache) ∧
    (situation.transform reader none file source).1 =
      (match answered none with
        | .ok value => (Transform.underSettings value .loose file source).mapError .lookup
        | .error fault => .error (.ofSettings fault)) ∧
    process.Gives reader directory (answered directory) ∧
    (process.get reader directory).2.memory.Means [] (.at defaultsPlace) (.mapping defaults) := by
  intro situation process answered
  have mirrors : Mirrors process situation := (mirrors_start store).foldl (before ++ since)
  have same : ∀ directory, (situation.cache.get reader situation.store directory).1.map (·.value) =
      answered directory := by
    intro directory
    have forgotten := Situation.current_of_fresh reader store fresh
    have result := Situation.answer_foldl reader forgotten unbroken directory
    rwa [← List.foldl_append, Situation.store_foldl before] at result
  obtain ⟨after, gives⟩ := mirrors.get directory
  refine ⟨same directory, fun fault failed => ?_, ?_, same directory ▸ gives, after.defaults⟩
  · rw [← same] at failed
    refine situation.cache.get_error reader _ _ fault ?_
    cases found : (situation.cache.get reader situation.store directory).1 with
    | ok snapshot => rw [found] at failed; cases failed
    | error other => rw [found] at failed; cases failed; rfl
  · rw [← same none]
    show (match (situation.cache.get reader situation.store none).1 with
      | .ok snapshot => _
      | .error fault => _) = _
    cases (situation.cache.get reader situation.store none).1 <;> rfl

/-- The settings that were read between two writings of their file still count when it is gone. The
first content is no text, and the second one is that of `m: m`. -/
theorem one_snapshot_rewritten :
    let before : List Happening := [.write fileName [255], .get none, .reset]
    let since : List Happening :=
      [.get none, .write fileName [109, 58, 32, 109], .get none, .remove fileName]
    let situation := (before ++ since).foldl (Situation.after Yaml.read) ⟨{}, {}⟩
    let settings := "\x7b'macro': \x7b'module': 'ifexpr.macro'\x7d, " ++
      "'build': \x7b'output_suffix': '.expanded.py'\x7d, " ++
      "'logging': \x7b'level': 'WARNING'\x7d, 'm': 'm'\x7d"
    (situation.cache.get Yaml.read situation.store none).1.toOption.map (·.value.shown) =
      some settings := by
  intro before since situation settings
  let unread : FileStore := FileStore.set {} workingPlace (.file [255])
  let rewritten : FileStore := unread.set workingPlace (.file [109, 58, 32, 109])
  have first : before.foldl Happening.alter {} = unread := alter_write (by decide)
  have second : Happening.alter unread (.write fileName [109, 58, 32, 109]) = rewritten :=
    alter_write (by decide)
  have failed : (Happening.get none).held? Yaml.read unread = none := by
    have decoded : (Utf8.decode [255]).toOption = none := by decide +kernel
    rw [held?_of_file rfl, decoded, Option.bind_none]
  have told : ((Happening.get none).held? Yaml.read rewritten).map (fun entries =>
      (overridden entries).shown) = some settings := by
    rw [held?_of_file rfl]
    decide +kernel
  obtain ⟨entries, held, shown⟩ := Option.map_eq_some_iff.mp told
  have later : firstHeld? Yaml.read unread since = some entries := by
    rw [firstHeld?, failed, Option.none_or, firstHeld?]
    show (none : Option Mapping).or (firstHeld? Yaml.read (Happening.alter unread _) _) = _
    rw [second, Option.none_or, firstHeld?, held, Option.some_or]
  have answered :=
    (one_snapshot Yaml.read {} before since (.inr rfl) (by decide) none "" "").1
  rw [first, answer, later] at answered
  rw [← shown]
  cases found : (situation.cache.get Yaml.read situation.store none).1 with
  | error fault => exact absurd (found ▸ answered) nofun
  | ok snapshot =>
    have same : snapshot.value = overridden entries := Except.ok.inj ((found ▸ answered :))
    exact congrArg (fun value => some (Data.shown value)) same

end Settings

end IfChains
