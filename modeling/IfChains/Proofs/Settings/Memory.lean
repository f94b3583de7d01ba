/-
**Mappings in memory.**

In memory a mapping has a place, and other mappings refer to it there; so several of them can share
it, and what is written there changes all of them. Merging makes a new mapping that shares the parts
of the old one that are not overridden, and writes to mappings only that it has made itself.

* `Memory.Means`: what is held stands for a value, and some places are not part of it;
* `Memory.merge`: what overrides a mapping is merged with it, key by key;
* `Overrides`, `Stores`: what comes of overriding with a value, and of writing entries to a mapping;
* `means_merge`: the same value comes of merging as of merging values, and whatever was in memory
  before stands for what it stood for.
-/

import IfChains.Settings.Cache

namespace IfChains

namespace Settings

/-- What a mapping holds under a key: the place of another one, or a value that is no mapping. -/
inductive Held
  | at (place : Nat)
  | value (value : Data)
deriving Repr

/-- The keys of a mapping, and what it holds under each of them. -/
abbrev Slots := List (Scalar × Held)

namespace Slots

/-- What is held under a key. -/
def get? (key : Scalar) : Slots → Option Held
  | [] => none
  | (other, held) :: rest => if other.asKey = key.asKey then some held else get? key rest

/-- Holds something under a key; a new key comes last, and one that is there stays in its place. -/
def put (key : Scalar) (held : Held) : Slots → Slots
  | [] => [(key, held)]
  | (other, old) :: rest =>
    if other.asKey = key.asKey then (other, held) :: rest else (other, old) :: put key held rest

end Slots

/-- The mappings in memory, by their places. -/
structure Memory where
  mappings : List Slots := []
deriving Repr

namespace Memory

section Changing

/-- The number of places. -/
def size (memory : Memory) : Nat :=
  memory.mappings.length

/-- The mapping at a place. -/
def slots (memory : Memory) (place : Nat) : Slots :=
  memory.mappings[place]?.getD []

/-- Makes a mapping, at the next place. -/
def make (memory : Memory) (slots : Slots) : Memory :=
  ⟨memory.mappings ++ [slots]⟩

/-- Writes to the mapping at a place. -/
def write (memory : Memory) (place : Nat) (key : Scalar) (held : Held) : Memory :=
  ⟨memory.mappings.set place ((memory.slots place).put key held)⟩

mutual

/-- Puts a value into memory; each mapping gets a place of its own. -/
def keep (memory : Memory) : Data → Held × Memory
  | .mapping entries =>
    let (slots, memory) := memory.keepAll entries
    (.at memory.size, memory.make slots)
  | value => (.value value, memory)

/-- Puts the values of a mapping into memory. -/
def keepAll (memory : Memory) : List (Scalar × Data) → Slots × Memory
  | [] => ([], memory)
  | (key, value) :: rest =>
    let (held, memory) := memory.keep value
    let (slots, memory) := memory.keepAll rest
    ((key, held) :: slots, memory)

end

mutual

/-- What is to be held for an overriding value: where a mapping overrides a mapping, the place of a
copy of that one, to which the overriding entries are written. -/
def override (memory : Memory) (base : Option Held) : Data → Held × Memory
  | .mapping entries =>
    match base with
    | some (.at place) =>
      (.at memory.size, store (memory.make (memory.slots place)) memory.size entries)
    | _ => memory.keep (.mapping entries)
  | value => (.value value, memory)

/-- Writes overriding entries to the mapping at a place, one after the other. -/
def store (memory : Memory) (result : Nat) : List (Scalar × Data) → Memory
  | [] => memory
  | (key, value) :: rest =>
    let (held, memory) := memory.override ((memory.slots result).get? key) value
    store (memory.write result key held) result rest

end

/-- The place of a mapping with what overrides it, and the memory where it is. -/
def merge (memory : Memory) (base : Nat) (entries : Mapping) : Nat × Memory :=
  (memory.size, (memory.make (memory.slots base)).store memory.size entries)

end Changing

section Meaning

mutual

/-- What is held stands for a value, and no part of it is at one of some places. -/
def Means (memory : Memory) (avoided : List Nat) (held : Held) : Data → Prop
  | .mapping entries => ∃ place slots, held = .at place ∧ place ∉ avoided ∧
      memory.mappings[place]? = some slots ∧ memory.MeansAll avoided slots entries
  | value => held = .value value

/-- A mapping in memory stands for the entries of a mapping. -/
def MeansAll (memory : Memory) (avoided : List Nat) (slots : Slots) : List (Scalar × Data) → Prop
  | [] => slots = []
  | (key, value) :: rest => ∃ held others, slots = (key, held) :: others ∧
      memory.Means avoided held value ∧ memory.MeansAll avoided others rest

end

variable {memory memory' : Memory} {avoided avoided' : List Nat} {held : Held} {slots : Slots}
  {value : Data} {entries : List (Scalar × Data)} {place : Nat} {key : Scalar}

/-- A value is a mapping or has no entries. -/
def Plain (value : Data) : Prop :=
  ∀ entries, value ≠ .mapping entries

/-- What is said of all values and of the entries of all mappings at once. -/
theorem induction_entries {holds : Data → Prop} {all : List (Scalar × Data) → Prop}
    (plain : ∀ value, Plain value → holds value)
    (mapping : ∀ entries, all entries → holds (.mapping entries)) (nil : all [])
    (cons : ∀ key value rest, holds value → all rest → all ((key, value) :: rest)) :
    (∀ value, holds value) ∧ ∀ entries, all entries :=
  ⟨values, list⟩
where
  values : ∀ value, holds value
    | .mapping entries => mapping entries (list entries)
    | .scalar _ | .list _ | .set _ | .pair .. | .enclosing _ => plain _ nofun
  list : ∀ entries, all entries
    | [] => nil
    | (key, value) :: rest => cons key value rest (values value) (list rest)

/-- A value that is no mapping is held as it is. -/
theorem means_plain (plain : Plain value) :
    memory.Means avoided held value ↔ held = .value value := by
  cases value with
  | mapping entries => exact absurd rfl (plain entries)
  | _ => rw [Means]; exact nofun

end Meaning

variable {memory memory' memory'' : Memory} {avoided avoided' changed : List Nat} {held : Held}
  {slots : Slots} {value : Data} {entries : List (Scalar × Data)} {place : Nat}

/-- Memory has changed at some places at most, and mappings may have been made. -/
structure Keeps (changed : List Nat) (memory memory' : Memory) : Prop where
  size : memory.size ≤ memory'.size
  same : ∀ place slots, place ∉ changed → memory.mappings[place]? = some slots →
    memory'.mappings[place]? = some slots

theorem Keeps.refl : Keeps changed memory memory :=
  ⟨Nat.le_refl _, fun _ _ _ found => found⟩

theorem Keeps.trans (first : Keeps changed memory memory')
    (second : Keeps changed memory' memory'') :
    Keeps changed memory memory'' :=
  ⟨Nat.le_trans first.size second.size, fun place slots outside found =>
    second.same place slots outside (first.same place slots outside found)⟩

theorem Keeps.mono {changed' : List Nat} (keeps : Keeps changed memory memory')
    (more : changed ⊆ changed') : Keeps changed' memory memory' :=
  ⟨keeps.size, fun place slots outside =>
    keeps.same place slots fun inside => outside (more inside)⟩

/-- Making a mapping changes none. -/
theorem keeps_make (slots : Slots) : Keeps [] memory (memory.make slots) := by
  refine ⟨by simp [size, make], fun place held _ found => ?_⟩
  have known := (List.getElem?_eq_some_iff.mp found).1
  rw [make, List.getElem?_append_left known, found]

/-- What was made is at its place. -/
theorem getElem?_make (slots : Slots) :
    (memory.make slots).mappings[memory.size]? = some slots := by
  simp [make, size]

/-- Writing changes one mapping. -/
theorem keeps_write (place : Nat) (key : Scalar) (held : Held) :
    Keeps [place] memory (memory.write place key held) := by
  refine ⟨by simp [size, write], fun other slots outside found => ?_⟩
  have different : place ≠ other := fun same => outside (List.mem_singleton.mpr same.symm)
  rw [write, List.getElem?_set_ne different, found]

/-- What was written is at its place. -/
theorem getElem?_write (found : memory.mappings[place]? = some slots) (key : Scalar) (held : Held) :
    (memory.write place key held).mappings[place]? = some (slots.put key held) := by
  have known := (List.getElem?_eq_some_iff.mp found).1
  rw [write, List.getElem?_set_self known, Memory.slots, found, Option.getD_some]

/-- A place in memory is below its size. -/
theorem lt_size (found : memory.mappings[place]? = some slots) : place < memory.size :=
  (List.getElem?_eq_some_iff.mp found).1

section Staying

/-- What is held stands for the same value where the places of its parts are as they were. -/
theorem means_mono (kept : ∀ place slots, place ∉ avoided → memory.mappings[place]? = some slots →
    place ∉ avoided' ∧ memory'.mappings[place]? = some slots) :
    (∀ value held, memory.Means avoided held value → memory'.Means avoided' held value) ∧
      ∀ entries slots, memory.MeansAll avoided slots entries →
        memory'.MeansAll avoided' slots entries := by
  refine induction_entries (fun value plain held means => ?_) (fun entries ih held means => ?_)
    (fun slots means => means) fun key value rest ihValue ihRest slots means => ?_
  · exact (means_plain plain).mpr ((means_plain plain).mp means)
  · rw [Means] at means ⊢
    obtain ⟨place, slots, rfl, outside, found, all⟩ := means
    obtain ⟨outside', found'⟩ := kept place slots outside found
    exact ⟨place, slots, rfl, outside', found', ih slots all⟩
  · rw [MeansAll] at means ⊢
    obtain ⟨held, others, rfl, one, all⟩ := means
    exact ⟨held, others, rfl, ihValue held one, ihRest others all⟩

/-- **What was in memory stands for what it stood for**, if none of its parts was written to. -/
theorem Keeps.means (keeps : Keeps avoided memory memory')
    (means : memory.Means avoided held value) :
    memory'.Means avoided held value :=
  (means_mono fun place slots outside found =>
    ⟨outside, keeps.same place slots outside found⟩).1 value held means

theorem Keeps.meansAll (keeps : Keeps avoided memory memory')
    (all : memory.MeansAll avoided slots entries) : memory'.MeansAll avoided slots entries :=
  (means_mono fun place slots outside found =>
    ⟨outside, keeps.same place slots outside found⟩).2 entries slots all

/-- A mapping that is made later is no part of what is there. -/
theorem MeansAll.make (all : memory.MeansAll avoided slots entries) (made : Slots) :
    (memory.make made).MeansAll (memory.size :: avoided) slots entries := by
  refine (means_mono fun place slots outside found => ⟨fun member => ?_, ?_⟩).2 entries slots all
  · exact (List.mem_cons.mp member).elim (Nat.ne_of_lt (lt_size found)) outside
  · exact (keeps_make made).same place slots List.not_mem_nil found

theorem MeansAll.mono (all : memory.MeansAll avoided slots entries) (fewer : avoided' ⊆ avoided) :
    memory.MeansAll avoided' slots entries :=
  (means_mono fun _ _ outside found =>
    ⟨fun inside => outside (fewer inside), found⟩).2 entries slots all

end Staying

section Slots

/-- What a mapping in memory holds under a key stands for the value of that key. -/
theorem MeansAll.get? (all : memory.MeansAll avoided slots entries) (key : Scalar) :
    Option.Rel (memory.Means avoided) (slots.get? key) (Mapping.get? key entries) := by
  induction entries generalizing slots with
  | nil =>
    obtain rfl : slots = [] := by rwa [MeansAll] at all
    exact .none
  | cons entry rest ih =>
    obtain ⟨other, value⟩ := entry
    rw [MeansAll] at all
    obtain ⟨held, others, rfl, one, all⟩ := all
    rw [Slots.get?, Mapping.get?]
    split
    · exact .some one
    · exact ih all

/-- Holding something under a key gives that key its value. -/
theorem MeansAll.put (all : memory.MeansAll avoided slots entries) (key : Scalar)
    (one : memory.Means avoided held value) :
    memory.MeansAll avoided (slots.put key held) (Mapping.put key value entries) := by
  induction entries generalizing slots with
  | nil =>
    obtain rfl : slots = [] := by rwa [MeansAll] at all
    rw [Slots.put, Mapping.put, MeansAll]
    exact ⟨held, [], rfl, one, by rw [MeansAll]⟩
  | cons entry rest ih =>
    obtain ⟨other, old⟩ := entry
    rw [MeansAll] at all
    obtain ⟨heldOld, others, rfl, oneOld, all⟩ := all
    rw [Slots.put, Mapping.put]
    split
    · rw [MeansAll]
      exact ⟨held, others, rfl, one, all⟩
    · rw [MeansAll]
      exact ⟨heldOld, _, rfl, oneOld, ih all⟩

end Slots

section Merging

/-- **A value that is put into memory** is there, and its mappings are at new places. -/
theorem means_keep :
    (∀ (value : Data) (memory : Memory) (avoided : List Nat),
      (∀ place ∈ avoided, place < memory.size) →
      Keeps [] memory (memory.keep value).2 ∧
        (memory.keep value).2.Means avoided (memory.keep value).1 value) ∧
    ∀ (entries : List (Scalar × Data)) (memory : Memory) (avoided : List Nat),
      (∀ place ∈ avoided, place < memory.size) →
      Keeps [] memory (memory.keepAll entries).2 ∧
        (memory.keepAll entries).2.MeansAll avoided (memory.keepAll entries).1 entries := by
  refine induction_entries (fun value plain memory avoided _ => ?_)
    (fun entries ih memory avoided older => ?_) (fun memory avoided _ => ?_)
    fun key value rest ihValue ihRest memory avoided older => ?_
  · have kept : memory.keep value = (.value value, memory) := by
      cases value with
      | mapping entries => exact absurd rfl (plain entries)
      | _ => rw [keep]; exact nofun
    rw [kept]
    exact ⟨.refl, (means_plain plain).mpr rfl⟩
  · obtain ⟨keeps, all⟩ := ih memory avoided older
    rw [keep]
    refine ⟨keeps.trans (keeps_make _), ?_⟩
    rw [Means]
    refine ⟨_, _, rfl, fun member => ?_, getElem?_make _,
      ((keeps_make _).mono (List.nil_subset _)).meansAll all⟩
    exact Nat.not_le_of_lt (older _ member) keeps.size
  · rw [keepAll]
    exact ⟨.refl, by rw [MeansAll]⟩
  · obtain ⟨keeps, one⟩ := ihValue memory avoided older
    obtain ⟨keeps', all⟩ := ihRest (memory.keep value).2 avoided fun place member =>
      Nat.lt_of_lt_of_le (older place member) keeps.size
    rw [keepAll]
    refine ⟨keeps.trans keeps', ?_⟩
    rw [MeansAll]
    exact ⟨_, _, rfl, (keeps'.mono (List.nil_subset _)).means one, all⟩

/-- Overriding with a value comes to the merged value, and changes nothing that is in memory. -/
def Overrides (value : Data) : Prop :=
  ∀ (memory : Memory) (avoided : List Nat) (base : Option Held) (base' : Option Data),
    (∀ place ∈ avoided, place < memory.size) → Option.Rel (memory.Means avoided) base base' →
    Keeps [] memory (memory.override base value).2 ∧ (memory.override base value).2.Means avoided
      (memory.override base value).1 (Data.mergeInto base' value)

/-- Writing entries to a mapping, which is no part of what it holds, comes to the merged entries,
and changes nothing else that is in memory. -/
def Stores (entries : List (Scalar × Data)) : Prop :=
  ∀ (memory : Memory) (avoided : List Nat) (result : Nat) (slots : Slots) (base : Mapping),
    (∀ place ∈ result :: avoided, place < memory.size) →
    memory.mappings[result]? = some slots → memory.MeansAll (result :: avoided) slots base →
    Keeps [result] memory (memory.store result entries) ∧ ∃ slots',
      (memory.store result entries).mappings[result]? = some slots' ∧
      (memory.store result entries).MeansAll (result :: avoided) slots'
        (Data.mergeEntries base entries)

/-- A value that is no mapping takes the place of what is there. -/
theorem overrides_plain (plain : Plain value) : Overrides value := by
  intro memory avoided base base' _ _
  have kept : memory.override base value = (.value value, memory) ∧
      Data.mergeInto base' value = value := by
    cases value with
    | mapping entries => exact absurd rfl (plain entries)
    | _ =>
      rw [override, Data.mergeInto]
      · exact ⟨rfl, rfl⟩
      · exact nofun
      · exact nofun
  rw [kept.1, kept.2]
  exact ⟨.refl, (means_plain plain).mpr rfl⟩

/-- Where a mapping overrides a mapping, its entries are written to a copy. -/
theorem Stores.copied (stores : Stores entries) {old : List (Scalar × Data)}
    (older : ∀ place ∈ avoided, place < memory.size)
    (means : memory.Means avoided (.at place) (.mapping old)) :
    Keeps [] memory (memory.override (some (.at place)) (.mapping entries)).2 ∧
      (memory.override (some (.at place)) (.mapping entries)).2.Means avoided
        (memory.override (some (.at place)) (.mapping entries)).1
        (.mapping (Data.mergeEntries old entries)) := by
  rw [Means] at means
  obtain ⟨place, slots, ⟨⟩, outside, found, all⟩ := means
  have here : memory.slots place = slots := by rw [Memory.slots, found, Option.getD_some]
  have made := @keeps_make memory slots
  have known : ∀ place ∈ memory.size :: avoided, place < (memory.make slots).size :=
    List.forall_mem_cons.mpr ⟨by simp [size, make], fun place member =>
      Nat.lt_of_lt_of_le (older place member) made.size⟩
  obtain ⟨keeps, slots', found', all'⟩ :=
    stores (memory.make slots) avoided memory.size slots old known (getElem?_make slots)
      (all.make slots)
  rw [override, here]
  refine ⟨⟨Nat.le_trans made.size keeps.size, fun other others _ before => ?_⟩, ?_⟩
  · refine keeps.same other others (fun member => ?_)
      (made.same other others List.not_mem_nil before)
    exact Nat.ne_of_lt (lt_size before) (List.mem_singleton.mp member)
  · rw [Means]
    exact ⟨_, slots', rfl, fun member => Nat.lt_irrefl _ (older _ member), found',
      all'.mono (List.subset_cons_self _ _)⟩

/-- A mapping is merged with a mapping, and takes the place of anything else. -/
theorem Stores.overrides (stores : Stores entries) : Overrides (.mapping entries) := by
  intro memory avoided base base' older same
  have kept := means_keep.1 (.mapping entries) memory avoided older
  cases same with
  | none => rwa [override, Data.mergeInto] <;> exact nofun
  | @some held old one =>
    cases old with
    | mapping old =>
      have shape := one
      rw [Means] at shape
      obtain ⟨place, slots, rfl, -⟩ := shape
      rw [Data.mergeInto]
      exact stores.copied older one
    | _ =>
      obtain rfl := (means_plain (by exact fun _ => nofun)).mp one
      rwa [override, Data.mergeInto] <;> exact nofun

theorem stores_nil : Stores [] := by
  intro memory avoided result slots base _ found all
  rw [store, Data.mergeEntries]
  exact ⟨.refl, slots, found, all⟩

/-- What overrides one entry is written before the other entries are. -/
theorem Overrides.stores_cons {rest : List (Scalar × Data)} (overrides : Overrides value)
    (stores : Stores rest) (key : Scalar) : Stores ((key, value) :: rest) := by
  intro memory avoided result slots base older found all
  have here : memory.slots result = slots := by rw [Memory.slots, found, Option.getD_some]
  obtain ⟨keeps, one⟩ := overrides memory (result :: avoided) _ _ older (all.get? key)
  rw [store, Data.mergeEntries, here]
  have wrote := @keeps_write (memory.override (slots.get? key) value).2 result key
    (memory.override (slots.get? key) value).1
  have found' := keeps.same result slots List.not_mem_nil found
  have all' := ((keeps.mono (List.nil_subset _)).meansAll all).put key one
  have before : Keeps [result] memory ((memory.override (slots.get? key) value).2.write result key
      (memory.override (slots.get? key) value).1) := (keeps.mono (List.nil_subset _)).trans wrote
  obtain ⟨keeps', slots', found'', all''⟩ := stores _ avoided result _ _
    (fun place member => Nat.lt_of_lt_of_le (older place member) before.size)
    (getElem?_write found' key _)
    ((wrote.mono (List.cons_subset_cons _ (List.nil_subset _))).meansAll all')
  exact ⟨before.trans keeps', slots', found'', all''⟩

/-- **Merging in memory** comes to the merged value, whatever overrides. -/
theorem means_override : (∀ value, Overrides value) ∧ ∀ entries, Stores entries :=
  induction_entries (fun _ plain => overrides_plain plain) (fun _ stores => stores.overrides)
    stores_nil fun key _ _ overrides stores => overrides.stores_cons stores key

/-- **Merging a mapping in memory** leaves it as it was, with all else that was there. -/
theorem means_merge {old : Mapping} (base : memory.Means [] (.at place) (.mapping old))
    (entries : Mapping) : Keeps [] memory (memory.merge place entries).2 ∧
      (memory.merge place entries).2.Means [] (.at (memory.merge place entries).1)
        (Data.merge (.mapping old) (.mapping entries)) := by
  have merged := means_override.1 (.mapping entries) memory [] _ _ (List.forall_mem_nil _)
    (Option.Rel.some base)
  rwa [override] at merged

end Merging

end Memory

end Settings

end IfChains
