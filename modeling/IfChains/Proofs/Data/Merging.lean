/-
**What merged mappings hold at a path.**

A path of keys leads through mappings, key by key. It ends at a leaf if what is there is no mapping.
Two mappings are merged by going down both of them together as long as there are mappings in both.
So what is at a path afterwards is what the overriding mapping has there, or else what is overridden
has there, unless a leaf of the overriding mapping stands on the way. A mapping has one entry for
each of its keys.

* `at?`, `Leaf`, `Free`: what is at a path, and the paths where nothing is overridden;
* `get?_mergeEntries`: what merged mappings hold under a key;
* `Leaf.overriding`, `Leaf.overridden`, `leaf_cases`: the leaves of what is merged;
* `Keyed.absorbs`, `Keyed.again`: overriding once more changes nothing;
* `merge_leaves`: **what comes of merging two mappings.**
-/

import IfChains.Proofs.Settings.Memory
import Mathlib.Data.List.Induction

namespace IfChains

open Settings.Memory (Plain)

namespace Mapping

variable {mapping : Mapping} {key other : Scalar} {value first second : Data}

section Keys

/-- Two spellings of a key are one key. -/
theorem get?_congr (same : key.asKey = other.asKey) : get? key mapping = get? other mapping := by
  induction mapping with
  | nil => rfl
  | cons entry rest ih =>
    obtain ⟨here, held⟩ := entry
    rw [get?, get?, same, ih]

/-- What a mapping holds after a key was given a value. -/
theorem get?_put : get? other (put key value mapping) =
    if key.asKey = other.asKey then some value else get? other mapping := by
  split
  · rename_i same
    rw [← get?_congr same, get?_put_same]
  · rename_i different
    exact get?_put_other mapping key other value different

theorem get?_eq_none_iff :
    get? key mapping = none ↔ ∀ entry ∈ mapping, entry.1.asKey ≠ key.asKey := by
  induction mapping with
  | nil => simp [get?]
  | cons entry rest ih =>
    obtain ⟨here, held⟩ := entry
    rw [get?, List.forall_mem_cons, ← ih]
    by_cases same : here.asKey = key.asKey <;> simp [same]

/-- What is held under a key is the value of an entry. -/
theorem exists_mem_of_get? (held : get? key mapping = some value) :
    ∃ entry ∈ mapping, entry.2 = value := by
  induction mapping with
  | nil => exact nomatch held
  | cons entry rest ih =>
    obtain ⟨here, old⟩ := entry
    rw [get?] at held
    split at held
    · exact ⟨_, List.mem_cons_self, Option.some.inj held⟩
    · obtain ⟨entry, member, same⟩ := ih held
      exact ⟨entry, List.mem_cons_of_mem _ member, same⟩

end Keys

section Putting

/-- Giving a key the value that it has changes nothing. -/
theorem put_eq_self (held : get? key mapping = some value) : put key value mapping = mapping := by
  induction mapping with
  | nil => exact nomatch held
  | cons entry rest ih =>
    obtain ⟨here, old⟩ := entry
    rw [get?] at held
    rw [put]
    by_cases same : here.asKey = key.asKey
    · rw [if_pos same] at held ⊢
      rw [Option.some.inj held]
    · rw [if_neg same] at held ⊢
      rw [ih held]

/-- Of two values that a key is given the last one counts. -/
theorem put_put (same : other.asKey = key.asKey) :
    put key second (put other first mapping) = put other second mapping := by
  induction mapping with
  | nil => simp [put, same]
  | cons entry rest ih =>
    obtain ⟨here, old⟩ := entry
    by_cases found : here.asKey = other.asKey
    · simp [put, found, same]
    · have apart : here.asKey ≠ key.asKey := same ▸ found
      simp [put, found, apart, ih]

/-- Two keys are given their values in any order if one of them is there already. -/
theorem put_comm (there : get? key mapping ≠ none) (different : other.asKey ≠ key.asKey) :
    put key second (put other first mapping) = put other first (put key second mapping) := by
  induction mapping with
  | nil => exact absurd rfl there
  | cons entry rest ih =>
    obtain ⟨here, old⟩ := entry
    by_cases found : here.asKey = key.asKey
    · simp [put, found, Ne.symm different]
    · rw [get?, if_neg found] at there
      by_cases same : here.asKey = other.asKey
      · simp [put, same, different]
      · simp [put, found, same, ih there]

end Putting

section Distinct

/-- No two entries have one key. -/
def Distinct (mapping : Mapping) : Prop :=
  mapping.Pairwise fun first second => first.1.asKey ≠ second.1.asKey

instance : DecidablePred Distinct :=
  fun mapping => inferInstanceAs (Decidable (mapping.Pairwise _))

/-- The value of an entry is what is held under its key. -/
theorem Distinct.get?_of_mem (distinct : Distinct mapping) {entry : Scalar × Data}
    (member : entry ∈ mapping) : get? entry.1 mapping = some entry.2 := by
  induction mapping with
  | nil => exact absurd member List.not_mem_nil
  | cons first rest ih =>
    obtain ⟨here, held⟩ := first
    obtain ⟨apart, distinct⟩ := List.pairwise_cons.mp distinct
    rcases List.mem_cons.mp member with rfl | later
    · simp [get?]
    · rw [get?, if_neg (apart entry later), ih distinct later]

/-- Giving a key a value leaves keys distinct. -/
theorem Distinct.put (distinct : Distinct mapping) : Distinct (put key value mapping) := by
  induction mapping with
  | nil => exact List.pairwise_singleton _ _
  | cons entry rest ih =>
    obtain ⟨here, old⟩ := entry
    obtain ⟨apart, distinct⟩ := List.pairwise_cons.mp distinct
    rw [Mapping.put]
    split
    · exact List.pairwise_cons.mpr ⟨apart, distinct⟩
    · rename_i different
      refine List.pairwise_cons.mpr ⟨fun other member => ?_, ih distinct⟩
      have absent : get? here (Mapping.put key value rest) = none := by
        rw [get?_put, if_neg (Ne.symm different), get?_eq_none_iff]
        exact fun other member => (apart other member).symm
      exact (get?_eq_none_iff.mp absent other member).symm

end Distinct

end Mapping

namespace Data

open Mapping (Distinct)

variable {value override leaf : Data} {base : Option Data} {old entries : Mapping}
  {key : Scalar} {path : List Scalar}

section Overriding

/-- A mapping overrides a mapping entry by entry. -/
theorem mergeInto_mapping :
    mergeInto (some (.mapping old)) (.mapping entries) = .mapping (mergeEntries old entries) := by
  rw [mergeInto]

/-- A value that is no mapping takes the place of what is overridden. -/
theorem mergeInto_plain (plain : Plain value) : mergeInto base value = value := by
  cases value with
  | mapping entries => exact absurd rfl (plain entries)
  | _ =>
    rw [mergeInto]
    intro _ same
    cases same

/-- Any value takes the place of one that is no mapping. -/
theorem mergeInto_other (other : ∀ old, base ≠ some (.mapping old)) :
    mergeInto base value = value := by
  cases value with
  | mapping entries => rw [mergeInto]; exact other
  | _ =>
    apply mergeInto_plain
    intro _ same
    cases same

/-- Any value is there where nothing was. -/
theorem mergeInto_none : mergeInto none value = value :=
  mergeInto_other fun _ same => nomatch same

/-- What is overridden is a mapping, or any value takes its place. -/
theorem mapping_or_other (base : Option Data) :
    (∃ old, base = some (.mapping old)) ∨ ∀ value, mergeInto base value = value := by
  by_cases found : ∃ old, base = some (.mapping old)
  · exact Or.inl found
  · exact Or.inr fun value => mergeInto_other fun old same => found ⟨old, same⟩

/-- **What merged mappings hold under a key**: the overriding value, merged with the one that it
overrides, and otherwise what was there. -/
theorem get?_mergeEntries (distinct : Distinct entries) :
    Mapping.get? key (mergeEntries old entries) =
      match Mapping.get? key entries with
      | some value => some (mergeInto (Mapping.get? key old) value)
      | none => Mapping.get? key old := by
  induction entries generalizing old with
  | nil => rw [mergeEntries]; rfl
  | cons entry rest ih =>
    obtain ⟨here, value⟩ := entry
    obtain ⟨apart, distinct⟩ := List.pairwise_cons.mp distinct
    rw [mergeEntries, ih distinct, Mapping.get?, Mapping.get?_put]
    by_cases same : here.asKey = key.asKey
    · have absent : Mapping.get? key rest = none :=
        Mapping.get?_eq_none_iff.mpr fun entry member => (same ▸ apart entry member).symm
      rw [absent, if_pos same, if_pos same, Mapping.get?_congr same]
    · rw [if_neg same, if_neg same]

/-- Merging leaves keys distinct. -/
theorem distinct_mergeEntries (distinct : Distinct old) : Distinct (mergeEntries old entries) := by
  induction entries generalizing old with
  | nil => rwa [mergeEntries]
  | cons entry rest ih =>
    rw [mergeEntries]
    exact ih distinct.put

end Overriding

section Leaves

/-- What a path of keys leads to in a value. -/
def at? : (path : List Scalar) → Data → Option Data
  | [], value => some value
  | key :: rest, .mapping entries => (Mapping.get? key entries).bind (at? rest)
  | _ :: _, _ => none

/-- A path leads to a value that is no mapping. -/
def Leaf (value : Data) (path : List Scalar) (leaf : Data) : Prop :=
  value.at? path = some leaf ∧ Plain leaf

/-- A path leads to nothing, and to no leaf on the way. -/
def Free (value : Data) (path : List Scalar) : Prop :=
  value.at? path = none ∧ ∀ above leaf, above <+: path → above ≠ path → ¬value.Leaf above leaf

theorem at?_mapping : at? (key :: path) (.mapping entries) =
    (Mapping.get? key entries).bind (at? path) := rfl

/-- No path leads on from a value that is no mapping. -/
theorem at?_plain (plain : Plain value) : at? (key :: path) value = none := by
  cases value with
  | mapping entries => exact absurd rfl (plain entries)
  | _ => rfl

/-- A value is a mapping or has no entries. -/
theorem mapping_or_plain (value : Data) : (∃ entries, value = .mapping entries) ∨ Plain value := by
  by_cases found : ∃ entries, value = .mapping entries
  · exact Or.inl found
  · exact Or.inr fun entries same => found ⟨entries, same⟩

theorem leaf_nil : Leaf value [] leaf ↔ value = leaf ∧ Plain leaf := by
  rw [Leaf, at?, Option.some.injEq]

/-- A leaf of a mapping is one of what is held under a key. -/
theorem leaf_cons : Leaf (.mapping entries) (key :: path) leaf ↔
    ∃ held, Mapping.get? key entries = some held ∧ Leaf held path leaf := by
  rw [Leaf, at?_mapping, Option.bind_eq_some_iff]
  exact ⟨fun ⟨⟨held, same, here⟩, plain⟩ => ⟨held, same, here, plain⟩,
    fun ⟨held, same, here, plain⟩ => ⟨⟨held, same, here⟩, plain⟩⟩

/-- A leaf further down is one of a mapping. -/
theorem Leaf.exists_mapping (found : Leaf value (key :: path) leaf) :
    ∃ entries, value = .mapping entries := by
  rcases mapping_or_plain value with is | plain
  · exact is
  · rw [Leaf, at?_plain plain] at found
    exact nomatch found.1

theorem not_free_nil : ¬Free value [] := fun free => nomatch free.1

/-- Nothing below a value is free that is no mapping. -/
theorem not_free_plain (plain : Plain value) : ¬Free value path := by
  intro free
  cases path with
  | nil => exact not_free_nil free
  | cons key rest =>
    exact free.2 [] value List.nil_prefix (List.cons_ne_nil _ _).symm (leaf_nil.mpr ⟨rfl, plain⟩)

/-- A path is free in a mapping if the rest of it is free in what is held under its key. -/
theorem free_cons : Free (.mapping entries) (key :: path) ↔
    ∀ held, Mapping.get? key entries = some held → Free held path := by
  constructor
  · rintro ⟨absent, none⟩ held same
    rw [at?_mapping, same] at absent
    refine ⟨absent, fun above leaf inside apart found => ?_⟩
    exact none (key :: above) leaf ((List.prefix_cons_inj key).mpr inside)
      (fun same => apart (List.cons.inj same).2) (leaf_cons.mpr ⟨held, same, found⟩)
  · intro free
    constructor
    · cases same : Mapping.get? key entries with
      | none => rw [at?_mapping, same]; rfl
      | some held => rw [at?_mapping, same]; exact (free held same).1
    · rintro above leaf inside apart found
      cases above with
      | nil => exact (leaf_nil.mp found).2 entries (leaf_nil.mp found).1.symm
      | cons here above =>
        obtain ⟨rfl, below⟩ := List.cons_prefix_cons.mp inside
        obtain ⟨held, same, found⟩ := leaf_cons.mp found
        exact (free held same).2 above leaf below (fun same => apart (same ▸ rfl)) found

end Leaves

/-- Every mapping that keys lead to has one entry for each of its keys. -/
inductive Keyed : Data → Prop
  | plain {value : Data} (plain : Plain value) : Keyed value
  | mapping {entries : Mapping} (distinct : Distinct entries)
    (all : ∀ entry ∈ entries, Keyed entry.2) : Keyed (.mapping entries)

section Paths

theorem Keyed.distinct (keyed : Keyed (.mapping entries)) : Distinct entries := by
  cases keyed with
  | plain plain => exact absurd rfl (plain entries)
  | mapping distinct _ => exact distinct

theorem Keyed.held (keyed : Keyed (.mapping entries))
    (held : Mapping.get? key entries = some value) : Keyed value := by
  cases keyed with
  | plain plain => exact absurd rfl (plain entries)
  | mapping _ all =>
    obtain ⟨entry, member, rfl⟩ := Mapping.exists_mem_of_get? held
    exact all entry member

/-- **A leaf of what overrides** is a leaf afterwards. -/
theorem Leaf.overriding (found : Leaf override path leaf) (keyed : Keyed override)
    (base : Option Data) : Leaf (mergeInto base override) path leaf := by
  induction path generalizing override base with
  | nil =>
    obtain ⟨rfl, plain⟩ := leaf_nil.mp found
    rwa [mergeInto_plain plain]
  | cons key rest ih =>
    rcases mapping_or_other base with ⟨old, rfl⟩ | other
    · obtain ⟨entries, rfl⟩ := found.exists_mapping
      obtain ⟨held, same, below⟩ := leaf_cons.mp found
      rw [mergeInto_mapping, leaf_cons, get?_mergeEntries keyed.distinct, same]
      exact ⟨_, rfl, ih below (keyed.held same) _⟩
    · rwa [other]

/-- **A leaf of what is overridden** is a leaf afterwards if its path is free, and otherwise there
is what overrides it. -/
theorem Leaf.overridden (found : Leaf value path leaf) (keyed : Keyed override) :
    (Free override path → Leaf (merge value override) path leaf) ∧
      (¬Free override path → (merge value override).at? path = override.at? path) := by
  induction path generalizing value override with
  | nil =>
    obtain ⟨rfl, plain⟩ := leaf_nil.mp found
    refine ⟨fun free => absurd free not_free_nil, fun _ => ?_⟩
    rw [merge, mergeInto_other fun old same => plain old (Option.some.inj same)]
  | cons key rest ih =>
    obtain ⟨old, rfl⟩ := found.exists_mapping
    obtain ⟨held, there, below⟩ := leaf_cons.mp found
    rcases mapping_or_plain override with ⟨entries, rfl⟩ | plain
    · rw [merge, mergeInto_mapping, free_cons, leaf_cons, at?_mapping, at?_mapping,
        get?_mergeEntries keyed.distinct, there]
      cases holds : Mapping.get? key entries with
      | none =>
        refine ⟨fun _ => ⟨held, rfl, below⟩, fun taken => absurd ?_ taken⟩
        exact fun held same => nomatch same
      | some value =>
        obtain ⟨kept, replaced⟩ := ih below (keyed.held holds)
        refine ⟨fun free => ⟨_, rfl, kept (free value rfl)⟩, fun taken => replaced fun free => ?_⟩
        exact taken fun held same => Option.some.inj same ▸ free
    · refine ⟨fun free => absurd free (not_free_plain plain), fun _ => ?_⟩
      rw [merge, mergeInto_plain plain]

/-- **A leaf afterwards** is one of what overrides or of what is overridden. -/
theorem leaf_cases (found : Leaf (merge value override) path leaf) (keyed : Keyed override) :
    Leaf value path leaf ∨ Leaf override path leaf := by
  induction path generalizing value override with
  | nil =>
    rcases mapping_or_other (some value) with ⟨old, same⟩ | other
    · obtain rfl := Option.some.inj same
      rcases mapping_or_plain override with ⟨entries, rfl⟩ | plain
      · rw [merge, mergeInto_mapping] at found
        obtain ⟨rfl, plain⟩ := leaf_nil.mp found
        exact absurd rfl (plain _)
      · exact Or.inr (by rwa [merge, mergeInto_plain plain] at found)
    · exact Or.inr (by rwa [merge, other] at found)
  | cons key rest ih =>
    rcases mapping_or_other (some value) with ⟨old, same⟩ | other
    · obtain rfl := Option.some.inj same
      rcases mapping_or_plain override with ⟨entries, rfl⟩ | plain
      · rw [merge, mergeInto_mapping, leaf_cons, get?_mergeEntries keyed.distinct] at found
        obtain ⟨held, same, below⟩ := found
        cases holds : Mapping.get? key entries with
        | none =>
          rw [holds] at same
          exact Or.inl (leaf_cons.mpr ⟨held, same, below⟩)
        | some value =>
          rw [holds] at same
          obtain rfl := Option.some.inj same
          cases there : Mapping.get? key old with
          | none =>
            rw [there, mergeInto_none] at below
            exact Or.inr (leaf_cons.mpr ⟨value, holds, below⟩)
          | some before =>
            rw [there] at below
            rcases ih below (keyed.held holds) with here | here
            · exact Or.inl (leaf_cons.mpr ⟨before, there, here⟩)
            · exact Or.inr (leaf_cons.mpr ⟨value, holds, here⟩)
      · exact Or.inr (by rwa [merge, mergeInto_plain plain] at found)
    · exact Or.inr (by rwa [merge, other] at found)

end Paths

section Absorbing

/-- Entries that override nothing leave a mapping as it is. -/
theorem mergeEntries_eq_self (absorbed : ∀ entry ∈ entries, ∃ held,
    Mapping.get? entry.1 old = some held ∧ mergeInto (some held) entry.2 = held) :
    mergeEntries old entries = old := by
  induction entries with
  | nil => rw [mergeEntries]
  | cons entry rest ih =>
    obtain ⟨here, value⟩ := entry
    obtain ⟨⟨held, there, same⟩, later⟩ := List.forall_mem_cons.mp absorbed
    rw [mergeEntries, there, same, Mapping.put_eq_self there, ih later]

/-- **Overriding with the same value again** changes nothing. -/
theorem Keyed.absorbs (keyed : Keyed override) (base : Option Data) :
    mergeInto (some (mergeInto base override)) override = mergeInto base override := by
  induction keyed generalizing base with
  | plain plain => rw [mergeInto_plain plain, mergeInto_plain plain]
  | @mapping entries distinct all ih =>
    rcases mapping_or_other base with ⟨old, rfl⟩ | other
    · rw [mergeInto_mapping, mergeInto_mapping, mergeEntries_eq_self]
      intro entry member
      rw [get?_mergeEntries distinct, distinct.get?_of_mem member]
      exact ⟨_, rfl, ih entry member _⟩
    · rw [other, mergeInto_mapping, mergeEntries_eq_self]
      intro entry member
      have absorbed := ih entry member none
      rw [mergeInto_none] at absorbed
      exact ⟨_, distinct.get?_of_mem member, absorbed⟩

/-- A key that is there and is not overridden is given its value before or afterwards. -/
theorem put_mergeEntries (free : Mapping.get? key entries = none)
    (there : Mapping.get? key old ≠ none) :
    Mapping.put key value (mergeEntries old entries) =
      mergeEntries (Mapping.put key value old) entries := by
  induction entries generalizing old with
  | nil => rw [mergeEntries, mergeEntries]
  | cons entry rest ih =>
    obtain ⟨here, upper⟩ := entry
    rw [Mapping.get?] at free
    by_cases same : here.asKey = key.asKey
    · rw [if_pos same] at free
      cases free
    · rw [if_neg same] at free
      have kept : ∀ held, Mapping.get? key (Mapping.put here held old) ≠ none := by
        intro held
        rwa [Mapping.get?_put, if_neg same]
      rw [mergeEntries, mergeEntries, ih free (kept _), Mapping.put_comm there same,
        Mapping.get?_put, if_neg (Ne.symm same)]

/-- Where an overriding key is given another value, that value overrides. -/
theorem mergeEntries_put (distinct : Distinct entries) :
    mergeEntries old (Mapping.put key value entries) =
      Mapping.put key (mergeInto (Mapping.get? key old) value) (mergeEntries old entries) := by
  induction entries generalizing old with
  | nil => rw [Mapping.put, mergeEntries, mergeEntries, mergeEntries]
  | cons entry rest ih =>
    obtain ⟨here, upper⟩ := entry
    obtain ⟨apart, distinct⟩ := List.pairwise_cons.mp distinct
    rw [Mapping.put]
    by_cases same : here.asKey = key.asKey
    · have absent : Mapping.get? key rest = none :=
        Mapping.get?_eq_none_iff.mpr fun entry member => (same ▸ apart entry member).symm
      rw [if_pos same, mergeEntries, mergeEntries, put_mergeEntries absent, Mapping.put_put same,
        Mapping.get?_congr same]
      rw [Mapping.get?_put, if_pos same]
      exact Option.some_ne_none _
    · rw [if_neg same, mergeEntries, mergeEntries, ih distinct, Mapping.get?_put, if_neg same]

/-- Entries one after the other override one after the other. -/
theorem mergeEntries_concat (entry : Scalar × Data) : mergeEntries old (entries ++ [entry]) =
    Mapping.put entry.1 (mergeInto (Mapping.get? entry.1 (mergeEntries old entries)) entry.2)
      (mergeEntries old entries) := by
  induction entries generalizing old with
  | nil => rw [List.nil_append, mergeEntries, mergeEntries, mergeEntries]
  | cons first rest ih => rw [List.cons_append, mergeEntries, mergeEntries, ih]

/-- Merging a mapping with what came of merging it, given that this holds of the values. -/
theorem mergeEntries_again (keyed : Keyed (.mapping old)) (distinct : Distinct entries)
    (again : ∀ entry ∈ entries, mergeInto (Mapping.get? entry.1 old)
      (mergeInto (Mapping.get? entry.1 old) entry.2) =
        mergeInto (Mapping.get? entry.1 old) entry.2) :
    mergeEntries old (mergeEntries old entries) = mergeEntries old entries := by
  induction entries using List.reverseRecOn with
  | nil =>
    have absorbed := keyed.absorbs none
    rw [mergeInto_none, mergeInto_mapping] at absorbed
    rw [mergeEntries]
    exact Data.mapping.inj absorbed
  | append_singleton before last ih =>
    obtain ⟨distinct, -, apart⟩ := List.pairwise_append.mp distinct
    have absent : Mapping.get? last.1 before = none := by
      rw [Mapping.get?_eq_none_iff]
      exact fun entry member => apart entry member last (List.mem_singleton_self _)
    have unmerged : Mapping.get? last.1 (mergeEntries old before) = Mapping.get? last.1 old := by
      rw [get?_mergeEntries distinct, absent]
    rw [mergeEntries_concat, unmerged, mergeEntries_put (distinct_mergeEntries keyed.distinct),
      again last (List.mem_append_right _ (List.mem_singleton_self _)),
      ih distinct fun entry member => again entry (List.mem_append_left _ member)]

/-- **Overriding with what came of overriding** changes nothing. -/
theorem Keyed.again (keyed : Keyed override) (keyed' : ∀ value, base = some value → Keyed value) :
    mergeInto base (mergeInto base override) = mergeInto base override := by
  induction keyed generalizing base with
  | plain plain => rw [mergeInto_plain plain, mergeInto_plain plain]
  | @mapping entries distinct all ih =>
    rcases mapping_or_other base with ⟨old, rfl⟩ | other
    · have keyed := keyed' _ rfl
      rw [mergeInto_mapping, mergeInto_mapping, mergeEntries_again keyed distinct]
      exact fun entry member => ih entry member fun value held => keyed.held held
    · rw [other, other]

end Absorbing

/-- **What comes of merging two mappings.** Each leaf of the overriding mapping is there. A leaf of
the other one is there too if the overriding mapping has nothing at its path and no leaf on the way
to it, and otherwise there is at its path what the overriding mapping has there, be it a value or
nothing. There are no other leaves. To merge with the same mapping once more changes nothing, nor
does it to merge a mapping with what came of merging it, or with an empty mapping. -/
theorem merge_leaves (base override : Mapping) (keyed : Keyed (.mapping base))
    (keyed' : Keyed (.mapping override)) :
    let merged := merge (.mapping base) (.mapping override)
    (∀ path leaf, Leaf (.mapping override) path leaf → Leaf merged path leaf) ∧
    (∀ path leaf, Leaf (.mapping base) path leaf →
      (Free (.mapping override) path → Leaf merged path leaf) ∧
      (¬Free (.mapping override) path → merged.at? path = at? path (.mapping override))) ∧
    (∀ path leaf, Leaf merged path leaf →
      Leaf (.mapping base) path leaf ∨ Leaf (.mapping override) path leaf) ∧
    merge merged (.mapping override) = merged ∧ merge (.mapping base) merged = merged ∧
    merge (.mapping base) (.mapping []) = .mapping base := by
  intro merged
  refine ⟨fun path leaf found => found.overriding keyed' _,
    fun path leaf found => found.overridden keyed',
    fun path leaf found => leaf_cases found keyed', keyed'.absorbs _, ?_, ?_⟩
  · exact keyed'.again fun value same => Option.some.inj same ▸ keyed
  · rw [merge, mergeInto_mapping, mergeEntries]

/-- A module that is named counts, a section that is overridden with nothing is gone, and a section
that is overridden with an empty one stays. -/
theorem merge_leaves_settings :
    let override : Mapping := [(.ofString "macro", .mapping [(.ofString "module", .text "m")]),
      (.ofString "build", .scalar .null), (.ofString "logging", .mapping [])]
    let merged := merge (.mapping Settings.defaults) (.mapping override)
    merged.at? [.ofString "macro", .ofString "module"] = some (.text "m") ∧
    merged.at? [.ofString "build", .ofString "output_suffix"] = none ∧
    merged.at? [.ofString "logging", .ofString "level"] = some (.text "WARNING") ∧
    merge merged (.mapping override) = merged := by
  intro override merged
  have text : ∀ value, Keyed (.text value) := fun value => .plain nofun
  have single : ∀ key value, Keyed value → Keyed (.mapping [(key, value)]) := by
    intro key value keyed
    refine .mapping (List.pairwise_singleton _ _) fun entry member => ?_
    obtain rfl := List.mem_singleton.mp member
    exact keyed
  have base : Keyed (.mapping Settings.defaults) := by
    refine .mapping (by decide +kernel) fun entry member => ?_
    simp only [Settings.defaults, List.mem_cons, List.not_mem_nil, or_false] at member
    rcases member with rfl | rfl | rfl <;> exact single _ _ (text _)
  have keyed : Keyed (.mapping override) := by
    refine .mapping (by decide +kernel) fun entry member => ?_
    simp only [override, List.mem_cons, List.not_mem_nil, or_false] at member
    rcases member with rfl | rfl | rfl
    · exact single _ _ (text _)
    · exact .plain nofun
    · exact .mapping List.Pairwise.nil fun _ absent => absurd absent List.not_mem_nil
  obtain ⟨upper, under, -, again, -⟩ := merge_leaves Settings.defaults override base keyed
  have suffix : ¬Free (.mapping override) [.ofString "build", .ofString "output_suffix"] :=
    fun free => free.2 [.ofString "build"] (.scalar .null) (by simp) (by simp) ⟨rfl, nofun⟩
  have level : Free (.mapping override) [.ofString "logging", .ofString "level"] := by
    refine free_cons.mpr fun held same => ?_
    obtain rfl : held = .mapping [] := (Option.some.inj same).symm
    exact free_cons.mpr fun held same => nomatch same
  refine ⟨(upper _ (.text "m") ⟨rfl, nofun⟩).1, ?_,
    ((under _ (.text "WARNING") ⟨rfl, nofun⟩).1 level).1, again⟩
  rw [(under _ (.text ".expanded.py") ⟨rfl, nofun⟩).2 suffix]
  rfl

end Data

end IfChains
