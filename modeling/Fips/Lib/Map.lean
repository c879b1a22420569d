import Mathlib.Data.List.AList

/-!
# Finite maps with an unspecified iteration order

`Map κ υ` is Mathlib's association list `AList`. A hash map's iteration order is unspecified, so
the order of the entries is part of the state and a step may permute it (`Map.Rehash`); what a
lookup returns does not depend on it (`lookup_rehash`).

Beside `AList`'s own operations: `modify` (mutation behind a lookup), `mapVals` (mutation of every
value), `filterMap` and `extend` (another map written over this one), each with the lookup it leads
to.
-/

/-- A finite map. -/
abbrev Map (κ υ : Type*) := AList (fun _ : κ => υ)

namespace Map

variable {κ υ : Type*}

/-- `m'` has the entries of `m` in some other order. -/
def Rehash (m m' : Map κ υ) : Prop := m.entries.Perm m'.entries

instance [DecidableEq κ] [DecidableEq υ] (m m' : Map κ υ) : Decidable (Rehash m m') :=
  inferInstanceAs (Decidable (List.Perm _ _))

/-- No entry at all. -/
def isEmpty (m : Map κ υ) : Bool := m.entries.isEmpty

/-- Mutation of every value. -/
def mapVals (f : κ → υ → υ) (m : Map κ υ) : Map κ υ where
  entries := m.entries.map fun e => ⟨e.1, f e.1 e.2⟩
  nodupKeys := by
    have h := m.nodupKeys
    rw [List.nodupKeys_iff_pairwise] at h ⊢
    exact List.pairwise_map.mpr h

/-- The values `f` gives, where it gives one. -/
def filterMap {ω : Type*} (f : κ → υ → Option ω) (m : Map κ υ) : Map κ ω where
  entries := m.entries.filterMap fun e => (f e.1 e.2).map fun w => ⟨e.1, w⟩
  nodupKeys := by
    have h := m.nodupKeys
    rw [List.nodupKeys_iff_pairwise] at h ⊢
    refine List.Pairwise.filterMap _ (fun e e' hne b hb b' hb' => ?_) h
    obtain ⟨w, -, rfl⟩ := Option.map_eq_some_iff.mp hb
    obtain ⟨w', -, rfl⟩ := Option.map_eq_some_iff.mp hb'
    exact hne

variable [DecidableEq κ]

/-- Mutation of the value of one key, if there is one. -/
def modify (k : κ) (f : υ → υ) (m : Map κ υ) : Map κ υ :=
  match m.lookup k with
  | some v => m.insert k (f v)
  | none => m

theorem lookup_rehash {m m' : Map κ υ} (h : Rehash m m') (k : κ) : m'.lookup k = m.lookup k :=
  (AList.perm_lookup h).symm

theorem mem_entries_iff {m : Map κ υ} {k : κ} {v : υ} :
    (⟨k, v⟩ : Sigma fun _ : κ => υ) ∈ m.entries ↔ m.lookup k = some v :=
  AList.mem_lookup_iff.symm

theorem mem_of_lookup {m : Map κ υ} {k : κ} {v : υ} (h : m.lookup k = some v) : k ∈ m :=
  AList.lookup_isSome.mp (Option.isSome_iff_exists.mpr ⟨v, h⟩)

theorem lookup_insert' (m : Map κ υ) (k k' : κ) (v : υ) :
    (m.insert k v).lookup k' = if k' = k then some v else m.lookup k' := by
  split_ifs with h
  · rw [h, AList.lookup_insert]
  · rw [AList.lookup_insert_ne h]

theorem lookup_erase' (m : Map κ υ) (k k' : κ) :
    (m.erase k).lookup k' = if k' = k then none else m.lookup k' := by
  split_ifs with h
  · rw [h, AList.lookup_erase]
  · rw [AList.lookup_erase_ne h]

theorem lookup_modify (m : Map κ υ) (k k' : κ) (f : υ → υ) :
    (m.modify k f).lookup k' = if k' = k then (m.lookup k').map f else m.lookup k' := by
  unfold modify
  cases h : m.lookup k with
  | none =>
    split_ifs with hk
    · rw [hk, h]
      rfl
    · rfl
  | some v =>
    rw [lookup_insert']
    split_ifs with hk
    · rw [hk, h]
      rfl
    · rfl

theorem modify_eq_insert {m : Map κ υ} {k : κ} {v : υ} (h : m.lookup k = some v) (f : υ → υ) :
    m.modify k f = m.insert k (f v) := by
  unfold modify
  rw [h]

theorem lookup_modify_self {m : Map κ υ} {k : κ} {v : υ} (h : m.lookup k = some v) (f : υ → υ) :
    (m.modify k f).lookup k = some (f v) := by
  rw [lookup_modify, if_pos rfl, h]
  rfl

theorem lookup_modify_ne (m : Map κ υ) {k k' : κ} (h : k' ≠ k) (f : υ → υ) :
    (m.modify k f).lookup k' = m.lookup k' := by
  rw [lookup_modify, if_neg h]

theorem mem_modify {m : Map κ υ} {k k' : κ} {f : υ → υ} : k' ∈ m.modify k f ↔ k' ∈ m := by
  rw [← AList.lookup_isSome, ← AList.lookup_isSome, lookup_modify]
  split_ifs <;> simp

theorem lookup_mapVals (m : Map κ υ) (f : κ → υ → υ) (k : κ) :
    (m.mapVals f).lookup k = (m.lookup k).map (f k) := by
  cases h : m.lookup k with
  | none =>
    refine AList.lookup_eq_none.mpr fun hk => AList.lookup_eq_none.mp h ?_
    have hkeys : (m.mapVals f).keys = m.keys := by
      simp [AList.keys, List.keys, mapVals, Function.comp_def]
    exact AList.mem_keys.mpr (hkeys ▸ AList.mem_keys.mp hk)
  | some v =>
    refine mem_entries_iff.mp (List.mem_map.mpr ⟨⟨k, v⟩, mem_entries_iff.mpr h, rfl⟩)

theorem mem_mapVals {m : Map κ υ} {f : κ → υ → υ} {k : κ} : k ∈ m.mapVals f ↔ k ∈ m := by
  rw [← AList.lookup_isSome, ← AList.lookup_isSome, lookup_mapVals, Option.isSome_map]

theorem lookup_filterMap {ω : Type*} (m : Map κ υ) (f : κ → υ → Option ω) (k : κ) :
    (m.filterMap f).lookup k = (m.lookup k).bind (f k) := by
  refine Option.ext fun w => ?_
  rw [← mem_entries_iff, Option.bind_eq_some_iff]
  change _ ∈ m.entries.filterMap _ ↔ _
  rw [List.mem_filterMap]
  constructor
  · rintro ⟨⟨k', v⟩, hmem, hw⟩
    obtain ⟨w', hf, he⟩ := Option.map_eq_some_iff.mp hw
    cases he
    exact ⟨v, mem_entries_iff.mp hmem, hf⟩
  · rintro ⟨v, hv, hf⟩
    exact ⟨⟨k, v⟩, mem_entries_iff.mpr hv, by simp [hf]⟩

theorem isEmpty_iff {m : Map κ υ} : m.isEmpty = true ↔ ∀ k, m.lookup k = none := by
  unfold isEmpty
  constructor
  · intro h k
    rw [AList.lookup_eq_none, AList.mem_keys, AList.keys, List.isEmpty_iff.mp h]
    exact List.not_mem_nil
  · intro h
    rw [List.isEmpty_iff, List.eq_nil_iff_forall_not_mem]
    rintro ⟨k, v⟩ hmem
    rw [mem_entries_iff, h k] at hmem
    cases hmem

/-! ## Writing one map over another -/

/-- `for (k, v) in entries { self.insert(k, v) }`. -/
def insertAll (entries : List (Sigma fun _ : κ => υ)) (m : Map κ υ) : Map κ υ :=
  entries.foldl (fun m e => m.insert e.1 e.2) m

/-- Every entry of `other` in turn, in whatever order it has them. -/
def extend (m other : Map κ υ) : Map κ υ := insertAll other.entries m

theorem lookup_insertAll {entries : List (Sigma fun _ : κ => υ)} (h : entries.NodupKeys)
    (m : Map κ υ) (k : κ) :
    (insertAll entries m).lookup k = (entries.dlookup k).or (m.lookup k) := by
  induction entries generalizing m with
  | nil => rfl
  | cons e entries ih =>
    obtain ⟨hfresh, h⟩ := List.nodupKeys_cons.mp h
    change (insertAll entries (m.insert e.1 e.2)).lookup k = _
    rw [ih h, lookup_insert']
    by_cases hk : k = e.1
    · subst hk
      rw [List.dlookup_eq_none.mpr hfresh, if_pos rfl, List.dlookup_cons_eq]
      rfl
    · rw [if_neg hk, List.dlookup_cons_ne entries e hk]

/-- The other map wins where both have an entry. -/
theorem lookup_extend (m other : Map κ υ) (k : κ) :
    (m.extend other).lookup k = (other.lookup k).or (m.lookup k) :=
  lookup_insertAll other.nodupKeys m k

/-! ## Size -/

theorem length_insert_of_mem {m : Map κ υ} {k : κ} (h : k ∈ m) (v : υ) :
    (m.insert k v).entries.length = m.entries.length := by
  have hkeys := congrArg List.length (AList.keys_insert (a := k) (b := v) m)
  have hpos := List.length_pos_of_mem (AList.mem_keys.mp h)
  rw [List.length_cons, List.length_erase_of_mem (AList.mem_keys.mp h)] at hkeys
  simp only [AList.keys, List.keys, List.length_map] at hkeys hpos
  omega

theorem length_insert_of_notMem {m : Map κ υ} {k : κ} (h : k ∉ m) (v : υ) :
    (m.insert k v).entries.length = m.entries.length + 1 := by
  rw [AList.entries_insert_of_notMem h, List.length_cons]

theorem length_erase_of_mem {m : Map κ υ} {k : κ} (h : k ∈ m) :
    (m.erase k).entries.length + 1 = m.entries.length := by
  have hkeys := congrArg List.length (AList.keys_erase k m)
  have hpos := List.length_pos_of_mem (AList.mem_keys.mp h)
  rw [List.length_erase_of_mem (AList.mem_keys.mp h)] at hkeys
  simp only [AList.keys, List.keys, List.length_map] at hkeys hpos
  omega

theorem length_erase_le (m : Map κ υ) (k : κ) :
    (m.erase k).entries.length ≤ m.entries.length :=
  (List.kerase_sublist k m.entries).length_le

omit [DecidableEq κ] in
theorem length_filterMap_le {ω : Type*} (f : κ → υ → Option ω) (m : Map κ υ) :
    (m.filterMap f).entries.length ≤ m.entries.length := List.length_filterMap_le ..

end Map
