import Mathlib.Data.List.Basic
import ShaderInterface.Table

set_option autoImplicit false

namespace ShaderInterface.Table

variable {κ α : Type} [DecidableEq κ] {t : Table κ α} {key : κ} {value : α}

theorem look?_eq_some_iff {entries : List (κ × α)} (distinct : (entries.map Prod.fst).Nodup) :
    look? key entries = some value ↔ (key, value) ∈ entries := by
  induction entries with
  | nil => simp [look?]
  | cons entry rest ih =>
    obtain ⟨absent, distinctRest⟩ := List.nodup_cons.1 distinct
    by_cases same : entry.1 = key
    · have later : (key, value) ∉ rest := by
        intro member
        exact absent (same ▸ List.mem_map_of_mem (f := Prod.fst) member)
      simp [look?, same, later, Prod.ext_iff, eq_comm]
    · have other : ¬(key, value) = entry := fun eq => same (eq ▸ rfl)
      simp [look?, same, other, ih distinctRest]

/-- Look-up finds exactly the entries. -/
theorem find?_eq_some_iff : t.find? key = some value ↔ (key, value) ∈ t.entries :=
  look?_eq_some_iff t.distinct

theorem mem_iff_exists_find? : key ∈ t ↔ ∃ value, t.find? key = some value := by
  rw [← isSome_find?_iff, Option.isSome_iff_exists]

theorem find?_eq_none_iff : t.find? key = none ↔ key ∉ t := by
  rw [← isSome_find?_iff]
  simp

theorem mem_of_find? (found : t.find? key = some value) : key ∈ t :=
  mem_iff_exists_find?.2 ⟨value, found⟩

theorem mem_values_iff : value ∈ t.values ↔ ∃ key, t.find? key = some value := by
  simp [values, find?_eq_some_iff]

theorem mem_values_map {β : Type} {f : κ → α → β} {changed : β} :
    changed ∈ (t.map fun key value => f key value).values ↔
      ∃ key value, t.find? key = some value ∧ changed = f key value := by
  simp only [values, map, List.map_map, List.mem_map, find?_eq_some_iff, Prod.exists]
  simp [eq_comm]

/-- Entries in another order answer every look-up alike. -/
theorem find?_eq_of_perm {other : Table κ α} (perm : t.entries.Perm other.entries) (key : κ) :
    t.find? key = other.find? key := by
  apply Option.ext
  intro value
  rw [find?_eq_some_iff, find?_eq_some_iff, perm.mem_iff]

/-- A table is its keys in order and what it finds under them. -/
theorem ext_find? {other : Table κ α} (keys : t.keys = other.keys)
    (same : ∀ key ∈ t, t.find? key = other.find? key) : t = other := by
  have lengths : t.entries.length = other.entries.length := by
    simpa [Table.keys] using congrArg List.length keys
  refine ext (List.ext_getElem lengths fun i inside within => ?_)
  have key : t.entries[i].1 = other.entries[i].1 := by
    have there := List.getElem_of_eq keys (i := i) (by simpa [Table.keys] using inside)
    simpa [Table.keys] using there
  have found : t.find? t.entries[i].1 = some t.entries[i].2 :=
    find?_eq_some_iff.2 (List.getElem_mem inside)
  have matching : other.find? other.entries[i].1 = some other.entries[i].2 :=
    find?_eq_some_iff.2 (List.getElem_mem within)
  rw [same _ (mem_of_find? found), key] at found
  exact Prod.ext key (Option.some.inj (found.symm.trans matching))

/-- Values that carry their own keys carry the keys of the table. -/
theorem map_values {f : α → κ} (own : ∀ key value, t.find? key = some value → f value = key) :
    t.values.map f = t.keys := by
  rw [values, keys, List.map_map]
  exact List.map_congr_left fun entry member => own entry.1 entry.2 (find?_eq_some_iff.2 member)

theorem store_eq_self {entries : List (κ × α)} (found : look? key entries = some value) :
    store key value entries = entries := by
  induction entries with
  | nil => cases found
  | cons entry rest ih =>
    rw [look?] at found
    rw [store]
    split at found
    · next same =>
      obtain rfl := Option.some.inj found
      rw [if_pos same, ← same]
    · next ne => rw [if_neg ne, ih found]

/-- Storing what is stored already changes nothing. -/
theorem insert_eq_self (found : t.find? key = some value) : t.insert key value = t :=
  ext (store_eq_self found)

theorem store_of_not_mem {entries : List (κ × α)} (absent : key ∉ entries.map Prod.fst) :
    store key value entries = entries ++ [(key, value)] := by
  induction entries with
  | nil => rfl
  | cons entry rest ih =>
    rw [List.map_cons, List.mem_cons, not_or] at absent
    rw [store, if_neg (Ne.symm absent.1), ih absent.2, List.cons_append]

/-- Storing under a new key appends. -/
theorem entries_insert_of_not_mem (absent : key ∉ t) :
    (t.insert key value).entries = t.entries ++ [(key, value)] :=
  store_of_not_mem absent

theorem entries_foldl_insert {entries : List (κ × α)}
    (distinct : ((t.entries ++ entries).map Prod.fst).Nodup) :
    (entries.foldl (fun t entry => t.insert entry.1 entry.2) t).entries = t.entries ++ entries := by
  induction entries generalizing t with
  | nil => exact (List.append_nil _).symm
  | cons entry rest ih =>
    have fresh : entry.1 ∉ t := by
      rw [List.map_append, List.nodup_append] at distinct
      exact fun stored => distinct.2.2 _ stored _ (by simp) rfl
    have stored : (t.insert entry.1 entry.2).entries = t.entries ++ [entry] :=
      entries_insert_of_not_mem fresh
    rw [List.foldl_cons, ih, stored, List.append_assoc, List.singleton_append]
    rwa [stored, List.append_assoc, List.singleton_append]

/-- A table of entries under distinct keys has these entries. -/
theorem entries_ofList {entries : List (κ × α)} (distinct : (entries.map Prod.fst).Nodup) :
    (ofList entries).entries = entries :=
  entries_foldl_insert (t := ∅) distinct

theorem map_store {entries : List (κ × α)} (distinct : (entries.map Prod.fst).Nodup) (f : α → α) :
    ((store key value entries).map fun entry =>
        (entry.1, if entry.1 = key then f entry.2 else entry.2)) =
      store key (f value) entries := by
  induction entries with
  | nil => simp [store]
  | cons entry rest ih =>
    rw [List.map_cons, List.nodup_cons] at distinct
    by_cases same : entry.1 = key
    · -- no later entry has the key, so none of them changes
      have later : (rest.map fun other =>
          (other.1, if other.1 = key then f other.2 else other.2)) = rest := by
        conv_rhs => rw [← List.map_id rest]
        apply List.map_congr_left
        intro other member
        have apart : other.1 ≠ key := by
          intro found
          apply distinct.1
          rw [same, ← found]
          exact List.mem_map_of_mem member
        simp [apart]
      simp [store, same, later]
    · simp only [store, if_neg same, List.map_cons, ih distinct.2]

theorem look?_filter_ne {entries : List (κ × α)} {other : κ} :
    look? other (entries.filter fun entry => decide (entry.1 ≠ key)) =
      if other = key then none else look? other entries := by
  induction entries with
  | nil => simp [look?]
  | cons entry rest ih =>
    by_cases erased : entry.1 = key
    · rw [List.filter_cons_of_neg (by simp [erased]), ih, look?, erased]
      split
      · rfl
      · next elsewhere => rw [if_neg (Ne.symm elsewhere)]
    · rw [List.filter_cons_of_pos (by simp [erased]), look?, look?, ih]
      split
      · next same => rw [if_neg (same ▸ erased)]
      · rfl

theorem find?_erase (t : Table κ α) (key other : κ) :
    (t.erase key).find? other = if other = key then none else t.find? other :=
  look?_filter_ne

/-- Changing what was just stored is storing it changed. -/
theorem modify_insert_self (f : α → α) :
    (t.insert key value).modify key f = t.insert key (f value) :=
  ext (map_store t.distinct f)

end ShaderInterface.Table
