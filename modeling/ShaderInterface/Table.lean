set_option autoImplicit false

namespace ShaderInterface

/-- An association list whose keys are distinct. -/
structure Table (κ α : Type) where
  entries : List (κ × α)
  distinct : (entries.map Prod.fst).Nodup
  deriving DecidableEq

namespace Table

variable {κ α β : Type}

@[ext] theorem ext {s t : Table κ α} (same : s.entries = t.entries) : s = t := by
  cases s
  cases t
  simp_all

def empty : Table κ α := ⟨[], List.nodup_nil⟩

instance : EmptyCollection (Table κ α) := ⟨empty⟩

instance : Inhabited (Table κ α) := ⟨empty⟩

def keys (t : Table κ α) : List κ := t.entries.map Prod.fst

def values (t : Table κ α) : List α := t.entries.map Prod.snd

instance : Membership κ (Table κ α) := ⟨fun t key => key ∈ t.keys⟩

theorem mem_iff {t : Table κ α} {key : κ} : key ∈ t ↔ key ∈ t.keys := Iff.rfl

theorem nodup_keys (t : Table κ α) : t.keys.Nodup := t.distinct

/-- Each value remade from its key and itself, all keys in place. -/
def map (f : κ → α → β) (t : Table κ α) : Table κ β where
  entries := t.entries.map fun entry => (entry.1, f entry.1 entry.2)
  distinct := by simpa [Function.comp_def] using t.distinct

@[simp] theorem keys_empty : (∅ : Table κ α).keys = [] := rfl

@[simp] theorem not_mem_empty (key : κ) : key ∉ (∅ : Table κ α) := List.not_mem_nil

@[simp] theorem keys_map (f : κ → α → β) (t : Table κ α) : (t.map f).keys = t.keys := by
  simp [keys, map, Function.comp_def]

variable [DecidableEq κ]

instance (t : Table κ α) (key : κ) : Decidable (key ∈ t) :=
  inferInstanceAs (Decidable (key ∈ t.keys))

/-- The value of the first entry with `key`. -/
def look? (key : κ) : List (κ × α) → Option α
  | [] => none
  | entry :: rest => if entry.1 = key then some entry.2 else look? key rest

/-- The value stored under `key`. -/
def find? (t : Table κ α) (key : κ) : Option α := look? key t.entries

def store (key : κ) (value : α) : List (κ × α) → List (κ × α)
  | [] => [(key, value)]
  | entry :: rest =>
      if entry.1 = key then (key, value) :: rest else entry :: store key value rest

theorem keys_store (key : κ) (value : α) (entries : List (κ × α)) :
    (store key value entries).map Prod.fst =
      if key ∈ entries.map Prod.fst then entries.map Prod.fst
      else entries.map Prod.fst ++ [key] := by
  induction entries with
  | nil => simp [store]
  | cons entry rest ih =>
    by_cases same : entry.1 = key
    · simp [store, same]
    · have other : key ≠ entry.1 := fun eq => same eq.symm
      simp only [store, same, if_false, List.map_cons, ih, List.mem_cons, other, false_or]
      split <;> simp

theorem nodup_keys_store (key : κ) (value : α) {entries : List (κ × α)}
    (distinct : (entries.map Prod.fst).Nodup) :
    ((store key value entries).map Prod.fst).Nodup := by
  rw [keys_store]
  split
  · exact distinct
  · next absent =>
    rw [List.nodup_append]
    refine ⟨distinct, by simp, fun a present b last => ?_⟩
    rw [List.mem_singleton.1 last]
    exact fun eq => absent (eq ▸ present)

def insert (t : Table κ α) (key : κ) (value : α) : Table κ α where
  entries := store key value t.entries
  distinct := nodup_keys_store key value t.distinct

/-- The table with the value under `key`, if there is one, changed by `f`. -/
def modify (t : Table κ α) (key : κ) (f : α → α) : Table κ α :=
  t.map fun k value => if k = key then f value else value

def erase (t : Table κ α) (key : κ) : Table κ α where
  entries := t.entries.filter fun entry => decide (entry.1 ≠ key)
  distinct := (List.filter_sublist.map Prod.fst).nodup t.distinct

/-- The entries stored one after the other. -/
def ofList (entries : List (κ × α)) : Table κ α :=
  entries.foldl (fun t entry => t.insert entry.1 entry.2) ∅

theorem keys_insert (t : Table κ α) (key : κ) (value : α) :
    (t.insert key value).keys = if key ∈ t then t.keys else t.keys ++ [key] :=
  keys_store key value t.entries

@[simp] theorem keys_modify (t : Table κ α) (key : κ) (f : α → α) :
    (t.modify key f).keys = t.keys := keys_map _ t

theorem mem_insert {t : Table κ α} {key other : κ} {value : α} :
    other ∈ t.insert key value ↔ other = key ∨ other ∈ t := by
  rw [mem_iff, keys_insert]
  split
  · next present =>
    constructor
    · exact Or.inr
    · rintro (rfl | stored)
      · exact present
      · exact stored
  · rw [List.mem_append, List.mem_singleton, or_comm, mem_iff]

@[simp] theorem find?_empty (key : κ) : (∅ : Table κ α).find? key = none := rfl

theorem find?_insert_self (t : Table κ α) (key : κ) (value : α) :
    (t.insert key value).find? key = some value := by
  simp only [find?, insert]
  induction t.entries with
  | nil => simp [store, look?]
  | cons entry rest ih =>
    by_cases same : entry.1 = key <;> simp [store, look?, same, ih]

theorem find?_insert_of_ne (t : Table κ α) {key other : κ} (value : α) (ne : other ≠ key) :
    (t.insert key value).find? other = t.find? other := by
  have ne' : ¬key = other := fun eq => ne eq.symm
  simp only [find?, insert]
  induction t.entries with
  | nil => simp [store, look?, ne']
  | cons entry rest ih =>
    by_cases same : entry.1 = key <;> simp [store, look?, same, ne', ih]

theorem find?_map (f : κ → α → β) (t : Table κ α) (key : κ) :
    (t.map f).find? key = (t.find? key).map (f key) := by
  simp only [find?, map]
  induction t.entries with
  | nil => rfl
  | cons entry rest ih =>
    by_cases same : entry.1 = key <;> simp [look?, same, ih]

theorem find?_modify (t : Table κ α) (key other : κ) (f : α → α) :
    (t.modify key f).find? other = (t.find? other).map fun value =>
      if other = key then f value else value := find?_map _ t other

theorem isSome_find?_iff {t : Table κ α} {key : κ} : (t.find? key).isSome ↔ key ∈ t := by
  simp only [find?, mem_iff, keys]
  induction t.entries with
  | nil => simp [look?]
  | cons entry rest ih =>
    by_cases same : entry.1 = key
    · simp [look?, same]
    · have ne : ¬key = entry.1 := fun eq => same eq.symm
      simp [look?, same, ne, ih]

end Table
end ShaderInterface
