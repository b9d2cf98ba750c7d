import Mathlib.Data.List.Nodup
import ShaderInterface.Proofs.Containment.Graph
import ShaderInterface.Proofs.Fallible
import ShaderInterface.Proofs.Table.Laws

set_option autoImplicit false

/-!
What the depth first walk keeps. The table of finished structs holds, for each struct in it, every
struct that it contains, so an entry never changes its meaning once it is written; and the path is a
chain of edges, so a struct met on it closes a cycle.
-/
namespace ShaderInterface.StructTable

variable {structs flat : StructTable} {order : ChildOrder} {path : List Text}
  {name : Text} {fields : List Field}

def inside (structs : StructTable) (fields : List Field) : List Text :=
  (fields.map Field.typeName).filter fun typeName => decide (typeName ∈ structs)

def flattenEach (structs : StructTable) (order : ChildOrder) (path names : List Text)
    (flat : StructTable) : Except ShaderError StructTable :=
  names.foldlM (fun flat name => flattenFrom structs order path name flat) flat

theorem mem_inside_iff {inner : Text} :
    inner ∈ inside structs fields ↔ inner ∈ structs ∧ ∃ field ∈ fields, field.typeName = inner := by
  rw [inside, List.mem_filter, List.mem_map, decide_eq_true_iff, and_comm]

theorem mem_inside_iff_contains (declared : structs.find? name = some fields) {inner : Text} :
    inner ∈ inside structs fields ↔ Contains structs name inner := by
  rw [mem_inside_iff, contains_iff declared]

theorem flattenFrom_of_finished (finished : name ∈ flat) :
    flattenFrom structs order path name flat = .ok flat := by
  rw [flattenFrom, if_pos finished]

theorem flattenFrom_of_onPath (unfinished : name ∉ flat) (onPath : name ∈ path) :
    flattenFrom structs order path name flat = .error (.recursiveStruct (cycleAt path name)) := by
  rw [flattenFrom, if_neg unfinished, dif_pos onPath]

theorem flattenFrom_of_undeclared (unfinished : name ∉ flat) (fresh : name ∉ path)
    (undeclared : structs.find? name = none) :
    flattenFrom structs order path name flat = .ok flat := by
  rw [flattenFrom, if_neg unfinished, dif_neg fresh]
  split
  · rfl
  · next found => rw [undeclared] at found; cases found

theorem flattenFrom_of_declared (unfinished : name ∉ flat) (fresh : name ∉ path)
    (declared : structs.find? name = some fields) :
    flattenFrom structs order path name flat =
      (flattenEach structs order (path ++ [name]) (inside structs fields) flat).map fun flat =>
        flat.insert name (Field.expandAll flat .path order fields) := by
  rw [flattenFrom, if_neg unfinished, dif_neg fresh]
  split
  · next found => rw [declared] at found; cases found
  · next found =>
    obtain rfl := Option.some.inj (declared.symm.trans found)
    simp [flattenEach, inside, List.foldlM_filter, List.foldlM_map, pure, Except.pure]

/-- The finished structs of a walk: each has its final fields, and all that it contains is finished
too. -/
structure Finished (structs : StructTable) (order : ChildOrder) (flat : StructTable) : Prop where
  entry : ∀ name ∈ flat, ∃ fields, structs.find? name = some fields ∧
    (∀ inner ∈ inside structs fields, inner ∈ flat) ∧
    flat.find? name = some (Field.expandAll flat .path order fields)
  grounded : ∀ name ∈ flat, Grounded structs name

theorem Finished.empty : Finished structs order ∅ :=
  ⟨fun name member => absurd member (Table.not_mem_empty name),
    fun name member => absurd member (Table.not_mem_empty name)⟩

theorem Finished.declared (finished : Finished structs order flat) (member : name ∈ flat) :
    name ∈ structs := by
  obtain ⟨fields, declared, -⟩ := finished.entry name member
  exact Table.mem_of_find? declared

theorem expandAll_congr {flat other : StructTable} {naming : ChildNaming}
    (same : ∀ field ∈ fields, flat.find? field.typeName = other.find? field.typeName) :
    Field.expandAll flat naming order fields = Field.expandAll other naming order fields := by
  apply List.flatMap_congr
  intro field member
  simp only [Field.expand, same field member]

/-- A new entry changes nothing for fields whose structs are finished. -/
theorem expandAll_insert {value : List Field} (declared : name ∈ structs) (fresh : name ∉ flat)
    (closed : ∀ inner ∈ inside structs fields, inner ∈ flat) :
    Field.expandAll (flat.insert name value) .path order fields =
      Field.expandAll flat .path order fields := by
  apply expandAll_congr
  intro field member
  apply Table.find?_insert_of_ne
  intro same
  exact fresh (closed name (mem_inside_iff.2 ⟨declared, field, member, same⟩))

theorem Finished.insert (finished : Finished structs order flat)
    (declared : structs.find? name = some fields)
    (closed : ∀ inner ∈ inside structs fields, inner ∈ flat) :
    Finished structs order (flat.insert name (Field.expandAll flat .path order fields)) := by
  by_cases present : name ∈ flat
  · obtain ⟨stored, sameFields, -, value⟩ := finished.entry name present
    obtain rfl := Option.some.inj (declared.symm.trans sameFields)
    rwa [Table.insert_eq_self value]
  · have known : name ∈ structs := Table.mem_of_find? declared
    refine ⟨?_, ?_⟩
    · intro other member
      rcases Table.mem_insert.1 member with rfl | old
      · refine ⟨fields, declared, ?_, ?_⟩
        · exact fun inner within => Table.mem_insert.2 (.inr (closed inner within))
        · rw [Table.find?_insert_self, expandAll_insert known present closed]
      · obtain ⟨itsFields, itsDeclared, itsClosed, value⟩ := finished.entry other old
        have other_ne : other ≠ name := fun same => present (same ▸ old)
        refine ⟨itsFields, itsDeclared,
          fun inner within => Table.mem_insert.2 (.inr (itsClosed inner within)), ?_⟩
        rw [Table.find?_insert_of_ne _ _ other_ne, expandAll_insert known present itsClosed, value]
    · intro other member
      rcases Table.mem_insert.1 member with rfl | old
      · apply grounded_iff.2
        intro inner edge
        exact finished.grounded inner (closed inner ((mem_inside_iff_contains declared).2 edge))
      · exact finished.grounded other old

/-- A walk that succeeds adds finished structs, the one it starts from among them. -/
theorem flattenFrom_ok {last : StructTable} (finished : Finished structs order flat)
    (success : flattenFrom structs order path name flat = .ok last) :
    Finished structs order last ∧ (name ∈ structs → name ∈ last) ∧
      ∀ other ∈ flat, other ∈ last := by
  induction path, name, flat using flattenFrom.induct structs generalizing last with
  | case1 path name flat present =>
    rw [flattenFrom_of_finished present] at success
    cases success
    exact ⟨finished, fun _ => present, fun _ member => member⟩
  | case2 path name flat unfinished onPath =>
    rw [flattenFrom_of_onPath unfinished onPath] at success
    cases success
  | case3 path name flat unfinished fresh undeclared =>
    rw [flattenFrom_of_undeclared unfinished fresh undeclared] at success
    cases success
    refine ⟨finished, fun known => ?_, fun _ member => member⟩
    exact absurd known (Table.find?_eq_none_iff.1 undeclared)
  | case4 path name flat unfinished fresh fields declared ih =>
    rw [flattenFrom_of_declared unfinished fresh declared] at success
    obtain ⟨middle, below, rfl⟩ := Fallible.map_eq_ok_iff.1 success
    have onward : ∀ inner ∈ inside structs fields, ∀ before after, Finished structs order before →
        flattenFrom structs order (path ++ [name]) inner before = .ok after →
        Finished structs order after ∧ inner ∈ after ∧ ∀ other, other ∈ before → other ∈ after := by
      intro inner member before after finishedBefore step
      obtain ⟨known, field, -, rfl⟩ := mem_inside_iff.1 member
      obtain ⟨finishedAfter, reached, kept⟩ := ih before field finishedBefore step
      exact ⟨finishedAfter, reached known, kept⟩
    obtain ⟨finishedMiddle, closed, kept⟩ := Fallible.foldlM_ok onward finished below
    refine ⟨finishedMiddle.insert declared closed, fun _ => Table.mem_insert.2 (.inl rfl), ?_⟩
    intro other member
    exact Table.mem_insert.2 (.inr (kept other member))

/-- A walk that fails was led along its path back to a struct on it. -/
theorem flattenFrom_error {reason : ShaderError} (distinct : path.Nodup)
    (edges : (path ++ [name]).IsChain (Contains structs))
    (failed : flattenFrom structs order path name flat = .error reason) :
    ∃ cycle, reason = .recursiveStruct cycle ∧ IsCycle structs cycle := by
  induction path, name, flat using flattenFrom.induct structs with
  | case1 path name flat present =>
    rw [flattenFrom_of_finished present] at failed
    cases failed
  | case2 path name flat unfinished onPath =>
    rw [flattenFrom_of_onPath unfinished onPath] at failed
    cases failed
    exact ⟨cycleAt path name, rfl, isCycle_cycleAt distinct onPath edges⟩
  | case3 path name flat unfinished fresh undeclared =>
    rw [flattenFrom_of_undeclared unfinished fresh undeclared] at failed
    cases failed
  | case4 path name flat unfinished fresh fields declared ih =>
    rw [flattenFrom_of_declared unfinished fresh declared, Fallible.map_eq_error_iff] at failed
    obtain ⟨inner, member, before, step⟩ := Fallible.foldlM_error failed
    have edge : Contains structs name inner := (mem_inside_iff_contains declared).1 member
    obtain ⟨-, field, -, rfl⟩ := mem_inside_iff.1 member
    refine ih before field ?_ ?_ step
    · rw [← List.concat_eq_append]
      exact (List.nodup_concat path name).2 ⟨fresh, distinct⟩
    · rw [List.append_assoc]
      exact List.isChain_append_cons_cons.2 ⟨edges, edge, List.isChain_singleton _⟩

end ShaderInterface.StructTable
