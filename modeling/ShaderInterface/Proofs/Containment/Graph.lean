import Mathlib.Data.List.Chain
import Mathlib.Logic.Relation
import ShaderInterface.Declaration.Containment
import ShaderInterface.Proofs.Table.Laws

set_option autoImplicit false

/-!
The containment graph of a struct table: an edge leads from a struct to each struct of the table
that is the type of one of its fields. A path that comes back to one of its structs closes a cycle;
a struct below which every path ends lies on none.
-/
namespace ShaderInterface.StructTable

variable {structs : StructTable} {outer inner name : Text} {fields : List Field}

/-- The struct `outer` has a field whose type is the struct `inner`. -/
def Contains (structs : StructTable) (outer inner : Text) : Prop :=
  inner ∈ structs ∧ ∃ fields, structs.find? outer = some fields ∧
    ∃ field ∈ fields, field.typeName = inner

/-- Some struct contains itself, directly or through others. -/
def Recursive (structs : StructTable) : Prop :=
  ∃ name, Relation.TransGen (Contains structs) name name

/-- The names run along edges and end where they started, without passing a struct twice. -/
structure IsCycle (structs : StructTable) (names : List Text) : Prop where
  two_le_length : 2 ≤ names.length
  closed : names.head? = names.getLast?
  distinct : names.dropLast.Nodup
  edges : names.IsChain (Contains structs)

/-- Every way down from the struct ends. -/
def Grounded (structs : StructTable) (name : Text) : Prop :=
  Acc (fun inner outer => Contains structs outer inner) name

theorem contains_iff (declared : structs.find? outer = some fields) :
    Contains structs outer inner ↔ inner ∈ structs ∧ ∃ field ∈ fields, field.typeName = inner := by
  simp only [Contains, declared, Option.some.injEq, exists_eq_left']

/-- A path whose last struct contains one of its structs closes a cycle at that struct. -/
theorem isCycle_cycleAt {path : List Text} (distinct : path.Nodup) (onPath : name ∈ path)
    (edges : (path ++ [name]).IsChain (Contains structs)) :
    IsCycle structs (cycleAt path name) := by
  obtain ⟨before, rest, rfl, absent⟩ := List.eq_append_cons_of_mem onPath
  have cut : cycleAt (before ++ name :: rest) name = (name :: rest) ++ [name] := by
    have skipped : ∀ other ∈ before, (other != name) = true := by
      intro other member
      have other_ne : other ≠ name := fun same => absent (same ▸ member)
      simpa using other_ne
    simp [cycleAt, List.dropWhile_append_of_pos skipped]
  rw [cut]
  refine ⟨by simp, ?_, ?_, ?_⟩
  · rw [List.getLast?_concat]
    rfl
  · rw [List.dropLast_concat]
    exact (List.nodup_append.1 distinct).2.1
  · rw [List.append_assoc] at edges
    exact edges.right_of_append

theorem IsCycle.recursive {names : List Text} (cycle : IsCycle structs names) :
    Recursive structs := by
  obtain ⟨long, closed, -, edges⟩ := cycle
  match names, long with
  | first :: second :: rest, _ =>
    have step : Contains structs first second := edges.rel
    have onward := List.relationReflTransGen_of_exists_isChain_cons rest edges.tail rfl
    have back : (second :: rest).getLast (List.cons_ne_nil _ _) = first := by
      rw [List.getLast?_cons_cons, List.head?_cons,
        List.getLast?_eq_some_getLast (by simp)] at closed
      exact (Option.some.inj closed).symm
    rw [back] at onward
    exact ⟨first, Relation.TransGen.head' step onward⟩

theorem grounded_iff : Grounded structs outer ↔
    ∀ inner, Contains structs outer inner → Grounded structs inner :=
  ⟨fun grounded _ edge => grounded.inv edge, fun below => Acc.intro outer below⟩

/-- A name that is no struct has no way down, so it is enough to ask of the structs. -/
theorem grounded_of_forall (grounded : ∀ name ∈ structs, Grounded structs name) (name : Text) :
    Grounded structs name := by
  by_cases known : name ∈ structs
  · exact grounded name known
  · refine grounded_iff.2 fun inner edge => ?_
    obtain ⟨-, fields, declared, -⟩ := edge
    exact absurd (Table.mem_of_find? declared) known

/-- What holds of the names that are no structs, and of a struct when it holds of the types of its
fields, holds of every grounded name. -/
theorem Grounded.induct {P : Text → Prop} (grounded : Grounded structs name)
    (undeclared : ∀ name, name ∉ structs → P name)
    (declared : ∀ name fields, structs.find? name = some fields →
      (∀ field ∈ fields, P field.typeName) → P name) : P name := by
  induction grounded with
  | intro name _ ih =>
    by_cases known : name ∈ structs
    · obtain ⟨fields, found⟩ := Table.mem_iff_exists_find?.1 known
      refine declared name fields found fun field member => ?_
      by_cases inner : field.typeName ∈ structs
      · exact ih field.typeName ((contains_iff found).2 ⟨inner, field, member, rfl⟩)
      · exact undeclared field.typeName inner
    · exact undeclared name known

/-- No way down from a grounded struct comes back to it. -/
theorem Grounded.not_transGen (grounded : Grounded structs name) :
    ¬Relation.TransGen (Contains structs) name name := by
  induction grounded with
  | intro name _ ih =>
    intro loop
    obtain ⟨next, edge, back⟩ := Relation.TransGen.head'_iff.1 loop
    exact ih next edge (Relation.TransGen.tail' back edge)

end ShaderInterface.StructTable
