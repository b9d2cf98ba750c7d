import ShaderInterface.Proofs.Containment.Flattening

set_option autoImplicit false

/-!
The fields of a flat struct are the ways down from the struct to a field that is no struct. A step
of a way is the position of a field in its struct, with the field; ways that part at an even depth
keep the order of the fields, ways that part at an odd depth take the order in which children are
inlined.
-/
namespace ShaderInterface.StructTable

/-- The fields passed on the way down from a struct, each with its position in its own struct. -/
abbrev Way := List (Nat × Field)

/-- The way starts at a field of the struct, goes on through the structs that are the types of its
fields, and ends at a field whose type is no struct. -/
inductive LeadsDown (structs : StructTable) : Text → Way → Prop where
  | leaf {owner : Text} {fields : List Field} {position : Nat} {field : Field}
      (declared : structs.find? owner = some fields) (present : fields[position]? = some field)
      (last : field.typeName ∉ structs) : LeadsDown structs owner [(position, field)]
  | through {owner : Text} {fields : List Field} {position : Nat} {field : Field} {rest : Way}
      (declared : structs.find? owner = some fields) (present : fields[position]? = some field)
      (onward : LeadsDown structs field.typeName rest) :
      LeadsDown structs owner ((position, field) :: rest)

/-- The way starts at one of the fields and goes on down from its struct, or ends there if its type
is no struct. -/
def LeadsOn (structs : StructTable) (fields : List Field) (way : Way) : Prop :=
  ∃ position field rest, way = (position, field) :: rest ∧ fields[position]? = some field ∧
    if field.typeName ∈ structs then LeadsDown structs field.typeName rest else rest = []

namespace Way

/-- The field at the end of a way: the names on the way joined by dots, and the last type. -/
def leaf (way : Way) : Field :=
  ⟨List.intercalate ".".toList (way.map fun step => step.2.name),
    (way.getLast?.map fun step => step.2.typeName).getD []⟩

/-- What a naming shows of a way: all of it, or what comes behind its first step if it goes on. -/
def shown (naming : ChildNaming) (way : Way) : Way :=
  match naming, way with
  | .leaf, _ :: next :: rest => next :: rest
  | _, way => way

/-- Where two ways first part, the fields taken stand in declaration order, or in the opposite order
when children are reversed and the depth is odd. -/
def Before (order : ChildOrder) (first second : Way) : Prop :=
  ∃ shared step other firstRest secondRest,
    first = shared ++ step :: firstRest ∧ second = shared ++ other :: secondRest ∧
      if order = .reversed ∧ shared.length % 2 = 1 then other.1 < step.1 else step.1 < other.1

/-- The ways below a field in the order in which they are inlined. -/
def arrange (order : ChildOrder) (ways : List Way) : List Way :=
  match order with
  | .reversed => ways.reverse
  | .declared => ways

theorem Before.ne {order : ChildOrder} {first second : Way} (before : Before order first second) :
    first ≠ second := by
  rintro rfl
  obtain ⟨shared, step, other, firstRest, secondRest, same, again, apart⟩ := before
  have joined : step :: firstRest = other :: secondRest :=
    List.append_cancel_left (same.symm.trans again)
  obtain rfl := (List.cons.inj joined).1
  split at apart <;> exact absurd apart (Nat.lt_irrefl _)

/-- One step further down the order turns over when children are reversed. -/
theorem Before.cons {order : ChildOrder} {first second : Way} (step : Nat × Field)
    (before : match order with
      | .reversed => Before order second first
      | .declared => Before order first second) :
    Before order (step :: first) (step :: second) := by
  cases order with
  | reversed =>
    obtain ⟨shared, there, here, secondRest, firstRest, rfl, rfl, apart⟩ := before
    refine ⟨step :: shared, here, there, firstRest, secondRest, rfl, rfl, ?_⟩
    by_cases odd : shared.length % 2 = 1
    · have even : ¬(shared.length + 1) % 2 = 1 := by omega
      simpa [odd, even] using apart
    · have odd' : (shared.length + 1) % 2 = 1 := by omega
      simpa [odd, odd'] using apart
  | declared =>
    obtain ⟨shared, here, there, firstRest, secondRest, rfl, rfl, apart⟩ := before
    exact ⟨step :: shared, here, there, firstRest, secondRest, rfl, rfl, by simpa using apart⟩

theorem mem_arrange {order : ChildOrder} {ways : List Way} {way : Way} :
    way ∈ arrange order ways ↔ way ∈ ways := by
  cases order <;> simp [arrange]

theorem map_leaf_arrange (order : ChildOrder) (ways : List Way) :
    (arrange order ways).map leaf = order.arrange (ways.map leaf) := by
  cases order <;> simp [arrange, ChildOrder.arrange]

theorem leaf_singleton (position : Nat) (field : Field) : leaf [(position, field)] = field := by
  simp [leaf, List.intercalate_singleton]

theorem leaf_cons {way : Way} (position : Nat) (field : Field) (longer : way ≠ []) :
    leaf ((position, field) :: way) = Field.within .path field (leaf way) := by
  have names : way.map (fun step => step.2.name) ≠ [] := by simpa using longer
  have last : ((position, field) :: way).getLast? = way.getLast? :=
    List.getLast?_cons_of_ne_nil longer
  simp [leaf, Field.within, List.intercalate_cons_of_ne_nil names, last]

theorem shown_singleton (naming : ChildNaming) (step : Nat × Field) :
    shown naming [step] = [step] := by
  cases naming <;> rfl

theorem mem_of_mem_shown {naming : ChildNaming} {way : Way} {step : Nat × Field}
    (member : step ∈ way.shown naming) : step ∈ way := by
  unfold shown at member
  split at member
  · exact List.mem_cons_of_mem _ member
  · exact member

theorem shown_ne_nil {naming : ChildNaming} {way : Way} (present : way ≠ []) :
    way.shown naming ≠ [] := by
  unfold shown
  split
  · exact List.cons_ne_nil _ _
  · exact present

theorem leaf_shown_cons {way : Way} (naming : ChildNaming) (position : Nat) (field : Field)
    (longer : way ≠ []) :
    leaf (shown naming ((position, field) :: way)) = Field.within naming field (leaf way) := by
  cases naming with
  | path => exact leaf_cons position field longer
  | leaf =>
    cases way with
    | nil => exact absurd rfl longer
    | cons next rest => rfl

end Way

variable {structs flat : StructTable} {order : ChildOrder} {name : Text} {fields : List Field}
  {below : Text → List Way}

theorem LeadsDown.ne_nil {way : Way} (down : LeadsDown structs name way) : way ≠ [] := by
  cases down <;> simp

theorem LeadsDown.declared {way : Way} (down : LeadsDown structs name way) : name ∈ structs := by
  cases down with
  | leaf declared => exact Table.mem_of_find? declared
  | through declared => exact Table.mem_of_find? declared

theorem leadsDown_iff_leadsOn {way : Way} (declared : structs.find? name = some fields) :
    LeadsDown structs name way ↔ LeadsOn structs fields way := by
  constructor
  · intro down
    cases down with
    | @leaf _ itsFields position field itsDeclared present last =>
      obtain rfl := Option.some.inj (declared.symm.trans itsDeclared)
      exact ⟨position, field, [], rfl, present, by rw [if_neg last]⟩
    | @through _ itsFields position field rest itsDeclared present onward =>
      obtain rfl := Option.some.inj (declared.symm.trans itsDeclared)
      exact ⟨position, field, rest, rfl, present, by rwa [if_pos onward.declared]⟩
  · rintro ⟨position, field, rest, rfl, present, onward⟩
    split at onward
    · exact .through declared present onward
    · next last =>
      rw [onward]
      exact .leaf declared present last

def branch (structs : StructTable) (order : ChildOrder) (below : Text → List Way)
    (position : Nat) (field : Field) : List Way :=
  if field.typeName ∈ structs then
    (Way.arrange order (below field.typeName)).map ((position, field) :: ·)
  else [[(position, field)]]

def branches (structs : StructTable) (order : ChildOrder) (below : Text → List Way) :
    (position : Nat) → List Field → List Way
  | _, [] => []
  | position, field :: rest =>
      branch structs order below position field ++ branches structs order below (position + 1) rest

theorem mem_branch_iff {position : Nat} {field : Field} {way : Way} :
    way ∈ branch structs order below position field ↔ ∃ rest, way = (position, field) :: rest ∧
      if field.typeName ∈ structs then rest ∈ below field.typeName else rest = [] := by
  rw [branch]
  split
  · simp [Way.mem_arrange, eq_comm, and_comm]
  · simp

theorem mem_branches_iff {position : Nat} {way : Way} :
    way ∈ branches structs order below position fields ↔
      ∃ index field, fields[index]? = some field ∧
        way ∈ branch structs order below (position + index) field := by
  induction fields generalizing position with
  | nil => simp [branches]
  | cons field rest ih =>
    rw [branches, List.mem_append, ih]
    constructor
    · rintro (here | ⟨index, other, present, there⟩)
      · exact ⟨0, field, rfl, here⟩
      · exact ⟨index + 1, other, present, by rwa [Nat.add_right_comm, Nat.add_assoc] at there⟩
    · rintro ⟨index, other, present, there⟩
      cases index with
      | zero =>
        obtain rfl := Option.some.inj present
        exact .inl there
      | succ index =>
        refine .inr ⟨index, other, present, ?_⟩
        rwa [Nat.add_right_comm, Nat.add_assoc]

theorem pairwise_branch (position : Nat) (field : Field)
    (sorted : field.typeName ∈ structs → (below field.typeName).Pairwise (Way.Before order)) :
    (branch structs order below position field).Pairwise (Way.Before order) := by
  rw [branch]
  split
  · next known =>
    rw [List.pairwise_map]
    cases order with
    | reversed =>
      exact (List.pairwise_reverse.2 (sorted known)).imp (Way.Before.cons (position, field))
    | declared => exact (sorted known).imp (Way.Before.cons (position, field))
  · exact List.pairwise_singleton _ _

theorem pairwise_branches (position : Nat)
    (sorted : ∀ field ∈ fields, field.typeName ∈ structs →
      (below field.typeName).Pairwise (Way.Before order)) :
    (branches structs order below position fields).Pairwise (Way.Before order) := by
  induction fields generalizing position with
  | nil => exact List.Pairwise.nil
  | cons field rest ih =>
    rw [branches, List.pairwise_append]
    refine ⟨pairwise_branch position field (sorted field (by simp)),
      ih (position + 1) fun other member => sorted other (List.mem_cons_of_mem _ member), ?_⟩
    intro first inBranch second inRest
    obtain ⟨firstRest, rfl, -⟩ := mem_branch_iff.1 inBranch
    obtain ⟨index, other, -, inOther⟩ := mem_branches_iff.1 inRest
    obtain ⟨secondRest, rfl, -⟩ := mem_branch_iff.1 inOther
    refine ⟨[], _, _, firstRest, secondRest, rfl, rfl, ?_⟩
    have later : position < position + 1 + index := by omega
    simpa using later

/-- A field stands for the leaves of the ways that start at it, as far as the naming shows them. -/
theorem map_leaf_branch (naming : ChildNaming) (position : Nat) (field : Field)
    (known : field.typeName ∈ flat ↔ field.typeName ∈ structs)
    (leaves : field.typeName ∈ structs →
      flat.find? field.typeName = some ((below field.typeName).map Way.leaf))
    (proper : field.typeName ∈ structs → ∀ way ∈ below field.typeName, way ≠ []) :
    (branch structs order below position field).map (fun way => (way.shown naming).leaf) =
      Field.expand flat naming order field := by
  rw [branch, Field.expand]
  split
  · next declared =>
    simp only [leaves declared]
    rw [← Way.map_leaf_arrange, List.map_map, List.map_map]
    apply List.map_congr_left
    intro way member
    exact Way.leaf_shown_cons naming position field
      (proper declared way (Way.mem_arrange.1 member))
  · next undeclared =>
    have absent : field.typeName ∉ flat := fun member => undeclared (known.1 member)
    rw [Table.find?_eq_none_iff.2 absent, List.map_singleton, Way.shown_singleton,
      Way.leaf_singleton]

theorem map_leaf_branches (naming : ChildNaming) (position : Nat)
    (known : ∀ name, name ∈ flat ↔ name ∈ structs)
    (leaves : ∀ field ∈ fields, field.typeName ∈ structs →
      flat.find? field.typeName = some ((below field.typeName).map Way.leaf))
    (proper : ∀ field ∈ fields, field.typeName ∈ structs →
      ∀ way ∈ below field.typeName, way ≠ []) :
    (branches structs order below position fields).map (fun way => (way.shown naming).leaf) =
      Field.expandAll flat naming order fields := by
  induction fields generalizing position with
  | nil => rfl
  | cons field rest ih =>
    rw [branches, List.map_append, Field.expandAll, List.flatMap_cons]
    congr 1
    · exact map_leaf_branch naming position field (known field.typeName) (leaves field (by simp))
        (proper field (by simp))
    · exact ih (position + 1) (fun other member => leaves other (List.mem_cons_of_mem _ member))
        fun other member => proper other (List.mem_cons_of_mem _ member)

/-- The ways down from a struct, each once, in the order in which flattening lists their leaves. -/
structure Enumerates (structs : StructTable) (order : ChildOrder) (name : Text)
    (ways : List Way) : Prop where
  complete : ∀ way, way ∈ ways ↔ LeadsDown structs name way
  sorted : ways.Pairwise (Way.Before order)

theorem Enumerates.nodup {ways : List Way} (enumerates : Enumerates structs order name ways) :
    ways.Nodup := enumerates.sorted.imp Way.Before.ne

theorem mem_branches_iff_leadsOn
    (complete : ∀ field ∈ fields, field.typeName ∈ structs →
      ∀ way, way ∈ below field.typeName ↔ LeadsDown structs field.typeName way) (way : Way) :
    way ∈ branches structs order below 0 fields ↔ LeadsOn structs fields way := by
  rw [mem_branches_iff]
  constructor
  · rintro ⟨position, field, present, inBranch⟩
    rw [Nat.zero_add] at inBranch
    obtain ⟨rest, rfl, onward⟩ := mem_branch_iff.1 inBranch
    refine ⟨position, field, rest, rfl, present, ?_⟩
    split
    · next known =>
      rw [if_pos known] at onward
      exact (complete field (List.mem_of_getElem? present) known rest).1 onward
    · next last => rwa [if_neg last] at onward
  · rintro ⟨position, field, rest, rfl, present, onward⟩
    refine ⟨position, field, present, mem_branch_iff.2 ⟨rest, by rw [Nat.zero_add], ?_⟩⟩
    split
    · next known =>
      rw [if_pos known] at onward
      exact (complete field (List.mem_of_getElem? present) known rest).2 onward
    · next last => rwa [if_neg last] at onward

/-- The fields of a flat struct are the leaves of the ways down from it. -/
theorem Flattened.exists_enumeration (flattened : Flattened structs order flat)
    (grounded : Grounded structs name) (known : name ∈ structs) :
    ∃ ways, Enumerates structs order name ways ∧ flat.find? name = some (ways.map Way.leaf) := by
  induction grounded with
  | intro name _ ih =>
    have each : ∀ inner, ∃ ways, Contains structs name inner →
        Enumerates structs order inner ways ∧ flat.find? inner = some (ways.map Way.leaf) := by
      intro inner
      by_cases edge : Contains structs name inner
      · obtain ⟨ways, answer⟩ := ih inner edge edge.1
        exact ⟨ways, fun _ => answer⟩
      · exact ⟨[], fun itsEdge => absurd itsEdge edge⟩
    choose below answer using each
    obtain ⟨fields, declared⟩ := Table.mem_iff_exists_find?.1 known
    have right : ∀ field ∈ fields, field.typeName ∈ structs →
        Enumerates structs order field.typeName (below field.typeName) ∧
          flat.find? field.typeName = some ((below field.typeName).map Way.leaf) := by
      intro field member inStructs
      exact answer field.typeName ((contains_iff declared).2 ⟨inStructs, field, member, rfl⟩)
    refine ⟨branches structs order below 0 fields, ⟨?_, ?_⟩, ?_⟩
    · intro way
      rw [leadsDown_iff_leadsOn declared]
      exact mem_branches_iff_leadsOn (fun field member inStructs =>
        (right field member inStructs).1.complete) way
    · exact pairwise_branches 0 fun field member inStructs =>
        (right field member inStructs).1.sorted
    · rw [flattened.entry declared, ← map_leaf_branches .path 0 fun _ => flattened.mem_iff]
      · rfl
      · exact fun field member inStructs => (right field member inStructs).2
      · intro field member inStructs way listed
        exact (((right field member inStructs).1.complete way).1 listed).ne_nil

/-- Without recursive structs flattening succeeds, keeps the table's order, and gives each struct
the leaves of all ways down from it, each way once, ordered by where the ways part. -/
theorem flatten_lists_ways {structs : StructTable} (acyclic : ¬Recursive structs)
    (order : ChildOrder) :
    ∃ flat, structs.flatten order = .ok flat ∧ flat.keys = structs.keys ∧
      ∀ name ∈ structs, ∃ ways : List Way, flat.find? name = some (ways.map Way.leaf) ∧
        (∀ way, way ∈ ways ↔ LeadsDown structs name way) ∧ ways.Nodup ∧
        ways.Pairwise (Way.Before order) := by
  obtain ⟨flat, success⟩ := exists_flatten acyclic order
  obtain ⟨flattened, grounded⟩ := flatten_ok success
  refine ⟨flat, success, flattened.keys, ?_⟩
  intro name known
  obtain ⟨ways, enumerates, leaves⟩ := flattened.exists_enumeration (grounded name known) known
  exact ⟨ways, leaves, enumerates.complete, enumerates.nodup, enumerates.sorted⟩

/-- A struct that is shared by two others, one of which is shared itself, and an empty struct. -/
def shared : StructTable where
  entries := [
    ("Scene", [⟨"key", "Lamp"⟩, ⟨"gap", "Void"⟩, ⟨"fill", "Lamp"⟩]),
    ("Lamp", [⟨"place", "Point"⟩, ⟨"power", "f32"⟩, ⟨"aim", "Point"⟩]),
    ("Point", [⟨"x", "f32"⟩, ⟨"y", "f32"⟩]),
    ("Void", [])]
  distinct := by decide

def sharedFlat : StructTable where
  entries := [
    ("Scene", [⟨"key.aim.x", "f32"⟩, ⟨"key.aim.y", "f32"⟩, ⟨"key.power", "f32"⟩,
      ⟨"key.place.x", "f32"⟩, ⟨"key.place.y", "f32"⟩, ⟨"fill.aim.x", "f32"⟩,
      ⟨"fill.aim.y", "f32"⟩, ⟨"fill.power", "f32"⟩, ⟨"fill.place.x", "f32"⟩,
      ⟨"fill.place.y", "f32"⟩]),
    ("Lamp", [⟨"place.y", "f32"⟩, ⟨"place.x", "f32"⟩, ⟨"power", "f32"⟩, ⟨"aim.y", "f32"⟩,
      ⟨"aim.x", "f32"⟩]),
    ("Point", [⟨"x", "f32"⟩, ⟨"y", "f32"⟩]),
    ("Void", [])]
  distinct := by decide

theorem flatten_shared : shared.flatten .reversed = .ok sharedFlat :=
  Fallible.eq_ok_of_toOption (by decide +kernel)

theorem flatten_shared_lists_ways :
    ¬Recursive shared ∧
    ∃ flat, shared.flatten .reversed = .ok flat ∧ flat.keys = shared.keys ∧
      ∀ name ∈ shared, ∃ ways : List Way, flat.find? name = some (ways.map Way.leaf) ∧
        (∀ way, way ∈ ways ↔ LeadsDown shared name way) ∧ ways.Nodup ∧
        ways.Pairwise (Way.Before .reversed) := by
  have acyclic : ¬Recursive shared := not_recursive_of_flatten_ok flatten_shared
  exact ⟨acyclic, flatten_lists_ways acyclic .reversed⟩

end ShaderInterface.StructTable
