import ShaderInterface.Declaration.Table

set_option autoImplicit false

namespace ShaderInterface

/-- The order in which the fields of an inlined struct appear. -/
inductive ChildOrder where
  | reversed
  | declared
  deriving DecidableEq

/-- How inlined fields are named: by the path to them, or by their own name alone. -/
inductive ChildNaming where
  | path
  | leaf
  deriving DecidableEq

def ChildOrder.arrange (order : ChildOrder) (fields : List Field) : List Field :=
  match order with
  | reversed => fields.reverse
  | declared => fields

theorem ChildOrder.arrange_perm (order : ChildOrder) (fields : List Field) :
    (order.arrange fields).Perm fields := by
  cases order with
  | reversed => exact fields.reverse_perm
  | declared => exact .refl fields

namespace Field

/-- A field of the struct that is the type of `owner`, seen from outside. -/
def within (naming : ChildNaming) (owner child : Field) : Field :=
  match naming with
  | .path => ⟨owner.name ++ '.' :: child.name, child.typeName⟩
  | .leaf => child

/-- What a field stands for: itself, or the fields of its struct. -/
def expand (flat : StructTable) (naming : ChildNaming) (order : ChildOrder) (field : Field) :
    List Field :=
  match flat.find? field.typeName with
  | none => [field]
  | some children => (order.arrange children).map (within naming field)

def expandAll (flat : StructTable) (naming : ChildNaming) (order : ChildOrder)
    (fields : List Field) : List Field :=
  fields.flatMap (expand flat naming order)

end Field

namespace StructTable

def offPath (structs : StructTable) (path : List Text) : List Text :=
  structs.keys.filter fun name => !path.contains name

theorem offPath_lt {structs : StructTable} {path : List Text} {name : Text}
    (declared : (structs.find? name).isSome) (fresh : name ∉ path) :
    (offPath structs (path ++ [name])).length < (offPath structs path).length := by
  have present : name ∈ structs.keys := Table.isSome_find?_iff.1 declared
  have split : offPath structs (path ++ [name]) =
      (offPath structs path).filter fun other => !decide (other = name) := by
    simp only [offPath, List.filter_filter]
    congr 1
    funext other
    simp [Bool.and_comm]
  rw [split]
  exact List.length_filter_lt_length_iff_exists.2
    ⟨name, by simp [offPath, present, fresh], by simp⟩

/-- The part of a path from `name` on, closed by `name`. -/
def cycleAt (path : List Text) (name : Text) : List Text :=
  path.dropWhile (fun other => other != name) ++ [name]

/-- Adds `name`, and before it every struct that it contains, to the flat structs. The path holds
the structs that contain it and are not finished. -/
def flattenFrom (structs : StructTable) (order : ChildOrder) (path : List Text) (name : Text)
    (flat : StructTable) : Except ShaderError StructTable :=
  if name ∈ flat then .ok flat
  else if _fresh : name ∈ path then .error (.recursiveStruct (cycleAt path name))
  else
    match _declared : structs.find? name with
    | none => .ok flat
    | some fields =>
        (fields.foldlM (fun flat field =>
            if field.typeName ∈ structs then
              flattenFrom structs order (path ++ [name]) field.typeName flat
            else .ok flat) flat).map fun flat =>
          flat.insert name (Field.expandAll flat .path order fields)
termination_by (offPath structs path).length
decreasing_by exact offPath_lt (by simp [_declared]) _fresh

/-- The structs with every struct typed field replaced by what it stands for. -/
def flatten (structs : StructTable) (order : ChildOrder) : Except ShaderError StructTable :=
  (structs.keys.foldlM (fun flat name => flattenFrom structs order [] name flat) ∅).map fun flat =>
    structs.map fun name _ => (flat.find? name).getD []

end StructTable
end ShaderInterface
