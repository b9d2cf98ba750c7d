import Mathlib.Algebra.BigOperators.Group.List.Basic
import Mathlib.Algebra.Order.Ring.Int
import ShaderInterface.Layout
import ShaderInterface.Proofs.Containment.Flattening

set_option autoImplicit false

namespace ShaderInterface

/-- The bytes of fields whose types have the given sizes. -/
def Field.bytes (size : Text → Int) (fields : List Field) : Int :=
  (fields.map fun field => size field.typeName).sum

variable {primitives : PrimitiveTable} {fields : List Field} {size other : Text → Int}

theorem fieldsSize_eq_bytes (fields : List Field) :
    fieldsSize primitives fields = Field.bytes (Primitive.sizeOf primitives) fields := by
  induction fields with
  | nil => rfl
  | cons field rest ih =>
    rw [fieldsSize, ih, Field.bytes, Field.bytes, List.map_cons, List.sum_cons]

theorem Field.bytes_congr
    (same : ∀ field ∈ fields, size field.typeName = other field.typeName) :
    Field.bytes size fields = Field.bytes other fields :=
  congrArg List.sum (List.map_congr_left same)

theorem Field.bytes_append (fields more : List Field) :
    Field.bytes size (fields ++ more) = Field.bytes size fields + Field.bytes size more := by
  rw [bytes, List.map_append, List.sum_append, ← bytes, ← bytes]

namespace StructTable

variable {structs flat : StructTable} {order : ChildOrder} {naming : ChildNaming}

/-- Sizes of types: a struct has that of its fields as they are declared, also when a primitive type
has its name, and every other type has its size as a primitive type. -/
structure DeclaredSizes (primitives : PrimitiveTable) (structs : StructTable)
    (size : Text → Int) : Prop where
  struct : ∀ name fields, structs.find? name = some fields → size name = Field.bytes size fields
  primitive : ∀ name, name ∉ structs → size name = Primitive.sizeOf primitives name

/-- Where every way down ends, declarations give each type one size. -/
theorem DeclaredSizes.unique (sizes : DeclaredSizes primitives structs size)
    (others : DeclaredSizes primitives structs other)
    (grounded : ∀ name ∈ structs, Grounded structs name) : size = other := by
  funext name
  apply (grounded_of_forall grounded name).induct
  · intro name absent
    rw [sizes.primitive name absent, others.primitive name absent]
  · intro name fields found same
    rw [sizes.struct name fields found, others.struct name fields found, Field.bytes_congr same]

def flatSize (primitives : PrimitiveTable) (flat : StructTable) (name : Text) : Int :=
  match flat.find? name with
  | none => Primitive.sizeOf primitives name
  | some fields => fieldsSize primitives fields

theorem bytes_expand (field : Field) :
    Field.bytes (Primitive.sizeOf primitives) (Field.expand flat naming order field) =
      flatSize primitives flat field.typeName := by
  cases found : flat.find? field.typeName with
  | none => simp only [Field.expand, flatSize, found, Field.bytes, List.map_singleton,
      List.sum_singleton]
  | some children =>
    have sameTypes : (fun child => Primitive.sizeOf primitives child.typeName) ∘
        Field.within naming field = fun child => Primitive.sizeOf primitives child.typeName := by
      funext child
      cases naming <;> rfl
    simp only [Field.expand, flatSize, found, fieldsSize_eq_bytes, Field.bytes, List.map_map,
      sameTypes]
    exact ((order.arrange_perm children).map _).sum_eq

/-- What fields stand for is as large as they are. -/
theorem fieldsSize_expandAll (fields : List Field) :
    fieldsSize primitives (Field.expandAll flat naming order fields) =
      Field.bytes (flatSize primitives flat) fields := by
  rw [fieldsSize_eq_bytes, Field.expandAll]
  induction fields with
  | nil => rfl
  | cons field rest ih =>
    rw [List.flatMap_cons, Field.bytes_append, ih, bytes_expand, Field.bytes, Field.bytes,
      List.map_cons, List.sum_cons]

theorem Flattened.declaredSizes (flattened : Flattened structs order flat) :
    DeclaredSizes primitives structs (flatSize primitives flat) := by
  constructor
  · intro name fields found
    rw [flatSize, flattened.entry found]
    exact fieldsSize_expandAll fields
  · intro name absent
    rw [flatSize, flattened.find?_of_not_mem absent]

end StructTable
end ShaderInterface
