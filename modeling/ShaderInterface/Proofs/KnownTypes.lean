import Mathlib.Data.List.Nodup
import ShaderInterface.Primitive
import ShaderInterface.Proofs.Table.Laws

set_option autoImplicit false

namespace ShaderInterface

/-- Every C type stands on one line. -/
def PrimitiveTable.OnOneLine (primitives : PrimitiveTable) : Prop :=
  ∀ name primitive cType, primitives.find? name = some primitive →
    primitive.cType? = some cType → '\n' ∉ cType

/-- What has no storage has no bytes. -/
def PrimitiveTable.ResourcesEmpty (primitives : PrimitiveTable) : Prop :=
  ∀ name primitive, primitives.find? name = some primitive →
    primitive.cType? = none → primitive.byteSize = 0

/-- No type has a negative size. -/
def PrimitiveTable.SizesNonneg (primitives : PrimitiveTable) : Prop :=
  ∀ name primitive, primitives.find? name = some primitive → 0 ≤ primitive.byteSize

namespace Primitive

def all : List Primitive := wgslNumeric ++ glslNumeric ++ resources

/-- The characters of a text in one number. -/
def code (text : Text) : Nat := text.foldl (fun n c => n * 2097152 + c.toNat) 0

theorem nodup_all : ((all.map fun p => (p.name, p)).map Prod.fst).Nodup := by
  -- numbers are compared at once, and literals are cheap to compute with when spelled out
  refine List.Nodup.of_map code ?_
  unfold all wgslNumeric glslNumeric resources
  unfold wgslScalars glslScalars sampledTextures texels wgslResources glslResources
  repeat rw [String.toList_ofList]
  decide +kernel

/-- The known types under their names. -/
def listed : PrimitiveTable := ⟨all.map fun p => (p.name, p), nodup_all⟩

theorem known_eq_listed : known = listed := Table.ext (Table.entries_ofList nodup_all)

theorem known_onOneLine : known.OnOneLine := by
  have entries : ∀ entry ∈ known.entries, ∀ cType ∈ entry.2.cType?, '\n' ∉ cType := by
    rw [known_eq_listed]
    decide +kernel
  intro name primitive cType found storage
  exact entries _ (Table.find?_eq_some_iff.1 found) cType storage

theorem known_resourcesEmpty : known.ResourcesEmpty := by
  have entries : ∀ entry ∈ known.entries, entry.2.cType? = none → entry.2.byteSize = 0 := by
    rw [known_eq_listed]
    decide +kernel
  intro name primitive found storage
  exact entries _ (Table.find?_eq_some_iff.1 found) storage

theorem known_sizesNonneg : known.SizesNonneg := by
  have entries : ∀ entry ∈ known.entries, 0 ≤ entry.2.byteSize := by
    rw [known_eq_listed]
    decide +kernel
  intro name primitive found
  exact entries _ (Table.find?_eq_some_iff.1 found)

theorem sizeOf_nonneg {primitives : PrimitiveTable} (sizes : primitives.SizesNonneg)
    (typeName : Text) : 0 ≤ sizeOf primitives typeName := by
  rw [sizeOf]
  cases found : primitives.find? typeName with
  | none => exact Int.le_refl 0
  | some primitive => exact sizes typeName primitive found

end Primitive
end ShaderInterface
