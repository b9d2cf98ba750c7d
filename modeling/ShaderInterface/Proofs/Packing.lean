import Mathlib.Algebra.BigOperators.Group.List.Basic
import Mathlib.Algebra.Order.Ring.Int
import Mathlib.Data.List.Chain
import ShaderInterface.Layout
import ShaderInterface.Proofs.KnownTypes

set_option autoImplicit false

namespace ShaderInterface

variable {primitives : PrimitiveTable}

theorem fieldsSize_nonneg (sizes : primitives.SizesNonneg) (fields : List Field) :
    0 ≤ fieldsSize primitives fields := by
  induction fields with
  | nil => exact Int.le_refl 0
  | cons field rest ih => exact Int.add_nonneg (Primitive.sizeOf_nonneg sizes field.typeName) ih

namespace PushRange

variable {start stop byte : Int} {range : PushRange} {ranges : List PushRange}

def limit (range : PushRange) : Int := range.offset + range.size

/-- The byte lies in the range. -/
def Holds (range : PushRange) (byte : Int) : Prop := range.offset ≤ byte ∧ byte < range.limit

/-- The ranges divide the bytes from `start` up to `stop` among them, in their order. -/
structure Tile (start stop : Int) (ranges : List PushRange) : Prop where
  ordered : start ≤ stop
  first : ∀ range ∈ ranges.head?, range.offset = start
  adjoining : ranges.IsChain fun range next => next.offset = range.limit
  apart : ranges.Pairwise fun range other => ∀ byte, ¬(range.Holds byte ∧ other.Holds byte)
  covered : ∀ byte, (∃ range ∈ ranges, range.Holds byte) ↔ start ≤ byte ∧ byte < stop

theorem Tile.nil (start : Int) : Tile start start [] := by
  refine ⟨Int.le_refl start, nofun, .nil, .nil, fun byte => ?_⟩
  constructor
  · rintro ⟨range, member, -⟩
    cases member
  · omega

/-- A range in front of others that start where it ends. -/
theorem Tile.cons (size : 0 ≤ range.size) (rest : Tile range.limit stop ranges) :
    Tile range.offset stop (range :: ranges) := by
  have forward : range.offset ≤ range.limit := by
    rw [limit]
    omega
  have behind := rest.ordered
  constructor
  · omega
  · rintro _ ⟨⟩
    rfl
  · exact List.isChain_cons.2 ⟨rest.first, rest.adjoining⟩
  · refine List.pairwise_cons.2 ⟨fun other member byte ⟨here, there⟩ => ?_, rest.apart⟩
    -- what the others hold is behind the limit of the range
    have later := (rest.covered byte).1 ⟨other, member, there⟩
    rw [Holds] at here
    omega
  · intro byte
    rw [List.exists_mem_cons_iff, rest.covered, Holds]
    omega

end PushRange

def PushConstant.totalSize (primitives : PrimitiveTable) (blocks : List PushConstant) : Int :=
  (blocks.map fun block => fieldsSize primitives block.fields).sum

namespace PushRange

/-- Each block has one range, in the order of the blocks. -/
theorem map_pack (offset : Int) (blocks : List PushConstant) :
    (pack primitives offset blocks).map (fun range => (range.name, range.stage, range.size)) =
      blocks.map fun block => (block.name, block.stage, fieldsSize primitives block.fields) := by
  induction blocks generalizing offset with
  | nil => rfl
  | cons block rest ih => rw [pack, List.map_cons, List.map_cons, ih]

theorem pack_tile (sizes : primitives.SizesNonneg) (offset : Int) (blocks : List PushConstant) :
    Tile offset (offset + PushConstant.totalSize primitives blocks)
      (pack primitives offset blocks) := by
  induction blocks generalizing offset with
  | nil =>
    rw [PushConstant.totalSize, List.map_nil, List.sum_nil, Int.add_zero]
    exact .nil offset
  | cons block rest ih =>
    have total : offset + PushConstant.totalSize primitives (block :: rest) =
        offset + fieldsSize primitives block.fields + PushConstant.totalSize primitives rest := by
      rw [PushConstant.totalSize, List.map_cons, List.sum_cons, ← Int.add_assoc]
      rfl
    let range : PushRange := ⟨block.name, block.stage, offset, fieldsSize primitives block.fields⟩
    have size : 0 ≤ range.size := fieldsSize_nonneg sizes block.fields
    rw [total]
    exact .cons size (ih range.limit)

end PushRange

/-- The push constants of the vertex stage and then those of the fragment stage, each in table
order, have one range each, of their name, stage and size; these divide the bytes from the first
one up to the size of all push constants together. -/
theorem Declarations.pushRanges_tile (sizes : primitives.SizesNonneg) (d : Declarations) :
    let blocks := d.vertexPushConstants.values ++ d.fragmentPushConstants.values
    let ranges := d.pushRanges primitives
    ranges.map (fun range => (range.name, range.stage, range.size)) =
        blocks.map (fun block => (block.name, block.stage, fieldsSize primitives block.fields)) ∧
      PushRange.Tile 0 (PushConstant.totalSize primitives blocks) ranges := by
  intro blocks ranges
  have tile := PushRange.pack_tile sizes 0 blocks
  rw [Int.zero_add] at tile
  exact ⟨PushRange.map_pack 0 blocks, tile⟩

/-- Push constants of both stages, one without fields and one without storage. -/
def Declarations.orbit : Declarations where
  structs := ∅
  uniforms := ∅
  vertexPushConstants := ⟨[("model", ⟨⟨"model", 0, 0, [⟨"matrix", "mat4"⟩]⟩, .vertex⟩),
    ("none", ⟨⟨"none", 0, 1, []⟩, .vertex⟩)], by decide⟩
  fragmentPushConstants := ⟨[("map", ⟨⟨"map", 0, 2, [⟨"map", "sampler"⟩]⟩, .fragment⟩),
    ("tint", ⟨⟨"tint", 0, 3, [⟨"color", "vec3"⟩, ⟨"shine", "f32"⟩]⟩, .fragment⟩)], by decide⟩

theorem Declarations.pushRanges_tile_orbit :
    Primitive.known.SizesNonneg ∧
    (let blocks := orbit.vertexPushConstants.values ++ orbit.fragmentPushConstants.values
    let ranges := orbit.pushRanges Primitive.known
    ranges.map (fun range => (range.name, range.stage, range.size)) =
        blocks.map (fun block =>
          (block.name, block.stage, fieldsSize Primitive.known block.fields)) ∧
      PushRange.Tile 0 (PushConstant.totalSize Primitive.known blocks) ranges) ∧
    orbit.pushRanges Primitive.known = [⟨"model", .vertex, 0, 64⟩, ⟨"none", .vertex, 64, 0⟩,
      ⟨"map", .fragment, 64, 0⟩, ⟨"tint", .fragment, 64, 16⟩] := by
  have ranges : orbit.pushRanges Primitive.known = [⟨"model", .vertex, 0, 64⟩,
      ⟨"none", .vertex, 64, 0⟩, ⟨"map", .fragment, 64, 0⟩, ⟨"tint", .fragment, 64, 16⟩] := by
    rw [Primitive.known_eq_listed]
    decide +kernel
  exact ⟨Primitive.known_sizesNonneg, orbit.pushRanges_tile Primitive.known_sizesNonneg, ranges⟩

end ShaderInterface
