import ShaderInterface.Proofs.Header.StructNames

set_option autoImplicit false

/-!
The members of the C struct of a block. There is one for each way from a field of the block to a
field with storage, named by the names on the way with underscores between them; push constants
leave out the first of several. A name with an underscore can read like two names, and what is left
out is not seen, so that two ways may come to one name.
-/
namespace ShaderInterface

open StructTable (Way LeadsOn NamesDistinct)

namespace Text

variable {old new : Char} {text : Text}

theorem replaceChar_of_not_mem (absent : old ∉ text) : replaceChar old new text = text := by
  rw [replaceChar]
  conv_rhs => rw [← List.map_id text]
  refine List.map_congr_left fun c member => if_neg ?_
  rintro rfl
  exact absent member

/-- Where only the separators are replaced, other separators stand between the same parts. -/
theorem replaceChar_intercalate {parts : List Text} (absent : ∀ part ∈ parts, old ∉ part) :
    replaceChar old new ([old].intercalate parts) = [new].intercalate parts := by
  induction parts with
  | nil => rfl
  | cons part rest ih =>
    obtain ⟨here, later⟩ := List.forall_mem_cons.1 absent
    cases rest with
    | nil =>
      rw [List.intercalate_singleton, List.intercalate_singleton, replaceChar_of_not_mem here]
    | cons next others =>
      have separator : replaceChar old new [old] = [new] := by simp [replaceChar]
      rw [List.intercalate_cons_cons, List.intercalate_cons_cons, ← ih later, replaceChar,
        List.map_append, List.map_append, ← replaceChar, ← replaceChar, ← replaceChar, separator,
        replaceChar_of_not_mem here]

end Text

/-! ## Names of members -/

namespace StructTable

variable {structs : StructTable} {fields : List Field} {naming : ChildNaming} {way other : Way}

def Way.names (naming : ChildNaming) (way : Way) : List Text :=
  (way.shown naming).map fun step => step.2.name

def Way.member (naming : ChildNaming) (way : Way) : Text :=
  List.intercalate "_".toList (way.names naming)

/-- The way ends at a field with storage. -/
def LeadsToStorage (structs : StructTable) (fields : List Field) (way : Way) : Prop :=
  LeadsOn structs fields way ∧ way.leaf.isStored Primitive.known = true

/-- No two ways to storage are the same in what `f` says of them. -/
def TellsApart {α : Type} (structs : StructTable) (fields : List Field) (f : Way → α) : Prop :=
  ∀ first second, LeadsToStorage structs fields first → LeadsToStorage structs fields second →
    f first = f second → first = second

/-- No name of a field on a way has an underscore. -/
def NoUnderscores (structs : StructTable) (fields : List Field) : Prop :=
  ∀ way, LeadsOn structs fields way → ∀ step ∈ way, '_' ∉ step.2.name

theorem Way.isStored_shown (naming : ChildNaming) (way : Way) :
    (way.shown naming).leaf.isStored Primitive.known = way.leaf.isStored Primitive.known := by
  have sameType : (way.shown naming).leaf.typeName = way.leaf.typeName := by
    unfold Way.shown
    split
    · simp [Way.leaf]
    · rfl
  rw [Field.isStored, Field.isStored, sameType]

theorem Way.forall_names {P : Text → Prop} (each : ∀ step ∈ way, P step.2.name) :
    ∀ name ∈ way.names naming, P name :=
  List.forall_mem_map.2 fun step shown => each step (Way.mem_of_mem_shown shown)

theorem Way.member_eq (plain : ∀ step ∈ way, '.' ∉ step.2.name) :
    Header.member (way.shown naming).leaf.name = way.member naming :=
  Text.replaceChar_intercalate (Way.forall_names plain)

/-- Names without underscores are read back from what is joined of them. -/
theorem Way.splitOn_member (some : way ≠ []) (plain : ∀ step ∈ way, '_' ∉ step.2.name) :
    (way.member naming).splitOn '_' = way.names naming :=
  List.splitOn_intercalate '_' (Way.forall_names plain) (by simpa [names] using shown_ne_nil some)

end StructTable

/-! ## Structs -/

/-- Fields with distinct identifiers for names. -/
def Field.WellNamed (fields : List Field) : Prop :=
  NamesDistinct fields ∧ ∀ field ∈ fields, Text.isIdentifier field.name = true

instance (fields : List Field) : Decidable (Field.WellNamed fields) :=
  inferInstanceAs (Decidable (_ ∧ _))

/-- Every struct and every block has distinct identifiers for the names of its fields. -/
structure Declarations.WellNamed (d : Declarations) : Prop where
  structs : ∀ fields ∈ d.structs.values, Field.WellNamed fields
  uniforms : ∀ block ∈ d.uniforms.values, Field.WellNamed block.fields
  pushConstants : ∀ stage, ∀ block ∈ (d.pushConstants stage).values, Field.WellNamed block.fields

/-- The members are those for the fields of a block that stand for others: one for each way to
storage, in the order in which fields are inlined. -/
structure Mirrors (structs : StructTable) (order : ChildOrder) (naming : ChildNaming)
    (fields resolved : List Field) (members : List Text) : Prop where
  written : ∀ typeName, '\n' ∉ typeName →
    ∃ text, Header.struct Primitive.known typeName resolved = .ok text ∧
      CStruct.ofText text = [⟨typeName, members⟩]
  listed : ∃ ways : List Way, (∀ way, way ∈ ways ↔ structs.LeadsToStorage fields way) ∧
    ways.Pairwise (Way.Before order) ∧ members = ways.map (Way.member naming)

namespace Mirrors

variable {structs : StructTable} {order : ChildOrder} {naming : ChildNaming}
  {fields resolved : List Field} {members : List Text}

/-- Members repeat exactly when two ways come to one name. -/
theorem nodup_iff (mirrors : Mirrors structs order naming fields resolved members) :
    members.Nodup ↔ structs.TellsApart fields (Way.member naming) := by
  obtain ⟨ways, complete, sorted, rfl⟩ := mirrors.listed
  have distinct : ways.Nodup := sorted.imp Way.Before.ne
  rw [List.nodup_map_iff_inj_on distinct, StructTable.TellsApart]
  simp only [complete]
  exact ⟨fun apart first second there here => apart first there second here,
    fun apart first there second here => apart first second there here⟩

/-- Without underscores in names two ways come to one member only if the same of them is shown. -/
theorem nodup_iff_of_plain (mirrors : Mirrors structs order naming fields resolved members)
    (plain : structs.NoUnderscores fields) :
    members.Nodup ↔ structs.TellsApart fields (Way.names naming) := by
  have same : ∀ first second, structs.LeadsToStorage fields first →
      structs.LeadsToStorage fields second →
      (first.member naming = second.member naming ↔ first.names naming = second.names naming) := by
    intro first second there here
    refine ⟨fun joined => ?_, fun names => by rw [Way.member, Way.member, names]⟩
    rw [← Way.splitOn_member there.1.ne_nil (plain first there.1),
      ← Way.splitOn_member here.1.ne_nil (plain second here.1), joined]
  rw [mirrors.nodup_iff]
  exact ⟨fun apart first second there here names =>
      apart first second there here ((same first second there here).2 names),
    fun apart first second there here joined =>
      apart first second there here ((same first second there here).1 joined)⟩

/-- Paths without underscores come to distinct members. -/
theorem nodup_of_plain (mirrors : Mirrors structs order .path fields resolved members)
    (distinct : NamesDistinct fields)
    (below : ∀ name fields, structs.find? name = some fields → NamesDistinct fields)
    (plain : structs.NoUnderscores fields) : members.Nodup :=
  (mirrors.nodup_iff_of_plain plain).2 fun _ _ there here same =>
    there.1.eq_of_names here.1 distinct below same

end Mirrors

namespace Interface

variable {sourceName source : Text} {order : ChildOrder} {naming : ChildNaming}
  {structs : StructTable} {fields resolved : List Field} {stated i : Interface}

theorem StandFor.exists_mirrors (stand : StandFor structs order naming fields resolved)
    (known : ∀ field ∈ resolved, field.typeName ∈ Primitive.known)
    (solid : ∀ field ∈ resolved, field.name.IsSolid)
    (plain : ∀ way, LeadsOn structs fields way → ∀ step ∈ way, '.' ∉ step.2.name) :
    ∃ members, Mirrors structs order naming fields resolved members := by
  refine ⟨Header.members Primitive.known resolved, fun typeName whole => ?_, ?_⟩
  · obtain ⟨text, written⟩ := (Header.struct_succeeds_iff typeName).2 known
    exact ⟨text, written,
      (Header.struct_declares Primitive.known_onOneLine whole solid written).ofText⟩
  · obtain ⟨ways, complete, sorted, rfl⟩ := stand
    refine ⟨ways.filter fun way => way.leaf.isStored Primitive.known, fun way => ?_,
      sorted.filter _, ?_⟩
    · rw [List.mem_filter, complete, StructTable.LeadsToStorage]
    · have stored : (Field.isStored Primitive.known ∘ fun way => (Way.shown naming way).leaf) =
          fun way => way.leaf.isStored Primitive.known := funext (Way.isStored_shown naming)
      rw [Header.members, List.filter_map, List.map_map, stored]
      refine List.map_congr_left fun way member => Way.member_eq ?_
      exact plain way ((complete way).1 (List.mem_filter.1 member).1)

/-- Along every way from the fields of a block the names are identifiers. -/
theorem forall_isIdentifier {d : Declarations} (wellNamed : d.WellNamed)
    (here : Field.WellNamed fields) : ∀ way, LeadsOn d.structs fields way →
      ∀ step ∈ way, Text.isIdentifier step.2.name = true := by
  intro way leads
  refine leads.forall_steps here.2 fun name inner declared => ?_
  exact (wellNamed.structs inner (Table.mem_values_iff.2 ⟨name, declared⟩)).2

/-- The members of every uniform and push constant. -/
theorem resolve_members
    (read : (ofLines sourceName (SourceLines.ofText source)).result = .ok stated)
    (success : stated.resolve ⟨Primitive.known, order⟩ = .ok i)
    (wellNamed : stated.toDeclarations.WellNamed) :
    (∀ name block, i.uniforms.find? name = some block →
      ∃ old members, stated.uniforms.find? name = some old ∧
        Mirrors stated.structs order .path old.fields block.fields members ∧
        (members.Nodup ↔ stated.structs.TellsApart old.fields (Way.member .path)) ∧
        (stated.structs.NoUnderscores old.fields → members.Nodup)) ∧
    ∀ stage name block, (i.pushConstants stage).find? name = some block →
      ∃ old members, (stated.pushConstants stage).find? name = some old ∧
        Mirrors stated.structs order .leaf old.fields block.fields members ∧
        (members.Nodup ↔ stated.structs.TellsApart old.fields (Way.member .leaf)) ∧
        (stated.structs.NoUnderscores old.fields →
          (members.Nodup ↔ stated.structs.TellsApart old.fields (Way.names .leaf))) := by
  obtain ⟨named, written⟩ := ofLines_ok read
  have primitive := resolve_isPrimitive success
  have outside : Text.continuesIdentifier '.' = false := by decide +kernel
  have plain : ∀ fields, Field.WellNamed fields → ∀ way, LeadsOn stated.structs fields way →
      ∀ step ∈ way, '.' ∉ step.2.name := fun fields here way leads step member =>
    Text.not_mem_of_isIdentifier (forall_isIdentifier wellNamed here way leads step member) outside
  refine ⟨fun name block found => ?_, fun stage name block found => ?_⟩
  · obtain ⟨old, before, -, stand⟩ := resolve_uniform success found
    have here := wellNamed.uniforms old (Table.mem_values_iff.2 ⟨name, before⟩)
    obtain ⟨members, mirrors⟩ := stand.exists_mirrors
      (fun field member =>
        (primitive.uniforms block (Table.mem_values_iff.2 ⟨name, found⟩) field member).1)
      (resolve_uniform_names success named written found).2 (plain _ here)
    refine ⟨old, members, before, mirrors, mirrors.nodup_iff, mirrors.nodup_of_plain here.1 ?_⟩
    exact fun name fields declared =>
      (wellNamed.structs fields (Table.mem_values_iff.2 ⟨name, declared⟩)).1
  · obtain ⟨old, before, -, stand⟩ := resolve_pushConstant success found
    have here := wellNamed.pushConstants stage old (Table.mem_values_iff.2 ⟨name, before⟩)
    have known : ∀ field ∈ block.fields, field.typeName ∈ Primitive.known := by
      have stored := Table.mem_values_iff.2 ⟨name, found⟩
      intro field member
      cases stage with
      | vertex => exact (primitive.vertexPushConstants block stored field member).1
      | fragment => exact (primitive.fragmentPushConstants block stored field member).1
    obtain ⟨members, mirrors⟩ := stand.exists_mirrors known
      (resolve_pushConstant_names success named written found).2 (plain _ here)
    exact ⟨old, members, before, mirrors, mirrors.nodup_iff, mirrors.nodup_iff_of_plain⟩

/-- Uniforms with two lamps and with a field that is named like a way to a lamp's, and a push
constant with two lamps. -/
def lampSource : Text :=
  declaring ["struct Lamp \x7b power: f32 \x7d",
    "@group(0) @binding(0) var<uniform> tower \x7b base: Lamp, top: Lamp \x7d",
    "@group(0) @binding(1) var<uniform> rig \x7b key_power: f32, key: Lamp \x7d",
    "@group(0) @binding(2) @push_constant(vs) pair \x7b left: Lamp, right: Lamp \x7d"]

def lampStated : Interface where
  structs := ⟨[("Lamp", [⟨"power", "f32"⟩])], by decide⟩
  uniforms := ⟨[("tower", ⟨"tower", 0, 0, [⟨"base", "Lamp"⟩, ⟨"top", "Lamp"⟩]⟩),
    ("rig", ⟨"rig", 0, 1, [⟨"key_power", "f32"⟩, ⟨"key", "Lamp"⟩]⟩)], by decide⟩
  vertexPushConstants :=
    ⟨[("pair", ⟨⟨"pair", 0, 2, [⟨"left", "Lamp"⟩, ⟨"right", "Lamp"⟩]⟩, .vertex⟩)], by decide⟩
  fragmentPushConstants := ∅
  vertexInputs := []
  fragmentInputs := []

def lamps : Interface where
  structs := ⟨[("Lamp", [⟨"power", "f32"⟩])], by decide⟩
  uniforms := ⟨[("tower", ⟨"tower", 0, 0, [⟨"base.power", "f32"⟩, ⟨"top.power", "f32"⟩]⟩),
    ("rig", ⟨"rig", 0, 1, [⟨"key_power", "f32"⟩, ⟨"key.power", "f32"⟩]⟩)], by decide⟩
  vertexPushConstants :=
    ⟨[("pair", ⟨⟨"pair", 0, 2, [⟨"power", "f32"⟩, ⟨"power", "f32"⟩]⟩, .vertex⟩)], by decide⟩
  fragmentPushConstants := ∅
  vertexInputs := []
  fragmentInputs := []

theorem ofLines_lampSource :
    (ofLines "lamps" (SourceLines.ofText lampSource)).result = .ok lampStated := by
  refine Fallible.eq_ok_of_toOption ?_
  unfold lampSource declaring
  simp only [List.cons_append, List.nil_append, List.map]
  repeat rw [String.toList_ofList]
  decide +kernel

theorem resolve_lampStated (order : ChildOrder) :
    lampStated.resolve ⟨Primitive.known, order⟩ = .ok lamps := by
  rw [Primitive.known_eq_listed]
  cases order <;> exact Fallible.eq_ok_of_toOption (by decide +kernel)

theorem lampStated_wellNamed : lampStated.toDeclarations.WellNamed := by
  refine ⟨by decide +kernel, by decide +kernel, fun stage => ?_⟩
  cases stage <;> decide +kernel

/-- The members for two lamps. -/
theorem resolve_members_tower :
    ((ofLines "lamps" (SourceLines.ofText lampSource)).result = .ok lampStated ∧
      lampStated.resolve ⟨Primitive.known, .reversed⟩ = .ok lamps ∧
      lampStated.toDeclarations.WellNamed) ∧
    ∃ old members, lampStated.uniforms.find? "tower" = some old ∧
      Mirrors lampStated.structs .reversed .path old.fields
        [⟨"base.power", "f32"⟩, ⟨"top.power", "f32"⟩] members ∧
      (members.Nodup ↔ lampStated.structs.TellsApart old.fields (Way.member .path)) ∧
      (lampStated.structs.NoUnderscores old.fields → members.Nodup) := by
  refine ⟨⟨ofLines_lampSource, resolve_lampStated .reversed, lampStated_wellNamed⟩, ?_⟩
  exact (resolve_members ofLines_lampSource (resolve_lampStated .reversed)
    lampStated_wellNamed).1 "tower" _ rfl

/-- In either order a uniform buffer and a push constant have two members of one name. -/
theorem members_repeat :
    ((ofLines "lamps" (SourceLines.ofText lampSource)).result = .ok lampStated ∧
      lampStated.toDeclarations.WellNamed ∧
      ∀ order ∈ [ChildOrder.reversed, .declared],
        lampStated.resolve ⟨Primitive.known, order⟩ = .ok lamps) ∧
    (∃ block ∈ lamps.uniforms.values, block.isResource = false ∧ ∃ text,
      Header.struct Primitive.known "lamps_rig" block.fields = .ok text ∧
        ∃ struct ∈ CStruct.ofText text, ¬struct.members.Nodup) ∧
    ∃ block ∈ lamps.vertexPushConstants.values, ∃ text,
      Header.struct Primitive.known "lamps_pair_push" block.fields = .ok text ∧
        ∃ struct ∈ CStruct.ofText text, ¬struct.members.Nodup := by
  rw [Primitive.known_eq_listed]
  refine ⟨⟨ofLines_lampSource, lampStated_wellNamed,
      fun order _ => Primitive.known_eq_listed ▸ resolve_lampStated order⟩,
    ⟨_, .tail _ (.head _), by decide +kernel, ?_⟩, _, .head _, ?_⟩
  · exact ⟨"struct lamps_rig \x7b\n  f32 key_power;\n  f32 key_power;\n\x7d;\n\n",
      Fallible.eq_ok_of_toOption (by decide +kernel), by decide +kernel⟩
  · exact ⟨"struct lamps_pair_push \x7b\n  f32 power;\n  f32 power;\n\x7d;\n\n",
      Fallible.eq_ok_of_toOption (by decide +kernel), by decide +kernel⟩

end Interface

end ShaderInterface
