import ShaderInterface.Proofs.Declaration.Reached

set_option autoImplicit false

namespace ShaderInterface

namespace Declarations

variable {d : Declarations} {entry : TableEntry} {kind : DeclarationKind} {name : Text}

/-- What is declared before and after differs at most in what stands under the name. Names keep their
places, and the name, where it is new, comes last in its table. -/
structure Framed (before after : Declarations) (kind : DeclarationKind) (name : Text) : Prop where
  names : ∀ other, after.names other =
    if other = kind ∧ name ∉ before.names kind then before.names other ++ [name]
    else before.names other
  entries : ∀ otherKind other, ¬(otherKind = kind ∧ other = name) →
    after.stored? otherKind other = before.stored? otherKind other

theorem put_framed (d : Declarations) (entry : TableEntry) :
    Framed d (d.put entry) entry.kind entry.name :=
  ⟨fun _ => names_put, fun _ _ apart => stored?_put.trans (if_neg apart)⟩

theorem addFields_framed (present : name ∈ d.names kind) (fields : List Field) :
    Framed d (d.addFields kind name fields) kind name := by
  constructor
  · intro other
    rw [names_addFields, if_neg fun new => new.2 present]
  · intro otherKind other apart
    rw [stored?_addFields, if_neg apart]

theorem put_empty_injective {first second : TableEntry}
    (same : Declarations.empty.put first = Declarations.empty.put second) : first = second := by
  have stored : (Declarations.empty.put second).stored? first.kind first.name = some first :=
    same ▸ stored?_put_self
  have listed : first.name ∈ (Declarations.empty.put second).names first.kind :=
    isSome_stored?_iff.1 (Option.isSome_iff_exists.2 ⟨first, stored⟩)
  rcases mem_names_put.1 listed with ⟨kind, name⟩ | earlier
  · rw [kind, name, stored?_put_self] at stored
    exact (Option.some.inj stored).symm
  · rw [names_empty] at earlier
    cases earlier

end Declarations

/-- What the line declares under the focus: with nothing declared before, it leaves this declaration
and no other. -/
def Focus.Declares (focus : Focus) (line : Text) (entry : TableEntry) : Prop :=
  (Reading.readLine ⟨.empty, focus⟩ line).reading.declared = Declarations.empty.put entry

instance (focus : Focus) (line : Text) (entry : TableEntry) :
    Decidable (focus.Declares line entry) :=
  inferInstanceAs (Decidable (_ = _))

theorem Focus.Declares.iff_eq {focus : Focus} {line : Text} {entry : TableEntry}
    (declares : focus.Declares line entry) (other : TableEntry) :
    focus.Declares line other ↔ other = entry := by
  constructor
  · intro again
    exact Declarations.put_empty_injective (again.symm.trans declares)
  · rintro rfl
    exact declares

-- a struct in one line, while nothing is open
example : Focus.idle.Declares "struct Ray \x7b from: vec4<f32> \x7d // first draft"
    (.struct "Ray" [⟨"from", "vec4<f32>"⟩]) := by decide +kernel

/-- What may become of the declarations of a reading when it reads the line. -/
inductive Reading.Becomes (r : Reading) (line : Text) : Declarations → Prop where
  | unchanged : Becomes r line r.declared
  | grown {kind : DeclarationKind} {name : Text} (owned : r.owner = .ok (kind, name))
      (more : List Field) : Becomes r line (r.declared.addFields kind name more)
  | declaring {entry : TableEntry} (declares : r.focus.Declares line entry) :
      Becomes r line (r.declared.put entry)

theorem Declarations.Framed.names_grow {before after : Declarations} {kind : DeclarationKind}
    {name : Text} (framed : before.Framed after kind name) (other : DeclarationKind) :
    before.names other <+: after.names other := by
  rw [framed.names]
  split
  · exact List.prefix_append _ _
  · exact List.prefix_rfl

theorem Reading.Becomes.names_grow {r : Reading} {line : Text} {after : Declarations}
    (becomes : r.Becomes line after) (kind : DeclarationKind) :
    r.declared.names kind <+: after.names kind := by
  cases becomes with
  | unchanged => exact List.prefix_rfl
  | grown owned more => simp [Declarations.names_addFields]
  | declaring => exact (Declarations.put_framed _ _).names_grow kind

namespace Request

variable {focus next : Focus} {entry : TableEntry} {body? : Option Text}

/-- A declaration gets the fields of the body behind it, whatever was declared before. -/
theorem declared_run_declare (fits : (declare entry next body?).Fits focus) :
    ∃ more, ∀ d : Declarations, ((declare entry next body?).run ⟨d, focus⟩).reading.declared =
      d.put (entry.addFields more) := by
  cases body? with
  | none =>
    refine ⟨[], fun d => ?_⟩
    rw [TableEntry.addFields_nil]
    rfl
  | some text =>
    rcases fits with ⟨-, missing⟩ | ⟨focused, -⟩
    · cases missing
    · refine ⟨Reading.statedFields (Reading.bodyParts text), fun d => ?_⟩
      have owned : (⟨d.put entry, next⟩ : Reading).owner = .ok (entry.kind, entry.name) :=
        Reading.owner_eq_ok_iff.2 ⟨focused, Declarations.mem_names_put.2 (.inl ⟨rfl, rfl⟩)⟩
      change ((⟨d.put entry, next⟩ : Reading).readBody text).reading.declared = _
      rw [Reading.readBody_of_owner owned, Declarations.addFields_put]

end Request

namespace Reading

variable {r : Reading}

/-- A line leaves the declarations alone, adds fields to the one in focus, or makes one. -/
theorem Sound.becomes (sound : r.Sound) (line : Text) :
    r.Becomes line (r.readLine line).reading.declared := by
  obtain ⟨request, fits, same⟩ := @asks_readLine r.focus line
  have asked : ∀ d : Declarations,
      (⟨d, r.focus⟩ : Reading).readLine line = request.run ⟨d, r.focus⟩ := same
  rw [show r.readLine line = request.run r from asked r.declared]
  cases request with
  | refuse error => exact .unchanged
  | turn next body? =>
    cases body? with
    | none => exact .unchanged
    | some text =>
      rcases fits with ⟨-, missing⟩ | ⟨kept, focused⟩
      · cases missing
      · obtain ⟨kind, name, owned⟩ := sound.exists_owner (kept ▸ focused)
        have owned' : (r.turn next).owner = .ok (kind, name) := by
          rw [owner_eq_ok_iff] at owned ⊢
          exact ⟨kept.trans owned.1, owned.2⟩
        rw [Request.run, Reading.readOn, readBody_of_owner owned']
        exact .grown owned _
  | declare entry next body? =>
    obtain ⟨more, declared⟩ := Request.declared_run_declare fits
    rw [show ((Request.declare entry next body?).run r).reading.declared =
      r.declared.put (entry.addFields more) from declared r.declared]
    refine .declaring ?_
    rw [Focus.Declares, asked, declared]

/-- Whatever lines came before, a line leaves all declarations as they were but one at most: that in
focus, which gets fields at its end, or the one that the line declares. -/
theorem readLine_framed (lines : List Text) (line : Text) :
    let before := (afterLines lines).declared
    let after := ((afterLines lines).readLine line).reading.declared
    after = before ∨
      (∃ kind name entry more, (afterLines lines).focus.owner? = some (kind, name) ∧
        before.stored? kind name = some entry ∧
        after.stored? kind name = some (entry.addFields more) ∧ before.Framed after kind name) ∨
      ∃ entry, (∀ other, (afterLines lines).focus.Declares line other ↔ other = entry) ∧
        after.stored? entry.kind entry.name = some entry ∧
        before.Framed after entry.kind entry.name := by
  intro before after
  have becomes : (afterLines lines).Becomes line after := (sound_afterLines lines).becomes line
  generalize after = after at becomes ⊢
  cases becomes with
  | unchanged => exact .inl rfl
  | @grown kind name owned more =>
    obtain ⟨focused, present⟩ := owner_eq_ok_iff.1 owned
    obtain ⟨entry, stored⟩ :=
      Option.isSome_iff_exists.1 (Declarations.isSome_stored?_iff.2 present)
    refine .inr (.inl ⟨kind, name, entry, more, focused, stored, ?_,
      Declarations.addFields_framed present more⟩)
    rw [Declarations.stored?_addFields, if_pos ⟨rfl, rfl⟩, stored, Option.map_some]
  | @declaring entry declares =>
    exact .inr (.inr ⟨entry, declares.iff_eq, Declarations.stored?_put_self,
      Declarations.put_framed _ entry⟩)

/-- Lines only add names, behind those that are there. -/
theorem names_afterLines_append (lines more : List Text) (kind : DeclarationKind) :
    (afterLines lines).declared.names kind <+:
      (afterLines (lines ++ more)).declared.names kind := by
  induction more generalizing lines with
  | nil => simp
  | cons line rest ih =>
    have first : (afterLines lines).declared.names kind <+:
        (afterLines (lines ++ [line])).declared.names kind := by
      rw [afterLines_concat]
      exact ((sound_afterLines lines).becomes line).names_grow kind
    have later := ih (lines ++ [line])
    rw [List.append_assoc, List.singleton_append] at later
    exact first.trans later

end Reading
end ShaderInterface
