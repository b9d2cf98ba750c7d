import ShaderInterface.Declaration.Reading
import ShaderInterface.Proofs.Declaration.Lookup
import ShaderInterface.Proofs.Text.Cuts

set_option autoImplicit false

namespace ShaderInterface.Reading

variable {r : Reading} {kind : DeclarationKind} {name part text : Text} {error : ShaderError}

def statedFields (parts : List Text) : List Field := parts.filterMap Field.ofText?

/-- The warning due for a part of a body that is neither blank nor states a field. -/
def skipped? (label? : Option Text) (part : Text) : Option Notice :=
  if Text.trim part = [] ∨ (Field.ofText? part).isSome then none
  else some (.skippedPart (Text.trim part) label?)

/-- The parts of a body, up to the closing brace. -/
def bodyParts (text : Text) : List Text :=
  Brackets.pieces (some ',') (text.takeWhile (· != '\x7d'))

theorem ofText?_of_blank (blank : Text.trim part = []) : Field.ofText? part = none := by
  have solid : Text.isBlank '@' = false := by decide
  have noAt : '@' ∉ part := by
    intro member
    have found := Text.allBlank_of_trim_eq_nil blank '@' member
    rw [solid] at found
    cases found
  rw [Field.ofText?, Text.strip_of_not_mem noAt, blank]
  rfl

theorem owner_eq_ok_iff :
    r.owner = .ok (kind, name) ↔
      r.focus.owner? = some (kind, name) ∧ name ∈ r.declared.names kind := by
  unfold owner
  split
  · next none => simp [none]
  · next own key focused =>
    rw [focused, ← Declarations.declares_iff_mem_names]
    split
    · next present =>
      constructor
      · intro same
        cases same
        exact ⟨rfl, present⟩
      · rintro ⟨same, -⟩
        cases same
        rfl
    · next absent =>
      constructor
      · intro same
        cases same
      · rintro ⟨same, present⟩
        cases same
        exact absurd present absent

/-- One part adds its field or is a warning, if it is not blank. -/
theorem addPart_of_owner (owned : r.owner = .ok (kind, name)) (part : Text) :
    r.addPart part =
      ⟨{ r with declared := r.declared.addFields kind name (statedFields [part]) },
        (skipped? r.focus.label? part).toList, none⟩ := by
  unfold addPart
  split
  · next blank =>
    simp only [statedFields, skipped?, ofText?_of_blank blank, blank, true_or, if_true,
      List.filterMap_cons, List.filterMap_nil]
    rfl
  · next present =>
    cases stated : Field.ofText? part with
    | none =>
      simp only [statedFields, skipped?, stated, present, Option.isSome_none, Bool.false_eq_true,
        or_self, if_false, List.filterMap_cons, List.filterMap_nil]
      rfl
    | some field =>
      simp only [statedFields, skipped?, stated, Option.isSome_some, or_true, if_true, addField,
        owned, List.filterMap_cons, List.filterMap_nil]
      rfl

theorem owner_addFields (owned : r.owner = .ok (kind, name)) (fields : List Field) :
    ({ r with declared := r.declared.addFields kind name fields } : Reading).owner =
      .ok (kind, name) := by
  rw [owner_eq_ok_iff] at owned ⊢
  rw [Declarations.names_addFields]
  exact owned

theorem addParts_of_owner (owned : r.owner = .ok (kind, name)) (parts : List Text) :
    r.addParts parts =
      ⟨{ r with declared := r.declared.addFields kind name (statedFields parts) },
        parts.filterMap (skipped? r.focus.label?), none⟩ := by
  induction parts generalizing r with
  | nil => rfl
  | cons part rest ih =>
    have onward := ih (owner_addFields owned (statedFields [part]))
    have stated : statedFields (part :: rest) = statedFields [part] ++ statedFields rest :=
      List.filterMap_append (l := [part])
    have warned : (part :: rest).filterMap (skipped? r.focus.label?) =
        (skipped? r.focus.label? part).toList ++ rest.filterMap (skipped? r.focus.label?) := by
      cases warning : skipped? r.focus.label? part <;> simp [warning]
    rw [addParts, addPart_of_owner owned, stated, warned, Declarations.addFields_append]
    simp only [Step.andThen, onward]

/-- Text of a body that gets its fields is read without an error. -/
theorem readBody_of_owner (owned : r.owner = .ok (kind, name)) (text : Text) :
    r.readBody text =
      ⟨⟨r.declared.addFields kind name (statedFields (bodyParts text)),
          if '\x7d' ∈ text then .idle else r.focus⟩,
        (bodyParts text).filterMap (skipped? r.focus.label?), none⟩ := by
  rw [readBody, bodyParts, Text.cutAt?_eq]
  by_cases closed : '\x7d' ∈ text
  · simp only [closed, if_true, addParts_of_owner owned, Step.andThen, Step.done, turn,
      List.append_nil]
  · have whole : text.takeWhile (· != '\x7d') = text := by
      rw [List.takeWhile_eq_self_iff]
      intro c member
      have other : c ≠ '\x7d' := fun same => closed (same ▸ member)
      simpa using other
    simp only [closed, if_false, addParts_of_owner owned, whole]

theorem reading_addPart_of_error (missing : r.owner = .error error) (part : Text) :
    (r.addPart part).reading = r := by
  unfold addPart
  split
  · rfl
  · split
    · rfl
    · simp only [addField, missing, Step.fail]

/-- Parts that have nowhere to go change nothing. -/
theorem reading_addParts_of_error (missing : r.owner = .error error) (parts : List Text) :
    (r.addParts parts).reading = r := by
  induction parts with
  | nil => rfl
  | cons part rest ih =>
    have first := reading_addPart_of_error missing part
    rw [addParts, Step.andThen]
    split
    · exact first
    · rw [first]
      exact ih

/-- A body that has nowhere to go can only be closed. -/
theorem reading_readBody_of_error (missing : r.owner = .error error) (text : Text) :
    (r.readBody text).reading = r ∨ (r.readBody text).reading = r.turn .idle := by
  unfold readBody
  split
  · exact Or.inl (reading_addParts_of_error missing _)
  · next content behind cut =>
    have unchanged := reading_addParts_of_error missing (Brackets.pieces (some ',') content)
    rw [Step.andThen]
    split
    · exact Or.inl unchanged
    · rw [unchanged]
      exact Or.inr rfl

end ShaderInterface.Reading
