import ShaderInterface.Proofs.Brackets.Pieces
import ShaderInterface.Proofs.Declaration.Reached

set_option autoImplicit false

namespace ShaderInterface

namespace Focus

variable {focus : Focus}

theorem isSome_owner?_of_insideBody (inside : focus.insideBody = true) :
    focus.owner?.isSome = true := by
  cases focus with
  | body kind name => rfl
  | idle | header | placed => cases inside

end Focus

namespace Reading

open Brackets (depthAfter pieces)

variable {left : Text}

/-- Reading on behind the comma is the same as reading all of the text, whatever the reading, unless
the body is closed in front of the comma. -/
theorem readBody_append_cons (r : Reading) (unclosed : '\x7d' ∉ left)
    (level : depthAfter 0 left = 0) (right : Text) :
    r.readBody (left ++ ',' :: right) =
      (r.readBody left).andThen fun next => next.readBody right := by
  have divided (content : Text) : pieces (some ',') (left ++ ',' :: content) =
      pieces (some ',') left ++ pieces (some ',') content :=
    Brackets.piecesFrom_append_cons (by decide) level content
  have front : r.readBody left = r.addParts (pieces (some ',') left) := by
    rw [readBody, Text.cutAt?_eq_none_iff.2 unclosed]
  have comma : ',' ≠ '\x7d' := by decide
  rw [front, readBody, Text.cutAt?_append unclosed, Text.cutAt?, if_neg comma]
  cases closed : Text.cutAt? '\x7d' right with
  | none => simp only [Option.map_none, divided, addParts_append, readBody, closed]
  | some cut =>
    simp only [Option.map_some, divided, addParts_append, Step.andThen_assoc, readBody, closed]

/-- An open body may be broken at a comma that no bracket encloses. Its text up to the comma and
then the text behind it are read without an error, and leave the same reading and warnings as both
at once. -/
theorem readBody_broken (lines : List Text)
    (inside : (afterLines lines).focus.insideBody = true) (unclosed : '\x7d' ∉ left)
    (level : depthAfter 0 left = 0) (right : Text) :
    let first := (afterLines lines).readBody left
    let second := first.reading.readBody right
    first.error? = none ∧ second.error? = none ∧
      (afterLines lines).readBody (left ++ ',' :: right) =
        ⟨second.reading, first.notices ++ second.notices, none⟩ := by
  intro first second
  have focused := Focus.isSome_owner?_of_insideBody inside
  have silent (text : Text) : ((afterLines lines).readBody text).error? = none :=
    (sound_afterLines lines).readBody_succeeds focused text
  have begun : first.error? = none := silent left
  have broken : (afterLines lines).readBody (left ++ ',' :: right) =
      ⟨second.reading, first.notices ++ second.notices, second.error?⟩ := by
    rw [readBody_append_cons _ unclosed level right]
    change first.andThen _ = _
    rw [Step.andThen, begun]
  have ended : second.error? = none := by
    have whole := silent (left ++ ',' :: right)
    rwa [broken] at whole
  exact ⟨begun, ended, ended ▸ broken⟩

/-- A struct whose body is open, with a field already. -/
def openLines : List Text := ["struct Ray \x7b", "origin: vec3<f32>"].map String.toList

/-- The closer that matches nothing and the part without a type are in front of the comma. -/
theorem readBody_broken_ray :
    let left : Text := "weight), cells: array<vec2<f32>, 4>, far>: f32"
    let right : Text := " near: f32 \x7d struct Sun"
    let first := (afterLines openLines).readBody left
    let second := first.reading.readBody right
    (afterLines openLines).focus.insideBody = true ∧ '\x7d' ∉ left ∧ depthAfter 0 left = 0 ∧
      (first.error? = none ∧ second.error? = none ∧
        (afterLines openLines).readBody (left ++ ',' :: right) =
          ⟨second.reading, first.notices ++ second.notices, none⟩) ∧
      first.notices.length = 1 ∧ second.reading.focus = .idle := by
  intro left right first second
  have inside : (afterLines openLines).focus.insideBody = true := by decide +kernel
  have unclosed : '\x7d' ∉ left := by decide +kernel
  have level : depthAfter 0 left = 0 := by decide +kernel
  exact ⟨inside, unclosed, level, readBody_broken openLines inside unclosed level right,
    by decide +kernel, by decide +kernel⟩

end Reading

end ShaderInterface
