import Mathlib.Data.List.Infix
import ShaderInterface.Proofs.EntryPoint.Front
import ShaderInterface.Proofs.EntryPoint.Layout

set_option autoImplicit false

namespace ShaderInterface

namespace Text

variable {phrase left right : Text}

/-- No end of the phrase, short of all of it, is a start of it. -/
def Unbordered (phrase : Text) : Prop :=
  ∀ tail ∈ phrase.tails, tail ≠ [] → tail ≠ phrase → ¬tail <+: phrase

instance (phrase : Text) : Decidable (Unbordered phrase) :=
  inferInstanceAs (Decidable (∀ tail ∈ phrase.tails, tail ≠ [] → tail ≠ phrase → ¬tail <+: phrase))

/-- Such a phrase cannot start in front of another occurrence and end in it. -/
theorem dropLead?_append_of_unbordered (unbordered : Unbordered phrase) (present : left ≠ [])
    (missing : dropLead? phrase left = none) :
    dropLead? phrase (left ++ (phrase ++ right)) = none := by
  cases started : dropLead? phrase (left ++ (phrase ++ right)) with
  | none => rfl
  | some behind =>
    have same := dropLead?_eq_some_append started
    rcases List.append_eq_append_iff.1 same with ⟨tail, whole, rest⟩ | ⟨tail, whole, rest⟩
    · -- the occurrence begins in `left` and goes on for `tail`, which the next one starts with
      have proper : tail ≠ phrase := by
        intro all
        have lengths := congrArg List.length whole
        rw [all, List.length_append] at lengths
        exact present (List.length_eq_zero_iff.1 (by omega))
      have some_ : tail ≠ [] := by
        rintro rfl
        have again := dropLead?_append phrase []
        rw [List.append_nil] at again whole
        rw [← whole, again] at missing
        cases missing
      have suffix : tail <:+ phrase := ⟨left, whole.symm⟩
      refine absurd ?_ (unbordered tail ((List.mem_tails _ _).2 suffix) some_ proper)
      exact List.prefix_of_prefix_length_le ⟨behind, rest.symm⟩ (List.prefix_append phrase right)
        suffix.length_le
    · rw [whole, dropLead?_append] at missing
      cases missing

/-- The first occurrence of such a phrase behind a text without it. -/
theorem cutAtPhrase?_append_of_unbordered (unbordered : Unbordered phrase)
    (absent : includes phrase left = false) (right : Text) :
    cutAtPhrase? phrase (left ++ phrase ++ right) = some (left, right) := by
  rw [List.append_assoc]
  induction left with
  | nil =>
    cases phrase with
    | nil => exact cutAtPhrase?_nil right
    | cons a rest =>
      have started := dropLead?_append (a :: rest) right
      rw [List.cons_append] at started
      simp [cutAtPhrase?, started]
  | cons c rest ih =>
    rw [includes, cutAtPhrase?] at absent
    split at absent
    · cases absent
    · next missing =>
      rw [Option.isSome_map] at absent
      have onward : dropLead? phrase (c :: (rest ++ (phrase ++ right))) = none :=
        dropLead?_append_of_unbordered unbordered (List.cons_ne_nil c rest) missing
      rw [List.cons_append]
      rw [cutAtPhrase?, onward]
      simp only
      rw [ih absent]
      rfl

end Text

theorem Stage.unbordered_entry (stage : Stage) : Text.Unbordered stage.entry := by
  cases stage <;> decide

namespace LaidOut

open Brackets (Undivided)

variable {front behind : Text} {above below : List Text}

theorem Input.undivided (input : Input) : Undivided ',' input.text := by
  have name : Undivided ',' input.name := .of_chars input.named (by decide)
  have colon : Undivided ',' [':'] := .of_plain (List.forall_mem_singleton.2 (by decide))
  exact name.append (colon.append (Text.undivided_of_endsType input.balanced))

theorem Input.text_ne_nil (input : Input) : input.text ≠ [] :=
  List.append_ne_nil_of_left_ne_nil input.namePresent _

/-- A list of undivided texts falls into them; a comma behind the last adds nothing. -/
theorem pieces_listText {texts : List Text} {ending : Text}
    (each : ∀ text ∈ texts, Undivided ',' text ∧ text ≠ [])
    (ends : ending = [] ∨ ending = [',']) :
    ((Brackets.pieces (some ',') (listText texts ending)).filter fun p => !p.isEmpty) = texts := by
  induction texts with
  | nil => rcases ends with rfl | rfl <;> rfl
  | cons first rest ih =>
    obtain ⟨⟨undivided, present⟩, later⟩ := List.forall_mem_cons.1 each
    have kept (others : List Text) : ((first :: others).filter fun p => !p.isEmpty) =
        first :: others.filter fun p => !p.isEmpty :=
      List.filter_cons_of_pos (by simpa using present)
    cases rest with
    | nil =>
      rcases ends with rfl | rfl
      · rw [listText, List.append_nil, Brackets.pieces, undivided.whole,
          kept, List.filter_nil]
      · rw [listText, undivided.pieces_append_cons (by decide), kept]
        rfl
    | cons next others =>
      rw [listText, undivided.pieces_append_cons (by decide), kept,
        ih later]

theorem splitList_list (laidOut : LaidOut) :
    Signature.splitList laidOut.list = laidOut.inputs.map Input.text := by
  have noAt : '@' ∉ laidOut.ending := Text.not_mem_of_chars (ending_chars laidOut.ends) (by decide)
  have ending : bare laidOut.ending = Text.squeeze laidOut.ending := by
    have whole := bare_append noAt []
    rwa [bare_nil, List.append_nil, List.append_nil] at whole
  rw [Signature.splitList, ← bare, list, bare_listText, ending, inputs, List.map_map]
  refine pieces_listText ?_ laidOut.ends
  exact List.forall_mem_map.2 fun parameter _ =>
    ⟨parameter.input.undivided, parameter.input.text_ne_nil⟩

theorem returnOf_tail (laidOut : LaidOut) :
    Signature.returnOf laidOut.tail = (laidOut.returns?.map Text.trim).getD [] := by
  have noDash : '-' ∉ laidOut.behind := laidOut.blankBehind.not_mem (by decide)
  rw [Signature.returnOf, tail]
  cases laidOut.returns? with
  | none =>
    have nowhere : Text.cutAtPhrase? "->" laidOut.behind = none :=
      Text.cutAtPhrase?_eq_none_of_not_mem noDash
    rw [Option.map_none, Option.getD_none, List.append_nil, nowhere]
    rfl
  | some returned =>
    have absent : Text.includes "->" laidOut.behind = false := Text.includes_of_not_mem noDash
    have cut := Text.cutAtPhrase?_append_of_unbordered (by decide) absent returned
    rw [List.append_assoc] at cut
    rw [Option.map_some, Option.getD_some, cut]
    rfl

theorem ofHead_text (marker : Text) (laidOut : LaidOut) :
    Signature.ofHead marker laidOut.text = .ok laidOut.signature := by
  have noOpening : '(' ∉ laidOut.before := laidOut.blankBefore.not_mem (by decide)
  rw [Signature.ofHead, text, Text.cutAt?_append_cons noOpening]
  simp only
  rw [laidOut.list_listed.passes.closeParenthesis?]
  simp only
  rw [splitList_list, returnOf_tail, signature]

theorem input_text (interface : Text) (input : Input) :
    Signature.input interface input.text = .ok input.field := by
  have noColon : ':' ∉ input.name := Text.not_mem_of_chars input.named (by decide)
  rw [Signature.input, Input.text, Text.cutAt?_append_cons noColon]
  simp only
  rw [if_neg (not_or.2 ⟨input.namePresent, input.typePresent⟩)]
  rfl

theorem inputs_text (interface : Text) (inputs : List Input) :
    Signature.inputs interface (inputs.map Input.text) = .ok (inputs.map Input.field) := by
  rw [Signature.inputs]
  induction inputs with
  | nil => rfl
  | cons first rest ih =>
    rw [List.map_cons, List.mapM_cons, input_text, ih]
    rfl

/-- A signature is read back from lines that spell it, with a blank for each line break, as are the
inputs that its parameters state. -/
theorem ofLines_laidOut (stage : Stage) (laidOut : LaidOut) (interface rest : Text)
    (unmarked : ∀ line ∈ above, Text.includes stage.entry line = false)
    (noMarker : Text.includes stage.entry front = false) (noBrace : '\x7b' ∉ front)
    (spelled : " ".toList.intercalate (behind :: below) = laidOut.text ++ '\x7b' :: rest) :
    Signature.ofLines stage.entry (above ++ (front ++ stage.entry ++ behind) :: below) =
        .ok laidOut.signature ∧
      Signature.inputs interface laidOut.signature.parameters =
        .ok (laidOut.inputs.map Input.field) := by
  have first := Text.cutAtPhrase?_append_of_unbordered stage.unbordered_entry noMarker behind
  have plain : '\x7b' ∉ front ++ stage.entry := by
    rw [List.mem_append, not_or]
    exact ⟨noBrace, by cases stage <;> decide⟩
  refine ⟨?_, inputs_text interface laidOut.inputs⟩
  rw [Signature.ofLines_of_plain_front unmarked first plain, spelled,
    Signature.ofBehind_append_cons laidOut.text_noBrace, ofHead_text]

/-- Attributes of every form, types with blanks and commas in them, and a comma behind the last
parameter. -/
def tiled : LaidOut where
  before := " "
  parameters :=
    [{ lead := "   "
       attributes := [⟨"location", some ⟨[], "0, @1", by decide, by decide, by decide, by decide⟩, " ", by decide,
         List.all_eq_true.1 (by decide), by decide⟩]
       input := ⟨"uv", "vec2<f32>", by decide, by decide, by decide, by decide⟩
       spelled := "uv : vec2< f32 >"
       blank := by decide
       spells := by decide
       apart := by decide },
     { lead := " "
       attributes := [⟨"flat", none, [], by decide, List.all_eq_true.1 (by decide), by decide⟩,
         ⟨"builtin", some ⟨" ", "tile", by decide, by decide, by decide, by decide⟩, [], by decide,
           List.all_eq_true.1 (by decide), by decide⟩,
         ⟨"invariant", none, "  ", by decide, List.all_eq_true.1 (by decide), by decide⟩]
       input := ⟨"tiles", "array<vec3<f32>,4>", by decide, by decide, by decide, by decide⟩
       spelled := " tiles: array<vec3<f32>, 4> "
       blank := by decide
       spells := by decide
       apart := by decide }]
  ending := ", "
  behind := " "
  returns? := some " @location(0) vec4f "
  blankBefore := by decide
  blankBehind := by decide
  ends := .inr (by decide)
  noBrace := by decide

theorem ofLines_tiled :
    let above : List Text := ["fn vs main \x7b", "fn fs_main() \x7b"]
    let front : Text := "\x7d fn "
    let behind : Text := " ("
    let below : List Text := ["  @location(0, @1) uv : vec2< f32 >,",
      "@flat@builtin (tile)@invariant", "  tiles: array<vec3<f32>, 4> ,", ") -> @location(0)",
      "vec4f \x7b return fn vs_main", "\x7d"]
    let rest : Text := " return fn vs_main \x7d"
    ((∀ line ∈ above, Text.includes Stage.vertex.entry line = false) ∧
      Text.includes Stage.vertex.entry front = false ∧ '\x7b' ∉ front ∧
      " ".toList.intercalate (behind :: below) = tiled.text ++ '\x7b' :: rest) ∧
    tiled.signature = ⟨["uv:vec2<f32>", "tiles:array<vec3<f32>,4>"], "@location(0) vec4f"⟩ ∧
    Signature.ofLines Stage.vertex.entry
        (above ++ (front ++ Stage.vertex.entry ++ behind) :: below) = .ok tiled.signature ∧
      Signature.inputs "fn vs_main" tiled.signature.parameters =
        .ok (tiled.inputs.map Input.field) := by
  intro above front behind below rest
  have unmarked : ∀ line ∈ above, Text.includes Stage.vertex.entry line = false := by decide
  have noMarker : Text.includes Stage.vertex.entry front = false := by decide
  have noBrace : '\x7b' ∉ front := by decide
  have spelled : " ".toList.intercalate (behind :: below) = tiled.text ++ '\x7b' :: rest := by
    decide +kernel
  exact ⟨⟨unmarked, noMarker, noBrace, spelled⟩, by decide,
    ofLines_laidOut .vertex tiled "fn vs_main" rest unmarked noMarker noBrace spelled⟩

end LaidOut
end ShaderInterface
