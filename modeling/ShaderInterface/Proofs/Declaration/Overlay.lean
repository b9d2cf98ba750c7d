import ShaderInterface.Proofs.Declaration.Soundness

set_option autoImplicit false

namespace ShaderInterface

/-- `joined` holds the declarations of `above` laid over those of `below`: each name has its value
from above where there is one. Names from below keep their places, the others follow in order. -/
structure Declarations.Overlay (below above joined : Declarations) : Prop where
  names : ∀ kind, joined.names kind =
    below.names kind ++ (above.names kind).filter fun name => decide (name ∉ below.names kind)
  entries : ∀ kind name, joined.stored? kind name =
    (above.stored? kind name).or (below.stored? kind name)

namespace Declarations

variable {below above joined : Declarations} {kind : DeclarationKind} {name : Text}

theorem Overlay.empty (below : Declarations) : Overlay below .empty below := by
  constructor
  · intro kind
    simp [names_empty]
  · intro kind name
    rw [stored?_empty, Option.none_or]

theorem Overlay.mem_names_iff (laid : Overlay below above joined) :
    name ∈ joined.names kind ↔ name ∈ below.names kind ∨ name ∈ above.names kind := by
  rw [laid.names, List.mem_append, List.mem_filter, decide_eq_true_iff]
  tauto

/-- A declaration made above shows: in the place that its name has below, or else as above. -/
theorem Overlay.put (laid : Overlay below above joined) (entry : TableEntry) :
    Overlay below (above.put entry) (joined.put entry) := by
  constructor
  · intro kind
    by_cases own : kind = entry.kind
    · subst own
      by_cases again : entry.name ∈ above.names entry.kind
      · have present := laid.mem_names_iff.2 (Or.inr again)
        rw [names_put_of_mem again, names_put_of_mem present, laid.names]
      · rw [names_put_of_not_mem again, List.filter_append, ← List.append_assoc, ← laid.names]
        by_cases earlier : entry.name ∈ below.names entry.kind
        · have present := laid.mem_names_iff.2 (Or.inl earlier)
          rw [names_put_of_mem present]
          simp [earlier]
        · have absent : entry.name ∉ joined.names entry.kind := by
            rw [laid.mem_names_iff]
            exact not_or.2 ⟨earlier, again⟩
          rw [names_put_of_not_mem absent]
          simp [earlier]
    · rw [(put_of_kind_ne own).1, (put_of_kind_ne own).1, laid.names]
  · intro kind name
    rw [stored?_put, stored?_put, laid.entries]
    split
    · rw [Option.some_or]
    · rfl

/-- Fields go to a declaration that is above. -/
theorem Overlay.addFields (laid : Overlay below above joined) {own : DeclarationKind} {key : Text}
    (present : key ∈ above.names own) (fields : List Field) :
    Overlay below (above.addFields own key fields) (joined.addFields own key fields) := by
  constructor
  · intro kind
    rw [names_addFields, names_addFields, laid.names]
  · intro kind name
    rw [stored?_addFields, stored?_addFields, laid.entries]
    split
    · next found =>
      obtain ⟨rfl, rfl⟩ := found
      obtain ⟨entry, stored⟩ := Option.isSome_iff_exists.1 (isSome_stored?_iff.2 present)
      rw [stored, Option.some_or, Option.map_some, Option.some_or]
    · rfl

end Declarations

open Declarations (Overlay)

/-- A reading and one of the same lines behind earlier declarations. -/
structure Reading.Follows (below : Declarations) (alone joined : Reading) : Prop where
  focus : joined.focus = alone.focus
  declared : Overlay below alone.declared joined.declared

/-- Steps with the same error, or none, that leave readings of the same lines. -/
structure Step.Follows (below : Declarations) (alone joined : Step) : Prop where
  error : joined.error? = alone.error?
  reading : Reading.Follows below alone.reading joined.reading

namespace Reading

variable {below : Declarations} {alone joined : Reading}

theorem Follows.done (follows : Follows below alone joined) :
    Step.Follows below (.done alone) (.done joined) := ⟨rfl, follows⟩

theorem Follows.owner (follows : Follows below alone joined) {kind : DeclarationKind} {name : Text}
    (owned : alone.owner = .ok (kind, name)) : joined.owner = .ok (kind, name) := by
  rw [owner_eq_ok_iff] at owned ⊢
  refine ⟨?_, follows.declared.mem_names_iff.2 (Or.inr owned.2)⟩
  rw [follows.focus]
  exact owned.1

theorem Follows.readBody (follows : Follows below alone joined) {kind : DeclarationKind}
    {name : Text} (owned : alone.owner = .ok (kind, name)) (text : Text) :
    Step.Follows below (alone.readBody text) (joined.readBody text) := by
  have present := (owner_eq_ok_iff.1 owned).2
  rw [readBody_of_owner owned, readBody_of_owner (follows.owner owned), follows.focus]
  exact ⟨rfl, rfl, follows.declared.addFields present _⟩

theorem Follows.readOn (follows : Follows below alone joined) (sound : alone.Sound)
    {owner? : Option (DeclarationKind × Text)} {body? : Option Text}
    (leads : Request.Leads owner? alone.focus body?) :
    Step.Follows below (alone.readOn body?) (joined.readOn body?) := by
  cases body? with
  | none => exact follows.done
  | some text =>
    rcases leads with ⟨-, missing⟩ | ⟨-, focused⟩
    · cases missing
    · obtain ⟨kind, name, owned⟩ := sound.exists_owner focused
      exact follows.readBody owned text

/-- One request of both readings is answered alike, redeclaration warnings apart. -/
theorem Follows.run (follows : Follows below alone joined) (sound : alone.Sound)
    {request : Request} (fits : request.Fits alone.focus) :
    Step.Follows below (request.run alone) (request.run joined) := by
  cases request with
  | refuse error => exact ⟨rfl, follows⟩
  | turn next body? =>
    have turned : Follows below (alone.turn next) (joined.turn next) := ⟨rfl, follows.declared⟩
    exact turned.readOn (sound.turn fits) fits
  | declare entry next body? =>
    have opened : Follows below ⟨alone.declared.put entry, next⟩ ⟨joined.declared.put entry, next⟩ :=
      ⟨rfl, follows.declared.put entry⟩
    obtain ⟨error, reading⟩ := opened.readOn (sound.put fits) fits
    exact ⟨error, reading⟩

theorem Follows.readLine (follows : Follows below alone joined) (sound : alone.Sound)
    (line : Text) : Step.Follows below (alone.readLine line) (joined.readLine line) := by
  obtain ⟨request, fits, same⟩ := @asks_readLine alone.focus line
  have first : alone.readLine line = request.run alone := same alone.declared
  have second : joined.readLine line = request.run joined := by
    have given := same joined.declared
    rw [← follows.focus] at given
    exact given
  rw [first, second]
  exact follows.run sound fits

theorem Follows.readLines (follows : Follows below alone joined) (sound : alone.Sound)
    (lines : List Text) : Step.Follows below (alone.readLines lines) (joined.readLines lines) := by
  induction lines generalizing alone joined with
  | nil => exact follows.done
  | cons line rest ih =>
    have first := follows.readLine sound line
    have soundNext := (sound.step (asks_readLine line)).1
    rw [Reading.readLines, Reading.readLines, Step.andThen, Step.andThen, first.error]
    split
    · exact first
    · obtain ⟨error, reading⟩ := ih first.reading soundNext
      exact ⟨error, reading⟩

theorem Follows.finish (follows : Follows below alone joined) :
    Step.Follows below alone.finish joined.finish := by
  refine ⟨?_, ?_⟩
  · unfold Reading.finish
    rw [follows.focus]
    split <;> rfl
  · rw [reading_finish, reading_finish]
    exact follows

theorem Follows.readAll (follows : Follows below alone joined) (sound : alone.Sound)
    (lines : List Text) : Step.Follows below (alone.readAll lines) (joined.readAll lines) := by
  have run := follows.readLines sound lines
  rw [Reading.readAll, Reading.readAll, Step.andThen, Step.andThen, run.error]
  split
  · exact run
  · obtain ⟨error, reading⟩ := run.reading.finish
    exact ⟨error, reading⟩

/-- Lines behind others that are read to their end fail as they do alone or not at all, and leave
their declarations laid over those of the others. -/
theorem readAll_append {first : List Text} (complete : (start.readAll first).error? = none)
    (second : List Text) :
    (start.readAll (first ++ second)).error? = (start.readAll second).error? ∧
      (start.readAll (first ++ second)).reading.focus = (start.readAll second).reading.focus ∧
      Overlay (start.readAll first).reading.declared (start.readAll second).reading.declared
        (start.readAll (first ++ second)).reading.declared := by
  obtain ⟨silent, closed⟩ := readAll_succeeds_iff.1 complete
  have follows : Follows (start.readLines first).reading.declared start
      (start.readLines first).reading := ⟨closed, Overlay.empty _⟩
  have run := follows.readAll Sound.start second
  have joined : start.readAll (first ++ second) =
      (start.readLines first).andThen fun next => next.readAll second := by
    rw [readAll, readLines_append, Step.andThen_assoc]
    rfl
  rw [readAll_reading first, joined, Step.andThen, silent]
  exact ⟨run.error, run.reading.focus, run.reading.declared⟩

/-- Declarations, the last of which has a name that a struct has as well. -/
def earlierLines : List Text :=
  ["struct Ray \x7b origin: vec3<f32> \x7d", "struct Sun \x7b colour: vec3<f32> \x7d",
    "@group(0) @binding(1) var<uniform> Ray: f32"].map String.toList

/-- A new struct, one that replaces the first, and a uniform that replaces the last. -/
def laterLines : List Text :=
  ["struct Lamp \x7b power: f32 \x7d", "struct Ray \x7b", "from: vec4<f32>,", "\x7d",
    "@group(2) @binding(0)", "var<uniform> Ray: u32"].map String.toList

theorem readAll_append_replacing :
    (start.readAll earlierLines).error? = none ∧
      (start.readAll (earlierLines ++ laterLines)).error? = none ∧
      ((start.readAll (earlierLines ++ laterLines)).reading.declared.names .struct =
        ["Ray", "Sun", "Lamp"].map String.toList) ∧
      (start.readAll (earlierLines ++ laterLines)).reading.declared.stored? .struct "Ray" =
        some (.struct "Ray" [⟨"from", "vec4<f32>"⟩]) := by
  have complete : (start.readAll earlierLines).error? = none := by decide +kernel
  obtain ⟨error, -, laid⟩ := readAll_append complete laterLines
  refine ⟨complete, ?_, ?_, ?_⟩
  · rw [error]
    decide +kernel
  · rw [laid.names]
    decide +kernel
  · rw [laid.entries]
    decide +kernel

end Reading

end ShaderInterface
