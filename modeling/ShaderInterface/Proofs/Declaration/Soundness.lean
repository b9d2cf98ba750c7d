import ShaderInterface.Proofs.Declaration.Requests

set_option autoImplicit false

namespace ShaderInterface

/-- Every declaration stands under its own name in the table of its own kind. -/
def Declarations.Named (d : Declarations) : Prop :=
  ∀ kind name entry, d.stored? kind name = some entry → entry.kind = kind ∧ entry.name = name

namespace Declarations

variable {d : Declarations} {kind : DeclarationKind} {name : Text}

theorem Named.empty : Named .empty := by
  intro kind name entry found
  rw [stored?_empty] at found
  cases found

theorem Named.put (named : d.Named) (entry : TableEntry) : (d.put entry).Named := by
  intro kind name found stored
  rw [stored?_put] at stored
  split at stored
  · next same =>
    cases stored
    exact ⟨same.1.symm, same.2.symm⟩
  · exact named _ _ _ stored

theorem Named.addFields (named : d.Named) (own : DeclarationKind) (key : Text)
    (fields : List Field) : (d.addFields own key fields).Named := by
  intro kind name found stored
  rw [stored?_addFields] at stored
  split at stored
  · obtain ⟨entry, before, rfl⟩ := Option.map_eq_some_iff.1 stored
    rw [TableEntry.kind_addFields, TableEntry.name_addFields]
    exact named _ _ _ before
  · exact named _ _ _ stored

end Declarations

/-- The declaration in focus is there, and all declarations stand under their own names. -/
structure Reading.Sound (r : Reading) : Prop where
  owned : ∀ kind name, r.focus.owner? = some (kind, name) → name ∈ r.declared.names kind
  named : r.declared.Named

namespace Reading

variable {r : Reading} {focus : Focus}

theorem Sound.start : Sound .start := by
  refine ⟨?_, Declarations.Named.empty⟩
  intro kind name focused
  cases focused

theorem Sound.turn_of_none (sound : r.Sound) (free : focus.owner? = none) :
    (r.turn focus).Sound := by
  refine ⟨?_, sound.named⟩
  intro kind name focused
  cases free.symm.trans focused

/-- A declaration in focus can get fields. -/
theorem Sound.exists_owner (sound : r.Sound) (focused : r.focus.owner?.isSome = true) :
    ∃ kind name, r.owner = .ok (kind, name) := by
  obtain ⟨⟨kind, name⟩, found⟩ := Option.isSome_iff_exists.1 focused
  exact ⟨kind, name, owner_eq_ok_iff.2 ⟨found, sound.owned kind name found⟩⟩

/-- Text of a body keeps a reading sound, whether it has somewhere to go or not. -/
theorem Sound.readBody (sound : r.Sound) (text : Text) : (r.readBody text).reading.Sound := by
  cases owned : r.owner with
  | error error =>
    rcases reading_readBody_of_error owned text with kept | closed
    · rwa [kept]
    · rw [closed]
      exact sound.turn_of_none rfl
  | ok owner =>
    obtain ⟨kind, name⟩ := owner
    rw [readBody_of_owner owned]
    refine ⟨?_, sound.named.addFields kind name _⟩
    intro other key focused
    simp only at focused
    split at focused
    · cases focused
    · rw [Declarations.names_addFields]
      exact sound.owned other key focused

theorem Sound.readBody_succeeds (sound : r.Sound) (focused : r.focus.owner?.isSome = true)
    (text : Text) : (r.readBody text).error? = none := by
  obtain ⟨kind, name, owned⟩ := sound.exists_owner focused
  rw [readBody_of_owner owned]

theorem Sound.readOn (sound : r.Sound) {owner? : Option (DeclarationKind × Text)}
    {body? : Option Text} (leads : Request.Leads owner? r.focus body?) :
    (r.readOn body?).reading.Sound ∧ (r.readOn body?).error? = none := by
  cases body? with
  | none => exact ⟨sound, rfl⟩
  | some text =>
    rcases leads with ⟨-, missing⟩ | ⟨-, focused⟩
    · cases missing
    · exact ⟨sound.readBody text, sound.readBody_succeeds focused text⟩

/-- The reading from which a request goes on is sound. -/
theorem Sound.turn {body? : Option Text} (sound : r.Sound)
    (leads : Request.Leads r.focus.owner? focus body?) : (r.turn focus).Sound := by
  rcases leads with ⟨free, -⟩ | ⟨same, -⟩
  · exact sound.turn_of_none free
  · exact ⟨fun kind name focused => sound.owned kind name (same.symm.trans focused), sound.named⟩

theorem Sound.put {entry : TableEntry} {body? : Option Text} (sound : r.Sound)
    (leads : Request.Leads (some (entry.kind, entry.name)) focus body?) :
    Sound ⟨r.declared.put entry, focus⟩ := by
  refine ⟨?_, sound.named.put entry⟩
  intro kind name focused
  rcases leads with ⟨free, -⟩ | ⟨same, -⟩
  · cases free.symm.trans focused
  · cases same.symm.trans focused
    exact Declarations.mem_names_put.2 (Or.inl ⟨rfl, rfl⟩)

/-- A request keeps a reading sound, and fails only by being refused. -/
theorem Sound.run {request : Request} (sound : r.Sound) (fits : request.Fits r.focus) :
    (request.run r).reading.Sound ∧
      ((request.run r).error? = none ∨ ∃ error, request.run r = .fail r error ∧
        error.isLookup = false) := by
  cases request with
  | refuse error => exact ⟨sound, Or.inr ⟨error, rfl, fits⟩⟩
  | turn next body? =>
    obtain ⟨kept, silent⟩ := (sound.turn fits).readOn fits
    exact ⟨kept, Or.inl silent⟩
  | declare entry next body? =>
    obtain ⟨kept, silent⟩ := (sound.put fits).readOn fits
    exact ⟨kept, Or.inl silent⟩

/-- A step that is a request keeps a reading sound, and where it fails it has done nothing. -/
theorem Sound.step {step : Reading → Step} (sound : r.Sound)
    (asked : Request.Asks r.focus step) :
    (step r).reading.Sound ∧
      ((step r).error? = none ∨ ∃ error, step r = .fail r error ∧ error.isLookup = false) := by
  obtain ⟨request, fits, same⟩ := asked
  rw [show step r = request.run r from same r.declared]
  exact sound.run fits

theorem Sound.readLines (sound : r.Sound) (lines : List Text) :
    (r.readLines lines).reading.Sound := by
  induction lines generalizing r with
  | nil => exact sound
  | cons line rest ih =>
    have first := (sound.step (asks_readLine line)).1
    rw [Reading.readLines, Step.andThen]
    split
    · exact first
    · exact ih first

theorem reading_finish (r : Reading) : r.finish.reading = r := by
  unfold finish
  split <;> rfl

/-- Nothing is left open at the end of a run that succeeds. -/
theorem finish_eq_none_iff : r.finish.error? = none ↔ r.focus = .idle := by
  unfold finish
  split <;> simp [Step.done, Step.fail, *]

theorem readAll_reading (lines : List Text) :
    (r.readAll lines).reading = (r.readLines lines).reading := by
  rw [readAll, Step.andThen]
  split
  · rfl
  · exact reading_finish _

theorem readAll_succeeds_iff {lines : List Text} :
    (r.readAll lines).error? = none ↔
      (r.readLines lines).error? = none ∧ (r.readLines lines).reading.focus = .idle := by
  rw [readAll, Step.andThen]
  split
  · next error failed => simp [failed]
  · next silent =>
    rw [← finish_eq_none_iff]
    simp [silent]

end Reading

end ShaderInterface
