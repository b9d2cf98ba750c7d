import ShaderInterface.Proofs.Declaration.Soundness

set_option autoImplicit false

namespace ShaderInterface

open Fallible (FailsAs)

namespace Text

/-- Digits that are not read as a number, because there are too many or because of one without a
place in decimal numbers. -/
structure IsUnread (literal : Text) : Prop where
  digits : ∀ c ∈ literal, isDigit c = true
  unread : numeralLimit < literal.length ∨ ∃ c ∈ literal, digitValue? c = none

theorem numeralFrom?_eq_none_iff {text : Text} (value : Nat) :
    numeralFrom? value text = none ↔ ∃ c ∈ text, digitValue? c = none := by
  induction text generalizing value with
  | nil => simp [numeralFrom?]
  | cons c rest ih =>
    rw [numeralFrom?, List.exists_mem_cons_iff]
    cases known : digitValue? c with
    | none => simp
    | some digit => simp [ih]

theorem numeral?_eq_none_iff {text : Text} (present : text ≠ []) :
    numeral? text = none ↔ numeralLimit < text.length ∨ ∃ c ∈ text, digitValue? c = none := by
  rw [numeral?]
  split
  · next refused => exact iff_of_true rfl (.inl (refused.resolve_left present))
  · next within =>
    rw [numeralFrom?_eq_none_iff]
    exact (or_iff_right fun long => within (.inr long)).symm

end Text

/-- The error is reported, or it is that of a number that cannot be read. -/
def ShaderError.IsOrdinary (error : ShaderError) : Prop :=
  error.isReported = true ∨ ∃ literal, error = .unreadableNumber literal ∧ Text.IsUnread literal

namespace Placement

variable {line text : Text}

theorem number_failsAs : FailsAs ShaderError.IsOrdinary (number line text) := by
  rw [number]
  split
  · exact .error (.inl rfl)
  · split
    · exact .error (.inl rfl)
    · next content behind cut =>
      simp only
      split
      · exact .error (.inl rfl)
      · next digits =>
        rw [not_or, Bool.not_eq_true, Bool.not_eq_false', List.all_eq_true] at digits
        split
        · next refused =>
          exact .error (.inr ⟨_, rfl, digits.2, (Text.numeral?_eq_none_iff digits.1).1 refused⟩)
        · exact .ok _

theorem tag_failsAs : FailsAs ShaderError.IsOrdinary (tag line text) := by
  rw [tag]
  split
  · exact .ok _
  · split
    · exact .error (.inl rfl)
    · exact .ok _

theorem ofLine_failsAs : FailsAs ShaderError.IsOrdinary (ofLine line) := by
  refine .bind number_failsAs fun _ => .bind number_failsAs fun _ => .bind tag_failsAs fun _ => ?_
  exact .ok _

end Placement

/-- Some text states the field. -/
def Field.IsStated (field : Field) : Prop := ∃ text, Field.ofText? text = some field

def TableEntry.fields : TableEntry → List Field
  | struct _ fields => fields
  | uniform block => block.fields
  | pushConstant constant => constant.fields

theorem TableEntry.fields_addFields (more : List Field) (entry : TableEntry) :
    (entry.addFields more).fields = entry.fields ++ more := by
  cases entry <;> rfl

theorem Placement.fields_entry (placement : Placement) (name : Text) (fields : List Field) :
    (placement.entry name fields).fields = fields := by
  rw [entry]
  cases placement.tag? <;> rfl

/-- Every declared field is stated by some text. -/
def Declarations.Stated (d : Declarations) : Prop :=
  ∀ kind name entry, d.stored? kind name = some entry → ∀ field ∈ entry.fields, field.IsStated

namespace Declarations.Stated

variable {d : Declarations} {entry : TableEntry} {field : Field}

theorem empty : Stated .empty := by
  intro kind name entry found
  rw [stored?_empty] at found
  cases found

theorem put (stated : d.Stated) (new : ∀ field ∈ entry.fields, field.IsStated) :
    (d.put entry).Stated := by
  intro kind name found stored
  rw [stored?_put] at stored
  split at stored
  · cases stored
    exact new
  · exact stated _ _ _ stored

theorem addField (stated : d.Stated) (new : field.IsStated) (own : DeclarationKind) (key : Text) :
    (d.addField own key field).Stated := by
  intro kind name found stored
  rw [stored?_addField] at stored
  split at stored
  · obtain ⟨entry, before, rfl⟩ := Option.map_eq_some_iff.1 stored
    rw [TableEntry.fields_addFields]
    exact List.forall_mem_append.2 ⟨stated _ _ _ before, by simpa using new⟩
  · exact stated _ _ _ stored

end Declarations.Stated

/-- The step leaves stated fields only, and an error is ordinary or that of a field without a
declaration. -/
structure Step.IsProper (step : Step) : Prop where
  stated : step.reading.declared.Stated
  fault : ∀ error, step.error? = some error → error.isLookup = true ∨ error.IsOrdinary

namespace Step.IsProper

variable {r : Reading} {step : Step} {next : Reading → Step} {error : ShaderError}

theorem noted (stated : r.declared.Stated) (notices : List Notice) :
    (Step.mk r notices none).IsProper := ⟨stated, nofun⟩

theorem done (stated : r.declared.Stated) : (Step.done r).IsProper := .noted stated _

theorem turned (stated : r.declared.Stated) (focus : Focus) :
    (Step.done (r.turn focus)).IsProper := .done stated

theorem fail (stated : r.declared.Stated) (reported : error.isReported = true) :
    (Step.fail r error).IsProper := by
  refine ⟨stated, ?_⟩
  rintro _ ⟨⟩
  exact .inr (.inl reported)

theorem andThen (first : step.IsProper)
    (onward : ∀ r : Reading, r.declared.Stated → (next r).IsProper) :
    (step.andThen next).IsProper := by
  rw [Step.andThen]
  split
  · exact first
  · exact ⟨(onward _ first.stated).stated, (onward _ first.stated).fault⟩

end Step.IsProper

namespace Reading

variable {r : Reading} {line : Text} (stated : r.declared.Stated)
include stated

theorem addPart_isProper (part : Text) : (r.addPart part).IsProper := by
  rw [addPart]
  split
  · exact .done stated
  · split
    · exact .noted stated _
    · next field known =>
      rw [addField, owner]
      split
      · next missing =>
        -- there is no declaration for the field
        refine ⟨stated, ?_⟩
        rintro _ ⟨⟩
        refine .inl ?_
        split at missing
        · cases missing
          rfl
        · split at missing
          · cases missing
          · cases missing
            rfl
      · exact .done (stated.addField ⟨part, known⟩ _ _)

theorem addParts_isProper (parts : List Text) : (r.addParts parts).IsProper := by
  induction parts generalizing r with
  | nil => exact .done stated
  | cons part rest ih => exact (addPart_isProper stated part).andThen fun _ => ih

theorem readBody_isProper (text : Text) : (r.readBody text).IsProper := by
  rw [readBody]
  split
  · exact addParts_isProper stated _
  · exact (addParts_isProper stated _).andThen fun _ next => .turned next _

theorem openStruct_isProper (line : Text) : (r.openStruct line).IsProper := by
  rw [openStruct]
  split
  · exact .fail stated rfl
  · next name named =>
    have declared : (r.declared.put (.struct name [])).Stated :=
      stated.put (List.forall_mem_nil _)
    simp only
    split
    · exact .noted declared _
    · exact (Step.IsProper.noted declared _).andThen fun _ next => readBody_isProper next _

theorem declare_isProper {name : Text} {placement : Placement} {fields : List Field}
    (new : ∀ field ∈ fields, field.IsStated) : (r.declare name placement fields).IsProper := by
  rw [declare_eq]
  refine .noted (stated.put ?_) _
  rwa [placement.fields_entry]

theorem declarePlaced_isProper (line : Text) (placement : Placement) :
    (r.declarePlaced line placement).IsProper := by
  rw [declarePlaced]
  simp only
  split
  · split
    · exact .fail stated rfl
    · exact (declare_isProper stated (by simp)).andThen fun _ next => readBody_isProper next _
  · split
    · exact .fail stated rfl
    · next field known =>
      have new : ∀ other ∈ [field], other.IsStated := by simpa using ⟨_, known⟩
      exact (declare_isProper stated new).andThen fun _ next => .turned next _

theorem openPlacement_isProper (line : Text) : (r.openPlacement line).IsProper := by
  rw [openPlacement]
  split
  · next refused =>
    refine ⟨stated, ?_⟩
    rintro _ ⟨⟩
    exact .inr (Placement.ofLine_failsAs _ refused)
  · split
    · exact .done stated
    · exact declarePlaced_isProper stated _ _

theorem readOpening_isProper (line : Text) : (r.readOpening line).IsProper := by
  rw [readOpening]
  split
  · exact openStruct_isProper stated line
  · split
    · exact openPlacement_isProper stated line
    · split
      · next name _ => exact readBody_isProper (r := r.turn (.body .struct name)) stated _
      · exact .done stated

theorem readLine_isProper (line : Text) : (r.readLine line).IsProper := by
  rw [readLine, readStatement]
  split
  · exact .done stated
  · split
    · exact readBody_isProper stated _
    · exact declarePlaced_isProper stated _ _
    · split
      · exact readOpening_isProper stated _
      · exact .fail stated rfl
    · exact readOpening_isProper stated _

theorem readAll_isProper (lines : List Text) : (r.readAll lines).IsProper := by
  have each : (r.readLines lines).IsProper := by
    induction lines generalizing r with
    | nil => exact .done stated
    | cons line rest ih => exact (readLine_isProper stated line).andThen fun _ => ih
  refine each.andThen fun last kept => ?_
  rw [finish]
  split
  · exact .done kept
  · exact .fail kept rfl
  · exact .fail kept rfl
  · exact .fail kept rfl

end Reading

namespace Reading

variable {r : Reading} {lines : List Text} {error : ShaderError}

/-- Lines that a sound reading cannot read fail for a fault of their own. -/
theorem Sound.readLines_error (sound : r.Sound)
    (failed : (r.readLines lines).error? = some error) : error.isLookup = false := by
  induction lines generalizing r with
  | nil => cases failed
  | cons line rest ih =>
    obtain ⟨next, outcome⟩ := sound.step (asks_readLine line)
    rw [Reading.readLines, Step.andThen] at failed
    split at failed
    · next here =>
      rcases outcome with silent | ⟨other, refused, fault⟩
      · rw [silent] at here
        cases here
      · rw [refused] at failed
        cases failed
        exact fault
    · exact ih next failed

/-- Lines read from the start fail with an ordinary error. -/
theorem readAll_error (failed : (start.readAll lines).error? = some error) :
    error.IsOrdinary := by
  refine ((readAll_isProper .empty lines).fault error failed).resolve_left fun missing => ?_
  rw [readAll, Step.andThen] at failed
  split at failed
  · rw [Sound.start.readLines_error failed] at missing
    cases missing
  · rw [finish] at failed
    split at failed <;> cases failed
    all_goals cases missing

end Reading

end ShaderInterface
