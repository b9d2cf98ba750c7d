import ShaderInterface.Interface

set_option autoImplicit false

/-!
The scanner and the readings. A focus stands for the state whose parts it sets, and what the scanner
does in such a state is what a reading does under the focus: the same declarations, warnings and
error, and again a state that a focus stands for. What is shown of readings is so shown of the
scanner, and no state with parts that do not belong together is ever reached.
-/
namespace ShaderInterface

def DeclarationKind.target : DeclarationKind → ScanTarget
  | struct => .struct
  | uniform => .uniform
  | pushConstant _ => .pushConstant

def DeclarationKind.stage? : DeclarationKind → Option Stage
  | pushConstant stage => some stage
  | _ => none

def Focus.state : Focus → ScanState
  | idle => .initial
  | header name => ⟨.struct, some name, none, false, none⟩
  | body kind name => ⟨kind.target, some name, kind.stage?, true, none⟩
  | placed line placement => ⟨.binding, some line, none, false, some placement⟩

/-- The scanner that stands where the reading does and has shown the warnings. -/
def Reading.scanner (r : Reading) (shown : List Notice) : Scanner :=
  ⟨r.focus.state, r.declared, shown⟩

def Step.result (step : Step) : Except ShaderError Unit :=
  match step.error? with
  | none => .ok ()
  | some error => .error error

/-- From where the reading stands, the scanner comes to where the step leads. -/
def Scanner.Simulates (act : Scan Unit) (r : Reading) (step : Step) : Prop :=
  ∀ shown, act.run (r.scanner shown) = (step.result, step.reading.scanner (shown ++ step.notices))

namespace Scanner

variable {act next : Scan Unit} {step : Step} {later : Reading → Step} {r : Reading}
  {shown : List Notice}

theorem run_bind {α β : Type} (first : Scan α) (next : α → Scan β) (s : Scanner) :
    Scan.run (first >>= next) s = match first.run s with
      | (.ok value, after) => (next value).run after
      | (.error error, after) => (.error error, after) := by
  simp only [Scan.run, bind, ExceptT.bind, ExceptT.mk, StateT.bind, ExceptT.bindCont]
  rcases first s with ⟨_ | _, after⟩ <;> rfl

theorem run_get_bind {α : Type} (next : Scanner → Scan α) (s : Scanner) :
    Scan.run (get >>= next) s = (next s).run s := rfl

namespace Simulates

theorem done : Simulates (pure ()) r (.done r) := by
  intro shown
  simp only [Step.done, List.append_nil]
  rfl

theorem fail (error : ShaderError) : Simulates (throw error) r (.fail r error) := by
  intro shown
  simp only [Step.fail, List.append_nil]
  rfl

theorem assign (focus : Focus) : Simulates (assign focus.state) r (.done (r.turn focus)) := by
  intro shown
  simp only [Step.done, List.append_nil]
  rfl

/-- After assignments and a warning, which lead to where another reading stands. -/
theorem onward {middle : Reading} {notices : List Notice}
    (moves : ∀ shown, act.run (r.scanner shown) = next.run (middle.scanner (shown ++ notices)))
    (second : Simulates next middle (later middle)) :
    Simulates act r ((Step.mk middle notices none).andThen later) := by
  intro shown
  rw [moves, second, List.append_assoc]
  rfl

theorem bind (first : Simulates act r step)
    (second : Simulates next step.reading (later step.reading)) :
    Simulates (act >>= fun _ => next) r (step.andThen later) := by
  intro shown
  rcases step with ⟨after, notices, error?⟩
  rw [run_bind, first shown]
  cases error? with
  | some error => rfl
  | none =>
    refine (second (shown ++ notices)).trans ?_
    rw [List.append_assoc]
    rfl

end Simulates

/-! ## Bodies -/

theorem run_key {kind : DeclarationKind} {name : Text} {s : Scanner}
    (named : s.state.name? = some name) :
    (key kind).run s =
      (if s.declared.declares kind name then .ok (kind, name) else .error (.undeclared name), s) := by
  rw [key, run_get_bind]
  simp only [named]
  cases s.declared.declares kind name <;> rfl

theorem run_owner (r : Reading) (shown : List Notice) :
    owner.run (r.scanner shown) = (r.owner, r.scanner shown) := by
  rcases r with ⟨d, focus⟩
  rw [owner, run_get_bind]
  cases focus with
  | idle => rfl
  | placed line placement => rfl
  | header name => exact run_key rfl
  | body kind name => cases kind <;> exact run_key rfl

theorem run_currentFields (r : Reading) (shown : List Notice) :
    currentFields.run (r.scanner shown) = (r.openFields, r.scanner shown) := by
  rw [currentFields, run_bind, run_owner, Reading.openFields]
  cases r.owner <;> rfl

theorem addField_simulates (r : Reading) (field : Field) :
    Simulates (addField field) r (r.addField field) := by
  intro shown
  rw [addField, run_bind, run_owner, Reading.addField]
  cases r.owner with
  | error error => exact Simulates.fail error shown
  | ok owner =>
    simp only [Step.done, List.append_nil]
    rfl

theorem addPart_simulates (r : Reading) (part : Text) :
    Simulates (addPart part) r (r.addPart part) := by
  rw [addPart, Reading.addPart]
  split
  · exact .done
  · cases Field.ofText? part with
    | some field => exact addField_simulates r field
    | none =>
      intro shown
      rcases r with ⟨d, focus⟩
      cases focus <;> rfl

theorem addParts_simulates (r : Reading) (parts : List Text) :
    Simulates (parts.forM addPart) r (r.addParts parts) := by
  induction parts generalizing r with
  | nil => exact .done
  | cons part rest ih => exact (addPart_simulates r part).bind (ih _)

theorem consumeBody_simulates (r : Reading) (text : Text) :
    Simulates (consumeBody text) r (r.readBody text) := by
  rw [consumeBody, Reading.readBody]
  cases Text.cutAt? '\x7d' text with
  | none => exact addParts_simulates r _
  | some cut => exact (addParts_simulates r _).bind (.assign .idle)

/-! ## Declarations -/

theorem openStruct_simulates (r : Reading) (line : Text) :
    Simulates (openStruct line) r (r.openStruct line) := by
  rw [openStruct, Reading.openStruct]
  cases Text.atWordStart? Reading.structName? false line with
  | none => exact .fail _
  | some name =>
    cases Text.cutAt? '\x7b' line with
    | none => exact fun _ => rfl
    | some cut => exact .onward (fun _ => rfl) (consumeBody_simulates _ _)

theorem declareBinding_simulates (r : Reading) (line : Text) (placement : Placement) :
    Simulates (declareBinding line placement) r (r.declarePlaced line placement) := by
  rcases placement with ⟨group, binding, tag?⟩
  rw [declareBinding, Reading.declarePlaced]
  simp only
  cases Text.cutAt? '\x7b' (Reading.dropIntroducer line) with
  | some cut =>
    by_cases unnamed : Reading.blockName cut.1 = []
    · simp only [if_pos unnamed]
      exact .fail _
    · simp only [if_neg unnamed]
      cases tag? with
      | none => exact .onward (fun _ => rfl) (consumeBody_simulates _ _)
      | some tag => exact .onward (fun _ => rfl) (consumeBody_simulates _ _)
  | none =>
    cases Field.ofText? (Reading.dropIntroducer line) with
    | none => exact .fail _
    | some field =>
      cases tag? with
      | none => exact .onward (fun _ => rfl) (.assign .idle)
      | some tag => exact .onward (fun _ => rfl) (.assign .idle)

theorem openBinding_simulates (r : Reading) (line : Text) :
    Simulates (openBinding line) r (r.openPlacement line) := by
  rw [openBinding, Reading.openPlacement]
  cases Placement.ofLine line with
  | error error => exact .fail _
  | ok annotation =>
    obtain ⟨placement, rest⟩ := annotation
    by_cases alone : Text.trim rest = []
    · simp only [if_pos alone]
      exact .assign (.placed line placement)
    · simp only [if_neg alone]
      exact declareBinding_simulates r rest placement

/-! ## Lines -/

/-- A line that opens something, in a state in which none belongs to what is open. -/
theorem opening_simulates {r : Reading} {line : Text} {otherwise : Scan Unit} {step : Step}
    (passed : Simulates otherwise r step) :
    Simulates
      (if Reading.mentionsStruct line then openStruct line
        else if Reading.mentionsPlacement line then openBinding line
        else otherwise) r
      (if Reading.mentionsStruct line then r.openStruct line
        else if Reading.mentionsPlacement line then r.openPlacement line
        else step) := by
  by_cases opens : Reading.mentionsStruct line
  · simp only [if_pos opens]
    exact openStruct_simulates r line
  · by_cases annotated : Reading.mentionsPlacement line
    · simp only [if_neg opens, if_pos annotated]
      exact openBinding_simulates r line
    · simp only [if_neg opens, if_neg annotated]
      exact passed

theorem scanLine_simulates (r : Reading) (line : Text) :
    Simulates (scanLine line) r (r.readLine line) := by
  obtain ⟨d, focus⟩ := r
  intro shown
  rw [scanLine, Reading.readLine, Reading.readStatement, run_get_bind]
  simp only
  generalize Text.trim (SourceLines.dropLineComment line) = line
  by_cases empty : line = []
  · simp only [if_pos empty]
    exact Simulates.done shown
  simp only [if_neg empty]
  cases focus with
  | body kind name => exact consumeBody_simulates _ line shown
  | placed annotated placement => exact declareBinding_simulates _ line placement shown
  | idle => exact opening_simulates .done shown
  | header name =>
    by_cases opens : line.head? = some '\x7b'
    · simp only [if_pos opens]
      have passes : ¬ (ScanTarget.struct = .struct ∧ line.head? ≠ some '\x7b') :=
        fun both => both.2 opens
      have body : Simulates (openBody >>= fun _ => consumeBody (line.drop 1)) ⟨d, .header name⟩
          ((Reading.turn ⟨d, .header name⟩ (.body .struct name)).readBody (line.drop 1)) :=
        fun shown => consumeBody_simulates ⟨d, .body .struct name⟩ _ shown
      exact (congrFun (if_neg passes) _).trans (opening_simulates body shown)
    · simp only [if_neg opens]
      have fails : ScanTarget.struct = .struct ∧ line.head? ≠ some '\x7b' := ⟨rfl, opens⟩
      exact (congrFun (if_pos fails) _).trans (Simulates.fail _ shown)

theorem scanLines_simulates (r : Reading) (lines : List Text) :
    Simulates (lines.forM scanLine) r (r.readLines lines) := by
  induction lines generalizing r with
  | nil => exact .done
  | cons line rest ih => exact (scanLine_simulates r line).bind (ih _)

/-- The end of the input finds open what the reading has open. -/
theorem finish_simulates (r : Reading) : Simulates finish r r.finish := by
  rcases r with ⟨d, focus⟩
  intro shown
  rw [finish, run_get_bind]
  cases focus with
  | idle => exact Simulates.done shown
  | header name => exact Simulates.fail (.structWithoutBody name none) shown
  | body kind name => exact Simulates.fail (.unclosedBody name) shown
  | placed line placement => exact Simulates.fail (.badPlacement line .withoutDeclaration) shown

theorem scan_simulates (r : Reading) (lines : List Text) :
    Simulates (scan lines) r (r.readAll lines) :=
  (scanLines_simulates r lines).bind (finish_simulates _)

end Scanner

/-- The declarations in data blocks are those that the reading of all lines leaves. -/
theorem Declarations.ofBlocks_eq (blocks : List (List Text)) :
    let step := Reading.start.readAll blocks.flatten
    ofBlocks blocks = ⟨step.notices, step.result.map fun () => step.reading.declared⟩ := by
  intro step
  have scanned : (Scanner.scan blocks.flatten).run .start =
      (step.result, step.reading.scanner step.notices) :=
    Scanner.scan_simulates .start blocks.flatten []
  rw [ofBlocks, scanned]
  rfl

theorem Declarations.ofBlocks_ok {blocks : List (List Text)} {declared : Declarations}
    (success : (ofBlocks blocks).result = .ok declared) :
    declared = (Reading.start.readAll blocks.flatten).reading.declared := by
  rw [ofBlocks_eq] at success
  simp only [Step.result] at success
  split at success <;> cases success
  rfl

end ShaderInterface
