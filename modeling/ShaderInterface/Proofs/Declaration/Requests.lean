import ShaderInterface.Proofs.Declaration.Parts
import ShaderInterface.Proofs.Fallible

set_option autoImplicit false

/-!
What a line asks for. A line is refused, or it names a next focus, with a declaration or without,
and perhaps the text of a body to go on with. Which of these it does is settled by the line and the
focus alone; what is declared so far has no say in it.
-/
namespace ShaderInterface

/-- Whether the error is that of a field which has no declaration to go to. -/
def ShaderError.isLookup : ShaderError → Bool
  | strayField => true
  | undeclared _ => true
  | missing _ => true
  | _ => false

inductive Request where
  | refuse (error : ShaderError)
  | turn (next : Focus) (body? : Option Text)
  | declare (entry : TableEntry) (next : Focus) (body? : Option Text)

/-- Goes on with the text of a body, if there is one. -/
def Reading.readOn (r : Reading) : Option Text → Step
  | none => .done r
  | some text => r.readBody text

namespace Request

def run (r : Reading) : Request → Step
  | refuse error => .fail r error
  | turn next body? => (r.turn next).readOn body?
  | declare entry next body? =>
      (Step.mk ⟨r.declared.put entry, next⟩ (r.declared.redeclared entry.kind entry.name)
        none).andThen fun after => after.readOn body?

/-- The next focus is on the given declaration, or on none and then no body is read. -/
def Leads (owner? : Option (DeclarationKind × Text)) (next : Focus) (body? : Option Text) : Prop :=
  (next.owner? = none ∧ body? = none) ∨ (next.owner? = owner? ∧ next.owner?.isSome = true)

/-- What a request may be under a focus: it keeps to the declaration in focus or to its own, and is
refused for a fault of the line only. -/
def Fits (focus : Focus) : Request → Prop
  | refuse error => error.isLookup = false
  | turn next body? => Leads focus.owner? next body?
  | declare entry next body? => Leads (some (entry.kind, entry.name)) next body?

/-- Under the focus, the step is what one request asks for, whatever is declared. -/
def Asks (focus : Focus) (step : Reading → Step) : Prop :=
  ∃ request : Request, request.Fits focus ∧
    ∀ d : Declarations, step ⟨d, focus⟩ = request.run ⟨d, focus⟩

end Request

/-! ## Annotations -/

namespace Placement

variable {line text : Text} {error : ShaderError}

theorem number_error (failed : number line text = .error error) : error.isLookup = false := by
  unfold number at failed
  split at failed
  · cases failed
    rfl
  · split at failed
    · cases failed
      rfl
    · simp only at failed
      split at failed
      · cases failed
        rfl
      · split at failed
        · cases failed
          rfl
        · cases failed

theorem tag_error (failed : tag line text = .error error) : error.isLookup = false := by
  unfold tag at failed
  split at failed
  · cases failed
  · split at failed
    · cases failed
      rfl
    · cases failed

theorem ofLine_error (failed : ofLine line = .error error) : error.isLookup = false := by
  unfold ofLine at failed
  rcases Fallible.bind_eq_error_iff.1 failed with group | ⟨first, -, failed⟩
  · exact number_error group
  · rcases Fallible.bind_eq_error_iff.1 failed with binding | ⟨second, -, failed⟩
    · exact number_error binding
    · rcases Fallible.bind_eq_error_iff.1 failed with tag | ⟨third, -, failed⟩
      · exact tag_error tag
      · cases failed

/-- What an annotation makes of a name and its fields. -/
def entry (placement : Placement) (name : Text) (fields : List Field) : TableEntry :=
  let block : Block := ⟨name, placement.group, placement.binding, fields⟩
  match placement.tag? with
  | none => .uniform block
  | some tag => .pushConstant ⟨block, Stage.ofTag tag⟩

@[simp] theorem name_entry (placement : Placement) (name : Text) (fields : List Field) :
    (placement.entry name fields).name = name := by
  unfold entry
  cases placement.tag? <;> rfl

theorem kind_entry (placement : Placement) (name : Text) (fields : List Field) :
    (placement.entry name fields).kind = Reading.placedKind placement := by
  unfold entry Reading.placedKind
  cases placement.tag? <;> rfl

end Placement

namespace Reading

open Request (Asks Fits Leads)

theorem declare_eq (r : Reading) (name : Text) (placement : Placement) (fields : List Field) :
    r.declare name placement fields =
      ⟨⟨r.declared.put (placement.entry name fields), .body (placedKind placement) name⟩,
        r.declared.redeclared (placement.entry name fields).kind name, none⟩ := by
  rw [declare, placement.kind_entry]
  unfold Placement.entry
  cases placement.tag? <;> rfl

/-! ## The requests of each kind of line -/

variable {focus : Focus} {step other : Reading → Step}

theorem Asks.congr (asked : Asks focus step)
    (same : ∀ d, other ⟨d, focus⟩ = step ⟨d, focus⟩) : Asks focus other := by
  obtain ⟨request, fits, run⟩ := asked
  exact ⟨request, fits, fun d => (same d).trans (run d)⟩

theorem asks_done : Asks focus Step.done := by
  refine ⟨.turn focus none, ?_, fun d => rfl⟩
  cases owned : focus.owner? with
  | none => exact Or.inl ⟨owned, rfl⟩
  | some owner => exact Or.inr ⟨owned.trans owned.symm, by rw [owned]; rfl⟩

theorem asks_refusal (error : ShaderError) (fault : error.isLookup = false) :
    Asks focus fun r => .fail r error :=
  ⟨.refuse error, fault, fun _ => rfl⟩

theorem asks_openStruct (line : Text) : Asks focus fun r => r.openStruct line := by
  cases named : Text.atWordStart? structName? false line with
  | none =>
    apply Asks.congr (asks_refusal (.unnamedStruct line) rfl)
    intro d
    simp only [openStruct, named]
  | some name =>
    cases brace : Text.cutAt? '\x7b' line with
    | none =>
      refine ⟨.declare (.struct name []) (.header name) none, Or.inr ⟨rfl, rfl⟩, fun d => ?_⟩
      simp only [openStruct, named, brace]
      exact (Step.andThen_done_right _).symm
    | some cut =>
      refine ⟨.declare (.struct name []) (.body .struct name) (some cut.2), Or.inr ⟨rfl, rfl⟩,
        fun d => ?_⟩
      simp only [openStruct, named, brace]
      rfl

theorem asks_declarePlaced (line : Text) (placement : Placement) :
    Asks focus fun r => r.declarePlaced line placement := by
  cases brace : Text.cutAt? '\x7b' (dropIntroducer line) with
  | none =>
    cases stated : Field.ofText? (dropIntroducer line) with
    | none =>
      apply Asks.congr (asks_refusal (.noField line) rfl)
      intro d
      simp only [declarePlaced, brace, stated]
    | some field =>
      refine ⟨.declare (placement.entry field.name [field]) .idle none, Or.inl ⟨rfl, rfl⟩,
        fun d => ?_⟩
      simp only [declarePlaced, brace, stated, declare_eq, Request.run, Placement.name_entry]
      rfl
  | some cut =>
    by_cases unnamed : blockName cut.1 = []
    · apply Asks.congr (asks_refusal (.unnamedBlock line) rfl)
      intro d
      simp only [declarePlaced, brace, unnamed, if_true]
    · refine ⟨.declare (placement.entry (blockName cut.1) [])
        (.body (placedKind placement) (blockName cut.1)) (some cut.2), Or.inr ⟨?_, rfl⟩,
        fun d => ?_⟩
      · rw [placement.kind_entry, placement.name_entry]
        rfl
      · simp only [declarePlaced, brace, unnamed, if_false, declare_eq, Request.run,
          Placement.name_entry]
        rfl

theorem asks_openPlacement (line : Text) : Asks focus fun r => r.openPlacement line := by
  cases read : Placement.ofLine line with
  | error error =>
    apply Asks.congr (asks_refusal _ (Placement.ofLine_error read))
    intro d
    simp only [openPlacement, read]
  | ok placed =>
    obtain ⟨placement, rest⟩ := placed
    by_cases alone : Text.trim rest = []
    · refine ⟨.turn (.placed line placement) none, Or.inl ⟨rfl, rfl⟩, fun d => ?_⟩
      simp only [openPlacement, read, alone, if_true]
      rfl
    · apply Asks.congr (asks_declarePlaced rest placement)
      intro d
      simp only [openPlacement, read, alone, if_false]

theorem asks_readOpening (line : Text) : Asks focus fun r => r.readOpening line := by
  by_cases keyword : mentionsStruct line = true
  · apply Asks.congr (asks_openStruct line)
    intro d
    rw [readOpening, if_pos keyword]
  · by_cases annotated : mentionsPlacement line = true
    · apply Asks.congr (asks_openPlacement line)
      intro d
      rw [readOpening, if_neg keyword, if_pos annotated]
    · cases focus with
      | header name =>
        refine ⟨.turn (.body .struct name) (some (line.drop 1)), Or.inr ⟨rfl, rfl⟩, fun d => ?_⟩
        beta_reduce
        rw [readOpening, if_neg keyword, if_neg annotated]
        rfl
      | _ =>
        apply Asks.congr asks_done
        intro d
        rw [readOpening, if_neg keyword, if_neg annotated]

theorem asks_readStatement (line : Text) : Asks focus fun r => r.readStatement line := by
  by_cases empty : line = []
  · apply Asks.congr asks_done
    intro d
    simp only [readStatement, empty, if_true]
  · cases focus with
    | idle =>
      apply Asks.congr (asks_readOpening line)
      intro d
      simp only [readStatement, empty, if_false]
    | header name =>
      by_cases brace : line.head? = some '\x7b'
      · apply Asks.congr (asks_readOpening line)
        intro d
        simp only [readStatement, empty, brace, if_true, if_false]
      · apply Asks.congr (asks_refusal (.structWithoutBody name (some line)) rfl)
        intro d
        simp only [readStatement, empty, brace, if_false]
    | body kind name =>
      refine ⟨.turn (.body kind name) (some line), Or.inr ⟨rfl, rfl⟩, fun d => ?_⟩
      simp only [readStatement, empty, if_false]
      rfl
    | placed place placement =>
      apply Asks.congr (asks_declarePlaced line placement)
      intro d
      simp only [readStatement, empty, if_false]

/-- What a line asks for. -/
theorem asks_readLine (line : Text) : Asks focus fun r => r.readLine line :=
  asks_readStatement (Text.trim (SourceLines.dropLineComment line))

end Reading

end ShaderInterface
