import ShaderInterface.Declaration.Reading

set_option autoImplicit false

/-!
The scanner that runs: a state of five parts that are assigned one by one, the tables, and the
warnings shown so far. Whatever is assigned before an error stays assigned. Not every combination of
the parts is meant to occur, and nothing in their types says which are.
-/
namespace ShaderInterface

inductive ScanTarget where
  | nothing
  | struct
  | uniform
  | pushConstant
  | binding
  deriving DecidableEq

/-- The name is that of the declaration to which fields go, or the line of an annotation that waits
for its declaration. A struct without an open body waits for its brace. -/
structure ScanState where
  target : ScanTarget
  name? : Option Text
  stage? : Option Stage
  insideBody : Bool
  placement? : Option Placement
  deriving DecidableEq

namespace ScanState

def initial : ScanState := ⟨.nothing, none, none, false, none⟩

def shownName (state : ScanState) : Text := state.name?.getD "None"

end ScanState

structure Scanner where
  state : ScanState
  declared : Declarations
  notices : List Notice
  deriving DecidableEq

/-- What is done to a scanner until it is finished or fails. -/
abbrev Scan := ExceptT ShaderError (StateM Scanner)

/-- What comes of it, and the scanner that it leaves, also where it fails. -/
def Scan.run {α : Type} (act : Scan α) (s : Scanner) : Except ShaderError α × Scanner := act s

namespace Scanner

def start : Scanner := ⟨.initial, .empty, []⟩

def assign (state : ScanState) : Scan Unit := modify fun s => { s with state }

def openBody : Scan Unit := modify fun s => { s with state := { s.state with insideBody := true } }

def warn (notices : List Notice) : Scan Unit :=
  modify fun s => { s with notices := s.notices ++ notices }

def declare (kind : DeclarationKind) (name : Text) (change : Declarations → Declarations) :
    Scan Unit := do
  warn ((← get).declared.redeclared kind name)
  modify fun s => { s with declared := change s.declared }

/-- The key of the declaration in the table of the kind. -/
def key (kind : DeclarationKind) : Scan (DeclarationKind × Text) := do
  let s ← get
  match s.state.name? with
  | none => throw (.missing .name)
  | some name =>
      if s.declared.declares kind name then return (kind, name) else throw (.undeclared name)

def owner : Scan (DeclarationKind × Text) := do
  let s ← get
  match s.state.target with
  | .struct => key .struct
  | .uniform => key .uniform
  | .pushConstant =>
      match s.state.stage? with
      | none => throw (.missing .stage)
      | some stage => key (.pushConstant stage)
  | .nothing | .binding => throw .strayField

def currentFields : Scan (List Field) := do
  let (kind, name) ← owner
  return (← get).declared.fields kind name

def addField (field : Field) : Scan Unit := do
  let (kind, name) ← owner
  modify fun s => { s with declared := s.declared.addField kind name field }

def addPart (part : Text) : Scan Unit :=
  if Text.trim part = [] then pure ()
  else
    match Field.ofText? part with
    | none => do warn [.skippedPart (Text.trim part) (← get).state.name?]
    | some field => addField field

def consumeBody (text : Text) : Scan Unit :=
  match Text.cutAt? '\x7d' text with
  | none => (Brackets.pieces (some ',') text).forM addPart
  | some (content, _) => do
      (Brackets.pieces (some ',') content).forM addPart
      assign .initial

def openStruct (line : Text) : Scan Unit :=
  match Text.atWordStart? Reading.structName? false line with
  | none => throw (.unnamedStruct line)
  | some name => do
      declare .struct name fun d => d.addStruct name []
      assign { ScanState.initial with target := .struct, name? := some name }
      match Text.cutAt? '\x7b' line with
      | none => pure ()
      | some (_, body) =>
          openBody
          consumeBody body

/-- Declares a uniform, or a push constant under a tag, and gives the state for its body. -/
def declareBlock (name : Text) (placement : Placement) (fields : List Field) : Scan ScanState :=
  let block : Block := ⟨name, placement.group, placement.binding, fields⟩
  match placement.tag? with
  | none => do
      declare .uniform name fun d => d.addUniform block
      return { ScanState.initial with target := .uniform, name? := some name }
  | some tag => do
      let stage := Stage.ofTag tag
      declare (.pushConstant stage) name fun d => d.addPushConstant ⟨block, stage⟩
      return { ScanState.initial with
        target := .pushConstant, name? := some name, stage? := some stage }

/-- The declaration under an annotation. A single field leaves no open body. -/
def declareBinding (line : Text) (placement : Placement) : Scan Unit :=
  let remainder := Reading.dropIntroducer line
  match Text.cutAt? '\x7b' remainder with
  | some (head, body) =>
      let name := Reading.blockName head
      if name = [] then throw (.unnamedBlock line)
      else do
        let state ← declareBlock name placement []
        assign { state with insideBody := true }
        consumeBody body
  | none =>
      match Field.ofText? remainder with
      | none => throw (.noField line)
      | some field => do
          let _ ← declareBlock field.name placement [field]
          assign .initial

def openBinding (line : Text) : Scan Unit :=
  match Placement.ofLine line with
  | .error error => throw error
  | .ok (placement, rest) =>
      if Text.trim rest = [] then
        assign { ScanState.initial with
          target := .binding, name? := some line, placement? := some placement }
      else declareBinding rest placement

def scanLine (line : Text) : Scan Unit := do
  let line := Text.trim (SourceLines.dropLineComment line)
  let state := (← get).state
  if line = [] then pure ()
  else if state.insideBody then consumeBody line
  else if state.target = .binding then
    match state.placement? with
    | none => throw (.missing .placement)
    | some placement => declareBinding line placement
  else if state.target = .struct ∧ line.head? ≠ some '\x7b' then
    throw (.structWithoutBody state.shownName (some line))
  else if Reading.mentionsStruct line then openStruct line
  else if Reading.mentionsPlacement line then openBinding line
  else if state.target = .struct then
    openBody
    consumeBody (line.drop 1)
  else pure ()

/-- The end of the input, where nothing may be left open. -/
def finish : Scan Unit := do
  let state := (← get).state
  if state.insideBody then throw (.unclosedBody state.shownName)
  else if state.target = .struct then throw (.structWithoutBody state.shownName none)
  else if state.target = .binding then
    match state.name? with
    | none => throw (.missing .name)
    | some line => throw (.badPlacement line .withoutDeclaration)
  else pure ()

def scan (lines : List Text) : Scan Unit := do
  lines.forM scanLine
  finish

end Scanner
end ShaderInterface
