import ShaderInterface.Placement
import ShaderInterface.Brackets
import ShaderInterface.Declaration.Table
import ShaderInterface.SourceLines

set_option autoImplicit false

namespace ShaderInterface

/-- What the next line belongs to, as the parts of a scanner's state say it together. -/
inductive Focus where
  | idle
  | header (name : Text)
  | body (kind : DeclarationKind) (name : Text)
  | placed (line : Text) (placement : Placement)
  deriving DecidableEq

namespace Focus

/-- The declaration that gets the fields. -/
def owner? : Focus → Option (DeclarationKind × Text)
  | header name => some (.struct, name)
  | body kind name => some (kind, name)
  | _ => none

/-- The name of the declaration, or the line of the annotation. -/
def label? : Focus → Option Text
  | idle => none
  | header name => some name
  | body _ name => some name
  | placed line _ => some line

end Focus

/-- The declarations so far, and what comes next. -/
structure Reading where
  declared : Declarations
  focus : Focus
  deriving DecidableEq

/-- The outcome of a step: the reading it leaves, its warnings in order, and why it failed. -/
structure Step where
  reading : Reading
  notices : List Notice
  error? : Option ShaderError
  deriving DecidableEq

namespace Step

def done (reading : Reading) : Step := ⟨reading, [], none⟩

def fail (reading : Reading) (error : ShaderError) : Step := ⟨reading, [], some error⟩

/-- A step and, if it succeeds, another one after it. -/
def andThen (first : Step) (next : Reading → Step) : Step :=
  match first.error? with
  | some _ => first
  | none =>
      let second := next first.reading
      ⟨second.reading, first.notices ++ second.notices, second.error?⟩

@[simp] theorem andThen_done_left (reading : Reading) (next : Reading → Step) :
    (done reading).andThen next = next reading := by
  simp [andThen, done]

@[simp] theorem andThen_done_right (first : Step) : first.andThen done = first := by
  cases first with
  | mk reading notices error? => cases error? <;> simp [andThen, done]

@[simp] theorem andThen_fail_left (reading : Reading) (error : ShaderError)
    (next : Reading → Step) : (fail reading error).andThen next = fail reading error := rfl

theorem andThen_assoc (first : Step) (second third : Reading → Step) :
    (first.andThen second).andThen third =
      first.andThen fun reading => (second reading).andThen third := by
  cases first with
  | mk reading notices error? =>
    cases error? with
    | some error => rfl
    | none =>
      simp only [andThen]
      cases failed : (second reading).error? <;> simp [failed, List.append_assoc]

end Step

namespace Reading

def start : Reading := ⟨.empty, .idle⟩

def turn (r : Reading) (focus : Focus) : Reading := { r with focus }

/-- The declaration that gets further fields. It has to be there. -/
def owner (r : Reading) : Except ShaderError (DeclarationKind × Text) :=
  match r.focus.owner? with
  | none => .error .strayField
  | some (kind, name) =>
      if r.declared.declares kind name then .ok (kind, name) else .error (.undeclared name)

/-- The fields of the declaration that gets further ones. -/
def openFields (r : Reading) : Except ShaderError (List Field) :=
  r.owner.map fun (kind, name) => r.declared.fields kind name

/-- A field at the end of the declaration in focus. -/
def addField (r : Reading) (field : Field) : Step :=
  match r.owner with
  | .error error => .fail r error
  | .ok (kind, name) => .done { r with declared := r.declared.addField kind name field }

/-- One part of a body. Blank parts are passed over, others that state no field are skipped with a
warning. -/
def addPart (r : Reading) (part : Text) : Step :=
  if Text.trim part = [] then .done r
  else
    match Field.ofText? part with
    | none => ⟨r, [.skippedPart (Text.trim part) r.focus.label?], none⟩
    | some field => r.addField field

def addParts (r : Reading) : List Text → Step
  | [] => .done r
  | part :: rest => (r.addPart part).andThen fun next => next.addParts rest

/-- Fields up to a closing brace, which ends the body. What stands behind it is dropped. -/
def readBody (r : Reading) (text : Text) : Step :=
  match Text.cutAt? '\x7d' text with
  | none => r.addParts (Brackets.pieces (some ',') text)
  | some (content, _) =>
      (r.addParts (Brackets.pieces (some ',') content)).andThen fun next => .done (next.turn .idle)

def mentionsStruct (line : Text) : Bool :=
  (Text.atWordStart? (Text.dropWord? "struct") false line).isSome

/-- The name that `text` starts with behind the word struct and blanks. -/
def structName? (text : Text) : Option Text := do
  let behind ← Text.dropLead? "struct" text
  let named := behind.dropWhile Text.isBlank
  let name := named.takeWhile Text.isWord
  if named.length = behind.length ∨ name = [] then none else some name

/-- A line with the word struct: the struct is declared without fields, and its body read if the
line holds the brace. -/
def openStruct (r : Reading) (line : Text) : Step :=
  match Text.atWordStart? structName? false line with
  | none => .fail r (.unnamedStruct line)
  | some name =>
      let declared := r.declared.addStruct name []
      let notices := r.declared.redeclared .struct name
      match Text.cutAt? '\x7b' line with
      | none => ⟨⟨declared, .header name⟩, notices, none⟩
      | some (_, body) =>
          (Step.mk ⟨declared, .body .struct name⟩ notices none).andThen fun next =>
            next.readBody body

/-- `text` without the address space that it starts with, if any. -/
def dropAddressSpace : Text → Text
  | '<' :: inside =>
      match Text.cutAt? '>' inside with
      | some (_, behind) => behind
      | none => '<' :: inside
  | text => text

/-- `line` without the keyword that introduces a variable or uniform, its address space and the
blanks around them. A line without the keyword is left as it is. -/
def dropIntroducer (line : Text) : Text :=
  let text := line.dropWhile Text.isBlank
  match Text.dropWord? "var" text with
  | some behind => (dropAddressSpace (behind.dropWhile Text.isBlank)).dropWhile Text.isBlank
  | none =>
      match Text.dropWord? "uniform" text with
      | some behind => behind.dropWhile Text.isBlank
      | none => line

def placedKind (placement : Placement) : DeclarationKind :=
  match placement.tag? with
  | none => .uniform
  | some tag => .pushConstant (Stage.ofTag tag)

/-- A uniform or push constant under its annotation, then in focus with an open body. -/
def declare (r : Reading) (name : Text) (placement : Placement) (fields : List Field) : Step :=
  let block : Block := ⟨name, placement.group, placement.binding, fields⟩
  let kind := placedKind placement
  let declared := match placement.tag? with
    | none => r.declared.addUniform block
    | some tag => r.declared.addPushConstant ⟨block, Stage.ofTag tag⟩
  ⟨⟨declared, .body kind name⟩, r.declared.redeclared kind name, none⟩

def blockName (head : Text) : Text :=
  Text.trim (Text.dropEndWhile (· == ':') (Text.trim head))

/-- The declaration under an annotation: a block, whose body starts in the line, or a single
field. -/
def declarePlaced (r : Reading) (line : Text) (placement : Placement) : Step :=
  let remainder := dropIntroducer line
  match Text.cutAt? '\x7b' remainder with
  | some (head, body) =>
      let name := blockName head
      if name = [] then .fail r (.unnamedBlock line)
      else (r.declare name placement []).andThen fun next => next.readBody body
  | none =>
      match Field.ofText? remainder with
      | none => .fail r (.noField line)
      | some field =>
          (r.declare field.name placement [field]).andThen fun next => .done (next.turn .idle)

/-- A line with an annotation. When nothing stands behind it, the next line is its declaration. -/
def openPlacement (r : Reading) (line : Text) : Step :=
  match Placement.ofLine line with
  | .error error => .fail r error
  | .ok (placement, rest) =>
      if Text.trim rest = [] then .done (r.turn (.placed line placement))
      else r.declarePlaced rest placement

def mentionsPlacement (line : Text) : Bool :=
  Text.includes "@group(" line && Text.includes "@binding(" line

/-- A line that is neither in a body nor under an annotation. Lines outside declarations are passed
over. -/
def readOpening (r : Reading) (line : Text) : Step :=
  if mentionsStruct line then r.openStruct line
  else if mentionsPlacement line then r.openPlacement line
  else
    match r.focus with
    | .header name => (r.turn (.body .struct name)).readBody (line.drop 1)
    | _ => .done r

/-- A line without line comment and outer blanks. -/
def readStatement (r : Reading) (line : Text) : Step :=
  if line = [] then .done r
  else
    match r.focus with
    | .body _ _ => r.readBody line
    | .placed _ placement => r.declarePlaced line placement
    | .header name =>
        if line.head? = some '\x7b' then r.readOpening line
        else .fail r (.structWithoutBody name (some line))
    | .idle => r.readOpening line

def readLine (r : Reading) (line : Text) : Step :=
  r.readStatement (Text.trim (SourceLines.dropLineComment line))

def readLines (r : Reading) : List Text → Step
  | [] => .done r
  | line :: rest => (r.readLine line).andThen fun next => next.readLines rest

/-- Nothing may be left open at the end. -/
def finish (r : Reading) : Step :=
  match r.focus with
  | .idle => .done r
  | .header name => .fail r (.structWithoutBody name none)
  | .body _ name => .fail r (.unclosedBody name)
  | .placed line _ => .fail r (.badPlacement line .withoutDeclaration)

def readAll (r : Reading) (lines : List Text) : Step := (r.readLines lines).andThen finish

theorem readLines_append (r : Reading) (first second : List Text) :
    r.readLines (first ++ second) =
      (r.readLines first).andThen fun next => next.readLines second := by
  induction first generalizing r with
  | nil => simp [readLines]
  | cons line rest ih => simp [readLines, ih, Step.andThen_assoc]

theorem addParts_append (r : Reading) (first second : List Text) :
    r.addParts (first ++ second) =
      (r.addParts first).andThen fun next => next.addParts second := by
  induction first generalizing r with
  | nil => simp [addParts]
  | cons part rest ih => simp [addParts, ih, Step.andThen_assoc]

end Reading
end ShaderInterface
