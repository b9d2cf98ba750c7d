import ShaderInterface.Files.Path
import ShaderInterface.Text.Digit

set_option autoImplicit false

namespace ShaderInterface.Command

/-- Where shaders are looked for: in the project's own directory, at a path, or nowhere. -/
inductive ShaderPlace where
  | ofProject
  | at (path : Path)
  | nowhere
  deriving DecidableEq

/-- What a run is asked to do. An empty subdirectory is none. -/
structure Options where
  shaders : ShaderPlace
  subdirectory : Text
  output? : Option Path
  force : Bool
  dumpTables : Bool
  keepFieldOrder : Bool
  deriving DecidableEq

def Options.standard : Options := ⟨.ofProject, [], none, false, false, false⟩

inductive OptionName where
  | help
  | shaders
  | subdirectory
  | output
  | force
  | dumpTables
  | keepFieldOrder
  deriving DecidableEq

namespace OptionName

def spellings : List (Text × OptionName) :=
  [("-h", help), ("--help", help), ("--shaders-dir", shaders), ("--subdir", subdirectory),
   ("--output", output), ("--force", force), ("--dump-tables", dumpTables),
   ("--preserve-field-order", keepFieldOrder)]

/-- The option with exactly this spelling. -/
def ofText? (text : Text) : Option OptionName :=
  (spellings.find? fun spelling => spelling.1 == text).map Prod.snd

/-- The options whose spelling starts with `lead`. -/
def startingWith (lead : Text) : List OptionName :=
  (spellings.filter fun spelling => lead.isPrefixOf spelling.1).map Prod.snd

def takesValue : OptionName → Bool
  | shaders | subdirectory | output => true
  | _ => false

def assign (value : Text) (options : Options) : OptionName → Options
  | shaders => { options with shaders := .at (Path.ofText value) }
  | subdirectory => { options with subdirectory := value }
  | output => { options with output? := some (Path.ofText value) }
  | _ => options

/-- The options with a value taken away. The header then goes where it goes by itself, but the
project's own shaders do not take the place of those taken away. -/
def withdraw (options : Options) : OptionName → Options
  | shaders => { options with shaders := .nowhere }
  | subdirectory => { options with subdirectory := [] }
  | output => { options with output? := none }
  | _ => options

/-- The options with the value of an option taken in. -/
def give (value : Text) (options : Options) (name : OptionName) : Options :=
  if value = ['-', '-'] then name.withdraw options else name.assign value options

def raise (options : Options) : OptionName → Options
  | force => { options with force := true }
  | dumpTables => { options with dumpTables := true }
  | keepFieldOrder => { options with keepFieldOrder := true }
  | _ => options

end OptionName

inductive Refusal where
  | helpAsked
  | misused
  deriving DecidableEq

def Refusal.status : Refusal → Nat
  | helpAsked => 0
  | misused => 2

inductive Argument where
  | operand (text : Text)
  | option (name : OptionName) (value? : Option Text)
  | helpCluster (letters : Text)
  | unknown
  deriving DecidableEq

namespace Argument

/-- Whether the text is a negative decimal number, with or without a point. -/
def isNegativeNumber (text : Text) : Bool :=
  let isDecimal (c : Char) : Bool := (Text.digitValue? c).isSome
  match (Text.dropEnd? "\n" text).getD text with
  | '-' :: number =>
      match Text.cutAt? '.' number with
      | none => !number.isEmpty && number.all isDecimal
      | some (whole, part) => whole.all isDecimal && !part.isEmpty && part.all isDecimal
  | _ => false

/-- An argument with a dash that is no option. -/
def ofStray (text : Text) : Argument :=
  if isNegativeNumber text || text.contains ' ' then .operand text else .unknown

/-- An argument that starts with two dashes and is no full spelling. -/
def ofLong (text : Text) : Except Refusal Argument :=
  let (lead, value?) := match Text.cutAt? '=' text with
    | some (lead, value) => (lead, some value)
    | none => (text, none)
  match OptionName.startingWith lead with
  | [] => .ok (ofStray text)
  | [name] => .ok (.option name value?)
  | _ => .error .misused

def ofText (text : Text) : Except Refusal Argument :=
  match text with
  | '-' :: second :: rest =>
      match OptionName.ofText? text with
      | some name => .ok (.option name none)
      | none =>
          if second = '-' then
            match (Text.cutAt? '=' text).bind fun cut =>
                (OptionName.ofText? cut.1).map fun name => (name, cut.2) with
            | some (name, value) => .ok (.option name (some value))
            | none => ofLong text
          else if second = 'h' then .ok (.helpCluster rest)
          else .ok (ofStray text)
  | _ => .ok (.operand text)

/-- The arguments by their texts. Behind two dashes alone, which belong to no option, everything is
an operand. -/
def ofTexts : List Text → Except Refusal (List Argument)
  | [] => .ok []
  | text :: rest =>
      if text = ['-', '-'] then .ok (.unknown :: rest.map .operand)
      else do
        let first ← ofText text
        return first :: (← ofTexts rest)

/-- What becomes of help asked for with text right behind the letter. An equals sign first is passed
over; what follows may only ask for help again. -/
def refuseCluster (letters : Text) : Refusal :=
  let again := match letters with
    | '=' :: value => value
    | letters => letters
  if again ≠ [] ∧ again.all (· == 'h') then .helpAsked else .misused

/-- Takes in arguments from left to right. `spare` tells whether one was of no use. -/
def collect (options : Options) (spare : Bool) : List Argument → Except Refusal Options
  | [] => if spare then .error .misused else .ok options
  | .operand _ :: rest => collect options true rest
  | .unknown :: rest => collect options true rest
  | .helpCluster letters :: _ => .error (refuseCluster letters)
  | .option name (some value) :: rest =>
      if name.takesValue then collect (name.give value options) spare rest else .error .misused
  | .option name none :: rest =>
      if name = .help then .error .helpAsked
      else if name.takesValue then
        match rest with
        | .operand value :: rest => collect (name.give value options) spare rest
        | _ => .error .misused
      else collect (name.raise options) spare rest

end Argument

def Options.ofArguments (arguments : List Text) : Except Refusal Options :=
  (Argument.ofTexts arguments).bind (Argument.collect .standard false)

end ShaderInterface.Command
