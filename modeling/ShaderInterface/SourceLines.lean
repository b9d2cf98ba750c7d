import ShaderInterface.Diagnostic

set_option autoImplicit false

/-!
The lines of a shader source, and the data blocks among them. Block comments are taken out first,
then each line is cut at its line comment and split at semicolons, so that statements which share a
row are lines of their own. A data block lies between a line that is the data marker and the next
line that holds the end marker.
-/
namespace ShaderInterface.SourceLines

/-- What stands behind the block comment that `text` starts with, if it starts with one. -/
def skipBlockComment? (text : Text) : Option Text :=
  (Text.dropLead? "/*" text).bind fun inside => (Text.cutAtPhrase? "*/" inside).map Prod.snd

theorem length_skipBlockComment?_lt {text behind : Text}
    (skipped : skipBlockComment? text = some behind) : behind.length < text.length := by
  obtain ⟨inside, started, rest⟩ := Option.bind_eq_some_iff.1 skipped
  obtain ⟨cut, closed, rfl⟩ := Option.map_eq_some_iff.1 rest
  have outer := congrArg List.length (Text.dropLead?_eq_some_append started)
  have inner := congrArg List.length (Text.cutAtPhrase?_eq_some_append closed)
  simp only [List.length_append] at outer inner
  have two : ("/*" : Text).length = 2 := rfl
  omega

/-- `text` without its block comments. One that is never closed is no comment. -/
def dropBlockComments : Text → Text
  | [] => []
  | c :: rest =>
      match _skipped : skipBlockComment? (c :: rest) with
      | some behind => dropBlockComments behind
      | none => c :: dropBlockComments rest
termination_by text => text.length
decreasing_by
  · exact length_skipBlockComment?_lt _skipped
  · simp

def dropLineComment (line : Text) : Text := Text.beforePhrase "//" line

def ofText (source : Text) : List Text :=
  ((dropBlockComments source).splitOn '\n').flatMap fun line => (dropLineComment line).splitOn ';'

/-- The index of the first line that holds `phrase`. -/
def find? (phrase : Text) (lines : List Text) : Option Nat := lines.findIdx? (Text.includes phrase)

/-- The index of the first line from `start` on that holds `phrase`. A negative index counts from
the end, as far back as there are lines; a search that starts there goes on with the first line
after the last. -/
def findFrom? (phrase : Text) (lines : List Text) : (start : Int) → Option Int
  | .ofNat start => (find? phrase (lines.drop start)).map fun hit => (start + hit : Nat)
  | .negSucc back =>
      (find? phrase (lines.drop (lines.length - (back + 1)) ++ lines)).map fun hit =>
        (hit : Int) - ((back : Int) + 1)

/-- An index that counts back beyond the first line. -/
structure NoSuchLine where
  index : Int

/-- The search from any index. It fails where there is no line to start with. -/
def findLine (phrase : Text) (lines : List Text) (start : Int) : Except NoSuchLine (Option Int) :=
  if start < -lines.length then .error ⟨start⟩ else .ok (findFrom? phrase lines start)

def opensData (line : Text) : Bool := Text.trim line == "#Data".toList

def closesData (line : Text) : Bool := Text.includes "#end" line

/-- The contents of the data blocks, in order, of lines that follow `above` others. -/
def dataBlocksFrom (above : Nat) : List Text → Except ShaderError (List (List Text))
  | [] => .ok []
  | line :: rest =>
      if opensData line then
        match rest.findIdx? closesData with
        | none => .error (.unclosedBlock (above + 1))
        | some size =>
            match (rest.take size).findIdx? opensData with
            | some inner => .error (.nestedBlock (above + inner + 2))
            | none =>
                (dataBlocksFrom (above + size + 2) (rest.drop (size + 1))).map fun blocks =>
                  rest.take size :: blocks
      else dataBlocksFrom (above + 1) rest
termination_by lines => lines.length
decreasing_by
  · simp only [List.length_drop, List.length_cons]
    omega
  · simp

/-- The contents of the data blocks. Each one has an end, and none is opened inside another. -/
def dataBlocks (lines : List Text) : Except ShaderError (List (List Text)) := dataBlocksFrom 0 lines

end ShaderInterface.SourceLines
