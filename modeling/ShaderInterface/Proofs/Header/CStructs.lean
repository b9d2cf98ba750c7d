import ShaderInterface.Header
import ShaderInterface.Proofs.Fallible
import ShaderInterface.Proofs.Text.Names

set_option autoImplicit false

namespace ShaderInterface

/-- A C struct: its name, and the names of its members in order. -/
structure CStruct where
  name : Text
  members : List Text
  deriving DecidableEq

namespace Text

def ofRows (rows : List Text) : Text := rows.flatMap (· ++ ['\n'])

variable {rows more : List Text} {text row : Text}

theorem ofRows_append : ofRows (rows ++ more) = ofRows rows ++ ofRows more := List.flatMap_append

theorem splitOn_ofRows (whole : ∀ row ∈ rows, '\n' ∉ row) :
    (ofRows rows).splitOn '\n' = rows ++ [[]] := by
  induction rows with
  | nil => rfl
  | cons row rest ih =>
    obtain ⟨here, others⟩ := List.forall_mem_cons.1 whole
    rw [ofRows, List.flatMap_cons, List.append_assoc, List.singleton_append,
      List.splitOn_append_cons_self, List.splitOn_eq_singleton here]
    exact congrArg (row :: ·) (ih others)

theorem noNewline_decimal (n : Int) : '\n' ∉ decimal n :=
  fun member => absurd (minus_or_isDigit_of_mem_decimal member) (by decide)

/-- The last word of a text that ends with a word behind a blank. -/
theorem getLast?_words (left : Text) (solid : row.IsSolid) :
    (words (left ++ ' ' :: row)).getLast? = some row := by
  have blank : isBlank ' ' = true := by decide
  have last : words row = [row] := words_of_solid solid.solid solid.present
  rw [words, List.splitOnP_append_cons _ _ blank, List.filter_append, ← words, ← words, last,
    List.getLast?_concat]

end Text

namespace CStruct

/-- The name of the struct that a row opens. -/
def opened? (row : Text) : Option Text :=
  (Text.dropLead? "struct " row).bind (Text.dropEnd? " \x7b")

/-- The name of the member that a row declares, which is the last word before its semicolon. -/
def member? (row : Text) : Option Text :=
  (Text.dropEnd? ";" row).bind fun declared => (Text.words declared).getLast?

/-- The structs in rows, each with the members up to the row that closes it. -/
def ofRows : List Text → List CStruct
  | [] => []
  | row :: rest =>
      match opened? row with
      | none => ofRows rest
      | some name =>
          ⟨name, (rest.takeWhile (· != "\x7d;".toList)).filterMap member?⟩ :: ofRows rest

def ofText (text : Text) : List CStruct := ofRows (text.splitOn '\n')

/-- The text is rows that declare the structs, whatever rows follow. -/
def Declares (text : Text) (structs : List CStruct) : Prop :=
  ∃ rows, text = Text.ofRows rows ∧ (∀ row ∈ rows, '\n' ∉ row) ∧
    ∀ rest, ofRows (rows ++ rest) = structs ++ ofRows rest

variable {text row name : Text} {rows : List Text} {structs more : List CStruct}

theorem Declares.ofText (declares : Declares text structs) : ofText text = structs := by
  obtain ⟨rows, rfl, whole, read⟩ := declares
  rw [CStruct.ofText, Text.splitOn_ofRows whole, read]
  exact List.append_nil _

theorem Declares.nil : Declares [] [] := ⟨[], rfl, nofun, fun _ => rfl⟩

theorem Declares.append {other : Text} (first : Declares text structs)
    (second : Declares other more) : Declares (text ++ other) (structs ++ more) := by
  obtain ⟨rows, rfl, whole, read⟩ := first
  obtain ⟨others, rfl, wholeOthers, readOthers⟩ := second
  refine ⟨rows ++ others, Text.ofRows_append.symm, ?_, fun rest => ?_⟩
  · exact List.forall_mem_append.2 ⟨whole, wholeOthers⟩
  · rw [List.append_assoc, read, readOthers, List.append_assoc]

theorem Declares.nothing {texts : List Text} (each : ∀ text ∈ texts, Declares text []) :
    Declares texts.flatten [] := by
  induction texts with
  | nil => exact .nil
  | cons first rest ih =>
    obtain ⟨here, later⟩ := List.forall_mem_cons.1 each
    exact here.append (ih later)

theorem ofRows_cons_of_closed (closed : opened? row = none) (rest : List Text) :
    ofRows (row :: rest) = ofRows rest := by
  simp only [ofRows, closed]

theorem ofRows_append_of_closed (closed : ∀ row ∈ rows, opened? row = none) (rest : List Text) :
    ofRows (rows ++ rest) = ofRows rest := by
  induction rows with
  | nil => rfl
  | cons row others ih =>
    obtain ⟨here, there⟩ := List.forall_mem_cons.1 closed
    rw [List.cons_append, ofRows_cons_of_closed here, ih there]

/-- A row that opens no struct declares none. -/
theorem declares_row (whole : '\n' ∉ row) (closed : opened? row = none) :
    Declares (row ++ ['\n']) [] :=
  ⟨[row], (List.append_nil _).symm, by simpa using whole, ofRows_cons_of_closed closed⟩

theorem declares_line {left : Text} (tail : Text) (whole : '\n' ∉ left) (ends : '\n' ∉ tail)
    (closed : opened? (left ++ tail) = none) : Declares (left ++ (tail ++ ['\n'])) [] := by
  rw [← List.append_assoc]
  exact declares_row (by simp [whole, ends]) closed

theorem opened?_struct (name : Text) : opened? ("struct " ++ name ++ " \x7b") = some name := by
  rw [opened?, List.append_assoc, Text.dropLead?_append, Option.bind_some, Text.dropEnd?_append]

theorem member?_row (left : Text) (solid : Text.IsSolid name) :
    member? (left ++ " " ++ name ++ ";") = some name := by
  rw [member?, Text.dropEnd?_append, Option.bind_some, List.append_assoc]
  exact Text.getLast?_words left solid

/-- The text is rows that declare the members, and none that opens or closes a struct. -/
def DeclaresMembers (text : Text) (members : List Text) : Prop :=
  ∃ rows, text = Text.ofRows rows ∧
    (∀ row ∈ rows, '\n' ∉ row ∧ opened? row = none ∧ row ≠ "\x7d;".toList) ∧
    rows.filterMap member? = members

theorem DeclaresMembers.nil : DeclaresMembers [] [] := ⟨[], rfl, nofun, rfl⟩

theorem DeclaresMembers.append {other : Text} {names others : List Text}
    (first : DeclaresMembers text names) (second : DeclaresMembers other others) :
    DeclaresMembers (text ++ other) (names ++ others) := by
  obtain ⟨rows, rfl, plain, rfl⟩ := first
  obtain ⟨more, rfl, plainMore, rfl⟩ := second
  exact ⟨rows ++ more, Text.ofRows_append.symm, List.forall_mem_append.2 ⟨plain, plainMore⟩,
    List.filterMap_append⟩

/-- Members between the row that opens a struct and the one that closes it. -/
theorem DeclaresMembers.enclose {members : List Text} (inside : DeclaresMembers text members)
    (whole : '\n' ∉ name) :
    Declares ("struct " ++ name ++ " \x7b\n" ++ text ++ "\x7d;\n\n") [⟨name, members⟩] := by
  obtain ⟨rows, rfl, plain, rfl⟩ := inside
  refine ⟨("struct " ++ name ++ " \x7b") :: rows ++ ["\x7d;".toList, []], ?_, ?_, fun rest => ?_⟩
  · simp [Text.ofRows]
  · simp only [List.forall_mem_append, List.forall_mem_cons]
    refine ⟨⟨?_, fun row member => (plain row member).1⟩, by decide, by decide, nofun⟩
    simp only [List.mem_append, not_or]
    exact ⟨⟨by decide, whole⟩, by decide⟩
  · have body : (rows ++ (["\x7d;".toList, []] ++ rest)).takeWhile (· != "\x7d;".toList) =
        rows := by
      rw [List.takeWhile_append_of_pos fun row member => by simpa using (plain row member).2.2]
      simp
    have onward : ofRows (rows ++ (["\x7d;".toList, []] ++ rest)) = ofRows rest := by
      rw [ofRows_append_of_closed fun row member => (plain row member).2.1]
      exact ofRows_append_of_closed (by decide) rest
    rw [List.cons_append, List.cons_append, ofRows, opened?_struct, List.append_assoc]
    simp only [body, onward, List.singleton_append]

end CStruct
end ShaderInterface
