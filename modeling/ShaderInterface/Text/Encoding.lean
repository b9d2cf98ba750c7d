import ShaderInterface.Text.Basic

set_option autoImplicit false

namespace ShaderInterface.Text

/-- Carriage returns, alone or before a newline, become newlines. -/
def unifyLineEnds : Text → Text
  | [] => []
  | '\r' :: '\n' :: rest => '\n' :: unifyLineEnds rest
  | c :: rest => (if c = '\r' then '\n' else c) :: unifyLineEnds rest

/-- The text of a file. Bytes that are not UTF-8 have none. -/
def ofBytes? (bytes : ByteArray) : Option Text :=
  (String.fromUTF8? bytes).map fun content => unifyLineEnds content.toList

def toBytes (text : Text) : ByteArray := (String.ofList text).toUTF8

theorem not_mem_unifyLineEnds (text : Text) : '\r' ∉ unifyLineEnds text := by
  fun_induction unifyLineEnds text with
  | case1 => simp
  | case2 rest ih => simpa using ih
  | case3 c rest _ ih =>
    intro kept
    rcases List.mem_cons.1 kept with first | later
    · split at first
      · simp at first
      · next other => exact other first.symm
    · exact ih later

theorem fromUTF8?_toUTF8 (content : String) :
    String.fromUTF8? content.toUTF8 = some content := by
  simp only [String.fromUTF8?, String.toUTF8_eq_toByteArray, dif_pos content.isValidUTF8]
  rfl

theorem ofBytes?_toBytes (text : Text) : ofBytes? (toBytes text) = some (unifyLineEnds text) := by
  simp only [ofBytes?, toBytes, fromUTF8?_toUTF8, Option.map_some, String.toList_ofList]

theorem toBytes_inj {s t : Text} : toBytes s = toBytes t ↔ s = t := by
  rw [toBytes, toBytes, String.toUTF8_eq_toByteArray, String.toUTF8_eq_toByteArray,
    String.toByteArray_inj, String.ofList_inj]

end ShaderInterface.Text
