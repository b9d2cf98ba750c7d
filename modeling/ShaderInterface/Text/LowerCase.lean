import ShaderInterface.Text.Word

set_option autoImplicit false

/-!
Lower case as far as ASCII words can tell. Besides A to Z, only the dotted capital I and the Kelvin
sign have a lower case with an ASCII letter; every other lower case is a character beyond ASCII that
is a word character exactly when the character itself is, so it is left as it is.
-/
namespace ShaderInterface.Text

/-- The lower case of a character. That of the dotted capital I is an i with a combining dot, which
is no word character. -/
def lowerChar (c : Char) : Text :=
  if c = '\u0130' then ['i', '\u0307']
  else if c = '\u212a' then ['k']
  else [c.toLower]

/-- Lower case, character by character. -/
def lower (text : Text) : Text := text.flatMap lowerChar

/-- The maximal runs of word characters, in lower case. -/
def lowerWords (text : Text) : List Text :=
  ((lower text).splitOnP fun c => !isWord c).filter fun word => !word.isEmpty

end ShaderInterface.Text
