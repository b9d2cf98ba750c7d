import ShaderInterface.Proofs.Source.Comments
import ShaderInterface.Proofs.Source.Spans

set_option autoImplicit false

namespace ShaderInterface.SourceLines

/-- Neither source of a pair takes part in what is read from the other. -/
theorem ofText_pair {vertex fragment : Text} {vertexBlocks fragmentBlocks : List (List Text)}
    {vertexSignature fragmentSignature : Signature}
    (closed : Text.includes "/*" (dropBlockComments vertex) = false)
    (vertexData : dataBlocks (ofText vertex) = .ok vertexBlocks)
    (fragmentData : dataBlocks (ofText fragment) = .ok fragmentBlocks)
    (unmarked : ∀ line ∈ ofText vertex, Text.includes Stage.fragment.entry line = false)
    (vertexSigned : Signature.ofLines Stage.vertex.entry (ofText vertex) = .ok vertexSignature)
    (fragmentSigned :
      Signature.ofLines Stage.fragment.entry (ofText fragment) = .ok fragmentSignature) :
    let joined := ofText (vertex ++ '\n' :: fragment)
    joined = ofText vertex ++ ofText fragment ∧
      dataBlocks joined = .ok (vertexBlocks ++ fragmentBlocks) ∧
      Signature.ofLines Stage.vertex.entry joined = .ok vertexSignature ∧
      Signature.ofLines Stage.fragment.entry joined = .ok fragmentSignature := by
  intro joined
  have lines : joined = ofText vertex ++ ofText fragment := ofText_append_newline closed fragment
  refine ⟨lines, ?_, ?_, ?_⟩
  · have first : HasBlocks (ofText vertex) vertexBlocks := dataBlocks_eq_ok_iff.1 vertexData
    have second : HasBlocks (ofText fragment) fragmentBlocks := dataBlocks_eq_ok_iff.1 fragmentData
    rw [lines]
    exact dataBlocks_eq_ok_iff.2 (first.append second)
  · rw [lines]
    exact Signature.ofLines_append vertexSigned (ofText fragment)
  · rw [lines, Signature.ofLines_append_of_absent unmarked]
    exact fragmentSigned

/-- A vertex source that names the other entry point in a comment only. -/
def pairedVertex : Text :=
  ['\n'].intercalate (["#Data /* fn fs_main */", "struct L \x7b e: f32 \x7d", "#end",
    "fn vs_main(p: vec2) -> L \x7b"].map String.toList)

/-- A fragment source with the end of a comment that does not start. -/
def pairedFragment : Text :=
  ['\n'].intercalate (["e */ // lines", "#Data", "e: L", "#end",
    "fn fs_main(e: f32) \x7b fn vs_main"].map String.toList)

theorem ofText_pair_lamp :
    let joined := ofText (pairedVertex ++ '\n' :: pairedFragment)
    Text.includes "/*" (dropBlockComments pairedVertex) = false ∧
      (∀ line ∈ ofText pairedVertex, Text.includes Stage.fragment.entry line = false) ∧
      joined = ofText pairedVertex ++ ofText pairedFragment ∧
      dataBlocks joined = .ok ([["struct L \x7b e: f32 \x7d".toList]] ++ [["e: L".toList]]) ∧
      Signature.ofLines Stage.vertex.entry joined = .ok ⟨["p:vec2"], "L"⟩ ∧
      Signature.ofLines Stage.fragment.entry joined = .ok ⟨["e:f32"], []⟩ := by
  have read : Text.includes "/*" (dropBlockComments pairedVertex) = false ∧
      (∀ line ∈ ofText pairedVertex, Text.includes Stage.fragment.entry line = false) ∧
      (dataBlocks (ofText pairedVertex)).toOption = some [["struct L \x7b e: f32 \x7d".toList]] ∧
      (dataBlocks (ofText pairedFragment)).toOption = some [["e: L".toList]] ∧
      (Signature.ofLines Stage.vertex.entry (ofText pairedVertex)).toOption =
        some ⟨["p:vec2"], "L"⟩ ∧
      (Signature.ofLines Stage.fragment.entry (ofText pairedFragment)).toOption =
        some ⟨["e:f32"], []⟩ := by decide +kernel
  obtain ⟨closed, unmarked, vertexData, fragmentData, vertexSigned, fragmentSigned⟩ := read
  exact ⟨closed, unmarked, ofText_pair closed (Fallible.eq_ok_of_toOption vertexData)
    (Fallible.eq_ok_of_toOption fragmentData) unmarked (Fallible.eq_ok_of_toOption vertexSigned)
    (Fallible.eq_ok_of_toOption fragmentSigned)⟩

end ShaderInterface.SourceLines
