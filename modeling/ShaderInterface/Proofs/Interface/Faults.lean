import ShaderInterface.Proofs.Declaration.Simulation
import ShaderInterface.Proofs.Declaration.Steps
import ShaderInterface.Proofs.Interface.Verdict

set_option autoImplicit false

namespace ShaderInterface

open Fallible (FailsAs)

theorem SourceLines.dataBlocksFrom_failsAs (above : Nat) (lines : List Text) :
    FailsAs ShaderError.IsOrdinary (dataBlocksFrom above lines) := by
  fun_induction dataBlocksFrom above lines with
  | case1 => exact .ok _
  | case2 => exact .error (.inl rfl)
  | case3 => exact .error (.inl rfl)
  | case4 _ _ _ _ _ _ _ ih => exact ih.map
  | case5 _ _ _ _ ih => exact ih

namespace Signature

variable {marker interface returnText parameter text : Text} {lines parameters : List Text}

theorem passage_failsAs : FailsAs ShaderError.IsOrdinary (passage marker lines) := by
  rw [passage]
  split
  · exact .error (.inl rfl)
  · split
    · exact .error (.inl rfl)
    · exact .ok _

theorem ofPassage_failsAs : FailsAs ShaderError.IsOrdinary (ofPassage marker text) := by
  rw [ofPassage]
  split
  · exact .error (.inl rfl)
  · split
    · exact .error (.inl rfl)
    · split
      · exact .error (.inl rfl)
      · split
        · exact .error (.inl rfl)
        · exact .ok _

theorem input_failsAs : FailsAs ShaderError.IsOrdinary (input interface parameter) := by
  rw [input]
  split
  · exact .error (.inl rfl)
  · split
    · exact .error (.inl rfl)
    · exact .ok _

theorem inputs_failsAs : FailsAs ShaderError.IsOrdinary (inputs interface parameters) :=
  .mapM fun _ => input_failsAs

end Signature

namespace Interface

variable {settings : Settings} {sourceName source : Text} {lines : List Text}

theorem ofBlocks_failsAs (blocks : List (List Text)) :
    FailsAs ShaderError.IsOrdinary (Declarations.ofBlocks blocks).result := by
  rw [Declarations.ofBlocks_eq]
  cases failed : (Reading.start.readAll blocks.flatten).error? with
  | some error =>
    simp only [Step.result, failed]
    exact .error (Reading.readAll_error failed)
  | none =>
    simp only [Step.result, failed]
    exact .ok _

theorem withInputs_failsAs (declared : Declarations) :
    FailsAs ShaderError.IsOrdinary (withInputs declared lines) := by
  refine .bind (.bind Signature.passage_failsAs fun _ => Signature.ofPassage_failsAs) fun _ => ?_
  refine .bind (.bind Signature.passage_failsAs fun _ => Signature.ofPassage_failsAs) fun _ => ?_
  refine .bind Signature.inputs_failsAs fun _ => .bind ?_ fun _ => .ok _
  exact Signature.inputs_failsAs.map

theorem resolve_failsAs (i : Interface) : FailsAs ShaderError.IsOrdinary (i.resolve settings) := by
  intro error failed
  cases checked : i.check settings.primitives with
  | error reason =>
    rw [resolve_of_check_error checked] at failed
    cases failed
    obtain ⟨_, _, _, _, _, _, rfl⟩ := check_eq_error_iff.1 checked
    exact .inl rfl
  | ok =>
    rw [resolve_of_check_ok checked, Fallible.map_eq_error_iff] at failed
    obtain ⟨cycle, rfl, -⟩ := StructTable.flatten_error failed
    exact .inl rfl

/-- A source that has no interface fails with an error that is reported, or with that of a number
that cannot be read. -/
theorem ofSource_failsAs :
    FailsAs ShaderError.IsOrdinary (ofSource settings sourceName source).result := by
  refine .bind ?_ resolve_failsAs
  rw [ofLines]
  split
  · next failed => exact .error (SourceLines.dataBlocksFrom_failsAs _ _ _ failed)
  · exact .bind (ofBlocks_failsAs _) withInputs_failsAs

end Interface
end ShaderInterface
