import ShaderInterface.Command.Run
import ShaderInterface.Proofs.Fallible
import ShaderInterface.Proofs.Files.Paths

set_option autoImplicit false

namespace ShaderInterface.Command

namespace Options

structure IsWritten (options : Options) : Prop where
  shaders : ∀ path, options.shaders = .at path → path.IsWritten
  output : ∀ path, options.output? = some path → path.IsWritten

theorem IsWritten.standard : standard.IsWritten := ⟨nofun, nofun⟩

variable {options : Options}

theorem IsWritten.give (written : options.IsWritten) (value : Text) (name : OptionName) :
    (name.give value options).IsWritten := by
  rw [OptionName.give]
  split
  · cases name with
    | shaders => exact ⟨nofun, written.output⟩
    | output => exact ⟨written.shaders, nofun⟩
    | help | subdirectory | force | dumpTables | keepFieldOrder => exact ⟨written.1, written.2⟩
  · cases name with
    | shaders =>
      refine ⟨?_, written.output⟩
      rintro _ ⟨⟩
      exact Path.ofText_isWritten value
    | output =>
      refine ⟨written.shaders, ?_⟩
      rintro _ ⟨⟩
      exact Path.ofText_isWritten value
    | help | subdirectory | force | dumpTables | keepFieldOrder => exact ⟨written.1, written.2⟩

theorem IsWritten.raise (written : options.IsWritten) (name : OptionName) :
    (name.raise options).IsWritten := by
  cases name <;> exact ⟨written.shaders, written.output⟩

theorem IsWritten.directory (written : options.IsWritten) {root shaders : Path}
    (rooted : root.IsWritten) (placed : options.shaders? root = some shaders) :
    (options.directory shaders).IsWritten := by
  have top : shaders.IsWritten := by
    rw [shaders?] at placed
    cases place : options.shaders with
    | ofProject =>
      rw [place] at placed
      cases placed
      exact rooted.child "shaders"
    | «at» path =>
      rw [place] at placed
      cases placed
      exact written.shaders _ place
    | nowhere =>
      rw [place] at placed
      cases placed
  rw [Options.directory]
  split
  · exact top
  · exact top.child _

theorem IsWritten.header (written : options.IsWritten) {root : Path} (rooted : root.IsWritten) :
    (options.header root).IsWritten := by
  rw [Options.header]
  cases output : options.output? with
  | none => exact (rooted.child "gen").child _
  | some path => exact written.output path output

end Options

namespace Argument

variable {options final : Options} {spare : Bool} {arguments : List Argument} {texts : List Text}

/-- Every argument of a command line that is carried out was of use. -/
theorem not_mem_of_collect_ok (collected : collect options spare arguments = .ok final) :
    spare = false ∧ unknown ∉ arguments := by
  fun_induction collect options spare arguments with
  | case1 => cases collected
  | case2 options spare unspared => exact ⟨by simpa using unspared, List.not_mem_nil⟩
  | case3 options spare text rest ih => cases (ih collected).1
  | case4 options spare rest ih => cases (ih collected).1
  | case5 => cases collected
  | case6 options spare name value rest takes ih => simpa using ih collected
  | case7 => cases collected
  | case8 => cases collected
  | case9 options spare name other takes value rest ih => simpa using ih collected
  | case10 => cases collected
  | case11 options spare name rest other flag ih => simpa using ih collected

theorem collect_isWritten (written : options.IsWritten)
    (collected : collect options spare arguments = .ok final) : final.IsWritten := by
  fun_induction collect options spare arguments with
  | case1 => cases collected
  | case2 =>
    cases collected
    exact written
  | case3 options spare text rest ih => exact ih written collected
  | case4 options spare rest ih => exact ih written collected
  | case5 => cases collected
  | case6 options spare name value rest takes ih => exact ih (written.give value name) collected
  | case7 => cases collected
  | case8 => cases collected
  | case9 options spare name other takes value rest ih =>
    exact ih (written.give value name) collected
  | case10 => cases collected
  | case11 options spare name rest other flag ih => exact ih (written.raise name) collected

theorem collect_append_force (collected : collect options spare arguments = .ok final) :
    collect options spare (arguments ++ [.option .force none]) =
      .ok { final with force := true } := by
  fun_induction collect options spare arguments with
  | case1 => cases collected
  | case2 options spare unspared =>
    cases collected
    rw [Bool.not_eq_true] at unspared
    rw [unspared]
    rfl
  | case3 options spare text rest ih =>
    rw [List.cons_append, collect]
    exact ih collected
  | case4 options spare rest ih =>
    rw [List.cons_append, collect]
    exact ih collected
  | case5 => cases collected
  | case6 options spare name value rest takes ih =>
    rw [List.cons_append, collect, if_pos takes]
    exact ih collected
  | case7 => cases collected
  | case8 => cases collected
  | case9 options spare name other takes value rest ih =>
    rw [List.cons_append, List.cons_append, collect, if_neg other, if_pos takes]
    exact ih collected
  | case10 => cases collected
  | case11 options spare name rest other flag ih =>
    rw [List.cons_append, collect.eq_def]
    simp only [if_neg other, if_neg flag]
    exact ih collected

theorem ofTexts_append_force (read : ofTexts texts = .ok arguments)
    (useful : unknown ∉ arguments) :
    ofTexts (texts ++ [("--force" : Text)]) = .ok (arguments ++ [.option .force none]) := by
  induction texts generalizing arguments with
  | nil =>
    cases read
    rfl
  | cons text rest ih =>
    rw [ofTexts] at read
    split at read
    · cases read
      simp at useful
    · next other =>
      obtain ⟨first, here, onward⟩ := Fallible.bind_eq_ok_iff.1 read
      obtain ⟨behind, there, last⟩ := Fallible.bind_eq_ok_iff.1 onward
      cases last
      rw [List.cons_append, ofTexts, if_neg other, here,
        ih there fun member => useful (List.mem_cons_of_mem _ member)]
      rfl

end Argument

theorem Options.ofArguments_isWritten {arguments : List Text} {options : Options}
    (stated : Options.ofArguments arguments = .ok options) : options.IsWritten := by
  obtain ⟨texts, -, collected⟩ := Fallible.bind_eq_ok_iff.1 stated
  exact Argument.collect_isWritten .standard collected

/-- With `--force` behind it a command line states the same, and force. -/
theorem Options.ofArguments_append_force {arguments : List Text} {options : Options}
    (stated : Options.ofArguments arguments = .ok options) :
    Options.ofArguments (arguments ++ [("--force" : Text)]) =
      .ok { options with force := true } := by
  obtain ⟨texts, read, collected⟩ := Fallible.bind_eq_ok_iff.1 stated
  have useful := (Argument.not_mem_of_collect_ok collected).2
  rw [Options.ofArguments, Argument.ofTexts_append_force read useful]
  exact Argument.collect_append_force collected

end ShaderInterface.Command
