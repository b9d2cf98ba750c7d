import ShaderInterface.Proofs.Declaration.Reached
import ShaderInterface.Proofs.Declaration.Simulation

set_option autoImplicit false

namespace ShaderInterface

namespace Scanner

/-- How the parts of the state belong together and to the tables. -/
structure Consistent (s : Scanner) : Prop where
  nothing : s.state.target = .nothing → s.state = .initial
  struct : s.state.target = .struct →
    ∃ name, s.state.name? = some name ∧ name ∈ s.declared.structs
  uniform : s.state.target = .uniform →
    s.state.insideBody = true ∧ ∃ name, s.state.name? = some name ∧ name ∈ s.declared.uniforms
  pushConstant : s.state.target = .pushConstant →
    s.state.insideBody = true ∧ ∃ stage name, s.state.stage? = some stage ∧
      s.state.name? = some name ∧ name ∈ s.declared.pushConstants stage
  binding : s.state.target = .binding →
    s.state.insideBody = false ∧ ∃ placement, s.state.placement? = some placement
  uniforms : ∀ name block, s.declared.uniforms.find? name = some block → block.name = name
  pushConstants : ∀ stage name constant,
    (s.declared.pushConstants stage).find? name = some constant →
      constant.name = name ∧ constant.stage = stage

/-- The end of the input lets nothing pass that is open. -/
theorem Consistent.initial_of_finish {s : Scanner} (consistent : s.Consistent)
    (passed : (finish.run s).1 = .ok ()) : s.state = .initial ∧ (finish.run s).2 = s := by
  rw [finish, run_get_bind] at passed ⊢
  cases inside : s.state.insideBody with
  | true =>
    simp only [inside, if_true] at passed
    cases passed
  | false =>
    cases on : s.state.target with
    | nothing =>
      simp only [inside, on]
      exact ⟨consistent.nothing on, rfl⟩
    | struct =>
      simp only [inside, on] at passed
      cases passed
    | uniform => cases inside.symm.trans (consistent.uniform on).1
    | pushConstant => cases inside.symm.trans (consistent.pushConstant on).1
    | binding =>
      simp only [inside, on] at passed
      cases named : s.state.name? <;> simp only [named] at passed <;> cases passed

end Scanner

theorem Reading.Sound.consistent {r : Reading} (sound : r.Sound) (shown : List Notice) :
    (r.scanner shown).Consistent := by
  obtain ⟨d, focus⟩ := r
  have uniforms : ∀ name block, d.uniforms.find? name = some block → block.name = name := by
    intro name block found
    exact (sound.named .uniform name (.uniform block) (congrArg (Option.map _) found)).2
  have constants : ∀ stage name constant, (d.pushConstants stage).find? name = some constant →
      constant.name = name ∧ constant.stage = stage := by
    intro stage name constant found
    obtain ⟨kind, own⟩ := sound.named (.pushConstant stage) name (.pushConstant constant)
      (congrArg (Option.map _) found)
    exact ⟨own, DeclarationKind.pushConstant.inj kind⟩
  cases focus with
  | idle => exact ⟨fun _ => rfl, nofun, nofun, nofun, nofun, uniforms, constants⟩
  | header name =>
    refine ⟨nofun, fun _ => ⟨name, rfl, ?_⟩, nofun, nofun, nofun, uniforms, constants⟩
    exact sound.owned .struct name rfl
  | placed line placement =>
    exact ⟨nofun, nofun, nofun, nofun, fun _ => ⟨rfl, placement, rfl⟩, uniforms, constants⟩
  | body kind name =>
    have present := sound.owned kind name rfl
    cases kind with
    | struct =>
      exact ⟨nofun, fun _ => ⟨name, rfl, present⟩, nofun, nofun, nofun, uniforms, constants⟩
    | uniform =>
      exact ⟨nofun, nofun, fun _ => ⟨rfl, name, rfl, present⟩, nofun, nofun, uniforms, constants⟩
    | pushConstant stage =>
      exact ⟨nofun, nofun, nofun, fun _ => ⟨rfl, stage, name, rfl, rfl, present⟩, nofun, uniforms,
        constants⟩

/-- What a scanner does on a call. -/
def Call.act : Call → Scan Unit
  | readLine line => Scanner.scanLine line
  | readAll lines => Scanner.scan lines
  | openStruct line => Scanner.openStruct line
  | openPlacement line => Scanner.openBinding line
  | readBody text => Scanner.consumeBody text
  | declarePlaced line placement => Scanner.declareBinding line placement

namespace Scanner

theorem call_simulates (r : Reading) (call : Call) : Simulates call.act r (call.step r) := by
  cases call with
  | readLine line => exact scanLine_simulates r line
  | readAll lines => exact scan_simulates r lines
  | openStruct line => exact openStruct_simulates r line
  | openPlacement line => exact openBinding_simulates r line
  | readBody text => exact consumeBody_simulates r text
  | declarePlaced line placement => exact declareBinding_simulates r line placement

/-- The scanner that calls on a new one leave, the failed ones included. -/
def after (calls : List Call) : Scanner :=
  calls.foldl (fun s call => (call.act.run s).2) .start

/-- It stands where the reading does that the same calls leave. -/
theorem exists_after_eq (calls : List Call) :
    ∃ shown, after calls = (Reading.after calls).scanner shown := by
  have run (r : Reading) (shown : List Notice) : ∃ later,
      calls.foldl (fun s call => (call.act.run s).2) (r.scanner shown) =
        (calls.foldl (fun r call => (call.step r).reading) r).scanner later := by
    induction calls generalizing r shown with
    | nil => exact ⟨shown, rfl⟩
    | cons call rest ih =>
      obtain ⟨later, same⟩ := ih (call.step r).reading (shown ++ (call.step r).notices)
      refine ⟨later, ?_⟩
      rw [List.foldl_cons, call_simulates r call shown, same, List.foldl_cons]
  exact run .start []

theorem isLookup_of_scanLine {r : Reading} {shown : List Notice} {line : Text}
    {error : ShaderError} (sound : r.Sound)
    (failed : ((scanLine line).run (r.scanner shown)).1 = .error error) :
    error.isLookup = false := by
  rw [scanLine_simulates r line shown] at failed
  rcases (sound.step (Reading.asks_readLine line)).2 with silent | ⟨other, refused, fault⟩
  · simp only [Step.result, silent] at failed
    cases failed
  · simp only [Step.result, refused, Step.fail] at failed
    cases failed
    exact fault

theorem initial_of_scan {r : Reading} {shown : List Notice} {lines : List Text} (sound : r.Sound)
    (passed : ((scan lines).run (r.scanner shown)).1 = .ok ()) :
    ((scan lines).run (r.scanner shown)).2.state = .initial := by
  rw [scan, run_bind, scanLines_simulates r lines shown] at passed ⊢
  cases failed : (r.readLines lines).error? with
  | some error =>
    simp only [Step.result, failed] at passed
    cases passed
  | none =>
    simp only [Step.result, failed] at passed ⊢
    have left := (sound.readLines lines).consistent (shown ++ (r.readLines lines).notices)
    obtain ⟨closed, unchanged⟩ := left.initial_of_finish passed
    rw [unchanged, closed]

/-- After any calls the parts of the state and the tables belong together, no line misses the
declaration that gets its fields, and lines that are read to their end leave nothing open. -/
theorem consistent_after (calls : List Call) :
    (after calls).Consistent ∧
      (∀ line, let outcome := ((scanLine line).run (after calls)).1
        outcome ≠ .error .strayField ∧ (∀ name, outcome ≠ .error (.undeclared name)) ∧
          ∀ part, outcome ≠ .error (.missing part)) ∧
      ∀ lines, ((scan lines).run (after calls)).1 = .ok () →
        ((scan lines).run (after calls)).2.state = .initial := by
  obtain ⟨shown, same⟩ := exists_after_eq calls
  have sound := Reading.sound_after calls
  rw [same]
  refine ⟨sound.consistent shown, fun line => ⟨?_, ?_, ?_⟩, fun lines => initial_of_scan sound⟩
  · intro failed
    cases isLookup_of_scanLine sound failed
  · intro name failed
    cases isLookup_of_scanLine sound failed
  · intro part failed
    cases isLookup_of_scanLine sound failed

end Scanner
end ShaderInterface
