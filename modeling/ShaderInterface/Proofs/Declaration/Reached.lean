import ShaderInterface.Proofs.Declaration.Soundness

set_option autoImplicit false

namespace ShaderInterface

def Focus.insideBody : Focus → Bool
  | body _ _ => true
  | _ => false

/-- What can be asked of a reading from outside. -/
inductive Call where
  | readLine (line : Text)
  | readAll (lines : List Text)
  | openStruct (line : Text)
  | openPlacement (line : Text)
  | readBody (text : Text)
  | declarePlaced (line : Text) (placement : Placement)

def Call.step (r : Reading) : Call → Step
  | readLine line => r.readLine line
  | readAll lines => r.readAll lines
  | openStruct line => r.openStruct line
  | openPlacement line => r.openPlacement line
  | readBody text => r.readBody text
  | declarePlaced line placement => r.declarePlaced line placement

namespace Reading

/-- The reading that calls on a new one leave, the failed ones included. -/
def after (calls : List Call) : Reading :=
  calls.foldl (fun r call => (call.step r).reading) .start

theorem Sound.call {r : Reading} (sound : r.Sound) (call : Call) :
    (call.step r).reading.Sound := by
  cases call with
  | readLine line => exact (sound.step (asks_readLine line)).1
  | readAll lines =>
    rw [Call.step, readAll_reading]
    exact sound.readLines lines
  | openStruct line => exact (sound.step (asks_openStruct line)).1
  | openPlacement line => exact (sound.step (asks_openPlacement line)).1
  | readBody text => exact sound.readBody text
  | declarePlaced line placement => exact (sound.step (asks_declarePlaced line placement)).1

theorem sound_after (calls : List Call) : (after calls).Sound := by
  unfold after
  generalize reached : Reading.start = r
  have sound : r.Sound := reached ▸ Sound.start
  clear reached
  induction calls generalizing r with
  | nil => exact sound
  | cons call rest ih => exact ih _ (sound.call call)

/-- The reading that lines leave, the failed ones included. -/
def afterLines (lines : List Text) : Reading :=
  lines.foldl (fun r line => (r.readLine line).reading) .start

theorem afterLines_eq (lines : List Text) : afterLines lines = after (lines.map .readLine) := by
  rw [after, List.foldl_map]
  rfl

theorem sound_afterLines (lines : List Text) : (afterLines lines).Sound := by
  rw [afterLines_eq]
  exact sound_after _

theorem afterLines_concat (lines : List Text) (line : Text) :
    afterLines (lines ++ [line]) = ((afterLines lines).readLine line).reading := by
  rw [afterLines, List.foldl_append]
  rfl

/-- A line that fails changes nothing and warns of nothing, whatever lines came before it. -/
theorem readLine_failed_unchanged (lines : List Text) (line : Text) {error : ShaderError}
    (failed : ((afterLines lines).readLine line).error? = some error) :
    ((afterLines lines).readLine line).reading = afterLines lines ∧
      ((afterLines lines).readLine line).notices = [] := by
  have sound : (afterLines lines).Sound := by
    rw [afterLines_eq]
    exact sound_after _
  rcases (sound.step (asks_readLine line)).2 with silent | ⟨other, refused, -⟩
  · rw [silent] at failed
    cases failed
  · rw [refused]
    exact ⟨rfl, rfl⟩

/-- An annotation that still waits for its declaration, because the line behind it failed. -/
def strandedLines : List Text :=
  ["struct Ray \x7b origin: vec3<f32> \x7d", "@group(1) @binding(2)", "var<uniform>"].map
    String.toList

theorem readLine_stranded_unchanged :
    let line : Text := "uniform : \x7b x: f32 \x7d"
    ((afterLines strandedLines).readLine line).error? = some (.unnamedBlock line) ∧
      ((afterLines strandedLines).readLine line).reading = afterLines strandedLines ∧
      ((afterLines strandedLines).readLine line).notices = [] ∧
      (afterLines strandedLines).focus = .placed "@group(1) @binding(2)" ⟨1, 2, none⟩ := by
  intro line
  have failed : ((afterLines strandedLines).readLine line).error? = some (.unnamedBlock line) := by
    decide +kernel
  obtain ⟨unchanged, silent⟩ := readLine_failed_unchanged strandedLines line failed
  exact ⟨failed, unchanged, silent, by decide +kernel⟩

end Reading

end ShaderInterface
