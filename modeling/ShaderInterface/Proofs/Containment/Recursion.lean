import ShaderInterface.Proofs.Containment.Flattening

set_option autoImplicit false

namespace ShaderInterface.StructTable

variable {structs : StructTable} {order : ChildOrder}

/-- Named, so that the walk below does not carry a proof of its own. -/
local instance : LawfulBEq Text := inferInstance

/-- The walk of `flattenFrom` as far as a depth. It has no answer where it would go deeper. -/
def flattenFromWithin (structs : StructTable) (order : ChildOrder) :
    (depth : Nat) → (path : List Text) → (name : Text) → (flat : StructTable) →
      ExceptT ShaderError Option StructTable
  | 0, _, _, _ => ExceptT.mk none
  | depth + 1, path, name, flat =>
      if name ∈ flat then pure flat
      else if name ∈ path then throw (.recursiveStruct (cycleAt path name))
      else
        match structs.find? name with
        | none => pure flat
        | some fields => do
            let flat ← (inside structs fields).foldlM (fun flat inner =>
              flattenFromWithin structs order depth (path ++ [name]) inner flat) flat
            pure (flat.insert name (Field.expandAll flat .path order fields))

/-- Flattening by walks that go no deeper than a depth. -/
def flattenWithin (structs : StructTable) (order : ChildOrder) (depth : Nat) :
    Option (Except ShaderError StructTable) :=
  ExceptT.run do
    let flat ← structs.keys.foldlM (fun flat name =>
      flattenFromWithin structs order depth [] name flat) ∅
    pure (structs.map fun name _ => (flat.find? name).getD [])

/-- Steps that always answer give a run that answers. -/
theorem foldlM_answered {σ α ε : Type} (step : σ → α → Except ε σ) (items : List α) (start : σ) :
    items.foldlM (fun before item => (ExceptT.mk (some (step before item)) : ExceptT ε Option σ))
      start = ExceptT.mk (some (items.foldlM step start)) := by
  induction items generalizing start with
  | nil => rfl
  | cons item rest ih =>
    rw [List.foldlM_cons, List.foldlM_cons]
    cases first : step start item with
    | error reason => rfl
    | ok middle => exact ih middle

/-- A walk answers at every depth beyond the number of structs that are not on its path. -/
theorem flattenFromWithin_eq {path : List Text} {name : Text} {flat : StructTable} {depth : Nat}
    (deep : (offPath structs path).length < depth) :
    flattenFromWithin structs order depth path name flat =
      ExceptT.mk (some (flattenFrom structs order path name flat)) := by
  induction depth generalizing path name flat with
  | zero => omega
  | succ depth ih =>
    rw [flattenFromWithin]
    split
    · next finished => rw [flattenFrom_of_finished finished]; rfl
    · next unfinished =>
      split
      · next onPath => rw [flattenFrom_of_onPath unfinished onPath]; rfl
      · next fresh =>
        split
        · next undeclared => rw [flattenFrom_of_undeclared unfinished fresh undeclared]; rfl
        · next fields declared =>
          have known : (structs.find? name).isSome := by rw [declared]; rfl
          have shrinks := offPath_lt known fresh
          have nearer : (offPath structs (path ++ [name])).length < depth := by omega
          simp only [ih nearer, foldlM_answered]
          rw [flattenFrom_of_declared unfinished fresh declared, flattenEach]
          cases (inside structs fields).foldlM
            (fun flat inner => flattenFrom structs order (path ++ [name]) inner flat) flat <;> rfl

theorem flattenWithin_eq {depth : Nat} (deep : structs.keys.length < depth) :
    flattenWithin structs order depth = some (structs.flatten order) := by
  have outermost : (offPath structs []).length < depth := by
    simpa [offPath] using deep
  simp only [flattenWithin, flattenFromWithin_eq outermost, foldlM_answered]
  rw [flatten_eq_flattenEach, flattenEach]
  cases structs.keys.foldlM (fun flat name => flattenFrom structs order [] name flat) ∅ <;> rfl

/-- Flattening always answers, within a depth of one more than there are structs. It fails exactly
when some struct contains itself, and then the names in its message are a cycle. -/
theorem flatten_fails_iff_recursive (structs : StructTable) (order : ChildOrder) :
    (∀ depth, structs.keys.length < depth →
      flattenWithin structs order depth = some (structs.flatten order)) ∧
    ((∃ cycle, structs.flatten order = .error (.recursiveStruct cycle)) ↔ Recursive structs) ∧
    ∀ reason, structs.flatten order = .error reason →
      ∃ cycle, reason = .recursiveStruct cycle ∧ IsCycle structs cycle ∧
        reason.message =
          "Recursive struct definition: ".toList ++ List.intercalate " -> ".toList cycle := by
  refine ⟨fun depth deep => flattenWithin_eq deep, ⟨?_, ?_⟩, ?_⟩
  · rintro ⟨cycle, failed⟩
    exact flatten_fails_iff.1 ⟨_, failed⟩
  · intro recursive
    obtain ⟨reason, failed⟩ := flatten_fails_iff.2 recursive
    obtain ⟨cycle, rfl, -⟩ := flatten_error failed
    exact ⟨cycle, failed⟩
  · intro reason failed
    obtain ⟨cycle, rfl, isCycle⟩ := flatten_error failed
    exact ⟨cycle, rfl, isCycle, rfl⟩

end ShaderInterface.StructTable
