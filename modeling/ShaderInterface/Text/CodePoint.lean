set_option autoImplicit false

namespace ShaderInterface.CodePoint

/-- Whether one of the intervals holds `code`. -/
def within (intervals : List (Nat × Nat)) (code : Nat) : Bool :=
  intervals.any fun interval => decide (interval.1 ≤ code ∧ code ≤ interval.2)

/-- The intervals are non-empty, and each ends before the next one starts. -/
def increasing : List (Nat × Nat) → Bool
  | [] => true
  | [interval] => decide (interval.1 ≤ interval.2)
  | interval :: next :: rest =>
      decide (interval.1 ≤ interval.2 ∧ interval.2 < next.1) && increasing (next :: rest)

theorem within_iff {intervals : List (Nat × Nat)} {code : Nat} :
    within intervals code = true ↔
      ∃ interval ∈ intervals, interval.1 ≤ code ∧ code ≤ interval.2 := by
  simp [within]

end ShaderInterface.CodePoint
