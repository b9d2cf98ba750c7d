import Mathlib.Data.List.Forall2
import ShaderInterface.Proofs.Table.Laws

set_option autoImplicit false

namespace ShaderInterface.Table

variable {κ α β γ δ : Type} {R : α → β → Prop} {S : γ → δ → Prop}

/-- The same keys in the same order, with related values. -/
def Related (R : α → β → Prop) (s : Table κ α) (t : Table κ β) : Prop :=
  List.Forall₂ (fun entry other => entry.1 = other.1 ∧ R entry.2 other.2) s.entries t.entries

variable {s : Table κ α} {t : Table κ β}

theorem Related.empty : Related R (∅ : Table κ α) (∅ : Table κ β) := .nil

theorem Related.of_refl {R : α → α → Prop} (related : ∀ value, R value value) (s : Table κ α) :
    Related R s s :=
  List.forall₂_same.2 fun entry _ => ⟨rfl, related entry.2⟩

theorem Related.keys_eq (related : Related R s t) : s.keys = t.keys := by
  rw [keys, keys]
  unfold Related at related
  generalize s.entries = entries, t.entries = others at related ⊢
  induction related with
  | nil => rfl
  | cons first _ ih => rw [List.map_cons, List.map_cons, first.1, ih]

theorem Related.mem_iff (related : Related R s t) {key : κ} : key ∈ s ↔ key ∈ t := by
  rw [Table.mem_iff, Table.mem_iff, related.keys_eq]

theorem Related.values (related : Related R s t) : List.Forall₂ R s.values t.values := by
  rw [Table.values, Table.values, List.forall₂_map_left_iff, List.forall₂_map_right_iff]
  exact related.imp fun _ _ entries => entries.2

theorem Related.map (related : Related R s t) {f : κ → α → γ} {g : κ → β → δ}
    (change : ∀ key value other, R value other → S (f key value) (g key other)) :
    Related S (s.map f) (t.map g) := by
  rw [Related, Table.map, Table.map, List.forall₂_map_left_iff, List.forall₂_map_right_iff]
  refine related.imp fun entry other both => ⟨both.1, ?_⟩
  obtain ⟨same, values⟩ := both
  rw [← same]
  exact change entry.1 entry.2 other.2 values

variable [DecidableEq κ]

/-- Both tables have a value under the key, and these are related, or neither has one. -/
theorem Related.find? (related : Related R s t) (key : κ) :
    Option.Rel R (s.find? key) (t.find? key) := by
  rw [Table.find?, Table.find?]
  unfold Related at related
  generalize s.entries = entries, t.entries = others at related ⊢
  induction related with
  | nil => exact .none
  | @cons entry other _ _ first _ ih =>
    rw [look?, look?, ← first.1]
    split
    · exact .some first.2
    · exact ih

theorem Related.insert (related : Related R s t) (key : κ) {value : α} {other : β}
    (values : R value other) : Related R (s.insert key value) (t.insert key other) := by
  unfold Related at related ⊢
  simp only [Table.insert]
  generalize s.entries = entries, t.entries = others at related ⊢
  induction related with
  | nil => exact .cons ⟨rfl, values⟩ .nil
  | @cons entry next _ _ first rest ih =>
    simp only [store, ← first.1]
    split
    · exact .cons ⟨rfl, values⟩ rest
    · exact .cons first ih

end ShaderInterface.Table
