import Mathlib.Data.Prod.Lex
import ShaderInterface.Header

set_option autoImplicit false

namespace ShaderInterface

/-- Sorting keeps the order of items among which none has to come before another. -/
theorem filter_mergeSort {α : Type} {le : α → α → Bool} {p : α → Bool} (items : List α)
    (trans : ∀ a b c, le a b = true → le b c = true → le a c = true)
    (total : ∀ a b, (le a b || le b a) = true)
    (level : ∀ a b, p a = true → p b = true → le a b = true) :
    (items.mergeSort le).filter p = items.filter p := by
  have sorted : (items.filter p).Pairwise fun a b => le a b = true :=
    List.pairwise_of_forall_mem_list fun a first b second =>
      level a b (List.mem_filter.1 first).2 (List.mem_filter.1 second).2
  have kept := (List.sublist_mergeSort trans total sorted List.filter_sublist).filter p
  simp only [List.filter_filter, Bool.and_self] at kept
  exact (kept.eq_of_length ((List.mergeSort_perm items le).filter p).length_eq.symm).symm

namespace Block

/-- The group of the uniform, and then its binding. -/
def slot (block : Block) : Int ×ₗ Int := toLex (block.group, block.binding)

/-- The blocks by their slots. Those in the same slot have kept their order. -/
structure SortBySlot (blocks sorted : List Block) : Prop where
  perm : sorted.Perm blocks
  ordered : sorted.Pairwise fun a b => a.slot ≤ b.slot
  stable : ∀ slot, (sorted.filter fun block => block.slot = slot) =
    blocks.filter fun block => block.slot = slot

theorem slot_le_of_mem {first block : Block} {rest : List Block}
    (ordered : (first :: rest).Pairwise fun a b => a.slot ≤ b.slot)
    (member : block ∈ first :: rest) : first.slot ≤ block.slot := by
  rcases List.mem_cons.1 member with rfl | behind
  · exact le_refl _
  · exact (List.pairwise_cons.1 ordered).1 block behind

theorem mem_iff_of_slots {first second : List Block}
    (alike : ∀ slot, (first.filter fun block => block.slot = slot) =
      second.filter fun block => block.slot = slot) (block : Block) :
    block ∈ first ↔ block ∈ second := by
  simpa using congrArg (block ∈ ·) (alike block.slot)

/-- What stands in each slot determines a list that is ordered by slots. -/
theorem eq_of_ordered {first second : List Block}
    (ordered : first.Pairwise fun a b => a.slot ≤ b.slot)
    (orderedToo : second.Pairwise fun a b => a.slot ≤ b.slot)
    (alike : ∀ slot, (first.filter fun block => block.slot = slot) =
      second.filter fun block => block.slot = slot) : first = second := by
  have members := mem_iff_of_slots alike
  induction first generalizing second with
  | nil =>
    refine (List.eq_nil_iff_forall_not_mem.2 fun block member => ?_).symm
    cases (members block).2 member
  | cons a rest ih =>
    cases second with
    | nil => cases (members a).1 List.mem_cons_self
    | cons b more =>
      -- neither head has a slot behind that of the other
      have slots : a.slot = b.slot :=
        le_antisymm (slot_le_of_mem ordered ((members b).2 List.mem_cons_self))
          (slot_le_of_mem orderedToo ((members a).1 List.mem_cons_self))
      have heads := alike b.slot
      rw [List.filter_cons_of_pos (by simpa using slots), List.filter_cons_of_pos (by simp)] at heads
      obtain ⟨rfl, -⟩ := List.cons.inj heads
      have behind : ∀ slot, (rest.filter fun block => block.slot = slot) =
          more.filter fun block => block.slot = slot := by
        intro slot
        have whole := alike slot
        simp only [List.filter_cons] at whole
        split at whole
        · exact (List.cons.inj whole).2
        · exact whole
      exact congrArg (a :: ·) (ih ordered.of_cons orderedToo.of_cons behind
        (mem_iff_of_slots behind))

theorem SortBySlot.unique {blocks first second : List Block} (one : SortBySlot blocks first)
    (other : SortBySlot blocks second) : first = second :=
  eq_of_ordered one.ordered other.ordered fun slot =>
    (one.stable slot).trans (other.stable slot).symm

end Block

namespace Header

theorem bindsNoLater_iff {a b : Block} : bindsNoLater a b = true ↔ a.slot ≤ b.slot := by
  rw [bindsNoLater, Block.slot, Block.slot, Prod.Lex.toLex_le_toLex]
  simp

theorem sortedBindings_sortBySlot (d : Declarations) :
    Block.SortBySlot d.uniforms.values (sortedBindings d) := by
  have trans : ∀ a b c, bindsNoLater a b = true → bindsNoLater b c = true →
      bindsNoLater a c = true := by
    simp only [bindsNoLater_iff]
    exact fun a b c => le_trans
  have total : ∀ a b, (bindsNoLater a b || bindsNoLater b a) = true := by
    simp only [Bool.or_eq_true, bindsNoLater_iff]
    exact fun a b => le_total a.slot b.slot
  refine ⟨List.mergeSort_perm _ _, ?_, fun slot => filter_mergeSort _ trans total ?_⟩
  · exact (List.pairwise_mergeSort trans total _).imp bindsNoLater_iff.1
  · intro a b first second
    rw [bindsNoLater_iff, of_decide_eq_true first, of_decide_eq_true second]

end Header
end ShaderInterface
