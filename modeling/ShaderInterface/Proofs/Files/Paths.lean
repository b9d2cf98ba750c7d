import Mathlib.Data.List.Basic
import ShaderInterface.Files.Tree
import ShaderInterface.Proofs.Text.Cuts

set_option autoImplicit false

namespace ShaderInterface

open FileTree (writtenBelow targetParts)

/-- A part of a path that names an entry of the directory that it is met in. -/
def IsStep (part : Text) : Prop := part ≠ [] ∧ part ≠ ['.'] ∧ part ≠ ['.', '.']

/-- A name that an entry of a directory can have. A null character ends the names that the system
takes. -/
structure IsName (name : Text) : Prop where
  step : IsStep name
  slash : '/' ∉ name
  null : '\x00' ∉ name

instance (part : Text) : Decidable (IsStep part) := inferInstanceAs (Decidable (_ ∧ _ ∧ _))

instance (name : Text) : Decidable (IsName name) :=
  decidable_of_iff (IsStep name ∧ '/' ∉ name ∧ '\x00' ∉ name)
    ⟨fun sound => ⟨sound.1, sound.2.1, sound.2.2⟩, fun named => ⟨named.1, named.2, named.3⟩⟩

/-- A part that a path keeps: a name, or a parent step. -/
def IsPart (part : Text) : Prop := part ≠ [] ∧ part ≠ ['.'] ∧ '/' ∉ part

theorem IsName.isPart {name : Text} (named : IsName name) : IsPart name :=
  ⟨named.step.1, named.step.2.1, named.slash⟩

namespace Path

/-- A path that a text writes. -/
structure IsWritten (p : Path) : Prop where
  slashes : p.slashes ≤ 2
  parts : ∀ part ∈ p.parts, IsPart part

variable {p q : Path} {text left right name part : Text} {parts steps : List Text}

theorem mem_of_mem_splitOn {mark : Char} (member : part ∈ text.splitOn mark) :
    ∀ c ∈ part, c ∈ text ∧ c ≠ mark := by
  intro c inside
  obtain ⟨kept, apart⟩ := Text.mem_of_mem_splitOnP member c inside
  exact ⟨kept, by simpa using apart⟩

theorem mem_of_mem_targetParts {target : Text} (member : part ∈ targetParts target) :
    ∀ c ∈ part, c ∈ target ∧ c ≠ '/' := by
  have named : ∀ part ∈ (target.splitOn '/').filter fun part => !part.isEmpty,
      ∀ c ∈ part, c ∈ target ∧ c ≠ '/' :=
    fun part member => mem_of_mem_splitOn (List.mem_of_mem_filter member)
  rw [targetParts] at member
  split at member
  · rcases List.mem_append.1 member with kept | final
    · exact named part kept
    · simp [List.mem_singleton.1 final]
  · exact named part member

theorem not_mem_null (nameable : p.isNameable = true) (member : part ∈ p.parts) :
    '\x00' ∉ part := by
  simpa using List.all_eq_true.1 nameable part member

theorem isPart_of_mem_partsOf (member : part ∈ partsOf text) : IsPart part := by
  obtain ⟨piece, kept⟩ := List.mem_filter.1 member
  simp only [Bool.and_eq_true, Bool.not_eq_true', List.isEmpty_eq_false_iff, bne_iff_ne] at kept
  exact ⟨kept.1, kept.2, fun slash => (mem_of_mem_splitOn piece _ slash).2 rfl⟩

theorem ofText_isWritten (text : Text) : (ofText text).IsWritten where
  slashes := by
    simp only [ofText]
    split <;> omega
  parts part member := isPart_of_mem_partsOf member

theorem partsOf_append_slash (left right : Text) :
    partsOf (left ++ '/' :: right) = partsOf left ++ partsOf right := by
  rw [partsOf, List.splitOn_append_cons_self, List.filter_append]
  rfl

theorem partsOf_cons_slash (text : Text) : partsOf ('/' :: text) = partsOf text :=
  partsOf_append_slash [] text

theorem partsOf_of_isPart (solid : IsPart part) : partsOf part = [part] := by
  rw [partsOf, List.splitOn_eq_singleton solid.2.2]
  simp [solid.1, solid.2.1]

theorem partsOf_intercalate (solid : ∀ part ∈ parts, IsPart part) :
    partsOf (List.intercalate ['/'] parts) = parts := by
  induction parts with
  | nil => rfl
  | cons part rest ih =>
    obtain ⟨first, others⟩ := List.forall_mem_cons.1 solid
    cases rest with
    | nil => rw [List.intercalate_singleton, partsOf_of_isPart first]
    | cons next rest =>
      rw [List.intercalate_cons_cons, List.append_assoc, List.singleton_append,
        partsOf_append_slash, partsOf_of_isPart first, ih others]
      rfl

theorem partsOf_slashes (count : Nat) (text : Text) :
    partsOf (List.replicate count '/' ++ text) = partsOf text := by
  induction count with
  | zero => rfl
  | succ count ih => rw [List.replicate_succ, List.cons_append, partsOf_cons_slash, ih]

/-- The slashes that a text starts with. -/
def leadingSlashes (text : Text) : Nat := (text.takeWhile (· == '/')).length

theorem ofText_eq (few : leadingSlashes text ≤ 2) :
    ofText text = ⟨leadingSlashes text, partsOf text⟩ := by
  rw [ofText]
  exact congrArg (Path.mk · (partsOf text)) (if_pos few)

theorem intercalate_eq_cons (solid : ∀ part ∈ parts, IsPart part) (present : parts ≠ []) :
    ∃ c rest, List.intercalate ['/'] parts = c :: rest ∧ c ≠ '/' := by
  obtain ⟨part, others, rfl⟩ := List.exists_cons_of_ne_nil present
  obtain ⟨some, -, slashless⟩ := solid part (by simp)
  obtain ⟨c, rest, rfl⟩ := List.exists_cons_of_ne_nil some
  have other : c ≠ '/' := fun same => slashless (by simp [same])
  cases others with
  | nil => exact ⟨c, rest, List.intercalate_singleton, other⟩
  | cons => exact ⟨c, _, List.intercalate_cons_cons, other⟩

theorem head?_intercalate (solid : ∀ part ∈ parts, IsPart part) :
    (List.intercalate ['/'] parts).head? ≠ some '/' := by
  by_cases present : parts = []
  · simp [present]
  · obtain ⟨c, rest, start, other⟩ := intercalate_eq_cons solid present
    simp [start, other]

/-- Text behind that starts with no slash adds no slash to those in front. -/
theorem leadingSlashes_append (start : right.head? ≠ some '/') :
    leadingSlashes (left ++ right) = leadingSlashes left := by
  induction left with
  | nil =>
    cases right with
    | nil => rfl
    | cons c rest =>
      have other : c ≠ '/' := fun same => start (by simp [same])
      simp [leadingSlashes, other]
  | cons c left ih =>
    by_cases slash : c = '/'
    · simpa [leadingSlashes, slash] using ih
    · simp [leadingSlashes, slash]

/-- Behind a last character that is no slash, slashes are no longer in front. -/
theorem leadingSlashes_append_of_getLast? (present : left ≠ [])
    (final : left.getLast? ≠ some '/') : leadingSlashes (left ++ right) = leadingSlashes left := by
  induction left with
  | nil => exact absurd rfl present
  | cons c left ih =>
    by_cases slash : c = '/'
    · cases left with
      | nil => exact absurd (by simp [slash]) final
      | cons d left =>
        rw [List.getLast?_cons_cons] at final
        simpa [leadingSlashes, slash] using ih (List.cons_ne_nil _ _) final
    · simp [leadingSlashes, slash]

theorem leadingSlashes_replicate (count : Nat) :
    leadingSlashes (List.replicate count '/') = count := by
  simp [leadingSlashes]

namespace IsWritten

variable (written : p.IsWritten)
include written

theorem text_ne_nil : p.text ≠ [] := by
  rw [text]
  split
  · exact List.cons_ne_nil _ _
  · next somewhere =>
    intro empty
    obtain ⟨none, absent⟩ := List.append_eq_nil_iff.1 empty
    rw [List.replicate_eq_nil_iff] at none
    by_cases present : p.parts = []
    · exact somewhere ⟨none, present⟩
    · obtain ⟨c, rest, start, -⟩ := intercalate_eq_cons written.parts present
      rw [start] at absent
      cases absent

theorem leadingSlashes_text : leadingSlashes p.text = p.slashes := by
  rw [text]
  split
  · next here => rw [here.1]; rfl
  · rw [leadingSlashes_append (head?_intercalate written.parts), leadingSlashes_replicate]

theorem partsOf_text : partsOf p.text = p.parts := by
  rw [text]
  split
  · next here => rw [here.2]; rfl
  · rw [partsOf_slashes, partsOf_intercalate written.parts]

theorem leadingSlashes_writtenBelow (named : ∀ step ∈ steps, IsName step) :
    leadingSlashes (writtenBelow p.text steps) = p.slashes := by
  have solid : ∀ step ∈ steps, IsPart step := fun step member => (named step member).isPart
  rw [← written.leadingSlashes_text, writtenBelow]
  split
  · rfl
  · split
    · exact leadingSlashes_append (head?_intercalate solid)
    · next final => exact leadingSlashes_append_of_getLast? written.text_ne_nil final

theorem partsOf_writtenBelow (named : ∀ step ∈ steps, IsName step) :
    partsOf (writtenBelow p.text steps) = p.parts ++ steps := by
  have solid : ∀ step ∈ steps, IsPart step := fun step member => (named step member).isPart
  rw [← written.partsOf_text, writtenBelow]
  split
  · next none => rw [none, List.append_nil]
  · split
    · next final =>
      obtain ⟨lead, top⟩ := List.getLast?_eq_some_iff.1 final
      rw [top, List.append_assoc, List.singleton_append, partsOf_append_slash,
        partsOf_append_slash, partsOf_intercalate solid]
      simp [partsOf]
    · rw [partsOf_append_slash, partsOf_intercalate solid]

/-- A directory below a path is read back as the path with more parts. -/
theorem ofText_writtenBelow (named : ∀ step ∈ steps, IsName step) :
    ofText (writtenBelow p.text steps) = ⟨p.slashes, p.parts ++ steps⟩ := by
  have count := written.leadingSlashes_writtenBelow named
  rw [ofText_eq (count ▸ written.slashes), count, written.partsOf_writtenBelow named]

/-- Different directories below a path are written differently. -/
theorem writtenBelow_injective {others : List Text} (named : ∀ step ∈ steps, IsName step)
    (namedOthers : ∀ step ∈ others, IsName step)
    (same : writtenBelow p.text steps = writtenBelow p.text others) : steps = others := by
  have parts := congrArg partsOf same
  rw [written.partsOf_writtenBelow named, written.partsOf_writtenBelow namedOthers] at parts
  exact List.append_cancel_left parts

theorem parent : p.parent.IsWritten :=
  ⟨written.slashes, fun part member => written.parts part (List.dropLast_subset _ member)⟩

theorem child (name : Text) : (p.child name).IsWritten := by
  rw [Path.child, join]
  split
  · refine ⟨written.slashes, fun part member => ?_⟩
    rcases List.mem_append.1 member with above | below
    · exact written.parts part above
    · exact (ofText_isWritten name).parts part below
  · exact ofText_isWritten name

end IsWritten

/-- A name in a directory is one more part. -/
theorem child_of_isName (named : IsName name) (p : Path) :
    p.child name = ⟨p.slashes, p.parts ++ [name]⟩ := by
  have slashes : leadingSlashes name = 0 := by
    obtain ⟨c, rest, rfl⟩ := List.exists_cons_of_ne_nil named.step.1
    have other : c ≠ '/' := fun same => named.slash (by simp [same])
    simp [leadingSlashes, other]
  rw [child, ofText_eq (by omega), slashes, partsOf_of_isPart named.isPart]
  rfl

end Path
end ShaderInterface
