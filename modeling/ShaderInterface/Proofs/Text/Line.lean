import ShaderInterface.Proofs.Text.Names
import ShaderInterface.Proofs.Text.Runs

set_option autoImplicit false

namespace ShaderInterface.Text

variable {allowed : Char → Bool} {word left right text : Text}

/-- Two texts on one line, with a blank between them unless one is missing. -/
def beside (left right : Text) : Text :=
  if left = [] then right else if right = [] then left else left ++ ' ' :: right

theorem nil_beside (right : Text) : beside [] right = right := rfl

theorem beside_of_ne_nil (first : left ≠ []) (second : right ≠ []) :
    beside left right = left ++ ' ' :: right := by
  rw [beside, if_neg first, if_neg second]

theorem beside_ne_nil (first : left ≠ []) : beside left right ≠ [] := by
  rw [beside, if_neg first]
  split
  · exact first
  · exact List.append_ne_nil_of_left_ne_nil first _

theorem beside_assoc (left middle right : Text) :
    beside (beside left middle) right = beside left (beside middle right) := by
  by_cases first : left = []
  · rw [first, nil_beside, nil_beside]
  · by_cases second : middle = []
    · simp [beside, first, second]
    · by_cases third : right = []
      · simp [beside, second, third]
      · simp [beside, first, second, third]

theorem allBlank_blank : AllBlank [' '] := by
  intro c member
  rw [List.mem_singleton.1 member]
  decide

theorem beside_eq (left right : Text) :
    ∃ gap, AllBlank gap ∧ beside left right = left ++ gap ++ right := by
  unfold beside
  split
  · next empty => exact ⟨[], AllBlank.nil, by simp [empty]⟩
  · split
    · next empty => exact ⟨[], AllBlank.nil, by simp [empty]⟩
    · exact ⟨[' '], allBlank_blank, by simp⟩

theorem tidy_of_solid (solid : ∀ c ∈ text, isBlank c = false) : Tidy text := by
  constructor
  · cases start : text.head? with
    | none => rfl
    | some c => exact solid c (List.mem_of_head? start)
  · cases ending : text.getLast? with
    | none => rfl
    | some c => exact solid c (List.mem_of_getLast? ending)

/-- A part of a line: it has no blank at its ends, and only characters that are allowed. -/
structure Part (allowed : Char → Bool) (text : Text) : Prop where
  tidy : Tidy text
  chars : ∀ c ∈ text, allowed c = true

theorem Part.append (first : Part allowed left) (second : Part allowed right) :
    Part allowed (left ++ right) := by
  refine ⟨first.tidy.append second.tidy, ?_⟩
  intro c member
  rcases List.mem_append.1 member with before | behind
  · exact first.chars c before
  · exact second.chars c behind

theorem Part.beside (blank : allowed ' ' = true) (first : Part allowed left)
    (second : Part allowed right) : Part allowed (beside left right) := by
  unfold Text.beside
  split
  · exact second
  · split
    · exact first
    · next present missing =>
      refine ⟨?_, ?_⟩
      · have enclosed : Tidy (left ++ [' '] ++ right) :=
          first.tidy.enclose second.tidy present missing [' ']
        simpa using enclosed
      · intro c member
        rcases List.mem_append.1 member with before | behind
        · exact first.chars c before
        · rcases List.mem_cons.1 behind with rfl | later
          · exact blank
          · exact second.chars c later

theorem Part.mono {wider : Char → Bool} (part : Part allowed text)
    (wide : ∀ c, allowed c = true → wider c = true) : Part wider text :=
  ⟨part.tidy, fun c member => wide c (part.chars c member)⟩

theorem not_mem_of_chars {mark : Char} (chars : ∀ c ∈ text, allowed c = true)
    (excluded : allowed mark = false) : mark ∉ text := by
  intro member
  have contained := chars mark member
  rw [excluded] at contained
  cases contained

theorem AllBlank.not_mem {mark : Char} (blank : AllBlank text) (solid : isBlank mark = false) :
    mark ∉ text :=
  not_mem_of_chars blank solid

/-- Behind a text without the word, which does not end in one, it is found where it was. -/
theorem mem_runs_append_iff (absent : word ∉ runs left)
    (ending : left.getLast?.any isWord = false) :
    word ∈ runs (left ++ right) ↔ word ∈ runs right := by
  rcases List.eq_nil_or_concat' left with rfl | ⟨before, c, rfl⟩
  · rw [List.nil_append]
  · have outside : isWord c = false := by simpa using ending
    rw [runs_append_cons outside, List.mem_append, not_or] at absent
    rw [List.append_assoc, List.singleton_append, runs_append_cons outside, List.mem_append,
      or_iff_right absent.1]

/-- Words stay apart where a text ends, or the next one starts, with another character. -/
theorem not_mem_runs_append (first : word ∉ runs left) (second : word ∉ runs right)
    (boundary : left.getLast?.any isWord = false ∨ right.head?.any isWord = false) :
    word ∉ runs (left ++ right) := by
  rcases boundary with ending | start
  · rwa [mem_runs_append_iff first ending]
  · cases right with
    | nil => rwa [List.append_nil]
    | cons c behind =>
      have outside : isWord c = false := by simpa using start
      rw [runs_cons_other outside] at second
      rw [runs_append_cons outside]
      simp only [List.mem_append, List.mem_cons, not_or] at second ⊢
      exact ⟨first, second.2⟩

theorem not_mem_runs_beside (first : word ∉ runs left) (second : word ∉ runs right) :
    word ∉ runs (beside left right) := by
  unfold beside
  split
  · exact second
  · split
    · exact first
    · rw [runs_append_cons (by decide)]
      simp only [List.mem_append, not_or]
      exact ⟨first, second⟩

theorem runs_of_name (named : ∀ c ∈ text, isNameChar c = true) : runs text = [text] :=
  runs_of_word fun c member => isWord_of_isNameChar (named c member)

end ShaderInterface.Text
