import ShaderInterface.Declaration.Reading
import ShaderInterface.Proofs.Text.Cuts

set_option autoImplicit false

namespace ShaderInterface.Text

variable {word text left right : Text}

/-- The runs of word characters between other characters, empty ones included. -/
def runs (text : Text) : List Text := text.splitOnP fun c => !isWord c

theorem runs_cons_word {c : Char} (inside : isWord c = true) (rest : Text) :
    runs (c :: rest) = (runs rest).modifyHead (c :: ·) := by
  rw [runs, List.splitOnP_cons_eq_if_modifyHead, if_neg (by simp [inside])]
  rfl

theorem runs_cons_other {c : Char} (outside : isWord c = false) (rest : Text) :
    runs (c :: rest) = [] :: runs rest := by
  rw [runs, List.splitOnP_cons_eq_if_modifyHead, if_pos (by simp [outside])]
  rfl

theorem runs_eq_cons (text : Text) : runs text = text.takeWhile isWord :: (runs text).tail := by
  induction text with
  | nil => rfl
  | cons c rest ih =>
    cases inside : isWord c with
    | true =>
      rw [runs_cons_word inside, List.takeWhile_cons_of_pos inside, ih]
      rfl
    | false =>
      have outside : ¬isWord c = true := by simp [inside]
      rw [runs_cons_other inside, List.takeWhile_cons_of_neg outside]
      rfl

theorem runs_of_word (inside : ∀ c ∈ text, isWord c = true) : runs text = [text] := by
  apply List.splitOnP_eq_singleton
  intro c member
  simp [inside c member]

theorem runs_append_cons {c : Char} (outside : isWord c = false) (left right : Text) :
    runs (left ++ c :: right) = runs left ++ runs right :=
  List.splitOnP_append_cons left right (by simp [outside])

/-- A word found at the start of a text is its first run. -/
theorem dropWord?_eq (inside : ∀ c ∈ word, isWord c = true) (text : Text) :
    dropWord? word text =
      if text.takeWhile isWord = word then some (text.dropWhile isWord) else none := by
  induction word generalizing text with
  | nil =>
    cases text with
    | nil => rfl
    | cons c rest => cases start : isWord c <;> simp [dropWord?, dropLead?, start]
  | cons a word ih =>
    have wordHead : isWord a = true := inside a (by simp)
    cases text with
    | nil => simp [dropWord?, dropLead?]
    | cons b rest =>
      by_cases same : a = b
      · have onward := ih (fun c member => inside c (List.mem_cons_of_mem a member)) rest
        rw [dropWord?] at onward ⊢
        rw [← same, dropLead?, if_pos rfl, onward, List.takeWhile_cons_of_pos wordHead,
          List.dropWhile_cons_of_pos wordHead]
        simp
      · have apart : ¬(b :: rest).takeWhile isWord = a :: word := by
          cases start : isWord b <;> simp [start, eq_comm, same]
        rw [dropWord?, dropLead?, if_neg same, if_neg apart]
        rfl

/-- What is found at the start of a text is the first answer. -/
theorem atWordStart?_of_start {α : Type} {read : Text → Option α} {answer : α}
    (present : text ≠ []) (found : read text = some answer) :
    atWordStart? read false text = some answer := by
  cases text with
  | nil => exact absurd rfl present
  | cons c rest => simp [atWordStart?, found]

/-- The runs behind the first one, seen from behind the first character. -/
theorem tail_runs_cons (c : Char) (rest : Text) :
    (runs (c :: rest)).tail = if isWord c then (runs rest).tail else runs rest := by
  cases start : isWord c with
  | true =>
    rw [runs_cons_word start, runs_eq_cons rest]
    rfl
  | false =>
    rw [runs_cons_other start]
    rfl

/-- A word is found at a place where a word starts exactly when it is one of the runs. -/
theorem isSome_atWordStart?_iff (present : word ≠ []) (inside : ∀ c ∈ word, isWord c = true)
    (afterWord : Bool) (text : Text) :
    (atWordStart? (dropWord? word) afterWord text).isSome = true ↔
      word ∈ if afterWord then (runs text).tail else runs text := by
  induction text generalizing afterWord with
  | nil => cases afterWord <;> simp [atWordStart?, runs, present]
  | cons c rest ih =>
    have onward := ih (isWord c)
    rw [← tail_runs_cons] at onward
    rw [atWordStart?]
    cases afterWord with
    | true => simpa using onward
    | false =>
      rw [runs_eq_cons (c :: rest)]
      simp only [Bool.false_eq_true, if_false, dropWord?_eq inside, List.mem_cons]
      by_cases first : (c :: rest).takeWhile isWord = word
      · simp [first]
      · have other : ¬word = (c :: rest).takeWhile isWord := fun same => first same.symm
        simp only [first, if_false, other, false_or]
        exact onward

theorem takeWhile_append_mark {mark : Char} (outside : isWord mark = false) (left right : Text) :
    (left ++ mark :: right).takeWhile isWord = left.takeWhile isWord := by
  induction left with
  | nil => simp [outside]
  | cons c rest ih => cases start : isWord c <;> simp [start, ih]

/-- What is only found where a word stands is not found before a text that does not hold it. -/
theorem atWordStart?_append {α : Type} {read : Text → Option α}
    (starts : ∀ text, (read text).isSome = true → text.takeWhile isWord = word)
    {mark : Char} (outside : isWord mark = false) (afterWord : Bool)
    (absent : word ∉ if afterWord then (runs left).tail else runs left) (right : Text) :
    atWordStart? read afterWord (left ++ mark :: right) = atWordStart? read false right := by
  -- no word starts at the beginning, unless one goes on there
  have nothing (text : Text) (missing : word ∉ runs text) : read (text ++ mark :: right) = none := by
    by_contra found
    have first := starts _ (Option.isSome_iff_ne_none.2 found)
    rw [takeWhile_append_mark outside] at first
    rw [runs_eq_cons, first] at missing
    exact missing (List.mem_cons_self)
  induction left generalizing afterWord with
  | nil =>
    rw [List.nil_append, atWordStart?, outside]
    cases afterWord with
    | true => rfl
    | false =>
      have here := nothing [] absent
      rw [List.nil_append] at here
      simp only [Bool.false_eq_true, if_false, here]
  | cons c rest ih =>
    have later : word ∉ (runs (c :: rest)).tail := by
      cases afterWord with
      | true => exact absent
      | false => exact fun member => absent (List.mem_of_mem_tail member)
    rw [tail_runs_cons] at later
    rw [List.cons_append, atWordStart?]
    cases afterWord with
    | true => exact ih (isWord c) later
    | false =>
      have here := nothing (c :: rest) absent
      rw [List.cons_append] at here
      simp only [Bool.false_eq_true, if_false, here]
      exact ih (isWord c) later

/-- No word character is a blank. -/
theorem isWord_of_isBlank {c : Char} (blank : isBlank c = true) : isWord c = false := by
  let codes := List.range' 0x09 5 ++ List.range' 0x1c 5 ++ [0x85, 0xa0, 0x1680] ++
    List.range' 0x2000 11 ++ [0x2028, 0x2029, 0x202f, 0x205f, 0x3000]
  have listed : c.toNat ∈ codes := by
    simp only [isBlank, Bool.or_eq_true, decide_eq_true_eq, beq_iff_eq] at blank
    simp only [codes, List.mem_append, List.mem_range'_1, List.mem_cons, List.not_mem_nil]
    omega
  have table : ∀ code ∈ codes, isWord (Char.ofNat code) = false := by decide +kernel
  have entry := table c.toNat listed
  rwa [Char.ofNat_toNat] at entry

end ShaderInterface.Text

namespace ShaderInterface.Reading

open Text (runs)

/-- A struct is named by the word behind the keyword. -/
theorem structName?_word {name behind : Text} (present : name ≠ [])
    (inside : ∀ c ∈ name, Text.isWord c = true) (start : behind.head?.any Text.isWord = false) :
    structName? ("struct".toList ++ ' ' :: (name ++ behind)) = some name := by
  have first : (name ++ behind).head?.any Text.isBlank = false := by
    obtain ⟨c, rest, spelled⟩ := List.exists_cons_of_ne_nil present
    have word : Text.isWord c = true := inside c (by simp [spelled])
    rw [spelled]
    by_contra blank
    rw [Text.isWord_of_isBlank (Bool.not_eq_false _ ▸ blank)] at word
    cases word
  have named : (' ' :: (name ++ behind)).dropWhile Text.isBlank = name ++ behind :=
    Text.dropWhile_run (List.all_eq_true.1 (by decide : [' '].all Text.isBlank = true)) first
  rw [structName?, Text.dropLead?_append]
  simp only [Option.bind_eq_bind, Option.bind_some, named, Text.takeWhile_run inside start]
  rw [if_neg]
  rintro (same | missing)
  · simp at same
  · exact present missing

/-- A struct is only named where its keyword stands as a word. -/
theorem takeWhile_of_structName? {text : Text} (found : (structName? text).isSome = true) :
    text.takeWhile Text.isWord = "struct".toList := by
  obtain ⟨name, read⟩ := Option.isSome_iff_exists.1 found
  obtain ⟨behind, lead, rest⟩ := Option.bind_eq_some_iff.1 read
  have boundary : behind.head?.any Text.isWord = false := by
    cases behind with
    | nil => rfl
    | cons c later =>
      cases blank : Text.isBlank c with
      | true => exact Text.isWord_of_isBlank blank
      | false => simp [blank] at rest
  rw [Text.dropLead?_eq_some_append lead]
  exact Text.takeWhile_run (List.all_eq_true.1 (by decide)) boundary

/-- A line mentions the word struct exactly when one of its words is that. -/
theorem mentionsStruct_iff (line : Text) :
    mentionsStruct line = true ↔ "struct".toList ∈ runs line := by
  rw [mentionsStruct,
    Text.isSome_atWordStart?_iff (by decide) (List.all_eq_true.1 (by decide))]
  rfl

theorem mentionsStruct_eq_false {line : Text} (absent : "struct".toList ∉ runs line) :
    mentionsStruct line = false := by
  rw [← Bool.not_eq_true, mentionsStruct_iff]
  exact absent

end ShaderInterface.Reading
