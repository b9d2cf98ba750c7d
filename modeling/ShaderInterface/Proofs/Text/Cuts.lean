import Mathlib.Data.List.TakeWhile
import ShaderInterface.Attribute
import ShaderInterface.SourceLines

set_option autoImplicit false

namespace ShaderInterface.Text

variable {p : Char → Bool} {text left right : Text} {mark : Char} {phrase : Text}

theorem dropWhile_run (run : ∀ c ∈ left, p c = true) (boundary : right.head?.any p = false) :
    (left ++ right).dropWhile p = right := by
  rw [List.dropWhile_append_of_pos run]
  cases right with
  | nil => rfl
  | cons c rest =>
    have stop : ¬p c = true := by simpa using boundary
    rw [List.dropWhile_cons_of_neg stop]

theorem takeWhile_run (run : ∀ c ∈ left, p c = true) (boundary : right.head?.any p = false) :
    (left ++ right).takeWhile p = left := by
  rw [List.takeWhile_append_of_pos run]
  cases right with
  | nil => simp
  | cons c rest =>
    have stop : ¬p c = true := by simpa using boundary
    rw [List.takeWhile_cons_of_neg stop, List.append_nil]

theorem dropEndWhile_run (run : ∀ c ∈ right, p c = true) (boundary : left.getLast?.any p = false) :
    dropEndWhile p (left ++ right) = left := by
  have reversed : (left ++ right).reverse.dropWhile p = left.reverse := by
    rw [List.reverse_append]
    apply dropWhile_run
    · intro c member
      exact run c (List.mem_reverse.1 member)
    · rwa [List.head?_reverse]
  rw [dropEndWhile, reversed, List.reverse_reverse]

theorem dropEndWhile_eq_self (boundary : text.getLast?.any p = false) :
    dropEndWhile p text = text := by
  have whole : dropEndWhile p (text ++ []) = text := dropEndWhile_run (by simp) boundary
  rwa [List.append_nil] at whole

theorem dropEndWhile_sublist (text : Text) : (dropEndWhile p text).Sublist text := by
  have reversed := (List.dropWhile_sublist p (l := text.reverse)).reverse
  rwa [List.reverse_reverse] at reversed

/-- The text holds nothing but blanks. -/
def AllBlank (text : Text) : Prop := ∀ c ∈ text, isBlank c = true

instance (text : Text) : Decidable (AllBlank text) :=
  List.decidableBAll _ text

theorem AllBlank.nil : AllBlank [] := fun _ member => absurd member List.not_mem_nil

/-- The text neither starts nor ends with a blank. -/
structure Tidy (text : Text) : Prop where
  first : text.head?.any isBlank = false
  last : text.getLast?.any isBlank = false

theorem Tidy.nil : Tidy [] := ⟨rfl, rfl⟩

theorem Tidy.append (first : Tidy left) (second : Tidy right) : Tidy (left ++ right) := by
  refine ⟨?_, ?_⟩
  · cases left with
    | nil => exact second.first
    | cons c rest => exact first.first
  · rw [List.getLast?_append]
    cases ending : right.getLast? with
    | none => simpa using first.last
    | some c =>
      have stop := second.last
      rw [ending] at stop
      simpa using stop

/-- Anything may stand between two texts without blanks at their ends. -/
theorem Tidy.enclose (first : Tidy left) (second : Tidy right) (some₁ : left ≠ [])
    (some₂ : right ≠ []) (middle : Text) : Tidy (left ++ middle ++ right) := by
  refine ⟨?_, ?_⟩
  · obtain ⟨c, rest, rfl⟩ := List.exists_cons_of_ne_nil some₁
    exact first.first
  · rw [List.getLast?_append]
    obtain ⟨c, ending⟩ := List.getLast?_isSome.2 some₂ |> Option.isSome_iff_exists.1
    have stop := second.last
    rw [ending] at stop ⊢
    simpa using stop

theorem dropWhile_allBlank (blank : AllBlank text) : text.dropWhile isBlank = [] := by
  have whole : (text ++ []).dropWhile isBlank = [] := dropWhile_run blank rfl
  rwa [List.append_nil] at whole

theorem trim_sublist (text : Text) : (trim text).Sublist text :=
  (dropEndWhile_sublist _).trans (List.dropWhile_sublist isBlank)

/-- Trimming takes away what blanks stand around a text without blanks at its ends. -/
theorem trim_padded (tidy : Tidy text) (blankLeft : AllBlank left) (blankRight : AllBlank right) :
    trim (left ++ text ++ right) = text := by
  rw [trim, trimWhile]
  cases text with
  | nil =>
    have blank : AllBlank (left ++ [] ++ right) := by
      intro c member
      simp only [List.append_nil, List.mem_append] at member
      exact member.elim (blankLeft c) (blankRight c)
    rw [dropWhile_allBlank blank]
    rfl
  | cons c rest =>
    have start : (left ++ (c :: rest ++ right)).dropWhile isBlank = c :: rest ++ right :=
      dropWhile_run blankLeft tidy.first
    rw [List.append_assoc, start]
    exact dropEndWhile_run blankRight tidy.last

theorem trim_of_tidy (tidy : Tidy text) : trim text = text := by
  have padded : trim ([] ++ text ++ []) = text := trim_padded tidy AllBlank.nil AllBlank.nil
  rwa [List.nil_append, List.append_nil] at padded

theorem trim_of_allBlank (blank : AllBlank text) : trim text = [] := by
  have padded : trim (text ++ [] ++ []) = [] := trim_padded Tidy.nil blank AllBlank.nil
  rwa [List.append_nil, List.append_nil] at padded

/-- Trimming loses only blanks. -/
theorem mem_trim {c : Char} (member : c ∈ text) (solid : isBlank c = false) : c ∈ trim text := by
  have keeps {t : Text} (inside : c ∈ t) : c ∈ t.dropWhile isBlank := by
    rw [← List.takeWhile_append_dropWhile (p := isBlank) (l := t), List.mem_append] at inside
    rcases inside with dropped | kept
    · have blank := List.mem_takeWhile_imp dropped
      rw [solid] at blank
      cases blank
    · exact kept
  rw [trim, trimWhile, dropEndWhile, List.mem_reverse]
  exact keeps (List.mem_reverse.2 (keeps member))

/-- What trimming leaves nothing of holds only blanks. -/
theorem allBlank_of_trim_eq_nil (empty : trim text = []) : AllBlank text := by
  intro c member
  by_contra solid
  have kept := mem_trim member (Bool.eq_false_iff.2 solid)
  rw [empty] at kept
  exact absurd kept List.not_mem_nil

theorem dropEnd?_append (lead tail : Text) : dropEnd? tail (lead ++ tail) = some lead := by
  rw [dropEnd?, List.reverse_append, dropLead?_append, Option.map_some, List.reverse_reverse]

theorem dropEnd?_eq_some_append {tail lead : Text} (found : dropEnd? tail text = some lead) :
    text = lead ++ tail := by
  obtain ⟨behind, cut, rfl⟩ := Option.map_eq_some_iff.1 found
  rw [← List.reverse_reverse text, dropLead?_eq_some_append cut, List.reverse_append,
    List.reverse_reverse]

/-- A cut takes what stands in front of the first mark. -/
theorem cutAt?_eq (mark : Char) (text : Text) :
    cutAt? mark text =
      if mark ∈ text then
        some (text.takeWhile (· != mark), (text.dropWhile (· != mark)).tail)
      else none := by
  induction text with
  | nil => rfl
  | cons c rest ih =>
    by_cases same : c = mark
    · simp [cutAt?, same]
    · have other : ¬mark = c := fun eq => same eq.symm
      rw [cutAt?, if_neg same, ih]
      by_cases later : mark ∈ rest <;> simp [same, other, later]

theorem cutAt?_append (absent : mark ∉ left) (right : Text) :
    cutAt? mark (left ++ right) = (cutAt? mark right).map fun cut => (left ++ cut.1, cut.2) := by
  induction left with
  | nil => simp
  | cons c rest ih =>
    obtain ⟨other, later⟩ := not_or.1 (List.mem_cons.not.1 absent)
    rw [List.cons_append, cutAt?, if_neg (Ne.symm other), ih later, Option.map_map]
    rfl

theorem cutAtPhrase?_eq_none_of_not_mem (absent : mark ∉ text) :
    cutAtPhrase? (mark :: phrase) text = none := by
  induction text with
  | nil => rfl
  | cons c rest ih =>
    have other : ¬mark = c := fun same => absent (by simp [same])
    have later : mark ∉ rest := fun member => absent (List.mem_cons_of_mem c member)
    simp [cutAtPhrase?, dropLead?, other, ih later]

theorem includes_of_not_mem (absent : mark ∉ text) : includes (mark :: phrase) text = false := by
  rw [includes, cutAtPhrase?_eq_none_of_not_mem absent]
  rfl

theorem includes_append (left right : Text) : includes phrase (left ++ phrase ++ right) = true := by
  induction left with
  | nil =>
    cases phrase with
    | nil => cases right <;> simp [includes, cutAtPhrase?, dropLead?]
    | cons c rest =>
      have started : dropLead? (c :: rest) (c :: (rest ++ right)) = some right :=
        dropLead?_append (c :: rest) right
      simp [includes, cutAtPhrase?, started]
  | cons c rest ih =>
    simp only [includes, List.cons_append, cutAtPhrase?] at ih ⊢
    split
    · rfl
    · simpa using ih

theorem beforePhrase_of_not_mem (absent : mark ∉ text) :
    beforePhrase (mark :: phrase) text = text := by
  rw [beforePhrase, cutAtPhrase?_eq_none_of_not_mem absent]

theorem dropLineComment_of_not_mem (absent : '/' ∉ text) :
    SourceLines.dropLineComment text = text :=
  beforePhrase_of_not_mem absent

theorem dropBlockComments_of_not_mem (absent : '/' ∉ text) :
    SourceLines.dropBlockComments text = text := by
  induction text with
  | nil => rw [SourceLines.dropBlockComments]
  | cons c rest ih =>
    obtain ⟨other, later⟩ := not_or.1 (List.mem_cons.not.1 absent)
    have started : SourceLines.skipBlockComment? (c :: rest) = none := by
      simp [SourceLines.skipBlockComment?, dropLead?, other]
    rw [SourceLines.dropBlockComments]
    split
    · next behind skipped => simp [started] at skipped
    · rw [ih later]

theorem strip_of_not_mem (absent : '@' ∉ text) : Attribute.strip text = text := by
  induction text with
  | nil => rw [Attribute.strip]
  | cons c rest ih =>
    have other : ¬c = '@' := fun same => absent (by simp [same])
    have later : '@' ∉ rest := fun member => absent (List.mem_cons_of_mem c member)
    rw [Attribute.strip, if_neg (by simp [other]), ih later]

/-- A piece keeps no character that it was split at. -/
theorem mem_of_mem_splitOnP {split : Char → Bool} {piece : Text}
    (member : piece ∈ text.splitOnP split) : ∀ c ∈ piece, c ∈ text ∧ split c = false := by
  induction text generalizing piece with
  | nil =>
    rw [List.splitOnP_nil, List.mem_singleton] at member
    simp [member]
  | cons d rest ih =>
    rw [List.splitOnP_cons_eq_if_modifyHead] at member
    split at member
    · rcases List.mem_cons.1 member with rfl | later
      · simp
      · exact fun c inside => ⟨List.mem_cons_of_mem _ (ih later c inside).1, (ih later c inside).2⟩
    · next other =>
      obtain ⟨first, others, cut⟩ := List.exists_cons_of_ne_nil (List.splitOnP_ne_nil split rest)
      rw [cut] at ih member
      intro c inside
      rcases List.mem_cons.1 member with rfl | later
      · rcases List.mem_cons.1 inside with rfl | inside
        · exact ⟨by simp, by simpa using other⟩
        · exact ⟨List.mem_cons_of_mem _ (ih (by simp) c inside).1, (ih (by simp) c inside).2⟩
      · obtain ⟨within, apart⟩ := ih (List.mem_cons_of_mem _ later) c inside
        exact ⟨List.mem_cons_of_mem _ within, apart⟩

theorem words_of_solid (solid : ∀ c ∈ text, isBlank c = false) (present : text ≠ []) :
    words text = [text] := by
  rw [words, List.splitOnP_eq_singleton solid]
  simp [present]

theorem mem_of_mem_intercalate {between : Text} {parts : List Text} {c : Char}
    (member : c ∈ between.intercalate parts) : c ∈ between ∨ ∃ part ∈ parts, c ∈ part := by
  induction parts with
  | nil => cases member
  | cons part rest ih =>
    cases rest with
    | nil =>
      rw [List.intercalate_singleton] at member
      exact .inr ⟨part, by simp, member⟩
    | cons next others =>
      rw [List.intercalate_cons_cons, List.mem_append, List.mem_append] at member
      rcases member with (here | between) | later
      · exact .inr ⟨part, by simp, here⟩
      · exact .inl between
      · exact (ih later).imp_right fun ⟨other, among, inside⟩ =>
          ⟨other, List.mem_cons_of_mem _ among, inside⟩

/-- At least one character, and no blank. -/
structure IsSolid (text : Text) : Prop where
  present : text ≠ []
  solid : ∀ c ∈ text, isBlank c = false

theorem IsSolid.noNewline (solid : text.IsSolid) : '\n' ∉ text := by
  intro member
  have blank : isBlank '\n' = true := by decide
  rw [solid.solid _ member] at blank
  cases blank

theorem IsSolid.intercalate {parts : List Text} (some : parts ≠ [])
    (each : ∀ part ∈ parts, part.IsSolid) (apart : isBlank mark = false) :
    IsSolid ([mark].intercalate parts) := by
  refine ⟨fun empty => ?_, fun c member => ?_⟩
  · obtain ⟨first, rest, rfl⟩ := List.exists_cons_of_ne_nil some
    have blank : first = [] := by
      cases rest with
      | nil => rwa [List.intercalate_singleton] at empty
      | cons next others =>
        rw [List.intercalate_cons_cons] at empty
        exact (List.append_eq_nil_iff.1 (List.append_eq_nil_iff.1 empty).1).1
    exact (each first (by simp)).present blank
  · rcases mem_of_mem_intercalate member with separator | ⟨part, among, inside⟩
    · rwa [List.mem_singleton.1 separator]
    · exact (each part among).solid c inside

theorem isSolid_of_mem_words {word : Text} (member : word ∈ words text) : word.IsSolid := by
  obtain ⟨piece, kept⟩ := List.mem_filter.1 member
  exact ⟨by simpa using kept, fun c inside => (mem_of_mem_splitOnP piece c inside).2⟩

theorem squeeze_of_solid (solid : ∀ c ∈ text, isBlank c = false) : squeeze text = text := by
  rw [squeeze, List.filter_eq_self]
  intro c member
  simp [solid c member]

end ShaderInterface.Text
