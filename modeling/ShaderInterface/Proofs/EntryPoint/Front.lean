import ShaderInterface.Proofs.Source.Comments
import ShaderInterface.Proofs.Source.Spans

set_option autoImplicit false

/-!
What stands in front of the marker of an entry point, on its line. The signature is read from the
text behind the marker up to the first opening brace; but that brace is looked for by whole lines,
so that one in front of the marker is taken for it, and the signature is then found without a brace
unless its own stands on the same line.
-/
namespace ShaderInterface.Text

variable {mark c : Char} {text phrase left right between part : Text} {parts : List Text}

theorem includes_mark_iff : includes [mark] text = true ↔ mark ∈ text := by
  constructor
  · intro inside
    by_contra absent
    rw [includes_of_not_mem absent] at inside
    cases inside
  · intro member
    obtain ⟨before, behind, rfl⟩ := List.append_of_mem member
    have inside : includes [mark] (before ++ [mark] ++ behind) = true := includes_append before behind
    rwa [List.append_assoc, List.singleton_append] at inside

theorem cutAtPhrase?_nil (text : Text) : cutAtPhrase? [] text = some ([], text) := by
  cases text <;> rfl

/-- Where a phrase first occurs is seen from the text up to there. -/
theorem cutAtPhrase?_first (first : cutAtPhrase? phrase (left ++ phrase ++ right) =
    some (left, right)) (more : Text) :
    cutAtPhrase? phrase (left ++ phrase ++ (right ++ more)) = some (left, right ++ more) := by
  by_cases empty : phrase = []
  · subst empty
    rw [cutAtPhrase?_nil] at first
    obtain ⟨rfl, -⟩ := Prod.mk.inj (Option.some.inj first)
    exact cutAtPhrase?_nil _
  · have extended := cutAtPhrase?_append_of_eq_some first empty more
    rwa [List.append_assoc] at extended

theorem mem_intercalate (among : part ∈ parts) (inside : c ∈ part) :
    c ∈ between.intercalate parts := by
  induction parts with
  | nil => cases among
  | cons first rest ih =>
    cases rest with
    | nil =>
      rw [List.intercalate_singleton]
      rwa [← List.mem_singleton.1 among]
    | cons next others =>
      rw [List.intercalate_cons_cons]
      rcases List.mem_cons.1 among with rfl | later
      · exact List.mem_append_left _ (List.mem_append_left _ inside)
      · exact List.mem_append_right _ (ih later)

/-- Some of the parts, put together, start what all of them make. -/
theorem intercalate_take_prefix (between : Text) (parts : List Text) (count : Nat) :
    between.intercalate (parts.take count) <+: between.intercalate parts := by
  induction parts generalizing count with
  | nil => simp
  | cons first rest ih =>
    cases count with
    | zero => simp
    | succ count =>
      rw [List.take_succ_cons]
      cases rest with
      | nil => simp
      | cons next others =>
        rw [List.intercalate_cons_cons]
        cases count with
        | zero => simp
        | succ count =>
          have onward := ih (count + 1)
          rw [List.take_succ_cons] at onward ⊢
          rw [List.intercalate_cons_cons]
          exact (List.prefix_append_right_inj _).2 onward

end ShaderInterface.Text

namespace ShaderInterface.Signature

open SourceLines (find?)

variable {marker front other behind : Text} {above below : List Text} {missing : ShaderError}

/-- The signature in the text between a marker and its opening brace. -/
def ofHead (marker head : Text) : Except ShaderError Signature :=
  match Text.cutAt? '(' head with
  | none => .error (.noParameterList marker)
  | some (_, inside) =>
      match Brackets.closeParenthesis? 0 inside with
      | none => .error (.unclosedParameterList marker)
      | some (list, after) => .ok ⟨splitList list, returnOf after⟩

/-- The signature in the text behind a marker, or what is wrong when no brace opens there. -/
def ofBehind (missing : ShaderError) (marker behind : Text) : Except ShaderError Signature :=
  match Text.cutAt? '\x7b' behind with
  | none => .error missing
  | some (head, _) => ofHead marker head

theorem includes_brace_iff {text : Text} : Text.includes "\x7b" text = true ↔ '\x7b' ∈ text :=
  Text.includes_mark_iff

theorem ofBehind_of_not_mem (absent : '\x7b' ∉ behind) :
    ofBehind missing marker behind = .error missing := by
  unfold ofBehind
  rw [Text.cutAt?_eq_none_iff.2 absent]

theorem ofBehind_append_cons {head : Text} (absent : '\x7b' ∉ head) (more : Text) :
    ofBehind missing marker (head ++ '\x7b' :: more) = ofHead marker head := by
  unfold ofBehind
  rw [Text.cutAt?_append_cons absent]

/-- Once the brace is there, nothing behind it counts. -/
theorem ofBehind_append (present : '\x7b' ∈ behind) (other : ShaderError) (more : Text) :
    ofBehind missing marker (behind ++ more) = ofBehind other marker behind := by
  obtain ⟨head, rest, rfl, absent⟩ := List.eq_append_cons_of_mem present
  rw [List.append_assoc, List.cons_append, ofBehind_append_cons absent,
    ofBehind_append_cons absent]

theorem ofHead_ne_noBrace (head : Text) : ofHead marker head ≠ .error (.noBrace marker) := by
  unfold ofHead
  split
  · simp
  · split <;> simp

/-- Without a brace on the line of the marker, the error is another one than with a brace in front
of it only. -/
theorem ofBehind_ne_noBrace (other : missing ≠ .noBrace marker) :
    ofBehind missing marker behind ≠ .error (.noBrace marker) := by
  by_cases brace : '\x7b' ∈ behind
  · obtain ⟨head, rest, rfl, absent⟩ := List.eq_append_cons_of_mem brace
    rw [ofBehind_append_cons absent]
    exact ofHead_ne_noBrace head
  · rw [ofBehind_of_not_mem brace]
    simpa using other

/-! ## The line of the marker -/

theorem ofPassage_eq {text : Text} (first : Text.cutAtPhrase? marker text = some (front, behind)) :
    ofPassage marker text = ofBehind (.noBrace marker) marker behind := by
  unfold ofPassage
  rw [first]
  rfl

/-- Lines joined behind the marker of the first. -/
theorem cutAtPhrase?_joined
    (first : Text.cutAtPhrase? marker (front ++ marker ++ behind) = some (front, behind))
    (lines : List Text) :
    Text.cutAtPhrase? marker
        (List.intercalate " ".toList ((front ++ marker ++ behind) :: lines)) =
      some (front, List.intercalate " ".toList (behind :: lines)) := by
  cases lines with
  | nil =>
    rw [List.intercalate_singleton, List.intercalate_singleton]
    exact first
  | cons line rest =>
    rw [List.intercalate_cons_cons, List.intercalate_cons_cons, List.append_assoc behind,
      List.append_assoc, List.append_assoc (front ++ marker)]
    exact Text.cutAtPhrase?_first first _

/-- The passage runs from the first line with the marker to the next line with a brace. -/
theorem ofLines_eq (absent : ∀ line ∈ above, Text.includes marker line = false)
    (first : Text.cutAtPhrase? marker (front ++ marker ++ behind) = some (front, behind)) :
    ofLines marker (above ++ (front ++ marker ++ behind) :: below) =
      match find? "\x7b" ((front ++ marker ++ behind) :: below) with
      | none => .error (.noBraceLine marker)
      | some size => ofBehind (.noBrace marker) marker
          (List.intercalate " ".toList ((behind :: below).take (size + 1))) := by
  have marked : Text.includes marker (front ++ marker ++ behind) = true := by
    unfold Text.includes
    rw [first]
    rfl
  have start : find? marker ((front ++ marker ++ behind) :: below) = some 0 := by
    unfold find?
    rw [List.findIdx?_cons, if_pos marked]
  rw [ofLines_append_of_absent absent]
  unfold ofLines passage
  rw [start]
  simp only [List.drop_zero]
  cases find? "\x7b" ((front ++ marker ++ behind) :: below) with
  | none => rfl
  | some size => exact ofPassage_eq (cutAtPhrase?_joined first (below.take size))

/-- A brace in front of the marker ends the passage on that line. -/
theorem ofLines_of_brace_in_front (absent : ∀ line ∈ above, Text.includes marker line = false)
    (first : Text.cutAtPhrase? marker (front ++ marker ++ behind) = some (front, behind))
    (brace : '\x7b' ∈ front ++ marker) :
    ofLines marker (above ++ (front ++ marker ++ behind) :: below) =
      ofBehind (.noBrace marker) marker behind := by
  have inLine : Text.includes "\x7b" (front ++ marker ++ behind) = true :=
    includes_brace_iff.2 (List.mem_append_left behind brace)
  have here : find? "\x7b" ((front ++ marker ++ behind) :: below) = some 0 := by
    unfold find?
    rw [List.findIdx?_cons, if_pos inLine]
  rw [ofLines_eq absent first, here]
  simp only [List.take_succ_cons, List.take_zero, List.intercalate_singleton]

theorem find?_plain_front (plain : '\x7b' ∉ front) :
    find? "\x7b" ((front ++ behind) :: below) = find? "\x7b" (behind :: below) := by
  have same : Text.includes "\x7b" (front ++ behind) = Text.includes "\x7b" behind := by
    rw [Bool.eq_iff_iff, includes_brace_iff, includes_brace_iff, List.mem_append,
      or_iff_right plain]
  unfold find?
  rw [List.findIdx?_cons, List.findIdx?_cons, same]

/-- Without a brace in front of it, all that counts is behind the marker: the text up to the first
brace there, read with a blank for each line break. -/
theorem ofLines_of_plain_front (absent : ∀ line ∈ above, Text.includes marker line = false)
    (first : Text.cutAtPhrase? marker (front ++ marker ++ behind) = some (front, behind))
    (plain : '\x7b' ∉ front ++ marker) :
    ofLines marker (above ++ (front ++ marker ++ behind) :: below) =
      ofBehind (.noBraceLine marker) marker (List.intercalate " ".toList (behind :: below)) := by
  rw [ofLines_eq absent first, find?_plain_front plain]
  cases found : find? "\x7b" (behind :: below) with
  | none =>
    have nowhere : '\x7b' ∉ List.intercalate " ".toList (behind :: below) := by
      intro member
      rcases Text.mem_of_mem_intercalate member with blank | ⟨line, among, inside⟩
      · exact absurd blank (by decide)
      · have without := List.findIdx?_eq_none_iff.1 found line among
        rw [includes_brace_iff.2 inside] at without
        cases without
    exact (ofBehind_of_not_mem nowhere).symm
  | some size =>
    obtain ⟨before, line, rest, lines, rfl, here, -⟩ :=
      SourceLines.findIdx?_eq_some_iff_append.1 found
    obtain ⟨more, whole⟩ := Text.intercalate_take_prefix " ".toList (behind :: below)
      (before.length + 1)
    have taken : line ∈ (behind :: below).take (before.length + 1) := by
      rw [lines, List.take_length_add_append]
      simp
    have present : '\x7b' ∈
        List.intercalate " ".toList ((behind :: below).take (before.length + 1)) :=
      Text.mem_intercalate taken (includes_brace_iff.1 here)
    rw [← whole, ofBehind_append present (.noBrace marker)]

/-- A brace behind the marker on its line closes the signature, whatever stands elsewhere. -/
theorem ofLines_of_brace_behind (absent : ∀ line ∈ above, Text.includes marker line = false)
    (first : Text.cutAtPhrase? marker (front ++ marker ++ behind) = some (front, behind))
    (brace : '\x7b' ∈ behind) :
    ofLines marker (above ++ (front ++ marker ++ behind) :: below) =
      ofBehind (.noBrace marker) marker behind := by
  by_cases early : '\x7b' ∈ front ++ marker
  · exact ofLines_of_brace_in_front absent first early
  · obtain ⟨more, whole⟩ := Text.intercalate_take_prefix " ".toList (behind :: below) 1
    rw [List.take_succ_cons, List.take_zero, List.intercalate_singleton] at whole
    rw [ofLines_of_plain_front absent first early, ← whole,
      ofBehind_append brace (.noBrace marker)]

/-- Two texts in front of the marker give the same signature, or the same error, unless a brace
stands in one of them only, and none in the rest of the line. -/
theorem ofLines_front_iff (absent : ∀ line ∈ above, Text.includes marker line = false)
    (first : Text.cutAtPhrase? marker (front ++ marker ++ behind) = some (front, behind))
    (second : Text.cutAtPhrase? marker (other ++ marker ++ behind) = some (other, behind)) :
    ofLines marker (above ++ (front ++ marker ++ behind) :: below) =
        ofLines marker (above ++ (other ++ marker ++ behind) :: below) ↔
      '\x7b' ∈ marker ++ behind ∨ ('\x7b' ∈ front ↔ '\x7b' ∈ other) := by
  have early {text : Text} (brace : '\x7b' ∈ text) : '\x7b' ∈ text ++ marker :=
    List.mem_append_left marker brace
  by_cases inMarker : '\x7b' ∈ marker
  · have inFront (text : Text) : '\x7b' ∈ text ++ marker := List.mem_append_right text inMarker
    rw [ofLines_of_brace_in_front absent first (inFront front),
      ofLines_of_brace_in_front absent second (inFront other)]
    simp [inMarker]
  by_cases inBehind : '\x7b' ∈ behind
  · rw [ofLines_of_brace_behind absent first inBehind,
      ofLines_of_brace_behind absent second inBehind]
    simp [inBehind]
  -- the only brace of the line, if it has one, stands in front of the marker
  have plain {text : Text} (without : '\x7b' ∉ text) : '\x7b' ∉ text ++ marker :=
    List.mem_append.not.2 (not_or.2 ⟨without, inMarker⟩)
  have apart : ofBehind (.noBraceLine marker) marker (List.intercalate " ".toList (behind :: below)) ≠
      .error (.noBrace marker) := ofBehind_ne_noBrace (by simp)
  rw [List.mem_append, or_iff_right inMarker, or_iff_right inBehind]
  by_cases inFront : '\x7b' ∈ front <;> by_cases inOther : '\x7b' ∈ other
  · rw [ofLines_of_brace_in_front absent first (early inFront),
      ofLines_of_brace_in_front absent second (early inOther)]
    simp [inFront, inOther]
  · rw [ofLines_of_brace_in_front absent first (early inFront),
      ofLines_of_plain_front absent second (plain inOther), ofBehind_of_not_mem inBehind]
    exact iff_of_false apart.symm (by simp [inFront, inOther])
  · rw [ofLines_of_plain_front absent first (plain inFront),
      ofLines_of_brace_in_front absent second (early inOther), ofBehind_of_not_mem inBehind]
    exact iff_of_false apart (by simp [inFront, inOther])
  · rw [ofLines_of_plain_front absent first (plain inFront),
      ofLines_of_plain_front absent second (plain inOther)]
    simp [inFront, inOther]

/-- A block that ends, and one that is closed with its brace, stand in front of an entry point. -/
theorem ofLines_front_iff_block :
    let marker := Stage.vertex.entry
    let above : List Text := ["fn fs_main(", ") \x7b"]
    let front : Text := "\x7d fn f() \x7b \x7d "
    let other : Text := "\x7d "
    let behind : Text := "(p: vec2,"
    let below : List Text := ["q: f32) -> L", "\x7b"]
    ((∀ line ∈ above, Text.includes marker line = false) ∧
      Text.cutAtPhrase? marker (front ++ marker ++ behind) = some (front, behind) ∧
      Text.cutAtPhrase? marker (other ++ marker ++ behind) = some (other, behind)) ∧
    (ofLines marker (above ++ (front ++ marker ++ behind) :: below) =
        ofLines marker (above ++ (other ++ marker ++ behind) :: below) ↔
      '\x7b' ∈ marker ++ behind ∨ ('\x7b' ∈ front ↔ '\x7b' ∈ other)) := by
  intro marker above front other behind below
  have absent : ∀ line ∈ above, Text.includes marker line = false := by decide
  have first : Text.cutAtPhrase? marker (front ++ marker ++ behind) = some (front, behind) := by
    decide
  have second : Text.cutAtPhrase? marker (other ++ marker ++ behind) = some (other, behind) := by
    decide
  exact ⟨⟨absent, first, second⟩, ofLines_front_iff absent first second⟩

/-- A struct in front of the entry point makes its signature an error, where without the struct it
has one. -/
theorem ofLines_front_matters :
    ∃ (marker front other behind : Text) (above below : List Text),
      (∀ line ∈ above, Text.includes marker line = false) ∧ '\n' ∉ other ∧
      Text.cutAtPhrase? marker (front ++ marker ++ behind) = some (front, behind) ∧
      Text.cutAtPhrase? marker (other ++ marker ++ behind) = some (other, behind) ∧
      ofLines marker (above ++ (other ++ marker ++ behind) :: below) = .ok ⟨["a:f32"], []⟩ ∧
      ofLines marker (above ++ (front ++ marker ++ behind) :: below) = .error (.noBrace marker) :=
  ⟨Stage.vertex.entry, "struct A \x7b a: f32 \x7d ", [], "(a: f32)", [], ["\x7b"], by decide,
    by decide, by decide, by decide, Fallible.eq_ok_of_toOption (by decide +kernel), by decide⟩

end ShaderInterface.Signature
