import ShaderInterface.Proofs.Text.Cuts

set_option autoImplicit false

namespace ShaderInterface.Text

variable {phrase text left right behind : Text}

theorem dropLead?_append_of_eq_some (started : dropLead? phrase text = some behind) (more : Text) :
    dropLead? phrase (text ++ more) = some (behind ++ more) := by
  have cut : text = phrase ++ behind := dropLead?_eq_some_append started
  rw [cut, List.append_assoc]
  exact dropLead?_append phrase (behind ++ more)

/-- Only a text that is too short may be completed to one that starts with the phrase. -/
theorem dropLead?_append_of_eq_none (missing : dropLead? phrase text = none)
    (long : phrase.length ≤ text.length) (more : Text) :
    dropLead? phrase (text ++ more) = none := by
  induction phrase generalizing text with
  | nil => cases missing
  | cons a phrase ih =>
    cases text with
    | nil => simp at long
    | cons b text =>
      rw [dropLead?] at missing
      rw [List.cons_append, dropLead?]
      split at missing
      · next same =>
        rw [if_pos same]
        exact ih missing (Nat.le_of_succ_le_succ long)
      · next other => rw [if_neg other]

/-- What is written behind a text does not change where a phrase first occurs in it. -/
theorem cutAtPhrase?_append_of_eq_some (found : cutAtPhrase? phrase text = some (left, right))
    (present : phrase ≠ []) (more : Text) :
    cutAtPhrase? phrase (text ++ more) = some (left, right ++ more) := by
  induction text generalizing left with
  | nil =>
    rw [cutAtPhrase?, if_neg present] at found
    cases found
  | cons c rest ih =>
    have whole : c :: rest = left ++ phrase ++ right := cutAtPhrase?_eq_some_append found
    have long : phrase.length ≤ (c :: rest).length := by
      rw [whole]
      simp only [List.length_append]
      omega
    rw [cutAtPhrase?] at found
    rw [List.cons_append, cutAtPhrase?, ← List.cons_append]
    split at found
    · next inside started =>
      cases found
      rw [dropLead?_append_of_eq_some started]
    · next missing =>
      rw [dropLead?_append_of_eq_none missing long]
      obtain ⟨cut, later, same⟩ := Option.map_eq_some_iff.1 found
      cases same
      simp only
      rw [ih later]
      rfl

theorem includes_cons_of_includes {c : Char} (inside : includes phrase text = true) :
    includes phrase (c :: text) = true := by
  rw [includes, cutAtPhrase?]
  split
  · rfl
  · rw [Option.isSome_map]
    exact inside

/-- No occurrence of the phrase `first`, `second` lies across the boundary of the texts. -/
def Apart (first second : Char) (left right : Text) : Prop :=
  left.getLast? = some first → right.head? ≠ some second

theorem Apart.tail {first second c : Char} (apart : Apart first second (c :: left) right) :
    Apart first second left right := by
  intro ending
  apply apart
  rw [List.getLast?_cons, ending, Option.getD_some]

theorem dropLead?_append_of_apart {first second : Char} (apart : Apart first second text right)
    (present : text ≠ []) (missing : dropLead? [first, second] text = none) :
    dropLead? [first, second] (text ++ right) = none := by
  cases text with
  | nil => exact absurd rfl present
  | cons c rest =>
    cases rest with
    | cons d rest => exact dropLead?_append_of_eq_none missing (by simp) right
    | nil =>
      cases right with
      | nil => exact missing
      | cons d behind =>
        have cut : first = c → ¬second = d := by
          rintro rfl rfl
          exact apart rfl rfl
        simpa [dropLead?] using cut

/-- In front of a text, what does not hold the phrase only moves its first occurrence. -/
theorem cutAtPhrase?_append_of_apart {first second : Char} (apart : Apart first second left right)
    (absent : includes [first, second] left = false) :
    cutAtPhrase? [first, second] (left ++ right) =
      (cutAtPhrase? [first, second] right).map fun cut => (left ++ cut.1, cut.2) := by
  induction left with
  | nil => simp
  | cons c rest ih =>
    rw [includes, cutAtPhrase?] at absent
    split at absent
    · cases absent
    · next missing =>
      rw [Option.isSome_map] at absent
      have onward := dropLead?_append_of_apart apart (List.cons_ne_nil c rest) missing
      rw [List.cons_append] at onward ⊢
      rw [cutAtPhrase?, onward]
      simp only
      rw [ih apart.tail absent, Option.map_map]
      rfl

end ShaderInterface.Text

namespace ShaderInterface.SourceLines

variable {text rest behind inside : Text} {c : Char}

theorem dropBlockComments_of_eq_some (skipped : skipBlockComment? text = some behind) :
    dropBlockComments text = dropBlockComments behind := by
  cases text with
  | nil => cases skipped
  | cons c rest =>
    rw [dropBlockComments]
    split
    · next other found => rw [Option.some.inj (skipped.symm.trans found)]
    · next missing =>
      rw [skipped] at missing
      cases missing

theorem dropBlockComments_of_eq_none (missing : skipBlockComment? (c :: rest) = none) :
    dropBlockComments (c :: rest) = c :: dropBlockComments rest := by
  rw [dropBlockComments]
  split
  · next behind found =>
    rw [missing] at found
    cases found
  · rfl

theorem skipBlockComment?_of_ne (other : c ≠ '/') : skipBlockComment? (c :: rest) = none := by
  have apart : '/' ≠ c := fun same => other same.symm
  simp [skipBlockComment?, Text.dropLead?, apart]

theorem skipBlockComment?_append_of_eq_some (skipped : skipBlockComment? text = some behind)
    (more : Text) : skipBlockComment? (text ++ more) = some (behind ++ more) := by
  obtain ⟨inside, started, ending⟩ := Option.bind_eq_some_iff.1 skipped
  obtain ⟨cut, closed, rfl⟩ := Option.map_eq_some_iff.1 ending
  rw [skipBlockComment?, Text.dropLead?_append_of_eq_some started, Option.bind_some,
    Text.cutAtPhrase?_append_of_eq_some closed (by simp)]
  rfl

/-- The text starts a block comment that it does not close. -/
inductive OpensComment : Text → Prop where
  | here {inside : Text} (unclosed : Text.includes "*/" inside = false) :
      OpensComment ('/' :: '*' :: inside)
  | behind {text behind : Text} (skipped : skipBlockComment? text = some behind)
      (opens : OpensComment behind) : OpensComment text
  | later {c : Char} {rest : Text} (unmarked : Text.dropLead? "/*" (c :: rest) = none)
      (opens : OpensComment rest) : OpensComment (c :: rest)

theorem skipBlockComment?_of_unmarked (unmarked : Text.dropLead? "/*" text = none) :
    skipBlockComment? text = none := by
  rw [skipBlockComment?, unmarked, Option.bind_none]

theorem skipBlockComment?_marked (inside : Text) :
    skipBlockComment? ('/' :: '*' :: inside) = (Text.cutAtPhrase? "*/" inside).map Prod.snd :=
  rfl

theorem skipBlockComment?_marked_eq_none :
    skipBlockComment? ('/' :: '*' :: inside) = none ↔ Text.includes "*/" inside = false := by
  rw [skipBlockComment?_marked, Option.map_eq_none_iff, Text.includes, Option.isSome_eq_false_iff,
    Option.isNone_iff_eq_none]

/-- A text that starts with no whole comment is marked by an open one, or not marked. -/
theorem marked_or_unmarked (missing : skipBlockComment? text = none) :
    (∃ inside, text = '/' :: '*' :: inside ∧ Text.includes "*/" inside = false) ∨
      Text.dropLead? "/*" text = none := by
  cases started : Text.dropLead? "/*" text with
  | none => exact .inr rfl
  | some inside =>
    have marked : text = '/' :: '*' :: inside := Text.dropLead?_eq_some_append started
    rw [marked] at missing
    exact .inl ⟨inside, marked, skipBlockComment?_marked_eq_none.1 missing⟩

/-- The mark of a comment that is never closed is kept. -/
theorem OpensComment.includes (opens : OpensComment text) :
    Text.includes "/*" (dropBlockComments text) = true := by
  induction opens with
  | @here inside unclosed =>
    rw [dropBlockComments_of_eq_none (skipBlockComment?_marked_eq_none.2 unclosed),
      dropBlockComments_of_eq_none (skipBlockComment?_of_ne (by decide))]
    exact Text.includes_append [] (dropBlockComments inside)
  | behind skipped _ ih => rwa [dropBlockComments_of_eq_some skipped]
  | later unmarked _ ih =>
    rw [dropBlockComments_of_eq_none (skipBlockComment?_of_unmarked unmarked)]
    exact Text.includes_cons_of_includes ih

theorem OpensComment.cons (missing : skipBlockComment? (c :: rest) = none)
    (opens : OpensComment rest) : OpensComment (c :: rest) := by
  rcases marked_or_unmarked missing with ⟨inside, marked, unclosed⟩ | unmarked
  · rw [marked]
    exact .here unclosed
  · exact .later unmarked opens

theorem apart_newline {first second : Char} (other : '\n' ≠ second) (left right : Text) :
    Text.Apart first second left ('\n' :: right) := by
  rintro - same
  exact other (Option.some.inj same)

theorem cutAtPhrase?_append_newline {inside : Text}
    (unclosed : Text.includes "*/" inside = false) (second : Text) :
    Text.cutAtPhrase? "*/" (inside ++ '\n' :: second) =
      (Text.cutAtPhrase? "*/" second).map fun cut => (inside ++ '\n' :: cut.1, cut.2) := by
  have before : Text.Apart '*' '/' inside ('\n' :: second) := apart_newline (by decide) _ _
  have after : Text.Apart '*' '/' ['\n'] second := nofun
  have moved : Text.cutAtPhrase? "*/" (inside ++ '\n' :: second) =
      (Text.cutAtPhrase? "*/" ('\n' :: second)).map fun cut => (inside ++ cut.1, cut.2) :=
    Text.cutAtPhrase?_append_of_apart before unclosed
  have newline : Text.cutAtPhrase? "*/" ('\n' :: second) =
      (Text.cutAtPhrase? "*/" second).map fun cut => ('\n' :: cut.1, cut.2) :=
    Text.cutAtPhrase?_append_of_apart after (by decide)
  rw [moved, newline, Option.map_map]
  rfl

/-- A newline is no part of a comment mark: a comment that starts in front of it starts there
without it, and ends behind it only if it is open there. -/
theorem skipBlockComment?_append_newline {second : Text}
    (missing : skipBlockComment? (c :: rest) = none)
    (closed : OpensComment (c :: rest) → Text.includes "*/" second = false) :
    skipBlockComment? (c :: rest ++ '\n' :: second) = none := by
  rcases marked_or_unmarked missing with ⟨inside, marked, unclosed⟩ | unmarked
  · rw [marked] at closed ⊢
    refine skipBlockComment?_marked_eq_none.2 ?_
    rw [List.append_eq, Text.includes, cutAtPhrase?_append_newline unclosed, Option.isSome_map]
    exact closed (.here unclosed)
  · have apart : Text.Apart '/' '*' (c :: rest) ('\n' :: second) :=
      apart_newline (by decide) _ _
    apply skipBlockComment?_of_unmarked
    exact Text.dropLead?_append_of_apart apart (List.cons_ne_nil c rest) unmarked

/-- In front of a newline a source loses its comments as if it stood alone, unless one is open in it
and closed behind it. -/
theorem dropBlockComments_append_newline {first second : Text}
    (closed : OpensComment first → Text.includes "*/" second = false) :
    dropBlockComments (first ++ '\n' :: second) =
      dropBlockComments first ++ '\n' :: dropBlockComments second := by
  induction first using dropBlockComments.induct with
  | case1 =>
    rw [dropBlockComments, List.nil_append, List.nil_append]
    exact dropBlockComments_of_eq_none (skipBlockComment?_of_ne (by decide))
  | case2 c rest behind skipped ih =>
    rw [dropBlockComments_of_eq_some skipped,
      dropBlockComments_of_eq_some (skipBlockComment?_append_of_eq_some skipped _)]
    exact ih fun opens => closed (.behind skipped opens)
  | case3 c rest missing ih =>
    have onward := skipBlockComment?_append_newline missing closed
    rw [List.cons_append] at onward ⊢
    rw [dropBlockComments_of_eq_none missing, dropBlockComments_of_eq_none onward, List.cons_append,
      ih fun opens => closed (opens.cons missing)]

/-- The lines of a source that has lost its block comments. -/
def cutLines (text : Text) : List Text :=
  (text.splitOn '\n').flatMap fun line => (dropLineComment line).splitOn ';'

theorem ofText_eq_cutLines (source : Text) : ofText source = cutLines (dropBlockComments source) :=
  rfl

theorem cutLines_append_newline (first second : Text) :
    cutLines (first ++ '\n' :: second) = cutLines first ++ cutLines second := by
  unfold cutLines
  rw [List.splitOn_append_cons_self, List.flatMap_append]

theorem ofText_append_newline {first : Text}
    (closed : Text.includes "/*" (dropBlockComments first) = false) (second : Text) :
    ofText (first ++ '\n' :: second) = ofText first ++ ofText second := by
  have apart : dropBlockComments (first ++ '\n' :: second) =
      dropBlockComments first ++ '\n' :: dropBlockComments second :=
    dropBlockComments_append_newline fun opens =>
      absurd opens.includes (Bool.eq_false_iff.1 closed)
  rw [ofText_eq_cutLines, apart, cutLines_append_newline]
  rfl

end ShaderInterface.SourceLines
