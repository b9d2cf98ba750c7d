import ShaderInterface.Proofs.Source.Comments

set_option autoImplicit false

/-!
What the text of a line comment takes part in. Block comments are taken out of a source before its
lines are cut, so a line comment may open one that runs on into the lines below it, or lose its own
second slash to one. Any other text in it is without effect.
-/
namespace ShaderInterface.SourceLines

variable {before comment line text rest more : Text}

def lastLine (text : Text) : Text := (text.reverse.takeWhile (· != '\n')).reverse

theorem lastLine_oneLine (text : Text) : '\n' ∉ lastLine text := by
  intro member
  simpa using List.mem_takeWhile_imp (List.mem_reverse.1 member)

/-- The last line is all of the text, or stands behind its last newline. -/
theorem eq_lastLine_or (text : Text) :
    text = lastLine text ∨ ∃ above, text = above ++ '\n' :: lastLine text := by
  have parts : text = (text.reverse.dropWhile (· != '\n')).reverse ++ lastLine text := by
    rw [lastLine, ← List.reverse_append, List.takeWhile_append_dropWhile, List.reverse_reverse]
  cases above : text.reverse.dropWhile (· != '\n') with
  | nil =>
    rw [above] at parts
    exact .inl parts
  | cons c others =>
    have newline : c = '\n' := by
      have stop := List.head?_dropWhile_not (· != '\n') text.reverse
      rw [above] at stop
      simpa using stop
    rw [above, newline, List.reverse_cons, List.append_assoc] at parts
    exact .inr ⟨_, parts⟩

theorem lastLine_noSlash (noSlash : text.getLast? ≠ some '/') :
    (lastLine text).getLast? ≠ some '/' := by
  rcases eq_lastLine_or text with whole | ⟨above, parts⟩
  · rwa [← whole]
  · intro ending
    rw [parts, List.getLast?_append, List.getLast?_cons, ending] at noSlash
    exact noSlash rfl

theorem cutLines_of_oneLine (oneLine : '\n' ∉ line) :
    cutLines line = (dropLineComment line).splitOn ';' := by
  rw [cutLines, List.splitOn_eq_singleton oneLine, List.flatMap_singleton]

theorem splitOn_injective {mark : Char} {left right : Text}
    (same : left.splitOn mark = right.splitOn mark) : left = right := by
  calc left
    _ = [mark].intercalate (left.splitOn mark) := (List.intercalate_splitOn mark).symm
    _ = [mark].intercalate (right.splitOn mark) := by rw [same]
    _ = right := List.intercalate_splitOn mark

/-- What is written behind a text in its last line changes its lines if it changes what is kept of
that line. -/
theorem cutLines_append_eq_iff (oneLine : '\n' ∉ more) :
    cutLines (text ++ more) = cutLines text ↔
      dropLineComment (lastLine text ++ more) = dropLineComment (lastLine text) := by
  have last := lastLine_oneLine text
  have longer : '\n' ∉ lastLine text ++ more := by
    rw [List.mem_append, not_or]
    exact ⟨last, oneLine⟩
  have ending : cutLines (lastLine text ++ more) = cutLines (lastLine text) ↔
      dropLineComment (lastLine text ++ more) = dropLineComment (lastLine text) := by
    rw [cutLines_of_oneLine longer, cutLines_of_oneLine last]
    exact ⟨splitOn_injective, congrArg _⟩
  rw [← ending]
  rcases eq_lastLine_or text with whole | ⟨above, parts⟩
  · rw [← whole]
  · have extended : text ++ more = above ++ '\n' :: (lastLine text ++ more) :=
      calc text ++ more
        _ = above ++ '\n' :: lastLine text ++ more := congrArg (· ++ more) parts
        _ = above ++ '\n' :: (lastLine text ++ more) := List.append_assoc _ _ _
    have lines : cutLines text = cutLines above ++ cutLines (lastLine text) :=
      calc cutLines text
        _ = cutLines (above ++ '\n' :: lastLine text) := congrArg cutLines parts
        _ = cutLines above ++ cutLines (lastLine text) := cutLines_append_newline _ _
    rw [extended, lines, cutLines_append_newline, List.append_cancel_left_eq]

/-- Two slashes behind a line end what is kept of it where it ends, or where it had a comment. -/
theorem dropLineComment_slash_eq_iff (noSlash : line.getLast? ≠ some '/') :
    dropLineComment (line ++ '/' :: more) = dropLineComment line ↔
      Text.includes "//" line = true ∨ more.head? = some '/' := by
  cases known : Text.cutAtPhrase? "//" line with
  | some cut =>
    have longer := Text.cutAtPhrase?_append_of_eq_some known (by simp) ('/' :: more)
    refine iff_of_true ?_ (.inl ?_)
    · rw [dropLineComment, dropLineComment, Text.beforePhrase, Text.beforePhrase, longer, known]
    · rw [Text.includes, known, Option.isSome_some]
  | none =>
    have absent : Text.includes "//" line = false := by
      rw [Text.includes, known, Option.isSome_none]
    have whole : dropLineComment line = line := by
      rw [dropLineComment, Text.beforePhrase, known]
    have apart : Text.Apart '/' '/' line ('/' :: more) := fun ending => absurd ending noSlash
    rw [whole, absent, Bool.false_eq_true, false_or]
    constructor
    · intro kept
      rw [dropLineComment, Text.beforePhrase] at kept
      split at kept
      · next cut found =>
        have spelled : line ++ '/' :: more = cut.1 ++ "//".toList ++ cut.2 :=
          Text.cutAtPhrase?_eq_some_append found
        rw [kept, List.append_assoc, List.append_cancel_left_eq] at spelled
        rw [(List.cons.inj spelled).2]
        rfl
      · exact absurd (congrArg List.length kept) (by simp)
    · intro slash
      obtain ⟨behind, rfl⟩ := List.head?_eq_some_iff.1 slash
      have cut : Text.cutAtPhrase? "//" (line ++ '/' :: '/' :: behind) =
          some (line ++ [], behind) :=
        Text.cutAtPhrase?_append_of_apart apart absent
      rw [dropLineComment, Text.beforePhrase, cut, List.append_nil]

/-- A text without a mark in it stays as it is. -/
theorem dropBlockComments_append_of_unmarked (unmarked : Text.includes "/*" before = false)
    (apart : Text.Apart '/' '*' before more) :
    dropBlockComments (before ++ more) = before ++ dropBlockComments more := by
  induction before with
  | nil => rfl
  | cons c rest ih =>
    rw [Text.includes, Text.cutAtPhrase?] at unmarked
    split at unmarked
    · cases unmarked
    · next missing =>
      rw [Option.isSome_map] at unmarked
      have onward := Text.dropLead?_append_of_apart apart (List.cons_ne_nil c rest) missing
      have uncommented := skipBlockComment?_of_unmarked onward
      rw [List.cons_append] at uncommented ⊢
      rw [dropBlockComments_of_eq_none uncommented, ih unmarked apart.tail, List.cons_append]

/-- A comment that is open in front of a newline ends at the first closing mark behind it. -/
theorem OpensComment.runs_on (opens : OpensComment text) :
    ∃ kept, ∀ below inside behind, Text.cutAtPhrase? "*/" below = some (inside, behind) →
      dropBlockComments (text ++ '\n' :: below) = kept ++ dropBlockComments behind := by
  induction opens with
  | @here inside unclosed =>
    refine ⟨[], fun below hidden behind closed => ?_⟩
    apply dropBlockComments_of_eq_some
    rw [List.cons_append, List.cons_append, skipBlockComment?_marked,
      cutAtPhrase?_append_newline unclosed, closed]
    rfl
  | @behind text behind skipped _ ih =>
    obtain ⟨kept, runs⟩ := ih
    refine ⟨kept, fun below hidden rest closed => ?_⟩
    rw [dropBlockComments_of_eq_some (skipBlockComment?_append_of_eq_some skipped _)]
    exact runs below hidden rest closed
  | @later c rest unmarked _ ih =>
    obtain ⟨kept, runs⟩ := ih
    refine ⟨c :: kept, fun below hidden behind closed => ?_⟩
    have apart : Text.Apart '/' '*' (c :: rest) ('\n' :: below) := apart_newline (by decide) _ _
    have onward := skipBlockComment?_of_unmarked
      (Text.dropLead?_append_of_apart apart (List.cons_ne_nil c rest) unmarked)
    rw [List.cons_append] at onward ⊢
    rw [dropBlockComments_of_eq_none onward, runs below hidden behind closed, List.cons_append]

theorem mem_of_mem_dropBlockComments {c : Char} (member : c ∈ dropBlockComments text) :
    c ∈ text := by
  induction text using dropBlockComments.induct with
  | case1 =>
    rw [dropBlockComments] at member
    exact member
  | case2 d rest behind skipped ih =>
    rw [dropBlockComments_of_eq_some skipped] at member
    obtain ⟨inside, started, ending⟩ := Option.bind_eq_some_iff.1 skipped
    obtain ⟨cut, closed, rfl⟩ := Option.map_eq_some_iff.1 ending
    rw [Text.dropLead?_eq_some_append started, Text.cutAtPhrase?_eq_some_append closed]
    exact List.mem_append_right _ (List.mem_append_right _ (ih member))
  | case3 d rest missing ih =>
    rw [dropBlockComments_of_eq_none missing] at member
    exact (List.mem_cons.1 member).elim (fun same => List.mem_cons.2 (.inl same))
      fun later => List.mem_cons_of_mem d (ih later)

/-- The slashes behind `before` end what is kept of its last line: the line has a comment already,
or the second slash is not lost to a block comment. -/
def EndsLine (before comment : Text) : Prop :=
  Text.includes "//" (lastLine before) = true ∨
    (dropBlockComments ('/' :: comment)).head? = some '/'

theorem dropBlockComments_slashes (unmarked : Text.includes "/*" before = false)
    (comment after : Text) :
    dropBlockComments (before ++ "//" ++ comment ++ '\n' :: after) =
      before ++ '/' :: dropBlockComments ('/' :: comment ++ '\n' :: after) := by
  have slash : dropBlockComments ('/' :: ('/' :: comment ++ '\n' :: after)) =
      '/' :: dropBlockComments ('/' :: comment ++ '\n' :: after) :=
    dropBlockComments_of_eq_none rfl
  have apart : Text.Apart '/' '*' before ('/' :: ('/' :: comment ++ '\n' :: after)) := by
    rintro - ⟨⟩
  have spelled : before ++ "//" ++ comment ++ '\n' :: after =
      before ++ '/' :: ('/' :: comment ++ '\n' :: after) := by
    rw [List.append_assoc, List.append_assoc]
    rfl
  rw [spelled, dropBlockComments_append_of_unmarked unmarked apart, slash]

theorem ofText_below (unmarked : Text.includes "/*" before = false) (after : Text) :
    ofText (before ++ '\n' :: after) = cutLines before ++ ofText after := by
  have newline : dropBlockComments ('\n' :: after) = '\n' :: dropBlockComments after :=
    dropBlockComments_of_eq_none (skipBlockComment?_of_ne (by decide))
  rw [ofText_eq_cutLines, dropBlockComments_append_of_unmarked unmarked
    (apart_newline (by decide) _ _), newline, cutLines_append_newline, ofText_eq_cutLines]

/-- A line comment that opens no block comment, or none that is closed below it, is without effect
exactly when its slashes end the line. -/
theorem ofText_slashes_eq_iff {after : Text} (unmarked : Text.includes "/*" before = false)
    (noSlash : before.getLast? ≠ some '/') (oneLine : '\n' ∉ comment)
    (closed : OpensComment ('/' :: comment) → Text.includes "*/" after = false) :
    ofText (before ++ "//" ++ comment ++ '\n' :: after) = ofText (before ++ '\n' :: after) ↔
      EndsLine before comment := by
  have within : '\n' ∉ '/' :: dropBlockComments ('/' :: comment) := by
    have whole : '\n' ∉ '/' :: comment := by simpa using oneLine
    rw [List.mem_cons, not_or]
    exact ⟨by decide, fun member => whole (mem_of_mem_dropBlockComments member)⟩
  have lines : ofText (before ++ "//" ++ comment ++ '\n' :: after) =
      cutLines (before ++ '/' :: dropBlockComments ('/' :: comment)) ++ ofText after := by
    rw [ofText_eq_cutLines, dropBlockComments_slashes unmarked,
      dropBlockComments_append_newline closed, ofText_eq_cutLines, ← cutLines_append_newline,
      List.append_assoc]
    rfl
  rw [lines, ofText_below unmarked, List.append_cancel_right_eq, cutLines_append_eq_iff within,
    dropLineComment_slash_eq_iff (lastLine_noSlash noSlash), EndsLine]

/-- A block comment that a line comment opens takes the lines below it along. -/
theorem exists_ofText_slashes_ne (unmarked : Text.includes "/*" before = false)
    (opens : OpensComment ('/' :: comment)) :
    ∃ after, ofText (before ++ "//" ++ comment ++ '\n' :: after) ≠
      ofText (before ++ '\n' :: after) := by
  obtain ⟨kept, runs⟩ := opens.runs_on
  by_contra never
  rw [not_exists] at never
  have same (below inside : Text) (closed : Text.cutAtPhrase? "*/" below = some (inside, [])) :
      cutLines before ++ ofText below = cutLines (before ++ '/' :: (kept ++ [])) := by
    rw [← ofText_below unmarked, ← not_not.1 (never below), ofText_eq_cutLines,
      dropBlockComments_slashes unmarked, runs below inside [] closed, dropBlockComments]
  have short := same "*/" [] rfl
  have long := same "\n*/" ['\n'] rfl
  rw [← short, List.append_cancel_left_eq] at long
  exact absurd long (by decide +kernel)

/-- A line comment without a block comment mark is without effect, whatever else it holds. -/
theorem ofText_plainComment (unmarked : Text.includes "/*" before = false)
    (noSlash : before.getLast? ≠ some '/') (oneLine : '\n' ∉ comment)
    (plain : Text.includes "/*" ('/' :: comment) = false) (after : Text) :
    ofText (before ++ "//" ++ comment ++ '\n' :: after) = ofText (before ++ '\n' :: after) := by
  have whole : dropBlockComments ('/' :: comment ++ []) = '/' :: comment ++ dropBlockComments [] :=
    dropBlockComments_append_of_unmarked plain fun _ => nofun
  rw [dropBlockComments, List.append_nil] at whole
  refine (ofText_slashes_eq_iff unmarked noSlash oneLine fun opens => ?_).2 (.inr ?_)
  · have marked := opens.includes
    rw [whole, plain] at marked
    cases marked
  · rw [whole]
    rfl

/-- A line comment is without effect exactly when its slashes still end the line once the block
comments in it are taken out, as long as none that it opens is closed below it; and below one that
opens a block comment some text is lost. -/
theorem ofText_lineComment (unmarked : Text.includes "/*" before = false)
    (noSlash : before.getLast? ≠ some '/') (oneLine : '\n' ∉ comment) :
    (∀ after, (OpensComment ('/' :: comment) → Text.includes "*/" after = false) →
      (ofText (before ++ "//" ++ comment ++ '\n' :: after) = ofText (before ++ '\n' :: after) ↔
        EndsLine before comment)) ∧
      (OpensComment ('/' :: comment) →
        ∃ after, ofText (before ++ "//" ++ comment ++ '\n' :: after) ≠
          ofText (before ++ '\n' :: after)) :=
  ⟨fun _ closed => ofText_slashes_eq_iff unmarked noSlash oneLine closed,
    exists_ofText_slashes_ne unmarked⟩

theorem ofText_lineComment_open :
    let before : Text := "let a = 1; "
    let comment : Text := " /* one; more"
    Text.includes "/*" before = false ∧ before.getLast? ≠ some '/' ∧ '\n' ∉ comment ∧
      ofText (before ++ "//" ++ comment ++ '\n' :: "b; c") = ofText (before ++ '\n' :: "b; c") ∧
      ∃ after, ofText (before ++ "//" ++ comment ++ '\n' :: after) ≠
        ofText (before ++ '\n' :: after) := by
  intro before comment
  have unmarked : Text.includes "/*" before = false := by decide
  have noSlash : before.getLast? ≠ some '/' := by decide
  have oneLine : '\n' ∉ comment := by decide
  have opens : OpensComment ('/' :: comment) := .later rfl (.later rfl (.here rfl))
  have ends : EndsLine before comment := .inr (by decide +kernel)
  obtain ⟨exactly, spoiled⟩ := ofText_lineComment unmarked noSlash oneLine
  exact ⟨unmarked, noSlash, oneLine, (exactly "b; c" fun _ => by decide).2 ends, spoiled opens⟩

/-- A file pattern in a line comment opens a block comment, and the struct below is lost in it. -/
theorem ofText_lineComment_filePattern :
    let before : Text := []
    let comment : Text := " see shaders/*.wgsl"
    let after : Text := "struct Lamp \x7b power: f32 \x7d\n/* end */"
    Text.includes "/*" before = false ∧ before.getLast? ≠ some '/' ∧ '\n' ∉ comment ∧
      ofText (before ++ "//" ++ comment ++ '\n' :: after) ≠ ofText (before ++ '\n' :: after) := by
  decide +kernel

end ShaderInterface.SourceLines
