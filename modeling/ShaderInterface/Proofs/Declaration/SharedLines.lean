import ShaderInterface.Proofs.Declaration.RoundTrip

set_option autoImplicit false

/-!
Complete declarations that share a line. The reader takes one declaration from a line and drops what
stands behind its closing brace. Of declarations with blanks between them it reads one: the struct
that is named first, with the body that is opened first. Semicolons between them make lines of their
own, and all of them are read.
-/
namespace ShaderInterface

namespace OneLine

/-- A text of allowed characters. None of its words is the keyword of a struct. -/
structure Free (allowed : Char → Bool) (text : Text) : Prop where
  chars : ∀ c ∈ text, allowed c = true
  noKeyword : "struct".toList ∉ Text.runs text

/-- A character that leaves a line whole: it starts no comment and ends no line. -/
def isLineChar (c : Char) : Bool := !"/;\n".toList.contains c

/-- A character that leaves a body open as well. -/
def isInnerChar (c : Char) : Bool := !"\x7b\x7d/;\n".toList.contains c

/-- A name, in any script. It is not the keyword of a struct. -/
structure Name where
  text : Text
  present : text ≠ []
  word : ∀ c ∈ text, Text.isWord c = true
  noKeyword : text ≠ "struct".toList

/-- A type, with any brackets in it. -/
structure TypeName where
  text : Text
  free : Free isInnerChar text

structure Member where
  name : Name
  type : TypeName

end OneLine

/-- A struct or an annotated block that takes one line. -/
inductive OneLine where
  | struct (name : OneLine.Name) (members : List OneLine.Member)
  | uniform (group binding : Nat) (name : OneLine.Name) (members : List OneLine.Member)

namespace OneLine

def Member.text (member : Member) : Text := member.name.text ++ ':' :: ' ' :: member.type.text

def inside (members : List Member) : Text :=
  ' ' :: (", ".toList.intercalate (members.map Member.text) ++ [' '])

def members : OneLine → List Member
  | struct _ members => members
  | uniform _ _ _ members => members

def head : OneLine → Text
  | struct name _ => "struct ".toList ++ name.text
  | uniform group binding name _ =>
      "@group(".toList ++ (Text.decimal group ++ (") @binding(".toList ++
        (Text.decimal binding ++ (") var<uniform> ".toList ++ name.text))))

def text (declaration : OneLine) : Text :=
  declaration.head ++ ' ' :: '\x7b' :: (inside declaration.members ++ ['\x7d'])

/-- Declarations on one line, with `between` between them. -/
def sharing (between : Text) (declarations : List OneLine) : Text :=
  between.intercalate (declarations.map text)

def firstStruct? : List OneLine → Option Name
  | [] => none
  | struct name _ :: _ => some name
  | uniform .. :: rest => firstStruct? rest

/-- The struct of that name with the members of the declaration, or else the declaration itself. -/
def under (declaration : OneLine) : Option Name → OneLine
  | none => declaration
  | some name => struct name declaration.members

variable {allowed : Char → Bool} {left right : Text}

/-! ## What stands in the parts -/

theorem Free.append_mark (first : Free allowed left) {mark : Char}
    (apart : (allowed mark && !Text.isWord mark) = true) (second : Free allowed right) :
    Free allowed (left ++ mark :: right) := by
  simp only [Bool.and_eq_true, Bool.not_eq_true'] at apart
  obtain ⟨admitted, outside⟩ := apart
  constructor
  · intro c member
    rcases List.mem_append.1 member with before | among
    · exact first.chars c before
    · rcases List.mem_cons.1 among with rfl | behind
      · exact admitted
      · exact second.chars c behind
  · rw [Text.runs_append_cons outside, List.mem_append]
    exact not_or.2 ⟨first.noKeyword, second.noKeyword⟩

theorem Free.mark_append {mark : Char} (apart : (allowed mark && !Text.isWord mark) = true)
    (second : Free allowed right) : Free allowed (mark :: right) := by
  have nothing : Free allowed [] := ⟨nofun, by decide⟩
  exact nothing.append_mark apart second

theorem Free.mono {wider : Char → Bool} (free : Free allowed left)
    (wide : ∀ c, allowed c = true → wider c = true) : Free wider left :=
  ⟨fun c member => wide c (free.chars c member), free.noKeyword⟩

/-- A text given by its characters. -/
theorem Free.literal (spelled : left.all allowed = true ∧ "struct".toList ∉ Text.runs left) :
    Free allowed left :=
  ⟨List.all_eq_true.1 spelled.1, spelled.2⟩

theorem not_contains_of {marks : Text} (held : Char → Bool)
    (excluded : marks.all (fun mark => !held mark) = true) (c : Char) (holds : held c = true) :
    (!marks.contains c) = true := by
  rw [Bool.not_eq_true', ← Bool.not_eq_true, List.contains_iff_mem]
  intro member
  have outside := List.all_eq_true.1 excluded c member
  simp [holds] at outside

theorem isLineChar_of_isInnerChar : ∀ c, isInnerChar c = true → isLineChar c = true :=
  not_contains_of isInnerChar (by decide)

theorem Name.free (name : Name) : Free isInnerChar name.text := by
  refine ⟨fun c member => not_contains_of Text.isWord (by decide) c (name.word c member), ?_⟩
  rw [Text.runs_of_word name.word, List.mem_singleton]
  exact Ne.symm name.noKeyword

theorem Name.getLast?_text (name : Name) : name.text.getLast?.any (· == ':') = false := by
  cases ending : name.text.getLast? with
  | none => rfl
  | some c =>
    have word := name.word c (List.mem_of_getLast? ending)
    simp only [Option.any_some, beq_eq_false_iff_ne]
    rintro rfl
    exact absurd word (by decide)

theorem Name.solid (name : Name) (c : Char) (member : c ∈ name.text) : Text.isBlank c = false := by
  cases blank : Text.isBlank c with
  | false => rfl
  | true =>
    have word := name.word c member
    rw [Text.isWord_of_isBlank blank] at word
    cases word

theorem decimal_free (n : Nat) : Free isInnerChar (Text.decimal n) := by
  refine ⟨fun c member => ?_, (Printed.decimal_plain n).noKeyword⟩
  have named := Text.isNameChar_of_isDigit (Text.isDigit_of_mem_decimal member)
  exact not_contains_of Text.isNameChar (by decide) c named

theorem Member.free (member : Member) : Free isInnerChar member.text :=
  member.name.free.append_mark (by decide) (Free.mark_append (by decide) member.type.free)

theorem inside_free (members : List Member) : Free isInnerChar (inside members) := by
  have nothing : Free isInnerChar [] := Free.literal (by decide)
  have row : Free isInnerChar (", ".toList.intercalate (members.map Member.text)) := by
    induction members with
    | nil => exact nothing
    | cons member rest ih =>
      cases rest with
      | nil =>
        rw [List.map_cons, List.map_nil, List.intercalate_singleton]
        exact member.free
      | cons next later =>
        rw [List.map_cons, List.map_cons, List.intercalate_cons_cons, ← List.map_cons,
          List.append_assoc]
        exact member.free.append_mark (by decide) (Free.mark_append (by decide) ih)
  exact Free.mark_append (by decide) (row.append_mark (by decide) nothing)

/-- What stands behind the place of a block. -/
def introduced (name : Name) (behind : Text) : Text :=
  [' '] ++ ("var".toList ++ '<' :: ("uniform".toList ++ '>' :: ([' '] ++ (name.text ++ behind))))

theorem head_uniform (group binding : Nat) (name : Name) (members : List Member) (behind : Text) :
    (uniform group binding name members).head ++ behind =
      "@group".toList ++ '(' :: (Text.decimal group ++ ')' :: (" @binding".toList ++
        '(' :: (Text.decimal binding ++ ')' :: introduced name behind))) := by
  unfold head introduced
  simp only [List.append_assoc]
  rfl

theorem head_struct (name : Name) (members : List Member) (behind : Text) :
    (struct name members).head ++ behind = "struct".toList ++ ' ' :: (name.text ++ behind) := by
  unfold head
  simp only [List.append_assoc]
  rfl

theorem text_append (declaration : OneLine) (behind : Text) :
    declaration.text ++ behind =
      declaration.head ++ ([' '] ++ '\x7b' :: (inside declaration.members ++ '\x7d' :: behind)) := by
  simp [text]

theorem head_uniform_free (group binding : Nat) (name : Name) (members : List Member) :
    Free isInnerChar (uniform group binding name members).head := by
  have spelled := head_uniform group binding name members []
  have nothing : Free isInnerChar [] := Free.literal (by decide)
  rw [introduced, List.append_nil, List.append_nil] at spelled
  rw [spelled]
  refine (Free.literal (by decide)).append_mark (by decide) ?_
  refine (decimal_free group).append_mark (by decide) ?_
  refine (Free.literal (by decide) : Free isInnerChar " @binding".toList).append_mark (by decide) ?_
  refine (decimal_free binding).append_mark (by decide) ?_
  refine nothing.append_mark (by decide) ?_
  refine (Free.literal (by decide) : Free isInnerChar "var".toList).append_mark (by decide) ?_
  refine (Free.literal (by decide) : Free isInnerChar "uniform".toList).append_mark (by decide) ?_
  exact nothing.append_mark (by decide) name.free

theorem head_chars (declaration : OneLine) : ∀ c ∈ declaration.head, isInnerChar c = true := by
  cases declaration with
  | uniform group binding name members =>
    exact (head_uniform_free group binding name members).chars
  | struct name members =>
    have spelled := head_struct name members []
    rw [List.append_nil, List.append_nil] at spelled
    rw [spelled]
    intro c member
    rcases List.mem_append.1 member with keyword | behind
    · exact List.all_eq_true.1 (by decide : "struct".toList.all isInnerChar = true) c keyword
    · rcases List.mem_cons.1 behind with rfl | named
      · decide
      · exact name.free.chars c named

theorem head_noBrace (declaration : OneLine) : '\x7b' ∉ declaration.head ++ [' '] := by
  have absent : '\x7b' ∉ declaration.head :=
    Text.not_mem_of_chars declaration.head_chars (by decide)
  simp [absent]

/-- A block on a line of its own has no keyword of a struct. -/
theorem text_uniform_noKeyword (group binding : Nat) (name : Name) (members : List Member) :
    "struct".toList ∉ Text.runs (uniform group binding name members).text := by
  have head := (head_uniform_free group binding name members).mono isLineChar_of_isInnerChar
  have body := (inside_free members).mono isLineChar_of_isInnerChar
  have nothing : Free isLineChar [] := Free.literal (by decide)
  have closed : Free isLineChar (inside members ++ ['\x7d']) := body.append_mark (by decide) nothing
  have text : Free isLineChar (uniform group binding name members).text :=
    head.append_mark (by decide) (Free.mark_append (by decide) closed)
  exact text.noKeyword

theorem head_eq_cons (declaration : OneLine) :
    ∃ c rest, declaration.head = c :: rest ∧ Text.isBlank c = false := by
  cases declaration with
  | struct name members => exact ⟨'s', _, rfl, by decide⟩
  | uniform group binding name members => exact ⟨'@', _, rfl, by decide⟩

theorem text_part (declaration : OneLine) : Text.Part isLineChar declaration.text := by
  refine ⟨⟨?_, ?_⟩, ?_⟩
  · obtain ⟨c, rest, spelled, solid⟩ := declaration.head_eq_cons
    rw [text, spelled]
    exact solid
  · have closed : declaration.text =
        declaration.head ++ ' ' :: '\x7b' :: inside declaration.members ++ ['\x7d'] := by
      simp [text]
    rw [closed, List.getLast?_concat]
    decide
  · intro c member
    rcases List.mem_append.1 member with before | behind
    · exact isLineChar_of_isInnerChar c (declaration.head_chars c before)
    · simp only [List.mem_cons, List.mem_append, List.not_mem_nil, or_false] at behind
      rcases behind with rfl | rfl | among | rfl
      · decide
      · decide
      · exact isLineChar_of_isInnerChar c ((inside_free declaration.members).chars c among)
      · decide

/-! ## Declarations on one line -/

theorem text_ne_nil (declaration : OneLine) : declaration.text ≠ [] := by
  obtain ⟨c, rest, spelled, -⟩ := declaration.head_eq_cons
  simp [text, spelled]

theorem sharing_singleton (between : Text) (declaration : OneLine) :
    sharing between [declaration] = declaration.text :=
  List.intercalate_singleton

theorem sharing_cons_cons (between : Text) (first second : OneLine) (rest : List OneLine) :
    sharing between (first :: second :: rest) =
      first.text ++ (between ++ sharing between (second :: rest)) := by
  rw [← List.append_assoc]
  exact List.intercalate_cons_cons

theorem sharing_ne_nil (between : Text) (first : OneLine) (rest : List OneLine) :
    sharing between (first :: rest) ≠ [] := by
  cases rest with
  | nil =>
    rw [sharing_singleton]
    exact first.text_ne_nil
  | cons second later =>
    rw [sharing_cons_cons]
    exact List.append_ne_nil_of_left_ne_nil first.text_ne_nil _

/-- The first declaration starts the line. -/
theorem exists_sharing (between : Text) (first : OneLine) (rest : List OneLine) :
    ∃ behind, sharing between (first :: rest) = first.text ++ behind := by
  cases rest with
  | nil => exact ⟨[], by rw [sharing_singleton, List.append_nil]⟩
  | cons second later => exact ⟨_, sharing_cons_cons between first second later⟩

theorem sharing_part (first : OneLine) (rest : List OneLine) :
    Text.Part isLineChar (sharing [' '] (first :: rest)) := by
  induction rest generalizing first with
  | nil =>
    rw [sharing_singleton]
    exact first.text_part
  | cons second later ih =>
    have joined := first.text_part.beside (by decide) (ih second)
    rw [Text.beside_of_ne_nil first.text_ne_nil (sharing_ne_nil _ _ _)] at joined
    rw [sharing_cons_cons]
    exact joined

theorem exists_sharing_struct (name : Name) (members : List Member) (rest : List OneLine) :
    ∃ behind, behind.head?.any Text.isWord = false ∧
      sharing [' '] (struct name members :: rest) =
        "struct".toList ++ ' ' :: (name.text ++ behind) := by
  obtain ⟨behind, spelled⟩ := exists_sharing [' '] (struct name members) rest
  rw [text_append, head_struct] at spelled
  exact ⟨_, rfl, spelled⟩

/-- A line has the keyword exactly when there is a struct among its declarations. -/
theorem keyword_sharing_iff (declarations : List OneLine) :
    "struct".toList ∈ Text.runs (sharing [' '] declarations) ↔
      (firstStruct? declarations).isSome = true := by
  induction declarations with
  | nil => decide
  | cons first rest ih =>
    cases first with
    | struct name members =>
      obtain ⟨behind, -, spelled⟩ := exists_sharing_struct name members rest
      have keyword : Text.runs "struct".toList = ["struct".toList] := by decide
      rw [spelled, Text.runs_append_cons (by decide), keyword]
      simp [firstStruct?]
    | uniform group binding name members =>
      -- a block has no keyword, so the question passes on to what stands behind it
      have absent := text_uniform_noKeyword group binding name members
      cases rest with
      | nil =>
        rw [sharing_singleton]
        exact iff_of_false absent nofun
      | cons second later =>
        rw [sharing_cons_cons, List.singleton_append, Text.runs_append_cons (by decide),
          List.mem_append, or_iff_right absent]
        exact ih

/-- The first keyword of a line belongs to its first struct. -/
theorem structName?_sharing {declarations : List OneLine} {name : Name}
    (found : firstStruct? declarations = some name) :
    Text.atWordStart? Reading.structName? false (sharing [' '] declarations) = some name.text := by
  induction declarations with
  | nil => cases found
  | cons first rest ih =>
    cases first with
    | struct own members =>
      obtain rfl : own = name := Option.some.inj found
      obtain ⟨behind, boundary, spelled⟩ := exists_sharing_struct own members rest
      rw [spelled]
      exact Text.atWordStart?_of_start nofun
        (Reading.structName?_word own.present own.word boundary)
    | uniform group binding own members =>
      have absent := text_uniform_noKeyword group binding own members
      cases rest with
      | nil => cases found
      | cons second later =>
        rw [sharing_cons_cons, List.singleton_append,
          Text.atWordStart?_append (fun _ => Reading.takeWhile_of_structName?) (by decide) false
            absent]
        exact ih found

/-! ## Reading the line -/

section Reading

variable {d : Declarations}

theorem readLine_sharing (first : OneLine) (rest : List OneLine) :
    (Reading.mk d .idle).readLine (sharing [' '] (first :: rest)) =
      (Reading.mk d .idle).readOpening (sharing [' '] (first :: rest)) := by
  have part := sharing_part first rest
  have noComment : '/' ∉ sharing [' '] (first :: rest) :=
    Text.not_mem_of_chars part.chars (by decide)
  rw [Printed.readLine_of_tidy _ noComment part.tidy, Reading.readStatement,
    if_neg (sharing_ne_nil _ first rest)]

/-- Nothing behind the closing brace is read. -/
theorem readBody_inside (r : Reading) (members : List Member) (behind : Text) :
    r.readBody (inside members ++ '\x7d' :: behind) = r.readBody (inside members ++ ['\x7d']) := by
  have noBrace : '\x7d' ∉ inside members :=
    Text.not_mem_of_chars (inside_free members).chars (by decide)
  rw [Reading.readBody, Text.cutAt?_append_cons noBrace, Reading.readBody,
    Text.cutAt?_append_cons noBrace]

/-- What is read of a struct with the name and the members. -/
def readStruct (d : Declarations) (name : Name) (members : List Member) : Step :=
  (Step.mk ⟨d.addStruct name.text [], .body .struct name.text⟩
      (d.redeclared .struct name.text) none).andThen
    fun next => next.readBody (inside members ++ ['\x7d'])

/-- A line with a struct is read as the first struct, with the members of the first declaration. -/
theorem readLine_sharing_struct (first : OneLine) (rest : List OneLine) {name : Name}
    (found : firstStruct? (first :: rest) = some name) :
    (Reading.mk d .idle).readLine (sharing [' '] (first :: rest)) =
      readStruct d name first.members := by
  have mentioned : Reading.mentionsStruct (sharing [' '] (first :: rest)) = true := by
    rw [Reading.mentionsStruct_iff, keyword_sharing_iff, found]
    rfl
  have named := structName?_sharing found
  obtain ⟨behind, spelled⟩ := exists_sharing [' '] first rest
  rw [text_append, ← List.append_assoc] at spelled
  rw [readLine_sharing, Reading.readOpening, if_pos mentioned, Reading.openStruct, named]
  simp only [spelled, Text.cutAt?_append_cons first.head_noBrace, readBody_inside]
  rfl

def readPlacement (group binding : Nat) : Except ShaderError Placement := do
  let group ← Printed.readNumber group
  let binding ← Printed.readNumber binding
  return ⟨group, binding, none⟩

theorem tag_introduced (line : Text) (name : Name) (behind : Text) :
    Placement.tag line (introduced name behind) = .ok (none, introduced name behind) := by
  have noAt : ((introduced name behind).dropWhile Text.isBlank).head? ≠ some '@' := nofun
  rw [Placement.tag, Printed.openAttribute?_eq_none noAt]

theorem ofLine_uniform (group binding : Nat) (name : Name) (members : List Member)
    (behind : Text) :
    Placement.ofLine ((uniform group binding name members).head ++ behind) =
      (readPlacement group binding).map fun placement => (placement, introduced name behind) := by
  have first (line : Text) := Printed.number_printed line (by decide : '(' ∉ "@group".toList)
    group (" @binding".toList ++ '(' :: (Text.decimal binding ++ ')' :: introduced name behind))
  have second (line : Text) := Printed.number_printed line (by decide : '(' ∉ " @binding".toList)
    binding (introduced name behind)
  rw [head_uniform, Placement.ofLine, first, readPlacement]
  -- the first number that has too many digits fails, before the line is read on
  cases Printed.readNumber group with
  | error error => rfl
  | ok value =>
    simp only [Except.map, bind, Except.bind, second]
    cases Printed.readNumber binding with
    | error error => rfl
    | ok value =>
      simp only [tag_introduced]
      rfl

theorem mentionsPlacement_uniform (group binding : Nat) (name : Name) (members : List Member)
    (behind : Text) :
    Reading.mentionsPlacement ((uniform group binding name members).head ++ behind) = true := by
  have first : Text.includes "@group(".toList ([] ++ "@group(".toList ++
      (Text.decimal group ++ ')' :: (" @binding".toList ++ '(' :: (Text.decimal binding ++
        ')' :: introduced name behind)))) = true := Text.includes_append _ _
  have second : Text.includes "@binding(".toList
      ("@group(".toList ++ (Text.decimal group ++ [')', ' ']) ++ "@binding(".toList ++
        (Text.decimal binding ++ ')' :: introduced name behind)) = true :=
    Text.includes_append _ _
  rw [head_uniform, Reading.mentionsPlacement, Bool.and_eq_true]
  simp only [List.append_assoc] at second
  exact ⟨first, second⟩

def readUniform (d : Declarations) (group binding : Nat) (name : Name) (members : List Member) :
    Step :=
  match readPlacement group binding with
  | .error error => .fail ⟨d, .idle⟩ error
  | .ok placement =>
      ((Reading.mk d .idle).declare name.text placement []).andThen fun next =>
        next.readBody (inside members ++ ['\x7d'])

theorem dropIntroducer_introduced (name : Name) (behind : Text) :
    Reading.dropIntroducer (introduced name behind) = name.text ++ behind := by
  have start : (name.text ++ behind).head?.any Text.isBlank = false := by
    obtain ⟨c, rest, spelled⟩ := List.exists_cons_of_ne_nil name.present
    rw [spelled]
    exact name.solid c (by simp [spelled])
  have dropped := Printed.dropIntroducer_addressed Text.allBlank_blank
    (by decide : '>' ∉ "uniform".toList) ([' '] ++ (name.text ++ behind))
  rw [Text.dropWhile_run Text.allBlank_blank start] at dropped
  exact dropped

theorem declarePlaced_introduced (r : Reading) (placement : Placement) (name : Name)
    (members : List Member) (behind : Text) :
    r.declarePlaced
        (introduced name ([' '] ++ '\x7b' :: (inside members ++ '\x7d' :: behind))) placement =
      (r.declare name.text placement []).andThen fun next =>
        next.readBody (inside members ++ ['\x7d']) := by
  have named := Printed.blockName_padded (Text.tidy_of_solid name.solid) name.getLast?_text
    Text.AllBlank.nil Text.allBlank_blank
  have noBrace : '\x7b' ∉ name.text ++ [' '] := by
    have absent : '\x7b' ∉ name.text := Text.not_mem_of_chars name.free.chars (by decide)
    simp [absent]
  rw [List.nil_append] at named
  rw [Reading.declarePlaced, dropIntroducer_introduced, ← List.append_assoc]
  simp only [Text.cutAt?_append_cons noBrace, named, name.present, if_false, readBody_inside]

/-- A line of blocks is read as its first one. -/
theorem readLine_sharing_uniform (group binding : Nat) (name : Name) (members : List Member)
    (rest : List OneLine) (none : firstStruct? rest = none) :
    (Reading.mk d .idle).readLine (sharing [' '] (uniform group binding name members :: rest)) =
      readUniform d group binding name members := by
  have unmentioned : Reading.mentionsStruct
      (sharing [' '] (uniform group binding name members :: rest)) = false := by
    apply Reading.mentionsStruct_eq_false
    rw [keyword_sharing_iff, firstStruct?, none]
    exact nofun
  obtain ⟨behind, spelled⟩ := exists_sharing [' '] (uniform group binding name members) rest
  rw [text_append] at spelled
  rw [readLine_sharing, Reading.readOpening, if_neg (by simp [unmentioned]), spelled,
    if_pos (mentionsPlacement_uniform ..), Reading.openPlacement, ofLine_uniform, readUniform]
  cases readPlacement group binding with
  | error error => rfl
  | ok placement =>
    have present (behind : Text) : Text.trim (introduced name behind) ≠ [] :=
      List.ne_nil_of_mem (Text.mem_trim (c := 'v') (by simp [introduced]) (by decide))
    simp only [Except.map, present, if_false]
    exact declarePlaced_introduced _ placement name members behind

/-- A line is read as its first declaration, under the name of its first struct if it has one. -/
theorem readLine_sharing_first (first : OneLine) (rest : List OneLine) :
    (Reading.mk d .idle).readLine (sharing [' '] (first :: rest)) =
      (Reading.mk d .idle).readLine (first.under (firstStruct? (first :: rest))).text := by
  rw [← sharing_singleton [' ']]
  cases found : firstStruct? (first :: rest) with
  | some name =>
    rw [readLine_sharing_struct first rest found, under, readLine_sharing_struct _ [] rfl]
    rfl
  | none =>
    cases first with
    | struct name members => cases found
    | uniform group binding name members =>
      rw [readLine_sharing_uniform group binding name members rest found, under,
        readLine_sharing_uniform group binding name members [] rfl]

end Reading

/-! ## Semicolons -/

theorem not_mem_intercalate {mark : Char} {between : Text} {lines : List Text}
    (apart : mark ∉ between) (absent : ∀ line ∈ lines, mark ∉ line) :
    mark ∉ between.intercalate lines := by
  intro member
  rcases Text.mem_of_mem_intercalate member with separator | ⟨line, among, inside⟩
  · exact apart separator
  · exact absent line among inside

/-- What semicolons separate are lines of their own. -/
theorem ofText_intercalate {lines : List Text} (present : lines ≠ [])
    (chars : ∀ line ∈ lines, ∀ c ∈ line, isLineChar c = true) :
    SourceLines.ofText ([';'].intercalate lines) = lines := by
  have absent {mark : Char} (ends : isLineChar mark = false) : ∀ line ∈ lines, mark ∉ line :=
    fun line member => Text.not_mem_of_chars (chars line member) ends
  have noComment : '/' ∉ [';'].intercalate lines :=
    not_mem_intercalate (by decide) (absent (by decide))
  have noEnd : '\n' ∉ [';'].intercalate lines :=
    not_mem_intercalate (by decide) (absent (by decide))
  rw [SourceLines.ofText, Text.dropBlockComments_of_not_mem noComment,
    List.splitOn_eq_singleton noEnd, List.flatMap_singleton,
    Text.dropLineComment_of_not_mem noComment, List.splitOn_intercalate ';' (absent (by decide))
      present]

/-- The lines of a row: behind each semicolon stands a blank. -/
def rowLines (first : OneLine) (rest : List OneLine) : List Text :=
  first.text :: rest.map fun next => ' ' :: next.text

theorem sharing_semicolon (first : OneLine) (rest : List OneLine) :
    sharing "; ".toList (first :: rest) = [';'].intercalate (rowLines first rest) := by
  have blank (line : Text) (others : List Text) :
      [';'].intercalate ((' ' :: line) :: others) = ' ' :: [';'].intercalate (line :: others) := by
    cases others with
    | nil => rw [List.intercalate_singleton, List.intercalate_singleton]
    | cons other later =>
      rw [List.intercalate_cons_cons, List.intercalate_cons_cons]
      rfl
  induction rest generalizing first with
  | nil =>
    rw [sharing_singleton, rowLines, List.map_nil, List.intercalate_singleton]
  | cons second later ih =>
    have onward := ih second
    rw [rowLines] at onward ⊢
    rw [sharing_cons_cons, onward, List.map_cons, List.intercalate_cons_cons, blank,
      List.append_assoc]
    rfl

theorem ofText_sharing (first : OneLine) (rest : List OneLine) :
    SourceLines.ofText (sharing "; ".toList (first :: rest)) = rowLines first rest := by
  rw [sharing_semicolon]
  apply ofText_intercalate (List.cons_ne_nil _ _)
  intro line member c inLine
  rcases List.mem_cons.1 member with rfl | later
  · exact first.text_part.chars c inLine
  · obtain ⟨next, -, rfl⟩ := List.mem_map.1 later
    rcases List.mem_cons.1 inLine with rfl | inText
    · decide
    · exact next.text_part.chars c inText

theorem readable_rowLines (first : OneLine) (rest : List OneLine) :
    Printed.readable (rowLines first rest) = Printed.readable ((first :: rest).map text) := by
  have indented (next : OneLine) : Text.trim (SourceLines.dropLineComment (' ' :: next.text)) =
      Text.trim (SourceLines.dropLineComment next.text) := by
    have noComment : '/' ∉ next.text := Text.not_mem_of_chars next.text_part.chars (by decide)
    have padded := Text.trim_padded next.text_part.tidy Text.allBlank_blank Text.AllBlank.nil
    rw [List.append_nil] at padded
    rw [Text.dropLineComment_of_not_mem noComment, Text.trim_of_tidy next.text_part.tidy,
      Text.dropLineComment_of_not_mem (by simp [noComment])]
    exact padded
  rw [Printed.readable, Printed.readable, rowLines, List.map_cons, List.map_cons, List.map_cons,
    List.map_map, List.map_map]
  congr 2
  exact List.map_congr_left fun next _ => indented next

/-- Declarations with blanks between them on one line are read as the first one of them, under the
name of the first struct if there is one. With semicolons between them, all of them are read as from
lines of their own. -/
theorem readAll_sharing (d : Declarations) (first : OneLine) (rest : List OneLine) :
    (Reading.mk d .idle).readAll [sharing " ".toList (first :: rest)] =
        (Reading.mk d .idle).readAll [(first.under (firstStruct? (first :: rest))).text] ∧
      (Reading.mk d .idle).readAll (SourceLines.ofText (sharing "; ".toList (first :: rest))) =
        (Reading.mk d .idle).readAll ((first :: rest).map text) := by
  constructor
  · have line := readLine_sharing_first (d := d) first rest
    simp only [Reading.readAll, Reading.readLines, ← line]
    rfl
  · rw [ofText_sharing, Reading.readAll, Reading.readAll,
      Printed.readLines_congr (readable_rowLines first rest)]

/-! ## Declarations that are lost -/

def moonLine : OneLine :=
  .struct ⟨"Moon".toList, by decide, List.all_eq_true.1 (by decide), by decide⟩
    [⟨⟨"phase".toList, by decide, List.all_eq_true.1 (by decide), by decide⟩,
      ⟨"f32".toList, Free.literal (by decide)⟩⟩]

def sunLine : OneLine :=
  .struct ⟨"Sun".toList, by decide, List.all_eq_true.1 (by decide), by decide⟩
    [⟨⟨"colour".toList, by decide, List.all_eq_true.1 (by decide), by decide⟩,
      ⟨"vec4<f32>".toList, Free.literal (by decide)⟩⟩]

def lampLine : OneLine :=
  .uniform 0 1 ⟨"Lamp".toList, by decide, List.all_eq_true.1 (by decide), by decide⟩
    [⟨⟨"power".toList, by decide, List.all_eq_true.1 (by decide), by decide⟩,
      ⟨"f32".toList, Free.literal (by decide)⟩⟩]

/-- The second of two structs is lost, and a struct behind a block gets the members of the block,
which is lost itself. -/
theorem sharing_loses_declarations :
    let structs := (Reading.start.readAll [sharing " ".toList [moonLine, sunLine]]).reading
    let mixed := (Reading.start.readAll [sharing " ".toList [lampLine, sunLine]]).reading
    structs ≠ (Reading.start.readAll ([moonLine, sunLine].map text)).reading ∧
      structs.declared.structs.entries = [("Moon".toList, [⟨"phase", "f32"⟩])] ∧
      mixed ≠ (Reading.start.readAll ([lampLine, sunLine].map text)).reading ∧
      mixed.declared.structs.entries = [("Sun".toList, [⟨"power", "f32"⟩])] ∧
      mixed.declared.uniforms.entries = [] := by
  decide +kernel

end OneLine

end ShaderInterface
