import ShaderInterface.Proofs.Declaration.Bodies
import ShaderInterface.Proofs.Declaration.Requests

set_option autoImplicit false

namespace ShaderInterface.Printed

open Text (AllBlank beside)

variable {before tail : Text}

def Role.tag? : Role → Option Text
  | uniform => none
  | pushConstant _ tag => some tag.word.text

def Place.placement (place : Place) : Placement := ⟨place.group, place.binding, place.role.tag?⟩

/-- A printed number as it is read. Only its length can make it unreadable. -/
def readNumber (n : Nat) : Except ShaderError Nat :=
  match Text.numeral? (Text.decimal n) with
  | none => .error (.unreadableNumber (Text.decimal n))
  | some value => .ok value

/-- A printed number between parentheses, the first ones of a text. -/
theorem number_printed (line : Text) {lead : Text} (noParenthesis : '(' ∉ lead) (n : Nat)
    (behind : Text) :
    Placement.number line (lead ++ '(' :: (Text.decimal n ++ ')' :: behind)) =
      (readNumber n).map fun value => (value, behind) := by
  have noClosing : ')' ∉ Text.decimal n := by
    intro member
    exact absurd (Text.isDigit_of_mem_decimal member) (by decide)
  have trimmed : Text.trim (Text.decimal n) = Text.decimal n :=
    Text.trim_of_tidy (decimal_plain n).tidy
  have digits : (Text.decimal n).all Text.isDigit = true := by
    rw [List.all_eq_true]
    intro c member
    exact Text.isDigit_of_isDigit (Text.isDigit_of_mem_decimal member)
  unfold Placement.number readNumber
  simp only [Text.cutAt?_append_cons noParenthesis, Text.cutAt?_append_cons noClosing, trimmed,
    digits, Text.decimal_ne_nil]
  cases Text.numeral? (Text.decimal n) <;> simp [Except.map]

theorem number_enclosed (line : Text) {lead : Text} (noParenthesis : '(' ∉ lead) {n : Nat}
    (readable : (Text.decimal n).length ≤ Text.numeralLimit) (behind : Text) :
    Placement.number line (lead ++ '(' :: (Text.decimal n ++ ')' :: behind)) = .ok (n, behind) := by
  rw [number_printed line noParenthesis, readNumber, Text.numeral?_decimal readable]
  rfl

theorem openAttribute?_eq_none (noAt : (tail.dropWhile Text.isBlank).head? ≠ some '@') :
    Placement.openAttribute? tail = none := by
  unfold Placement.openAttribute?
  split
  · next named starts =>
    rw [starts] at noAt
    exact absurd rfl noAt
  · rfl

theorem openAttribute?_printed (blankBefore : AllBlank before) (inside : Text) :
    Placement.openAttribute? (before ++ '@' :: ("push_constant".toList ++ '(' :: inside)) =
      some inside := by
  have start : (before ++ '@' :: ("push_constant".toList ++ '(' :: inside)).dropWhile Text.isBlank =
      '@' :: ("push_constant".toList ++ '(' :: inside) :=
    Text.dropWhile_run blankBefore rfl
  have name : ("push_constant".toList ++ '(' :: inside).dropWhile Text.isWord = '(' :: inside :=
    Text.dropWhile_run (List.all_eq_true.1 (by decide)) rfl
  have named : ("push_constant".toList ++ '(' :: inside).head?.any Text.isWord = true := rfl
  unfold Placement.openAttribute?
  rw [start]
  simp only [named, if_true, name]
  rw [List.dropWhile_cons_of_neg (by decide)]
  rfl

/-- A tag is found, with the blanks in front of it, and nothing is taken for one. -/
theorem tag_printed (line : Text) (role : Role) (blankBefore : AllBlank before)
    (noAt : (tail.dropWhile Text.isBlank).head? ≠ some '@') :
    ∃ gap, AllBlank gap ∧
      Placement.tag line (before ++ (role.text ++ tail)) = .ok (role.tag?, gap ++ tail) := by
  cases role with
  | uniform =>
    have skipped : (before ++ tail).dropWhile Text.isBlank = tail.dropWhile Text.isBlank :=
      List.dropWhile_append_of_pos blankBefore
    have absent : Placement.openAttribute? (before ++ tail) = none := by
      apply openAttribute?_eq_none
      rwa [skipped]
    refine ⟨before, blankBefore, ?_⟩
    change Placement.tag line (before ++ tail) = .ok (none, before ++ tail)
    rw [Placement.tag, absent]
  | pushConstant stage tag =>
    refine ⟨[], AllBlank.nil, ?_⟩
    have noClosing : ')' ∉ tag.word.text := Text.not_mem_of_chars tag.word.named (by decide)
    have found := openAttribute?_printed blankBefore (tag.word.text ++ ')' :: tail)
    have spelled : (Role.pushConstant stage tag).text ++ tail =
        '@' :: ("push_constant".toList ++ '(' :: (tag.word.text ++ ')' :: tail)) := by
      change "@push_constant(".toList ++ (tag.word.text ++ [')']) ++ tail = _
      simp
    rw [spelled, Placement.tag, found]
    simp only [Text.cutAt?_append_cons noClosing, Text.trim_of_tidy tag.word.plain.tidy]
    rfl

theorem Place.text_append (place : Place) (tail : Text) :
    ∃ gap, AllBlank gap ∧ place.text ++ tail =
      "@group(".toList ++ (Text.decimal place.group ++ ')' :: ' ' ::
        ("@binding(".toList ++ (Text.decimal place.binding ++ ')' ::
          (gap ++ (place.role.text ++ tail))))) := by
  have numbers : beside ("@group(".toList ++ (Text.decimal place.group ++ [')']))
      ("@binding(".toList ++ (Text.decimal place.binding ++ [')'])) =
        "@group(".toList ++ (Text.decimal place.group ++ [')']) ++
          ' ' :: ("@binding(".toList ++ (Text.decimal place.binding ++ [')'])) :=
    Text.beside_of_ne_nil (by simp) (by simp)
  unfold Place.text
  rw [numbers]
  obtain ⟨gap, blank, apart⟩ := Text.beside_eq
    ("@group(".toList ++ (Text.decimal place.group ++ [')']) ++
      ' ' :: ("@binding(".toList ++ (Text.decimal place.binding ++ [')']))) place.role.text
  refine ⟨gap, blank, ?_⟩
  rw [apart]
  simp only [List.append_assoc, List.cons_append, List.nil_append]

/-- A place is read back with what stands behind it, as long as that is not taken for a tag. -/
theorem ofLine_place (place : Place) (noAt : (tail.dropWhile Text.isBlank).head? ≠ some '@') :
    ∃ gap, AllBlank gap ∧
      Placement.ofLine (place.text ++ tail) = .ok (place.placement, gap ++ tail) := by
  obtain ⟨blanks, blankBefore, spelled⟩ := place.text_append tail
  have noGroup : '(' ∉ "@group".toList := by decide
  have noBinding : '(' ∉ " @binding".toList := by decide
  have group := number_enclosed (place.text ++ tail) noGroup place.groupReadable
    (' ' :: ("@binding(".toList ++ (Text.decimal place.binding ++ ')' ::
      (blanks ++ (place.role.text ++ tail)))))
  have binding := number_enclosed (place.text ++ tail) noBinding place.bindingReadable
    (blanks ++ (place.role.text ++ tail))
  obtain ⟨gap, blank, tagged⟩ := tag_printed (place.text ++ tail) place.role blankBefore noAt
  have openGroup (inside : Text) : "@group".toList ++ '(' :: inside = "@group(".toList ++ inside :=
    rfl
  have openBinding (inside : Text) :
      " @binding".toList ++ '(' :: inside = ' ' :: ("@binding(".toList ++ inside) := rfl
  rw [openGroup, ← spelled] at group
  rw [openBinding] at binding
  refine ⟨gap, blank, ?_⟩
  unfold Placement.ofLine
  rw [group]
  simp only [bind, Except.bind, binding, tagged]
  rfl

theorem mentionsPlacement_place (place : Place) (tail : Text) :
    Reading.mentionsPlacement (place.text ++ tail) = true := by
  obtain ⟨gap, -, spelled⟩ := place.text_append tail
  rw [spelled, Reading.mentionsPlacement, Bool.and_eq_true]
  constructor
  · exact Text.includes_append [] _
  · have inner : Text.includes "@binding(".toList
        ("@group(".toList ++ (Text.decimal place.group ++ [')', ' ']) ++ "@binding(".toList ++
          (Text.decimal place.binding ++ ')' :: (gap ++ (place.role.text ++ tail)))) = true :=
      Text.includes_append _ _
    simpa using inner

theorem beside_append {left right : Text} (present : right ≠ []) (more : Text) :
    beside left right ++ more = beside left (right ++ more) := by
  by_cases missing : left = []
  · rw [missing]
    rfl
  · have present' : right ++ more ≠ [] := List.append_ne_nil_of_left_ne_nil present more
    rw [Text.beside_of_ne_nil missing present, Text.beside_of_ne_nil missing present']
    simp

theorem Name.head?_text (name : Name) {p : Char → Bool}
    (never : ∀ c, Text.isNameChar c = true → p c = false) (tail : Text) :
    (name.text ++ tail).head?.any p = false := by
  obtain ⟨c, rest, spelled⟩ := List.exists_cons_of_ne_nil name.present
  have named := name.named c (by simp [spelled])
  rw [spelled]
  exact never c named

theorem Name.takeWhile_text (name : Name) (start : tail.head?.any Text.isWord = false) :
    (name.text ++ tail).takeWhile Text.isWord = name.text :=
  Text.takeWhile_run (fun c member => Text.isWord_of_isNameChar (name.named c member)) start

/-- The blanks in front of a name are dropped. -/
theorem Name.dropWhile_blank (name : Name) (blankBefore : AllBlank before) (tail : Text) :
    (before ++ (name.text ++ tail)).dropWhile Text.isBlank = name.text ++ tail :=
  Text.dropWhile_run blankBefore
    (name.head?_text (fun _ => Text.isBlank_of_isNameChar) tail)

theorem dropAddressSpace_name (name : Name) (tail : Text) :
    Reading.dropAddressSpace (name.text ++ tail) = name.text ++ tail := by
  obtain ⟨c, rest, spelled⟩ := List.exists_cons_of_ne_nil name.present
  have named := name.named c (by simp [spelled])
  have noAngle : c ≠ '<' := by
    rintro rfl
    exact absurd named (by decide)
  rw [spelled, List.cons_append]
  unfold Reading.dropAddressSpace
  split
  · next inside same => exact absurd (List.cons.inj same).1 noAngle
  · rfl

theorem addressText_noAngle (space : Name) (access? : Option Name) :
    '>' ∉ addressText space access? := by
  have noAngle (name : Name) : '>' ∉ name.text := Text.not_mem_of_chars name.named (by decide)
  cases access? with
  | none => exact noAngle space
  | some access =>
    rw [addressText, Text.beside_of_ne_nil (by simp) access.present]
    simp [noAngle]

/-- A word that starts a text is dropped from it. -/
theorem dropWord?_self {word behind : Text} (inside : ∀ c ∈ word, Text.isWord c = true)
    (start : behind.head?.any Text.isWord = false) :
    Text.dropWord? word (word ++ behind) = some behind := by
  rw [Text.dropWord?_eq inside, if_pos (Text.takeWhile_run inside start),
    Text.dropWhile_run inside start]

theorem dropWord?_of_ne {word text first : Text} (inside : ∀ c ∈ word, Text.isWord c = true)
    (starts : text.takeWhile Text.isWord = first) (apart : first ≠ word) :
    Text.dropWord? word text = none := by
  rw [Text.dropWord?_eq inside, starts, if_neg apart]

theorem isWord_of_mem_var : ∀ c ∈ "var".toList, Text.isWord c = true :=
  List.all_eq_true.1 (by decide)

theorem isWord_of_mem_uniform : ∀ c ∈ "uniform".toList, Text.isWord c = true :=
  List.all_eq_true.1 (by decide)

/-- A name that is neither of the introducing words is left with the blanks in front of it. -/
theorem dropIntroducer_name (name : Name) (apart : name.text ≠ "var".toList ∧
    name.text ≠ "uniform".toList) (blankBefore : AllBlank before)
    (start : tail.head?.any Text.isWord = false) :
    Reading.dropIntroducer (before ++ (name.text ++ tail)) = before ++ (name.text ++ tail) := by
  have first := name.takeWhile_text start
  rw [Reading.dropIntroducer, name.dropWhile_blank blankBefore,
    dropWord?_of_ne isWord_of_mem_var first apart.1,
    dropWord?_of_ne isWord_of_mem_uniform first apart.2]

theorem dropIntroducer_uniform (name : Name) (blankBefore : AllBlank before) (tail : Text) :
    Reading.dropIntroducer (before ++ ("uniform".toList ++ ' ' :: (name.text ++ tail))) =
      name.text ++ tail := by
  rw [Reading.dropIntroducer, Text.dropWhile_run blankBefore rfl,
    dropWord?_of_ne isWord_of_mem_var (Text.takeWhile_run isWord_of_mem_uniform rfl) (by decide),
    dropWord?_self isWord_of_mem_uniform rfl]
  exact name.dropWhile_blank Text.allBlank_blank tail

theorem dropIntroducer_var (name : Name) (blankBefore : AllBlank before) (tail : Text) :
    Reading.dropIntroducer (before ++ ("var".toList ++ ' ' :: (name.text ++ tail))) =
      name.text ++ tail := by
  have named : (' ' :: (name.text ++ tail)).dropWhile Text.isBlank = name.text ++ tail :=
    name.dropWhile_blank Text.allBlank_blank tail
  rw [Reading.dropIntroducer, Text.dropWhile_run blankBefore rfl,
    dropWord?_self isWord_of_mem_var rfl]
  simp only [named, dropAddressSpace_name]
  exact name.dropWhile_blank AllBlank.nil tail

/-- The keyword of a variable is dropped with its address space. -/
theorem dropIntroducer_addressed (blankBefore : AllBlank before) {space : Text}
    (absent : '>' ∉ space) (behind : Text) :
    Reading.dropIntroducer (before ++ ("var".toList ++ '<' :: (space ++ '>' :: behind))) =
      behind.dropWhile Text.isBlank := by
  rw [Reading.dropIntroducer, Text.dropWhile_run blankBefore rfl,
    dropWord?_self isWord_of_mem_var rfl]
  simp only [List.dropWhile_cons_of_neg (show ¬Text.isBlank '<' = true by decide),
    Reading.dropAddressSpace, Text.cutAt?_append_cons absent]

/-- What introduces a name is dropped, whichever of its forms it has. -/
theorem dropIntroducer_printed (introducer : Introducer) (name : Name)
    (distinguished : introducer = .none → name.text ≠ "var".toList ∧ name.text ≠ "uniform".toList)
    (blankBefore : AllBlank before) (start : tail.head?.any Text.isWord = false) :
    ∃ gap, AllBlank gap ∧
      Reading.dropIntroducer (before ++ beside introducer.text (name.text ++ tail)) =
        gap ++ (name.text ++ tail) := by
  have present : name.text ++ tail ≠ [] := List.append_ne_nil_of_left_ne_nil name.present tail
  cases introducer with
  | none => exact ⟨before, blankBefore, dropIntroducer_name name (distinguished rfl) blankBefore start⟩
  | uniform =>
    refine ⟨[], AllBlank.nil, ?_⟩
    change Reading.dropIntroducer (before ++ beside "uniform".toList (name.text ++ tail)) = _
    rw [Text.beside_of_ne_nil (by decide) present]
    exact dropIntroducer_uniform name blankBefore tail
  | var =>
    refine ⟨[], AllBlank.nil, ?_⟩
    change Reading.dropIntroducer (before ++ beside "var".toList (name.text ++ tail)) = _
    rw [Text.beside_of_ne_nil (by decide) present]
    exact dropIntroducer_var name blankBefore tail
  | addressed space access? =>
    refine ⟨[], AllBlank.nil, ?_⟩
    have spelled : beside (Introducer.addressed space access?).text (name.text ++ tail) =
        "var".toList ++
          '<' :: (addressText space access? ++ '>' :: ' ' :: (name.text ++ tail)) := by
      change beside ("var<".toList ++ (addressText space access? ++ ['>'])) (name.text ++ tail) = _
      rw [Text.beside_of_ne_nil (by simp) present]
      simp
    rw [spelled, dropIntroducer_addressed blankBefore (addressText_noAngle space access?)]
    exact name.dropWhile_blank Text.allBlank_blank tail

/-- A tag tells the stage that it is for. -/
theorem Tag.ofTag_word {stage : Stage} (tag : Tag stage) : Stage.ofTag tag.word.text = stage := by
  rw [Text.stage_ofTag_of_name tag.word.present tag.word.named]
  cases stage with
  | vertex =>
    rw [if_neg]
    intro among
    exact absurd (tag.names.1 among) (by decide)
  | fragment => rw [if_pos (tag.names.2 rfl)]

/-- A place makes the entry that the reader makes of it. -/
theorem Place.entry_eq (place : Place) (name : Text) (fields : List Field) :
    place.entry name fields = place.placement.entry name fields := by
  unfold Place.entry Placement.entry Place.placement
  cases place.role with
  | uniform => rfl
  | pushConstant stage tag => simp only [Role.tag?, tag.ofTag_word]

@[simp] theorem Place.name_entry (place : Place) (name : Text) (fields : List Field) :
    (place.entry name fields).name = name := by
  rw [place.entry_eq, Placement.name_entry]

/-- The kind of a declaration does not depend on its fields. -/
theorem Place.kind_entry (place : Place) (name : Text) (fields : List Field) :
    (place.entry name fields).kind = Reading.placedKind place.placement := by
  rw [place.entry_eq, Placement.kind_entry]

theorem Place.addFields_entry (place : Place) (name : Text) (first more : List Field) :
    (place.entry name first).addFields more = place.entry name (first ++ more) := by
  unfold Place.entry
  cases place.role <;> rfl

variable {d : Declarations} {focus : Focus}

/-- What is declared under a place is its entry. -/
theorem declare_place (place : Place) (name : Text) (fields : List Field)
    (fresh : d.declares (Reading.placedKind place.placement) name = false) :
    (Reading.mk d focus).declare name place.placement fields =
      .done ⟨d.put (place.entry name fields), .body (place.entry name fields).kind name⟩ := by
  have silent : d.redeclared (Reading.placedKind place.placement) name = [] :=
    Declarations.redeclared_of_fresh fresh
  rw [Reading.declare_eq, ← place.entry_eq, place.kind_entry, silent]
  rfl

theorem blockName_padded {name : Text} (tidy : Text.Tidy name)
    (noColon : name.getLast?.any (· == ':') = false) {gap behind : Text} (blank : AllBlank gap)
    (blankBehind : AllBlank behind) : Reading.blockName (gap ++ name ++ behind) = name := by
  rw [Reading.blockName, Text.trim_padded tidy blank blankBehind, Text.dropEndWhile_eq_self noColon,
    Text.trim_of_tidy tidy]

theorem blockName_printed (name : Name) {gap behind : Text} (blank : AllBlank gap)
    (blankBehind : AllBlank behind) :
    Reading.blockName (gap ++ name.text ++ behind) = name.text := by
  apply blockName_padded name.plain.tidy _ blank blankBehind
  cases ending : name.text.getLast? with
  | none => rfl
  | some c =>
    have named := name.named c (List.mem_of_getLast? ending)
    simp only [Option.any_some, beq_eq_false_iff_ne]
    rintro rfl
    exact absurd named (by decide)

/-- A block is declared without fields, and its body is read on. -/
theorem declarePlaced_block (resource : Resource) {body : Body}
    (shape : resource.shape = .block body)
    (fresh : d.declares (Reading.placedKind resource.place.placement) resource.name.text = false)
    (blankBefore : AllBlank before) (behind : Text) :
    (Reading.mk d focus).declarePlaced (before ++ (resource.head ++ behind))
        resource.place.placement =
      (Reading.mk (d.put (resource.place.entry resource.name.text []))
        (.body (resource.place.entry resource.name.text []).kind resource.name.text)).readBody
          behind := by
  have head : resource.head ++ behind =
      beside resource.introducer.text (resource.name.text ++ ' ' :: '\x7b' :: behind) := by
    unfold Resource.head
    rw [shape]
    simp only
    rw [Text.beside_of_ne_nil resource.name.present (by simp), beside_append (by simp)]
    simp
  have start : (' ' :: '\x7b' :: behind).head?.any Text.isWord = false := rfl
  obtain ⟨gap, blank, remainder⟩ := dropIntroducer_printed resource.introducer resource.name
    resource.distinguished blankBefore start
  have opening : gap ++ (resource.name.text ++ ' ' :: '\x7b' :: behind) =
      (gap ++ resource.name.text ++ [' ']) ++ '\x7b' :: behind := by simp
  have noBrace : '\x7b' ∉ gap ++ resource.name.text ++ [' '] :=
    not_mem_padded blank Text.allBlank_blank
      (Text.not_mem_of_chars resource.name.named (by decide)) (by decide)
  rw [Reading.declarePlaced, head, remainder, opening]
  simp only [Text.cutAt?_append_cons noBrace, blockName_printed _ blank Text.allBlank_blank,
    resource.name.present, if_false, declare_place _ _ _ fresh, Step.andThen_done_left]

/-- A single field is declared with its name. -/
theorem declarePlaced_single (resource : Resource) {type : TypeName}
    (shape : resource.shape = .single type)
    (fresh : d.declares (Reading.placedKind resource.place.placement) resource.name.text = false)
    (blankBefore : AllBlank before) :
    (Reading.mk d focus).declarePlaced (before ++ resource.head) resource.place.placement =
      .done ⟨d.put resource.entry, .idle⟩ := by
  have head : resource.head =
      beside resource.introducer.text (resource.name.text ++ ':' :: ' ' :: type.text) := by
    unfold Resource.head
    rw [shape]
    exact congrArg _ (Member.text_eq ⟨resource.name, type⟩)
  have start : (':' :: ' ' :: type.text).head?.any Text.isWord = false := rfl
  obtain ⟨gap, blank, remainder⟩ := dropIntroducer_printed resource.introducer resource.name
    resource.distinguished blankBefore start
  have noBrace : Text.cutAt? '\x7b' (gap ++ Member.text ⟨resource.name, type⟩) = none := by
    have absent := not_mem_padded blank AllBlank.nil
      (Text.not_mem_of_chars (Member.plain ⟨resource.name, type⟩).chars (by decide))
      (show Text.isBlank '\x7b' = false by decide)
    rw [List.append_nil] at absent
    exact Text.cutAt?_eq_none_iff.2 absent
  have field := Member.ofText? ⟨resource.name, type⟩ blank AllBlank.nil
  have fields : resource.fields = [Member.field ⟨resource.name, type⟩] := by
    rw [Resource.fields, shape]
    rfl
  rw [List.append_nil] at field
  rw [Reading.declarePlaced, head, remainder, ← Member.text_eq ⟨resource.name, type⟩]
  simp only [noBrace, field]
  rw [Resource.entry, fields]
  exact congrArg (fun step : Step => step.andThen fun next => .done (next.turn .idle))
    (declare_place _ _ _ fresh)

/-- Lines whose first one is read as the head of a resource, and what is behind it, declare the
resource. -/
theorem readLines_linesFrom (resource : Resource) {opening : Text}
    (plain : Plain isLineChar opening)
    (reads : ∀ behind, Plain isLineChar (opening ++ behind) →
      ∃ gap, AllBlank gap ∧ (Reading.mk d focus).readLine (opening ++ behind) =
        (Reading.mk d focus).declarePlaced (gap ++ (resource.head ++ behind))
          resource.place.placement)
    (fresh : d.declares resource.entry.kind resource.entry.name = false) :
    (Reading.mk d focus).readLines (resource.linesFrom opening) =
      .done ⟨d.put resource.entry, .idle⟩ := by
  have new :
      d.declares (Reading.placedKind resource.place.placement) resource.name.text = false := by
    rw [Resource.entry, Place.kind_entry, Place.name_entry] at fresh
    exact fresh
  unfold Resource.linesFrom
  cases shape : resource.shape with
  | block body =>
    obtain ⟨gap, blank, apart⟩ := closeBefore_beside body.rest opening body.first.text
    have line : Plain isLineChar (opening ++ (gap ++ closeBefore body.rest body.first.text)) := by
      rw [← apart]
      exact closeBefore_plain body.rest (by decide) (by decide)
        (plain.beside (by decide) (body.first.plain.mono isLineChar_of_isRowChar))
    obtain ⟨skipped, blankSkipped, read⟩ := reads _ line
    have rows := readLines_body (d := d) (resource.place.entry resource.name.text []) body blank
    rw [Place.addFields_entry, List.nil_append, Place.name_entry] at rows
    simp only [Body.lines, Reading.readLines, apart, read,
      declarePlaced_block resource shape new blankSkipped, rows]
    rw [Resource.entry, Resource.fields, shape]
  | single type =>
    obtain ⟨gap, blank, read⟩ := reads [] (by rwa [List.append_nil])
    rw [List.append_nil, List.append_nil] at read
    simp only [Reading.readLines, read, declarePlaced_single resource shape new blank,
      Step.andThen_done_left]

/-- A line that starts with a place is read as one. -/
theorem readLine_place (place : Place) {behind : Text}
    (plain : Plain isLineChar (place.text ++ behind)) :
    (Reading.mk d .idle).readLine (place.text ++ behind) =
      (Reading.mk d .idle).openPlacement (place.text ++ behind) := by
  have present : ¬place.text ++ behind = [] := by
    obtain ⟨gap, -, spelled⟩ := place.text_append behind
    rw [spelled]
    simp
  rw [readLine_of_part _ plain.toPart, Reading.readStatement, if_neg present]
  simp only
  rw [Reading.readOpening, if_neg (by simp [Reading.mentionsStruct_eq_false plain.noKeyword]),
    if_pos (mentionsPlacement_place place behind)]

/-- A head starts with a character of a name. -/
theorem Resource.head_eq_cons (resource : Resource) :
    ∃ c rest, resource.head = c :: rest ∧ Text.isNameChar c = true := by
  have behind : ∃ tail, resource.head =
      beside resource.introducer.text (resource.name.text ++ tail) := by
    unfold Resource.head
    cases resource.shape with
    | block body =>
      exact ⟨[' ', '\x7b'],
        congrArg _ (Text.beside_of_ne_nil resource.name.present (by simp))⟩
    | single type => exact ⟨_, congrArg _ (Member.text_eq ⟨resource.name, type⟩)⟩
  obtain ⟨tail, spelled⟩ := behind
  have present : resource.name.text ++ tail ≠ [] :=
    List.append_ne_nil_of_left_ne_nil resource.name.present tail
  rw [spelled]
  cases resource.introducer with
  | none =>
    obtain ⟨c, rest, named⟩ := List.exists_cons_of_ne_nil resource.name.present
    refine ⟨c, rest ++ tail, ?_, resource.name.named c (by simp [named])⟩
    rw [named]
    rfl
  | uniform => exact ⟨'u', _, Text.beside_of_ne_nil (by decide) present, by decide⟩
  | var => exact ⟨'v', _, Text.beside_of_ne_nil (by decide) present, by decide⟩
  | addressed space access? =>
    have introduced : (Introducer.addressed space access?).text ≠ [] :=
      List.append_ne_nil_of_left_ne_nil (by decide) _
    exact ⟨'v', _, Text.beside_of_ne_nil introduced present, by decide⟩

theorem Resource.head_ne_nil (resource : Resource) : resource.head ≠ [] := by
  obtain ⟨c, rest, spelled, -⟩ := resource.head_eq_cons
  simp [spelled]

/-- A head is not taken for a tag. -/
theorem Resource.head_noAt (resource : Resource) (blankBefore : AllBlank before) (behind : Text) :
    ((before ++ (resource.head ++ behind)).dropWhile Text.isBlank).head? ≠ some '@' := by
  obtain ⟨c, rest, spelled, named⟩ := resource.head_eq_cons
  have solid : Text.isBlank c = false := Text.isBlank_of_isNameChar named
  have kept : (before ++ (c :: rest ++ behind)).dropWhile Text.isBlank = c :: rest ++ behind :=
    Text.dropWhile_run blankBefore solid
  rw [spelled, kept]
  intro same
  rw [Option.some.inj same] at named
  exact absurd named (by decide)

theorem Resource.trim_head_ne_nil (resource : Resource) (before behind : Text) :
    Text.trim (before ++ (resource.head ++ behind)) ≠ [] := by
  obtain ⟨c, rest, spelled, named⟩ := resource.head_eq_cons
  have kept : c ∈ Text.trim (before ++ (resource.head ++ behind)) :=
    Text.mem_trim (by simp [spelled]) (Text.isBlank_of_isNameChar named)
  exact List.ne_nil_of_mem kept

/-- A place that has a line of its own waits for its declaration. -/
theorem readLine_placeAlone (place : Place) :
    (Reading.mk d .idle).readLine place.text = .done ⟨d, .placed place.text place.placement⟩ := by
  have nothing : (([] : Text).dropWhile Text.isBlank).head? ≠ some '@' := by decide
  obtain ⟨gap, blank, found⟩ := ofLine_place place nothing
  have plain : Plain isLineChar (place.text ++ []) := by
    rw [List.append_nil]
    exact place.plain
  have line := readLine_place (d := d) place plain
  rw [Reading.openPlacement, found] at line
  simpa [Text.trim_of_allBlank blank, Reading.turn] using line

/-- Under a place, the next line is the declaration. -/
theorem readLine_head (resource : Resource) {annotated behind : Text}
    (plain : Plain isLineChar (resource.head ++ behind)) :
    (Reading.mk d (.placed annotated resource.place.placement)).readLine (resource.head ++ behind) =
      (Reading.mk d (.placed annotated resource.place.placement)).declarePlaced
        (resource.head ++ behind) resource.place.placement := by
  have present : ¬resource.head ++ behind = [] :=
    List.append_ne_nil_of_left_ne_nil resource.head_ne_nil behind
  rw [readLine_of_part _ plain.toPart, Reading.readStatement, if_neg present]

/-- A place and the declaration behind it are read from one line. -/
theorem readLine_placeWithHead (resource : Resource) {behind : Text}
    (plain : Plain isLineChar (beside resource.place.text resource.head ++ behind)) :
    ∃ gap, AllBlank gap ∧
      (Reading.mk d .idle).readLine (beside resource.place.text resource.head ++ behind) =
        (Reading.mk d .idle).declarePlaced (gap ++ (resource.head ++ behind))
          resource.place.placement := by
  obtain ⟨gap, blank, apart⟩ := Text.beside_eq resource.place.text resource.head
  rw [apart, List.append_assoc, List.append_assoc] at plain ⊢
  obtain ⟨skipped, blankSkipped, found⟩ :=
    ofLine_place resource.place (resource.head_noAt blank behind)
  have rest : skipped ++ (gap ++ (resource.head ++ behind)) =
      skipped ++ gap ++ (resource.head ++ behind) := (List.append_assoc _ _ _).symm
  refine ⟨skipped ++ gap, List.forall_mem_append.2 ⟨blankSkipped, blank⟩, ?_⟩
  rw [readLine_place _ plain, Reading.openPlacement, found]
  simp only
  rw [rest, if_neg (resource.trim_head_ne_nil _ _)]

/-- A resource is declared by its lines, whether its place has a line of its own or not. -/
theorem readLines_resource (resource : Resource)
    (fresh : d.declares resource.entry.kind resource.entry.name = false) :
    (Reading.mk d .idle).readLines resource.lines = .done ⟨d.put resource.entry, .idle⟩ := by
  unfold Resource.lines
  split
  · rw [Reading.readLines, readLine_placeAlone, Step.andThen_done_left]
    apply readLines_linesFrom resource resource.head_plain _ fresh
    intro behind plain
    exact ⟨[], AllBlank.nil, readLine_head resource plain⟩
  · apply readLines_linesFrom resource
      (resource.place.plain.beside (by decide) resource.head_plain) _ fresh
    intro behind plain
    exact readLine_placeWithHead resource plain

end ShaderInterface.Printed
