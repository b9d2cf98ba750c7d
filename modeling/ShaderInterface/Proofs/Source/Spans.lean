import ShaderInterface.EntryPoint
import ShaderInterface.Proofs.Fallible

set_option autoImplicit false

namespace ShaderInterface.SourceLines

variable {phrase line : Text} {lines front back : List Text} {found : Nat}

theorem findIdx?_eq_some_iff_append {p : Text → Bool} :
    lines.findIdx? p = some found ↔ ∃ before line behind, lines = before ++ line :: behind ∧
      before.length = found ∧ p line = true ∧ ∀ other ∈ before, p other = false := by
  constructor
  · intro hit
    obtain ⟨lt, here, earlier⟩ := List.findIdx?_eq_some_iff_getElem.1 hit
    refine ⟨lines.take found, lines[found], lines.drop (found + 1), ?_, ?_, here, ?_⟩
    · rw [← List.drop_eq_getElem_cons lt, List.take_append_drop]
    · rw [List.length_take]
      omega
    · intro other member
      obtain ⟨index, before, rfl⟩ := List.mem_take_iff_getElem.1 member
      exact Bool.eq_false_iff.2 (earlier index (by omega))
  · rintro ⟨before, line, behind, rfl, rfl, here, earlier⟩
    rw [List.findIdx?_append, List.findIdx?_eq_none_iff.2 earlier, List.findIdx?_cons, if_pos here]
    simp

theorem lt_length_of_find? (hit : find? phrase lines = some found) : found < lines.length := by
  obtain ⟨within, -⟩ := List.findIdx?_eq_some_iff_getElem.1 hit
  exact within

theorem find?_append_of_eq_some (hit : find? phrase front = some found) (back : List Text) :
    find? phrase (front ++ back) = some found := by
  rw [find?] at hit ⊢
  rw [List.findIdx?_append, hit, Option.some_or]

theorem find?_append_of_absent (absent : ∀ line ∈ front, Text.includes phrase line = false)
    (back : List Text) :
    find? phrase (front ++ back) = (find? phrase back).map (· + front.length) := by
  rw [find?, List.findIdx?_append, List.findIdx?_eq_none_iff.2 absent, Option.none_or]
  rfl

theorem find?_of_lt (hit : find? phrase (front ++ back) = some found)
    (within : found < front.length) : find? phrase front = some found := by
  rw [find?, List.findIdx?_append] at hit
  rw [find?]
  cases here : front.findIdx? (Text.includes phrase) with
  | some index => rwa [here, Option.some_or] at hit
  | none =>
    rw [here, Option.none_or] at hit
    obtain ⟨index, -, same⟩ := Option.map_eq_some_iff.1 hit
    omega

/-- A search that passes over the front finds nothing there. -/
theorem absent_of_le (hit : find? phrase (front ++ back) = some found)
    (beyond : front.length ≤ found) : ∀ line ∈ front, Text.includes phrase line = false := by
  intro line member
  obtain ⟨index, within, rfl⟩ := List.getElem_of_mem member
  obtain ⟨_, _, earlier⟩ := List.findIdx?_eq_some_iff_getElem.1 hit
  have before := earlier index (Nat.lt_of_lt_of_le within beyond)
  rw [List.getElem_append_left within] at before
  exact Bool.eq_false_iff.2 before

/-- The lines hold data blocks with these contents. A block runs from a line that opens it to the
next line that closes it, and none is opened inside. -/
inductive HasBlocks : List Text → List (List Text) → Prop where
  | nil : HasBlocks [] []
  | skip {line : Text} {rest : List Text} {blocks : List (List Text)}
      (other : opensData line = false) (later : HasBlocks rest blocks) :
      HasBlocks (line :: rest) blocks
  | block {opening closing : Text} {inside rest : List Text} {blocks : List (List Text)}
      (opens : opensData opening = true)
      (between : ∀ line ∈ inside, closesData line = false ∧ opensData line = false)
      (closes : closesData closing = true) (later : HasBlocks rest blocks) :
      HasBlocks (opening :: (inside ++ closing :: rest)) (inside :: blocks)

theorem hasBlocks_of_dataBlocksFrom {above : Nat} {blocks : List (List Text)}
    (success : dataBlocksFrom above lines = .ok blocks) : HasBlocks lines blocks := by
  induction above, lines using dataBlocksFrom.induct generalizing blocks with
  | case1 above =>
    rw [dataBlocksFrom] at success
    cases success
    exact .nil
  | case2 above line rest opens unclosed =>
    rw [dataBlocksFrom, if_pos opens, unclosed] at success
    cases success
  | case3 above line rest opens size closed inner nested =>
    rw [dataBlocksFrom, if_pos opens, closed] at success
    simp only [nested] at success
    cases success
  | case4 above line rest opens size closed flat ih =>
    rw [dataBlocksFrom, if_pos opens, closed] at success
    simp only [flat] at success
    obtain ⟨others, later, rfl⟩ := Fallible.map_eq_ok_iff.1 success
    obtain ⟨inside, closing, behind, rfl, rfl, closes, unclosed⟩ :=
      findIdx?_eq_some_iff_append.1 closed
    have taken : (inside ++ closing :: behind).take inside.length = inside := List.take_left
    have dropped : (inside ++ closing :: behind).drop (inside.length + 1) = behind := by simp
    rw [taken] at flat ⊢
    rw [dropped] at ih later
    refine .block opens ?_ closes (ih later)
    exact fun line member => ⟨unclosed line member, List.findIdx?_eq_none_iff.1 flat line member⟩
  | case5 above line rest other ih =>
    rw [dataBlocksFrom, if_neg other] at success
    exact .skip (Bool.eq_false_iff.2 other) (ih success)

theorem HasBlocks.dataBlocksFrom {blocks : List (List Text)} (has : HasBlocks lines blocks)
    (above : Nat) : dataBlocksFrom above lines = .ok blocks := by
  induction has generalizing above with
  | nil => rw [SourceLines.dataBlocksFrom]
  | skip other later ih => rw [SourceLines.dataBlocksFrom, if_neg (by simp [other]), ih]
  | @block opening closing inside rest blocks opens between closes later ih =>
    have closed : (inside ++ closing :: rest).findIdx? closesData = some inside.length :=
      findIdx?_eq_some_iff_append.2
        ⟨inside, closing, rest, rfl, rfl, closes, fun line member => (between line member).1⟩
    have flat : inside.findIdx? opensData = none :=
      List.findIdx?_eq_none_iff.2 fun line member => (between line member).2
    have dropped : (inside ++ closing :: rest).drop (inside.length + 1) = rest := by simp
    rw [SourceLines.dataBlocksFrom, if_pos opens, closed]
    simp only [List.take_left, flat, dropped]
    rw [ih]
    rfl

/-- The data blocks are read exactly when the lines hold them. -/
theorem dataBlocks_eq_ok_iff {blocks : List (List Text)} :
    dataBlocks lines = .ok blocks ↔ HasBlocks lines blocks :=
  ⟨hasBlocks_of_dataBlocksFrom, fun has => has.dataBlocksFrom 0⟩

namespace HasBlocks

variable {blocks others : List (List Text)}

theorem append (first : HasBlocks front blocks) (second : HasBlocks back others) :
    HasBlocks (front ++ back) (blocks ++ others) := by
  induction first with
  | nil => exact second
  | skip other _ ih => exact .skip other ih
  | block opens between closes _ ih =>
    rw [List.cons_append, List.append_assoc, List.cons_append, List.cons_append]
    exact .block opens between closes ih

theorem of_plain (plain : ∀ line ∈ lines, opensData line = false) : HasBlocks lines [] := by
  induction lines with
  | nil => exact .nil
  | cons line rest ih =>
    obtain ⟨other, later⟩ := List.forall_mem_cons.1 plain
    exact .skip other (ih later)

end HasBlocks

/-- The line that closes the data block which opens with line `first`, if one does. -/
def blockEnd? (lines : List Text) (first : Nat) : Option Nat :=
  match lines.drop first with
  | [] => none
  | opening :: rest =>
      if opensData opening then (rest.findIdx? closesData).map (first + 1 + ·) else none

variable {first last : Nat}

theorem blockEnd?_eq_some_iff : blockEnd? lines first = some last ↔
    ∃ opening rest size, lines.drop first = opening :: rest ∧ opensData opening = true ∧
      rest.findIdx? closesData = some size ∧ last = first + 1 + size := by
  rw [blockEnd?]
  constructor
  · intro found
    split at found
    · cases found
    · next opening rest here =>
      split at found
      · next opens =>
        obtain ⟨size, closed, rfl⟩ := Option.map_eq_some_iff.1 found
        exact ⟨opening, rest, size, here, opens, closed, rfl⟩
      · cases found
  · rintro ⟨opening, rest, size, here, opens, closed, rfl⟩
    simp only [here, opens, closed, if_true, Option.map_some]

theorem blockEnd?_prepend (block : blockEnd? back first = some last) (front : List Text) :
    blockEnd? (front ++ back) (front.length + first) = some (front.length + last) := by
  obtain ⟨opening, rest, size, here, opens, closed, rfl⟩ := blockEnd?_eq_some_iff.1 block
  refine blockEnd?_eq_some_iff.2 ⟨opening, rest, size, ?_, opens, closed, by omega⟩
  rw [List.drop_length_add_append, here]

theorem lt_length_of_blockEnd? (block : blockEnd? lines first = some last) :
    first < lines.length := by
  obtain ⟨opening, rest, size, here, -⟩ := blockEnd?_eq_some_iff.1 block
  have lengths := congrArg List.length here
  rw [List.length_drop, List.length_cons] at lengths
  omega

theorem blockEnd?_of_between {opening closing : Text} {inside rest : List Text}
    (opens : opensData opening = true) (between : ∀ line ∈ inside, closesData line = false)
    (closes : closesData closing = true) :
    blockEnd? (opening :: (inside ++ closing :: rest)) 0 = some (1 + inside.length) := by
  refine blockEnd?_eq_some_iff.2
    ⟨opening, inside ++ closing :: rest, inside.length, rfl, opens, ?_, by omega⟩
  exact findIdx?_eq_some_iff_append.2 ⟨inside, closing, rest, rfl, rfl, closes, between⟩

end ShaderInterface.SourceLines

namespace ShaderInterface.Signature

open SourceLines (find?)

variable {marker text : Text} {front lines : List Text}

/-- The first and the last line of the passage with `marker`, if there is one. -/
def passageSpan? (marker : Text) (lines : List Text) : Option (Nat × Nat) :=
  (find? marker lines).bind fun start =>
    (find? "\x7b" (lines.drop start)).map fun size => (start, start + size)

theorem passage_eq_ok_iff : passage marker lines = .ok text ↔
    ∃ start size, find? marker lines = some start ∧ find? "\x7b" (lines.drop start) = some size ∧
      text = List.intercalate " ".toList ((lines.drop start).take (size + 1)) := by
  rw [passage]
  constructor
  · intro success
    split at success
    · cases success
    · next start marked =>
      split at success
      · cases success
      · next size braced =>
        cases success
        exact ⟨start, size, marked, braced, rfl⟩
  · rintro ⟨start, size, marked, braced, rfl⟩
    simp only [marked, braced]

/-- A passage in the front is the passage of the whole. -/
theorem passage_append (success : passage marker front = .ok text) (back : List Text) :
    passage marker (front ++ back) = .ok text := by
  obtain ⟨start, size, marked, braced, rfl⟩ := passage_eq_ok_iff.1 success
  have before : start < front.length := SourceLines.lt_length_of_find? marked
  have within : size < (front.drop start).length := SourceLines.lt_length_of_find? braced
  have dropped : (front ++ back).drop start = front.drop start ++ back :=
    List.drop_append_of_le_length (Nat.le_of_lt before)
  refine passage_eq_ok_iff.2 ⟨start, size, SourceLines.find?_append_of_eq_some marked back, ?_, ?_⟩
  · rw [dropped]
    exact SourceLines.find?_append_of_eq_some braced back
  · rw [dropped, List.take_append_of_le_length within]

/-- Without the marker in the front, the passage is that of the back. -/
theorem passage_append_of_absent (absent : ∀ line ∈ front, Text.includes marker line = false)
    (back : List Text) : passage marker (front ++ back) = passage marker back := by
  rw [passage, passage, SourceLines.find?_append_of_absent absent]
  cases marked : find? marker back with
  | none => rfl
  | some start =>
    have dropped : (front ++ back).drop (start + front.length) = back.drop start := by
      rw [Nat.add_comm, List.drop_length_add_append]
    simp only [Option.map_some, dropped]

/-- A passage can be cut out of the lines, behind others without the marker. -/
theorem exists_cut_of_passage (success : passage marker lines = .ok text) :
    ∃ front body behind last, lines = front ++ body ++ behind ∧
      passageSpan? marker (front ++ body ++ behind) = some (front.length, last) ∧
      front.length + body.length = last + 1 ∧
      (∀ line ∈ front, Text.includes marker line = false) ∧ passage marker body = .ok text := by
  obtain ⟨start, size, marked, braced, rfl⟩ := passage_eq_ok_iff.1 success
  have before : start < lines.length := SourceLines.lt_length_of_find? marked
  have within : size < (lines.drop start).length := SourceLines.lt_length_of_find? braced
  obtain ⟨front, rest, rfl, rfl⟩ : ∃ front rest, lines = front ++ rest ∧ front.length = start :=
    ⟨lines.take start, lines.drop start, (List.take_append_drop start lines).symm,
      List.length_take_of_le (Nat.le_of_lt before)⟩
  rw [List.drop_left] at braced within
  obtain ⟨body, behind, rfl, cut⟩ : ∃ body behind, rest = body ++ behind ∧ body.length = size + 1 :=
    ⟨rest.take (size + 1), rest.drop (size + 1), (List.take_append_drop _ rest).symm,
      List.length_take_of_le within⟩
  have absent := SourceLines.absent_of_le marked (Nat.le_refl _)
  have starts : find? marker (body ++ behind) = some 0 := by
    rw [SourceLines.find?_append_of_absent absent] at marked
    obtain ⟨index, here, same⟩ := Option.map_eq_some_iff.1 marked
    rwa [show index = 0 by omega] at here
  have markedAlone : find? marker body = some 0 := SourceLines.find?_of_lt starts (by omega)
  have bracedAlone : find? "\x7b" body = some size := SourceLines.find?_of_lt braced (by omega)
  refine ⟨front, body, behind, front.length + size, (List.append_assoc ..).symm, ?_, by omega,
    absent, ?_⟩
  · rw [List.append_assoc, passageSpan?, marked, Option.bind_some, List.drop_left, braced,
      Option.map_some]
  · refine passage_eq_ok_iff.2 ⟨0, size, markedAlone, bracedAlone, ?_⟩
    rw [List.drop_left, List.drop_zero, ← cut, List.take_left, List.take_length]

theorem ofLines_append {signature : Signature} (success : ofLines marker front = .ok signature)
    (back : List Text) : ofLines marker (front ++ back) = .ok signature := by
  obtain ⟨text, found, signed⟩ := Fallible.bind_eq_ok_iff.1 success
  rw [ofLines, passage_append found back]
  exact signed

theorem ofLines_append_of_absent (absent : ∀ line ∈ front, Text.includes marker line = false)
    (back : List Text) : ofLines marker (front ++ back) = ofLines marker back := by
  rw [ofLines, passage_append_of_absent absent back]
  rfl

end ShaderInterface.Signature
