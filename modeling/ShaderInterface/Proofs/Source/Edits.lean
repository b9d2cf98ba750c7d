import ShaderInterface.Proofs.Interface.Resolution
import ShaderInterface.Proofs.Source.Spans

set_option autoImplicit false

/-!
Edits of the lines around what a shader is read from. As long as no new line opens data or names an
entry point, neither the interface of the shader nor a warning about it changes, however stray the
braces, end markers and annotations are that come and go.
-/
namespace ShaderInterface.SourceLines

open Signature (passageSpan?)

variable {line text : Text} {lines edited front body behind : List Text} {blocks : List (List Text)}
  {stage : Stage} {spans : List (Nat × Nat)} {n last : Nat}

/-- The spans that a shader is read from, by their first and last lines: the data blocks with the
lines that mark them, and the passages of the entry points. -/
def readSpans (lines : List Text) : List (Nat × Nat) :=
  ((List.range lines.length).filterMap fun first =>
    (blockEnd? lines first).map fun last => (first, last)) ++
  [Stage.vertex, Stage.fragment].filterMap fun stage => passageSpan? stage.entry lines

theorem mem_readSpans_of_block {first last : Nat} (block : blockEnd? lines first = some last) :
    (first, last) ∈ readSpans lines := by
  refine List.mem_append_left _ (List.mem_filterMap.2 ⟨first, List.mem_range.2 ?_, ?_⟩)
  · exact lt_length_of_blockEnd? block
  · rw [block, Option.map_some]

theorem mem_readSpans_of_passage {span : Nat × Nat}
    (found : passageSpan? stage.entry lines = some span) : span ∈ readSpans lines := by
  refine List.mem_append_right _ (List.mem_filterMap.2 ⟨stage, ?_, found⟩)
  cases stage <;> simp

/-- The line neither opens data nor names an entry point. -/
structure Inert (line : Text) : Prop where
  plain : opensData line = false
  unmarked : ∀ stage : Stage, Text.includes stage.entry line = false

instance (line : Text) : Decidable (Inert line) :=
  decidable_of_iff (opensData line = false ∧
      Text.includes Stage.vertex.entry line = false ∧
      Text.includes Stage.fragment.entry line = false)
    ⟨fun ⟨plain, vertex, fragment⟩ => ⟨plain, fun | .vertex => vertex | .fragment => fragment⟩,
      fun inert => ⟨inert.plain, inert.unmarked .vertex, inert.unmarked .fragment⟩⟩

/-- The lines of a source from number `n` on, and what an edit makes of them that deletes lines
outside of `spans` and inserts inert ones there. -/
inductive Revised (spans : List (Nat × Nat)) : Nat → List Text → List Text → Prop where
  | done {n : Nat} : Revised spans n [] []
  | keep {n : Nat} {line : Text} {lines edited : List Text}
      (later : Revised spans (n + 1) lines edited) : Revised spans n (line :: lines) (line :: edited)
  | delete {n : Nat} {line : Text} {lines edited : List Text}
      (outside : ∀ span ∈ spans, n < span.1 ∨ span.2 < n)
      (later : Revised spans (n + 1) lines edited) : Revised spans n (line :: lines) edited
  | insert {n : Nat} {line : Text} {lines edited : List Text}
      (between : ∀ span ∈ spans, n ≤ span.1 ∨ span.2 < n) (inert : Inert line)
      (later : Revised spans n lines edited) : Revised spans n lines (line :: edited)

namespace Revised

/-- A line is replaced when another is inserted in front of it and it is deleted. -/
theorem replace {other : Text} (outside : ∀ span ∈ spans, n < span.1 ∨ span.2 < n)
    (inert : Inert other) (later : Revised spans (n + 1) lines edited) :
    Revised spans n (line :: lines) (other :: edited) := by
  refine .insert (fun span member => ?_) inert (.delete outside later)
  exact (outside span member).imp_left Nat.le_of_lt

theorem mem (revised : Revised spans n lines edited) :
    ∀ line ∈ edited, line ∈ lines ∨ Inert line := by
  induction revised with
  | done => exact fun _ member => absurd member List.not_mem_nil
  | keep _ ih =>
    refine List.forall_mem_cons.2 ⟨.inl (List.mem_cons_self ..), fun line member => ?_⟩
    exact (ih line member).imp_left (List.mem_cons_of_mem _)
  | delete _ _ ih => exact fun line member => (ih line member).imp_left (List.mem_cons_of_mem _)
  | insert _ inert _ ih => exact List.forall_mem_cons.2 ⟨.inr inert, ih⟩

/-- The lines that are inserted in front of a line are taken with it. -/
theorem uncons (revised : Revised spans n (line :: lines) edited) :
    ∃ here later, edited = here ++ later ∧ Revised spans n [line] here ∧
      Revised spans (n + 1) lines later := by
  generalize same : line :: lines = whole at revised
  induction revised with
  | done => cases same
  | keep later _ =>
    cases same
    exact ⟨[line], _, rfl, .keep .done, later⟩
  | delete outside later _ =>
    cases same
    exact ⟨[], _, rfl, .delete outside .done, later⟩
  | insert between inert _ ih =>
    obtain ⟨here, later, rfl, revised, onward⟩ := ih same
    exact ⟨_ :: here, later, rfl, .insert between inert revised, onward⟩

/-- Behind the first line of a span, its lines are kept as they follow each other. -/
theorem rest_kept {first : Nat} (span : (first, last) ∈ spans) (inside : first < n)
    (ending : n + body.length = last + 1) (revised : Revised spans n (body ++ behind) edited) :
    ∃ later, edited = body ++ later ∧ Revised spans (last + 1) behind later := by
  induction body generalizing n edited with
  | nil =>
    obtain rfl : n = last + 1 := ending
    exact ⟨edited, rfl, revised⟩
  | cons line body ih =>
    rw [List.length_cons] at ending
    cases revised with
    | keep later =>
      obtain ⟨after, rfl, behind⟩ := ih (by omega) (by omega) later
      exact ⟨after, rfl, behind⟩
    | delete outside _ =>
      have := outside _ span
      omega
    | insert between _ _ =>
      have := between _ span
      omega

/-- The lines of a span are kept, and those in front of it are edited apart from them. -/
theorem span_kept (span : (n + front.length, last) ∈ spans) (present : body ≠ [])
    (ending : n + front.length + body.length = last + 1)
    (revised : Revised spans n (front ++ body ++ behind) edited) :
    ∃ before later, edited = before ++ body ++ later ∧ Revised spans n front before ∧
      Revised spans (last + 1) behind later := by
  generalize same : front ++ body ++ behind = whole at revised
  induction revised generalizing front with
  | done => simp [present] at same
  | @keep n _ _ _ later ih =>
    cases front with
    | nil =>
      obtain ⟨opening, body, rfl⟩ := List.exists_cons_of_ne_nil present
      obtain ⟨rfl, rfl⟩ := List.cons.inj same
      rw [List.length_cons, List.length_nil] at ending
      obtain ⟨after, rfl, behind⟩ := later.rest_kept span (Nat.lt_succ_self n) (by omega)
      exact ⟨[], after, rfl, .done, behind⟩
    | cons _ front =>
      obtain ⟨rfl, rest⟩ := List.cons.inj same
      rw [List.length_cons, Nat.add_comm front.length, ← Nat.add_assoc] at span ending
      obtain ⟨before, after, rfl, ahead, behind⟩ := ih span ending rest
      exact ⟨_ :: before, after, rfl, .keep ahead, behind⟩
  | delete outside later ih =>
    cases front with
    | nil =>
      rw [List.length_nil] at span ending
      have := outside _ span
      have := List.length_pos_iff.2 present
      omega
    | cons _ front =>
      obtain ⟨rfl, rest⟩ := List.cons.inj same
      rw [List.length_cons, Nat.add_comm front.length, ← Nat.add_assoc] at span ending
      obtain ⟨before, after, rfl, ahead, behind⟩ := ih span ending rest
      exact ⟨before, after, rfl, .delete outside ahead, behind⟩
  | insert between inert _ ih =>
    obtain ⟨before, after, rfl, ahead, behind⟩ := ih span ending same
    exact ⟨_ :: before, after, rfl, .insert between inert ahead, behind⟩

end Revised

theorem HasBlocks.of_revised (plain : ∀ line ∈ lines, opensData line = false)
    (revised : Revised spans n lines edited) : HasBlocks edited [] := by
  refine .of_plain fun line member => ?_
  rcases revised.mem line member with old | inert
  · exact plain line old
  · exact inert.plain

/-- An edit that keeps the spans of all data blocks keeps the blocks. -/
theorem HasBlocks.revised (has : HasBlocks lines blocks)
    (covered : ∀ first last, blockEnd? lines first = some last → (n + first, n + last) ∈ spans)
    (revised : Revised spans n lines edited) : HasBlocks edited blocks := by
  induction has generalizing n edited with
  | nil => exact .of_revised (by simp) revised
  | @skip line rest blocks other later ih =>
    obtain ⟨here, after, rfl, ahead, revised⟩ := revised.uncons
    have plain : HasBlocks here [] := .of_revised (by simpa using other) ahead
    refine plain.append (ih (fun first last block => ?_) revised)
    have moved := covered _ _ (blockEnd?_prepend block [line])
    rwa [List.length_singleton, ← Nat.add_assoc, ← Nat.add_assoc] at moved
  | @block opening closing inside rest blocks opens between closes later ih =>
    let body : List Text := opening :: (inside ++ [closing])
    have whole : opening :: (inside ++ closing :: rest) = [] ++ body ++ rest := by simp [body]
    have size : body.length = inside.length + 2 := by simp [body]
    have span := covered _ _
      (blockEnd?_of_between opens (fun line member => (between line member).1) closes)
    rw [whole] at revised covered
    obtain ⟨before, after, rfl, ahead, revised⟩ :=
      revised.span_kept span (by simp [body]) (by rw [List.length_nil]; omega)
    have plain : HasBlocks before [] := .of_revised (by simp) ahead
    have onward : HasBlocks after blocks := by
      refine ih (fun first last block => ?_) revised
      have moved := covered _ _ (blockEnd?_prepend block body)
      rw [size] at moved
      convert moved using 2 <;> omega
    have same : body ++ after = opening :: (inside ++ closing :: after) := by simp [body]
    rw [List.append_assoc, same]
    exact plain.append (.block opens between closes onward)

theorem Revised.dataBlocks (revised : Revised (readSpans lines) 0 lines edited)
    (success : dataBlocks lines = .ok blocks) : SourceLines.dataBlocks edited = .ok blocks := by
  refine dataBlocks_eq_ok_iff.2 ((dataBlocks_eq_ok_iff.1 success).revised ?_ revised)
  intro first last block
  rw [Nat.zero_add, Nat.zero_add]
  exact mem_readSpans_of_block block

theorem Revised.passage (revised : Revised (readSpans lines) 0 lines edited)
    (success : Signature.passage stage.entry lines = .ok text) :
    Signature.passage stage.entry edited = .ok text := by
  obtain ⟨front, body, behind, last, rfl, span, ending, unmarked, alone⟩ :=
    Signature.exists_cut_of_passage success
  have present : body ≠ [] := by
    rintro rfl
    cases alone
  rw [← Nat.zero_add front.length] at span ending
  obtain ⟨before, after, rfl, ahead, -⟩ :=
    revised.span_kept (mem_readSpans_of_passage span) present ending
  have missing : ∀ line ∈ before, Text.includes stage.entry line = false := by
    intro line member
    rcases ahead.mem line member with old | inert
    · exact unmarked line old
    · exact inert.unmarked stage
  rw [List.append_assoc, Signature.passage_append_of_absent missing]
  exact Signature.passage_append alone after

end ShaderInterface.SourceLines

namespace ShaderInterface.Interface

open SourceLines (Inert Revised readSpans)

variable {settings : Settings} {sourceName : Text} {lines edited : List Text}
  {declared : Declarations} {i : Interface}

theorem withInputs_signed (success : withInputs declared lines = .ok i) (stage : Stage) :
    ∃ text, Signature.passage stage.entry lines = .ok text := by
  rw [withInputs] at success
  obtain ⟨_, vertex, onward⟩ := Fallible.bind_eq_ok_iff.1 success
  obtain ⟨_, fragment, -⟩ := Fallible.bind_eq_ok_iff.1 onward
  cases stage with
  | vertex =>
    obtain ⟨text, found, -⟩ := Fallible.bind_eq_ok_iff.1 vertex
    exact ⟨text, found⟩
  | fragment =>
    obtain ⟨text, found, -⟩ := Fallible.bind_eq_ok_iff.1 fragment
    exact ⟨text, found⟩

/-- Beside the declarations, only the passages of the entry points are read. -/
theorem withInputs_congr (same : ∀ stage : Stage,
      Signature.passage stage.entry edited = Signature.passage stage.entry lines) :
    withInputs declared edited = withInputs declared lines := by
  have signed (stage : Stage) :
      Signature.ofLines stage.entry edited = Signature.ofLines stage.entry lines := by
    rw [Signature.ofLines, Signature.ofLines, same stage]
  rw [withInputs, withInputs, signed .vertex, signed .fragment]

/-- What lines state outlasts an edit. -/
theorem ofLines_revised (success : (ofLines sourceName lines).result = .ok i)
    (revised : Revised (readSpans lines) 0 lines edited) :
    ofLines sourceName edited = ofLines sourceName lines := by
  rw [ofLines] at success
  split at success
  · cases success
  · next blocks found =>
    obtain ⟨declared, scanned, signed⟩ := Fallible.bind_eq_ok_iff.1 success
    have same (stage : Stage) :
        Signature.passage stage.entry edited = Signature.passage stage.entry lines := by
      obtain ⟨text, passage⟩ := withInputs_signed signed stage
      rw [passage]
      exact revised.passage passage
    have stable : (fun d => withInputs d edited) = fun d => withInputs d lines :=
      funext fun _ => withInputs_congr same
    rw [ofLines, ofLines, found, revised.dataBlocks found]
    simp only [stable]

/-- A source that is edited outside of its data blocks and entry points reads as it did. -/
theorem ofSource_revised {source other : Text}
    (success : (ofSource settings sourceName source).result = .ok i)
    (revised : Revised (readSpans (SourceLines.ofText source)) 0 (SourceLines.ofText source)
      (SourceLines.ofText other)) :
    ofSource settings sourceName other = ofSource settings sourceName source := by
  obtain ⟨stated, read, -⟩ := ofSource_eq_ok_iff.1 success
  rw [ofSource, ofSource, ofLines_revised read revised]

/-- The lines of two sources up to the body of the vertex stage. -/
def quietAbove : List Text :=
  ["#Data", "@group(0) @binding(1) e: f32", "#end", "fn vs_main(p: f32) \x7b"]

def quietBody : List Text := ["  return p", "\x7d"]

def quietBelow : List Text := ["fn fs_main(s: vec3) \x7b"]

def quietSource : Text :=
  ['\n'].intercalate ("// a lamp".toList :: quietAbove ++ quietBody ++ quietBelow)

/-- `quietSource` with other lines between the spans that are read. -/
def noisySource : Text :=
  ['\n'].intercalate ("struct e \x7b".toList :: quietAbove ++ ["#end @group(".toList] ++ quietBelow ++
    ["\x7d \x7d".toList])

def quiet : Interface where
  structs := ∅
  uniforms := ⟨[("e", ⟨"e", 0, 1, [⟨"e", "f32"⟩]⟩)], by decide⟩
  vertexPushConstants := ∅
  fragmentPushConstants := ∅
  vertexInputs := [⟨"p", "f32"⟩]
  fragmentInputs := [⟨"s", "vec3"⟩]

theorem quiet_revised :
    Revised (readSpans (SourceLines.ofText quietSource)) 0 (SourceLines.ofText quietSource)
      (SourceLines.ofText noisySource) := by
  let opening : Text := "struct e \x7b"
  let stray : Text := "#end @group("
  let closing : Text := "\x7d \x7d"
  -- evaluated at once, for each evaluation spells all strings anew
  have facts : (SourceLines.ofText quietSource = [] :: quietAbove ++ quietBody ++ quietBelow ∧
        SourceLines.ofText noisySource =
          opening :: quietAbove ++ [stray] ++ quietBelow ++ [closing]) ∧
      readSpans (SourceLines.ofText quietSource) = [(1, 3), (4, 4), (7, 7)] ∧
      Inert opening ∧ Inert stray ∧ Inert closing := by decide +kernel
  obtain ⟨⟨quiet, noisy⟩, spans, opens, ends, closes⟩ := facts
  rw [spans, quiet, noisy]
  refine .replace (by decide) opens (.keep (.keep (.keep (.keep ?vertex))))
  refine .replace (by decide) ends (.delete (by decide) (.keep ?fragment))
  exact .insert (by decide) closes .done

theorem ofSource_quiet_revised :
    (ofSource shadowing "lamp" quietSource).result = .ok quiet ∧
      ofSource shadowing "lamp" noisySource = ofSource shadowing "lamp" quietSource := by
  have success : (ofSource shadowing "lamp" quietSource).result = .ok quiet :=
    Fallible.eq_ok_of_toOption (by decide +kernel)
  exact ⟨success, ofSource_revised success quiet_revised⟩

end ShaderInterface.Interface
