import ShaderInterface.Proofs.Interface.Names
import ShaderInterface.Proofs.Source.Spans
import ShaderInterface.Proofs.Text.Cuts

set_option autoImplicit false

namespace ShaderInterface

namespace Text

variable {text behind left right phrase : Text} {mark : Char}

theorem suffix_of_dropLead? (found : dropLead? phrase text = some behind) : behind <:+ text :=
  ⟨phrase, (dropLead?_eq_some_append found).symm⟩

theorem suffix_of_cutAt? (found : cutAt? mark text = some (left, right)) : right <:+ text :=
  ⟨left ++ [mark], by simp [cutAt?_eq_some_append found]⟩

theorem beforePhrase_subset (text : Text) : beforePhrase phrase text ⊆ text := by
  rw [beforePhrase]
  split
  · next cut found =>
    rw [cutAtPhrase?_eq_some_append found, List.append_assoc]
    exact List.subset_append_left _ _
  · exact List.Subset.refl text

theorem suffix_of_dropWord? (found : dropWord? phrase text = some behind) : behind <:+ text :=
  suffix_of_dropLead? (Option.filter_eq_some_iff.1 found).1

theorem exists_of_atWordStart? {α : Type} {read : Text → Option α} {answer : α} {afterWord : Bool}
    (found : atWordStart? read afterWord text = some answer) : ∃ rest, read rest = some answer := by
  induction text generalizing afterWord with
  | nil => cases found
  | cons c rest ih =>
    rw [atWordStart?] at found
    split at found
    · next here =>
      split at here
      · cases here
      · exact ⟨c :: rest, here.trans found⟩
    · exact ih found

end Text

namespace Placement

variable {line text rest : Text}

theorem number_suffix {value : Nat} (success : number line text = .ok (value, rest)) :
    rest <:+ text := by
  rw [number] at success
  split at success
  · cases success
  · next opened =>
    split at success
    · cases success
    · next closed =>
      simp only at success
      split at success
      · cases success
      · split at success
        · cases success
        · cases success
          exact (Text.suffix_of_cutAt? closed).trans (Text.suffix_of_cutAt? opened)

theorem openAttribute?_suffix (opened : openAttribute? text = some rest) : rest <:+ text := by
  rw [openAttribute?] at opened
  split at opened
  · next named start =>
    split at opened
    · split at opened
      · next inside stop =>
        cases opened
        have third : rest <:+ named.dropWhile Text.isWord :=
          (List.suffix_cons '(' rest).trans (stop ▸ List.dropWhile_suffix Text.isBlank)
        have second : rest <:+ named := third.trans (List.dropWhile_suffix Text.isWord)
        have first : '@' :: named <:+ text := start ▸ List.dropWhile_suffix Text.isBlank
        exact (second.trans (List.suffix_cons '@' named)).trans first
      · cases opened
    · cases opened
  · cases opened

theorem tag_suffix {tag? : Option Text} (success : tag line text = .ok (tag?, rest)) :
    rest <:+ text := by
  rw [tag] at success
  split at success
  · cases success
    exact List.suffix_refl text
  · next inside opened =>
    split at success
    · cases success
    · next closed =>
      cases success
      exact (Text.suffix_of_cutAt? closed).trans (openAttribute?_suffix opened)

/-- What stands behind an annotation stands in its line. -/
theorem ofLine_suffix {placement : Placement} (success : ofLine line = .ok (placement, rest)) :
    rest <:+ line := by
  rw [ofLine] at success
  obtain ⟨⟨_, behindGroup⟩, group, onward⟩ := Fallible.bind_eq_ok_iff.1 success
  obtain ⟨⟨_, behindBinding⟩, binding, onward⟩ := Fallible.bind_eq_ok_iff.1 onward
  obtain ⟨⟨_, last⟩, tagged, same⟩ := Fallible.bind_eq_ok_iff.1 onward
  cases same
  exact (tag_suffix tagged).trans ((number_suffix binding).trans (number_suffix group))

end Placement

namespace Reading

theorem dropAddressSpace_suffix (text : Text) : dropAddressSpace text <:+ text := by
  unfold dropAddressSpace
  split
  · next inside =>
    split
    · next closed => exact (Text.suffix_of_cutAt? closed).trans (List.suffix_cons '<' inside)
    · exact List.suffix_refl _
  · exact List.suffix_refl text

theorem dropIntroducer_suffix (line : Text) : dropIntroducer line <:+ line := by
  have start := List.dropWhile_suffix (l := line) Text.isBlank
  rw [dropIntroducer]
  split
  · next behind keyword =>
    exact (List.dropWhile_suffix _).trans ((dropAddressSpace_suffix _).trans
      ((List.dropWhile_suffix _).trans ((Text.suffix_of_dropWord? keyword).trans start)))
  · split
    · next behind keyword =>
      exact (List.dropWhile_suffix _).trans ((Text.suffix_of_dropWord? keyword).trans start)
    · exact List.suffix_refl line

theorem noNewline_of_structName? {text name : Text} (named : structName? text = some name) :
    '\n' ∉ name := by
  rw [structName?] at named
  obtain ⟨behind, -, onward⟩ := Option.bind_eq_some_iff.1 named
  simp only at onward
  split at onward
  · cases onward
  · cases onward
    intro member
    have word : Text.isWord '\n' = true := List.mem_takeWhile_imp member
    have outside : Text.isWord '\n' = false := by decide
    rw [outside] at word
    cases word

theorem blockName_subset (head : Text) : blockName head ⊆ head :=
  ((Text.trim_sublist _).trans ((Text.dropEndWhile_sublist _).trans (Text.trim_sublist head))).subset

end Reading

/-- No declaration has a newline in its name. -/
def Declarations.NamesWhole (d : Declarations) : Prop :=
  ∀ kind name entry, d.stored? kind name = some entry → '\n' ∉ entry.name

namespace Declarations.NamesWhole

variable {d : Declarations} {entry : TableEntry}

theorem empty : NamesWhole .empty := by
  intro kind name entry found
  cases kind with
  | struct => cases found
  | uniform => cases found
  | pushConstant stage => cases stage <;> cases found

theorem put (whole : d.NamesWhole) (new : '\n' ∉ entry.name) : (d.put entry).NamesWhole := by
  intro kind name found stored
  rw [stored?_put] at stored
  split at stored
  · cases stored
    exact new
  · exact whole _ _ _ stored

theorem addField (whole : d.NamesWhole) (own : DeclarationKind) (key : Text) (field : Field) :
    (d.addField own key field).NamesWhole := by
  intro kind name found stored
  rw [stored?_addField] at stored
  split at stored
  · obtain ⟨entry, before, rfl⟩ := Option.map_eq_some_iff.1 stored
    rw [TableEntry.name_addFields]
    exact whole _ _ _ before
  · exact whole _ _ _ stored

end Declarations.NamesWhole

namespace Reading

/-- The step leaves no newline in a name. -/
def KeepsWhole (step : Step) : Prop := step.reading.declared.NamesWhole

theorem KeepsWhole.andThen {step : Step} {next : Reading → Step} (first : KeepsWhole step)
    (onward : ∀ r : Reading, r.declared.NamesWhole → KeepsWhole (next r)) :
    KeepsWhole (step.andThen next) := by
  rw [Step.andThen]
  split
  · exact first
  · exact onward _ first

variable {r : Reading} {line : Text} (whole : r.declared.NamesWhole)
include whole

theorem addParts_keepsWhole (parts : List Text) : KeepsWhole (r.addParts parts) := by
  induction parts generalizing r with
  | nil => exact whole
  | cons part rest ih =>
    refine KeepsWhole.andThen ?_ fun _ kept => ih kept
    rw [addPart]
    split
    · exact whole
    · split
      · exact whole
      · rw [Reading.addField]
        split
        · exact whole
        · exact whole.addField _ _ _

theorem readBody_keepsWhole (text : Text) : KeepsWhole (r.readBody text) := by
  rw [readBody]
  split
  · exact addParts_keepsWhole whole _
  · exact (addParts_keepsWhole whole _).andThen fun _ kept => kept

theorem openStruct_keepsWhole (line : Text) : KeepsWhole (r.openStruct line) := by
  rw [openStruct]
  split
  · exact whole
  · next name named =>
    obtain ⟨_, start⟩ := Text.exists_of_atWordStart? named
    have word : '\n' ∉ name := noNewline_of_structName? start
    have declared : (r.declared.put (.struct name [])).NamesWhole := whole.put word
    simp only
    split
    · exact declared
    · exact KeepsWhole.andThen declared fun _ kept => readBody_keepsWhole kept _

theorem declare_keepsWhole {name : Text} (new : '\n' ∉ name) (placement : Placement)
    (fields : List Field) : KeepsWhole (r.declare name placement fields) := by
  rw [declare_eq]
  refine whole.put ?_
  rwa [placement.name_entry]

theorem declarePlaced_keepsWhole (oneLine : '\n' ∉ line) (placement : Placement) :
    KeepsWhole (r.declarePlaced line placement) := by
  rw [declarePlaced]
  simp only
  split
  · next head body cut =>
    have within : head ⊆ line := by
      refine List.Subset.trans ?_ (dropIntroducer_suffix line).subset
      rw [Text.cutAt?_eq_some_append cut]
      exact List.subset_append_left _ _
    split
    · exact whole
    · refine (declare_keepsWhole whole ?_ placement []).andThen fun _ kept =>
        readBody_keepsWhole kept body
      exact fun member => oneLine (within (blockName_subset head member))
  · split
    · exact whole
    · next field known =>
      have solid : field.name.IsSolid := Field.IsStated.isSolid ⟨_, known⟩
      exact (declare_keepsWhole whole solid.noNewline placement [field]).andThen fun _ kept => kept

theorem readOpening_keepsWhole (oneLine : '\n' ∉ line) : KeepsWhole (r.readOpening line) := by
  rw [readOpening]
  split
  · exact openStruct_keepsWhole whole line
  · split
    · rw [openPlacement]
      split
      · exact whole
      · next placement rest placed =>
        split
        · exact whole
        · exact declarePlaced_keepsWhole whole
            (fun member => oneLine ((Placement.ofLine_suffix placed).subset member)) placement
    · split
      · next name _ =>
        exact readBody_keepsWhole (r := r.turn (.body .struct name)) whole _
      · exact whole

theorem readLine_keepsWhole (oneLine : '\n' ∉ line) : KeepsWhole (r.readLine line) := by
  have trimmed : '\n' ∉ Text.trim (SourceLines.dropLineComment line) := fun member =>
    oneLine (Text.beforePhrase_subset line ((Text.trim_sublist _).subset member))
  rw [readLine, readStatement]
  split
  · exact whole
  · split
    · exact readBody_keepsWhole whole _
    · exact declarePlaced_keepsWhole whole trimmed _
    · split
      · exact readOpening_keepsWhole whole trimmed
      · exact whole
    · exact readOpening_keepsWhole whole trimmed

/-- Lines leave no newline in a name. -/
theorem readAll_keepsWhole {lines : List Text} (oneLine : ∀ line ∈ lines, '\n' ∉ line) :
    KeepsWhole (r.readAll lines) := by
  have each : KeepsWhole (r.readLines lines) := by
    induction lines generalizing r with
    | nil => exact whole
    | cons line rest ih =>
      obtain ⟨here, later⟩ := List.forall_mem_cons.1 oneLine
      exact (readLine_keepsWhole whole here).andThen fun _ kept => ih kept later
  refine each.andThen fun last kept => ?_
  rw [finish]
  split <;> exact kept

end Reading

namespace SourceLines

theorem noNewline_of_mem_ofText {source line : Text} (member : line ∈ ofText source) :
    '\n' ∉ line := by
  rw [ofText, List.mem_flatMap] at member
  obtain ⟨row, among, cut⟩ := member
  rw [List.splitOn_eq_splitOnP] at among cut
  intro inside
  have within : '\n' ∈ dropLineComment row := (Text.mem_of_mem_splitOnP cut '\n' inside).1
  have apart := (Text.mem_of_mem_splitOnP among '\n' (Text.beforePhrase_subset row within)).2
  simp at apart

theorem HasBlocks.subset {lines : List Text} {blocks : List (List Text)}
    (has : HasBlocks lines blocks) : blocks.flatten ⊆ lines := by
  induction has with
  | nil => exact List.Subset.refl _
  | skip _ _ ih => exact List.subset_cons_of_subset _ ih
  | block _ _ _ _ ih =>
    rw [List.flatten_cons]
    refine List.subset_cons_of_subset _ (List.append_subset.2 ⟨List.subset_append_left _ _, ?_⟩)
    exact List.subset_append_of_subset_right _ (List.subset_cons_of_subset _ ih)

end SourceLines

namespace Interface

variable {settings : Settings} {sourceName source name : Text} {i : Interface}

/-- The blocks of a resolved interface stand under names without a newline. -/
theorem ofSource_namesWhole (success : (ofSource settings sourceName source).result = .ok i) :
    (∀ block ∈ i.uniforms.values, '\n' ∉ block.name) ∧
      ∀ block ∈ i.vertexPushConstants.values ++ i.fragmentPushConstants.values,
        '\n' ∉ block.name := by
  obtain ⟨stated, read, resolved⟩ := ofSource_eq_ok_iff.1 success
  obtain ⟨flat, -, -, rfl⟩ := resolve_ok resolved
  have whole : stated.toDeclarations.NamesWhole := by
    rw [ofLines] at read
    split at read
    · cases read
    · next blocks found =>
      obtain ⟨declared, scanned, signed⟩ := Fallible.bind_eq_ok_iff.1 read
      have oneLine : ∀ line ∈ blocks.flatten, '\n' ∉ line := fun line member =>
        SourceLines.noNewline_of_mem_ofText
          ((SourceLines.dataBlocks_eq_ok_iff.1 found).subset member)
      rw [withInputs_ok signed, Declarations.ofBlocks_ok scanned]
      exact Reading.readAll_keepsWhole .empty oneLine
  have pushed : ∀ stage name block, (stated.pushConstants stage).find? name = some block →
      '\n' ∉ block.name := fun _ _ _ found => whole _ _ _ (Declarations.stored?_pushConstant found)
  refine ⟨fun block stored => ?_, fun block stored => ?_⟩
  · obtain ⟨name, old, found, rfl⟩ := Table.mem_values_map.1 stored
    exact whole _ _ _ (Declarations.stored?_uniform found)
  · rcases List.mem_append.1 stored with vertex | fragment
    · obtain ⟨name, old, found, rfl⟩ := Table.mem_values_map.1 vertex
      exact pushed .vertex name old found
    · obtain ⟨name, old, found, rfl⟩ := Table.mem_values_map.1 fragment
      exact pushed .fragment name old found

end Interface
end ShaderInterface
