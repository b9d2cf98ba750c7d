import ShaderInterface.Proofs.Files.Paths

set_option autoImplicit false

/-!
Where paths lead. What a look-up finds depends only on which directories and links there are, so
trees that differ in files alone lead every path to the same place.
-/
namespace ShaderInterface

/-- The entry without the time of a directory. -/
def Entry.timeless : Entry → Entry
  | .directory _ => .directory 0
  | entry => entry

def Path.start (p : Path) (current : Location) : Location := if p.slashes = 0 then current else []

namespace FileTree

/-- What is at a place, whatever the times of directories. -/
def look (tree : FileTree) (place : Location) : Option Entry :=
  (tree.entry? place).map Entry.timeless

def HasDirectory (tree : FileTree) (place : Location) : Prop :=
  tree.look place = some (.directory 0)

/-- Where a link's target starts from when the link is in `place`. -/
def targetBase (place : Location) (target : Text) : Location :=
  if target.head? = some '/' then [] else place

/-- The parts lead from one place to another, and at most so many links are followed. -/
inductive Leads (tree : FileTree) : Nat → Location → List Text → Location → Prop where
  | here {links : Nat} {place : Location} : Leads tree links place [] place
  | idle {links : Nat} {place last : Location} {part : Text} {rest : List Text}
      (inside : tree.HasDirectory place) (still : part = [] ∨ part = ['.'])
      (onward : Leads tree links place rest last) : Leads tree links place (part :: rest) last
  | up {links : Nat} {place last : Location} {rest : List Text}
      (inside : tree.HasDirectory place) (onward : Leads tree links place.dropLast rest last) :
      Leads tree links place (['.', '.'] :: rest) last
  | through {links : Nat} {place last : Location} {part target : Text} {rest : List Text}
      (inside : tree.HasDirectory place) (step : IsStep part)
      (found : tree.look (place ++ [part]) = some (.link target))
      (onward : Leads tree links (targetBase place target) (targetParts target ++ rest) last) :
      Leads tree (links + 1) place (part :: rest) last
  | into {links : Nat} {place last : Location} {part : Text} {rest : List Text} {entry : Entry}
      (inside : tree.HasDirectory place) (step : IsStep part)
      (found : tree.look (place ++ [part]) = some entry) (solid : ∀ target, entry ≠ .link target)
      (onward : Leads tree links (place ++ [part]) rest last) :
      Leads tree links place (part :: rest) last
  | fresh {links : Nat} {place : Location} {part : Text} (inside : tree.HasDirectory place)
      (step : IsStep part) (absent : tree.look (place ++ [part]) = none) :
      Leads tree links place [part] (place ++ [part])

variable {tree : FileTree} {purpose : Purpose} {links : Nat} {place last : Location} {part : Text}
  {rest parts : List Text}

theorem look_eq_none_iff : tree.look place = none ↔ tree.entry? place = none := by
  rw [look, Option.map_eq_none_iff]

theorem look_eq_link_iff {target : Text} :
    tree.look place = some (.link target) ↔ tree.entry? place = some (.link target) := by
  rw [look]
  cases tree.entry? place with
  | none => simp
  | some entry => cases entry <;> simp [Entry.timeless]

theorem look_eq_file_iff {content : ByteArray} {time : Int} :
    tree.look place = some (.file content time) ↔
      tree.entry? place = some (.file content time) := by
  rw [look]
  cases tree.entry? place with
  | none => simp
  | some entry => cases entry <;> simp [Entry.timeless]

theorem hasDirectory_iff :
    tree.HasDirectory place ↔ ∃ time, tree.entry? place = some (.directory time) := by
  rw [HasDirectory, look]
  cases tree.entry? place with
  | none => simp
  | some entry => cases entry <;> simp [Entry.timeless]

theorem isDirectory_iff {entry : Entry} :
    entry.isDirectory = true ↔ ∃ time, entry = .directory time := by
  cases entry <;> simp [Entry.isDirectory]

theorem any_isDirectory_iff :
    (tree.entry? place).any Entry.isDirectory = true ↔ tree.HasDirectory place := by
  rw [Option.any_eq_true, hasDirectory_iff]
  simp only [isDirectory_iff]
  constructor
  · rintro ⟨entry, found, time, rfl⟩
    exact ⟨time, found⟩
  · rintro ⟨time, found⟩
    exact ⟨_, found, time, rfl⟩

theorem hasDirectory_root : tree.HasDirectory [] := hasDirectory_iff.2 ⟨0, rfl⟩

theorem HasDirectory.present (inside : tree.HasDirectory place) : tree.look place ≠ none := by
  rw [inside]
  exact nofun

/-! ## One part -/

/-- What the first part leads to from a directory. -/
theorem descend_cons (purpose : Purpose) (part : Text) (rest : List Text)
    (inside : tree.HasDirectory place) :
    (part = [] ∨ part = ['.'] →
      tree.descend purpose place (part :: rest) = tree.descend purpose place rest) ∧
    (part = ['.', '.'] →
      tree.descend purpose place (part :: rest) = tree.descend purpose place.dropLast rest) ∧
    (IsStep part → purpose = .file ∧ rest = [[]] →
      tree.descend purpose place (part :: rest) = .error .isDirectory) ∧
    (IsStep part → ¬(purpose = .file ∧ rest = [[]]) →
      (tree.look (place ++ [part]) = none → tree.descend purpose place (part :: rest) =
        if rest = [] then .ok (.at (place ++ [part])) else .error .absent) ∧
      (∀ target, tree.look (place ++ [part]) = some (.link target) →
        tree.descend purpose place (part :: rest) =
          if rest = [] ∧ purpose = .entry then .ok (.at (place ++ [part]))
          else .ok (.link place target rest)) ∧
      ∀ entry, tree.look (place ++ [part]) = some entry → (∀ target, entry ≠ .link target) →
        tree.descend purpose place (part :: rest) =
          tree.descend purpose (place ++ [part]) rest) := by
  obtain ⟨time, here⟩ := hasDirectory_iff.1 inside
  rw [descend, here]
  refine ⟨fun still => by simp only [if_pos still], fun up => by simp [up], fun step slash => ?_,
    fun step sensible => ⟨fun absent => ?_, fun target found => ?_, fun entry found solid => ?_⟩⟩
  · simp only [step.1, step.2.1, step.2.2, slash, or_self, if_false, and_self, if_true]
  · simp only [step.1, step.2.1, step.2.2, sensible, look_eq_none_iff.1 absent, or_self, if_false]
  · simp only [step.1, step.2.1, step.2.2, sensible, look_eq_link_iff.1 found, or_self, if_false]
  · simp only [step.1, step.2.1, step.2.2, sensible, or_self, if_false]
    cases there : tree.entry? (place ++ [part]) with
    | none => simp [look_eq_none_iff.2 there] at found
    | some known =>
      cases known with
      | file content time => rfl
      | directory time => rfl
      | link target =>
        rw [look_eq_link_iff.2 there] at found
        exact absurd (Option.some.inj found).symm (solid target)

theorem locateFrom_of_error {reason : FileError}
    (stops : tree.descend purpose place parts = .error reason) :
    tree.locateFrom purpose links place parts = .error reason := by
  rw [locateFrom, stops]

theorem locateFrom_of_at (ends : tree.descend purpose place parts = .ok (.at last)) :
    tree.locateFrom purpose links place parts = .ok last := by
  rw [locateFrom, ends]

theorem locateFrom_nil : tree.locateFrom purpose links place [] = .ok place := locateFrom_of_at rfl

/-- Only a directory is left by a further part. -/
theorem locateFrom_outside (outside : ¬tree.HasDirectory place) :
    ∃ reason, tree.locateFrom purpose links place (part :: rest) = .error reason := by
  rw [hasDirectory_iff] at outside
  have stops : ∃ reason, tree.descend purpose place (part :: rest) = .error reason := by
    rw [descend]
    cases found : tree.entry? place with
    | none => exact ⟨_, rfl⟩
    | some entry =>
      cases entry with
      | file content time => exact ⟨_, rfl⟩
      | link target => exact ⟨_, rfl⟩
      | directory time => exact absurd ⟨time, found⟩ outside
  obtain ⟨reason, here⟩ := stops
  exact ⟨reason, locateFrom_of_error here⟩

theorem locateFrom_congr {other : Location} {others : List Text}
    (same : tree.descend purpose place parts = tree.descend purpose other others) :
    tree.locateFrom purpose links place parts = tree.locateFrom purpose links other others := by
  rw [locateFrom, same, ← locateFrom]

theorem locateFrom_idle (inside : tree.HasDirectory place) (still : part = [] ∨ part = ['.']) :
    tree.locateFrom purpose links place (part :: rest) =
      tree.locateFrom purpose links place rest :=
  locateFrom_congr ((descend_cons purpose part rest inside).1 still)

theorem locateFrom_up (inside : tree.HasDirectory place) :
    tree.locateFrom purpose links place (['.', '.'] :: rest) =
      tree.locateFrom purpose links place.dropLast rest :=
  locateFrom_congr ((descend_cons purpose _ rest inside).2.1 rfl)

/-- A part that is here and no link is entered, unless it is to be written as a file and asked for
as a directory. -/
theorem locateFrom_into {entry : Entry} (inside : tree.HasDirectory place) (step : IsStep part)
    (sensible : ¬(purpose = .file ∧ rest = [[]])) (found : tree.look (place ++ [part]) = some entry)
    (solid : ∀ target, entry ≠ .link target) :
    tree.locateFrom purpose links place (part :: rest) =
      tree.locateFrom purpose links (place ++ [part]) rest := by
  obtain ⟨-, -, into⟩ := (descend_cons purpose part rest inside).2.2.2 step sensible
  exact locateFrom_congr (into entry found solid)

theorem descend_link {target : Text} (inside : tree.HasDirectory place) (step : IsStep part)
    (sensible : ¬(purpose = .file ∧ rest = [[]])) (followed : ¬(rest = [] ∧ purpose = .entry))
    (found : tree.look (place ++ [part]) = some (.link target)) :
    tree.descend purpose place (part :: rest) = .ok (.link place target rest) := by
  obtain ⟨-, link, -⟩ := (descend_cons purpose part rest inside).2.2.2 step sensible
  rw [link target found, if_neg followed]

/-- A link is followed while links may be followed. -/
theorem locateFrom_through {target : Text} (inside : tree.HasDirectory place) (step : IsStep part)
    (sensible : ¬(purpose = .file ∧ rest = [[]])) (followed : ¬(rest = [] ∧ purpose = .entry))
    (found : tree.look (place ++ [part]) = some (.link target)) :
    tree.locateFrom purpose (links + 1) place (part :: rest) =
      tree.locateFrom purpose links (targetBase place target) (targetParts target ++ rest) := by
  rw [locateFrom, descend_link inside step sensible followed found]
  rfl

theorem locateFrom_tooManyLinks {target : Text} (inside : tree.HasDirectory place)
    (step : IsStep part) (sensible : ¬(purpose = .file ∧ rest = [[]]))
    (followed : ¬(rest = [] ∧ purpose = .entry))
    (found : tree.look (place ++ [part]) = some (.link target)) :
    tree.locateFrom purpose 0 place (part :: rest) = .error .tooManyLinks := by
  rw [locateFrom, descend_link inside step sensible followed found]

/-- Only the last part may be absent. -/
theorem locateFrom_absent (inside : tree.HasDirectory place) (step : IsStep part)
    (sensible : ¬(purpose = .file ∧ rest = [[]])) (absent : tree.look (place ++ [part]) = none) :
    tree.locateFrom purpose links place (part :: rest) =
      if rest = [] then .ok (place ++ [part]) else .error .absent := by
  obtain ⟨fresh, -⟩ := (descend_cons purpose part rest inside).2.2.2 step sensible
  have here := fresh absent
  by_cases final : rest = []
  · rw [if_pos final] at here ⊢
    exact locateFrom_of_at here
  · rw [if_neg final] at here ⊢
    exact locateFrom_of_error here

theorem isStep_or (part : Text) :
    (part = [] ∨ part = ['.']) ∨ part = ['.', '.'] ∨ IsStep part := by
  by_cases still : part = [] ∨ part = ['.']
  · exact .inl still
  · by_cases up : part = ['.', '.']
    · exact .inr (.inl up)
    · exact .inr (.inr ⟨fun eq => still (.inl eq), fun eq => still (.inr eq), up⟩)

theorem locateFrom_slash (inside : tree.HasDirectory place) (step : IsStep part) :
    tree.locateFrom .file links place [part, []] = .error .isDirectory :=
  locateFrom_of_error ((descend_cons .file part [[]] inside).2.2.1 step ⟨rfl, rfl⟩)

theorem locateFrom_entry_link {target : Text} (inside : tree.HasDirectory place)
    (step : IsStep part) (found : tree.look (place ++ [part]) = some (.link target)) :
    tree.locateFrom .entry links place [part] = .ok (place ++ [part]) := by
  obtain ⟨-, link, -⟩ := (descend_cons .entry part [] inside).2.2.2 step (by simp)
  exact locateFrom_of_at (by rw [link target found, if_pos ⟨rfl, rfl⟩])

/-- What a look-up that succeeds does with a name in a directory: it ends there when nothing is
there, follows a link, or enters what is there. It does not stop at a link. -/
theorem locateFrom_step (inside : tree.HasDirectory place) (step : IsStep part)
    (found : tree.locateFrom purpose links place (part :: rest) = .ok last)
    (ended : purpose = .entry → ∀ target, tree.look last ≠ some (.link target)) :
    (tree.look (place ++ [part]) = none ∧ rest = [] ∧ last = place ++ [part]) ∨
    (∃ spared target, links = spared + 1 ∧ tree.look (place ++ [part]) = some (.link target) ∧
      tree.locateFrom purpose spared (targetBase place target) (targetParts target ++ rest) =
        .ok last) ∨
    ∃ entry, tree.look (place ++ [part]) = some entry ∧ (∀ target, entry ≠ .link target) ∧
      tree.locateFrom purpose links (place ++ [part]) rest = .ok last := by
  by_cases slash : purpose = .file ∧ rest = [[]]
  · obtain ⟨rfl, rfl⟩ := slash
    rw [locateFrom_slash inside step] at found
    cases found
  cases there : tree.look (place ++ [part]) with
  | none =>
    rw [locateFrom_absent inside step slash there] at found
    split at found
    · next final => exact .inl ⟨rfl, final, (Except.ok.inj found).symm⟩
    · cases found
  | some entry =>
    by_cases linked : ∃ target, entry = .link target
    · obtain ⟨target, rfl⟩ := linked
      by_cases itself : rest = [] ∧ purpose = .entry
      · obtain ⟨rfl, rfl⟩ := itself
        rw [locateFrom_entry_link inside step there] at found
        cases found
        exact absurd there (ended rfl target)
      · cases links with
        | zero =>
          rw [locateFrom_tooManyLinks inside step slash itself there] at found
          cases found
        | succ spared =>
          rw [locateFrom_through inside step slash itself there] at found
          exact .inr (.inl ⟨spared, target, rfl, rfl, found⟩)
    · have solid : ∀ target, entry ≠ .link target := fun target eq => linked ⟨target, eq⟩
      rw [locateFrom_into inside step slash there solid] at found
      exact .inr (.inr ⟨entry, rfl, solid, found⟩)

/-- A look-up that succeeds has followed the parts, whatever it is for, unless it stopped at a
link. -/
theorem leads_of_locateFrom {tree : FileTree} {purpose : Purpose} (links : Nat) (place : Location)
    (parts : List Text) {last : Location}
    (found : tree.locateFrom purpose links place parts = .ok last)
    (ended : purpose = .entry → ∀ target, tree.look last ≠ some (.link target)) :
    Leads tree links place parts last := by
  match parts with
  | [] =>
    rw [locateFrom_nil] at found
    cases found
    exact .here
  | part :: rest =>
    by_cases inside : tree.HasDirectory place
    · rcases isStep_or part with still | rfl | step
      · rw [locateFrom_idle inside still] at found
        exact .idle inside still (leads_of_locateFrom links place rest found ended)
      · rw [locateFrom_up inside] at found
        exact .up inside (leads_of_locateFrom links place.dropLast rest found ended)
      · rcases locateFrom_step inside step found ended with
          ⟨absent, rfl, rfl⟩ | ⟨spared, target, fewer, there, onward⟩ |
          ⟨entry, there, solid, onward⟩
        · exact .fresh inside step absent
        · have behind := leads_of_locateFrom spared _ _ onward ended
          exact fewer ▸ .through inside step there behind
        · exact .into inside step there solid (leads_of_locateFrom links _ rest onward ended)
    · obtain ⟨reason, refused⟩ := locateFrom_outside inside
      rw [refused] at found
      cases found
termination_by (links, parts.length)

theorem Leads.locateFrom (leads : Leads tree links place parts last) :
    tree.locateFrom .status links place parts = .ok last := by
  induction leads with
  | here => exact locateFrom_nil
  | idle inside still _ ih => rw [locateFrom_idle inside still, ih]
  | up inside _ ih => rw [locateFrom_up inside, ih]
  | through inside step found _ ih =>
    rw [locateFrom_through inside step (by simp) (by simp) found, ih]
  | into inside step found solid _ ih => rw [locateFrom_into inside step (by simp) found solid, ih]
  | fresh inside step absent => rw [locateFrom_absent inside step (by simp) absent, if_pos rfl]

theorem locateFrom_eq_ok_iff :
    tree.locateFrom .status links place parts = .ok last ↔ Leads tree links place parts last :=
  ⟨fun found => leads_of_locateFrom links place parts found nofun, Leads.locateFrom⟩

namespace Leads

theorem mono (leads : Leads tree links place parts last) {more : Nat} (enough : links ≤ more) :
    Leads tree more place parts last := by
  induction leads generalizing more with
  | here => exact .here
  | idle inside still _ ih => exact .idle inside still (ih enough)
  | up inside _ ih => exact .up inside (ih enough)
  | through inside step found _ ih =>
    obtain ⟨spared, rfl⟩ := Nat.exists_eq_add_of_lt (Nat.lt_of_succ_le enough)
    exact .through inside step found (ih (by omega))
  | into inside step found solid _ ih => exact .into inside step found solid (ih enough)
  | fresh inside step absent => exact .fresh inside step absent

/-- From what is not a directory no part leads on. -/
theorem eq_nil_of_outside (leads : Leads tree links place parts last)
    (outside : ¬tree.HasDirectory place) : parts = [] := by
  cases leads with
  | here => rfl
  | idle inside | up inside | through inside | into inside | fresh inside =>
    exact absurd inside outside

theorem eq_of_nil (leads : Leads tree links place [] last) : last = place := by
  cases leads
  rfl

theorem of_still (leads : Leads tree links place (part :: rest) last)
    (still : part = [] ∨ part = ['.']) : Leads tree links place rest last := by
  cases leads with
  | idle _ _ onward => exact onward
  | up => simp at still
  | through _ step | into _ step | fresh _ step => exact absurd still (by simp [step.1, step.2.1])

theorem of_up (leads : Leads tree links place (['.', '.'] :: rest) last) :
    Leads tree links place.dropLast rest last := by
  cases leads with
  | idle _ still => simp at still
  | up _ onward => exact onward
  | through _ step | into _ step | fresh _ step => exact absurd rfl step.2.2

/-- A name leads on from the target of the link that is there, or else from its own place, also
when nothing is there. -/
theorem of_step (leads : Leads tree links place (part :: rest) last) (step : IsStep part) :
    (∃ spared target, tree.look (place ++ [part]) = some (.link target) ∧
      Leads tree spared (targetBase place target) (targetParts target ++ rest) last) ∨
    (∀ target, tree.look (place ++ [part]) ≠ some (.link target)) ∧
      Leads tree links (place ++ [part]) rest last := by
  cases leads with
  | idle _ still => exact absurd still (by simp [step.1, step.2.1])
  | up => exact absurd rfl step.2.2
  | through _ _ found onward => exact .inl ⟨_, _, found, onward⟩
  | into _ _ found solid onward =>
    refine .inr ⟨fun target linked => solid target ?_, onward⟩
    exact Option.some.inj (found.symm.trans linked)
  | fresh _ _ absent => exact .inr ⟨by simp [absent], .here⟩

theorem append {middle : Location} (leads : Leads tree links place parts middle)
    (onward : Leads tree 0 middle rest last) : Leads tree links place (parts ++ rest) last := by
  induction leads with
  | here => exact onward.mono (Nat.zero_le _)
  | idle inside still _ ih => exact .idle inside still (ih onward)
  | up inside _ ih => exact .up inside (ih onward)
  | through inside step found _ ih =>
    have further := ih onward
    rw [List.append_assoc] at further
    exact .through inside step found further
  | into inside step found solid _ ih => exact .into inside step found solid (ih onward)
  | fresh inside step absent =>
    obtain rfl := onward.eq_nil_of_outside (by simp [HasDirectory, absent])
    obtain rfl := onward.eq_of_nil
    exact .fresh inside step absent

theorem hasDirectory_of_ne_nil (leads : Leads tree links place parts last) (onward : parts ≠ []) :
    tree.HasDirectory place :=
  Classical.byContradiction fun outside => onward (leads.eq_nil_of_outside outside)

/-- Parts that more parts follow lead to a directory, and those lead on from there. -/
theorem split {tree : FileTree} (links : Nat) (place : Location) (first : List Text)
    {rest : List Text} {last : Location} (leads : Leads tree links place (first ++ rest) last)
    (onward : rest ≠ []) :
    ∃ middle, ∃ spared ≤ links, Leads tree links place first middle ∧
      tree.HasDirectory middle ∧ Leads tree spared middle rest last := by
  match first with
  | [] =>
    exact ⟨place, links, Nat.le_refl _, .here, leads.hasDirectory_of_ne_nil onward, leads⟩
  | part :: first =>
    rw [List.cons_append] at leads
    generalize cut : first ++ rest = later at leads
    cases leads with
    | idle inside still after =>
      obtain ⟨middle, spared, within, before, halfway, behind⟩ :=
        split links place first (cut ▸ after) onward
      exact ⟨middle, spared, within, .idle inside still before, halfway, behind⟩
    | up inside after =>
      obtain ⟨middle, spared, within, before, halfway, behind⟩ :=
        split links place.dropLast first (cut ▸ after) onward
      exact ⟨middle, spared, within, .up inside before, halfway, behind⟩
    | @through links _ _ _ target _ inside step found after =>
      rw [← cut, ← List.append_assoc] at after
      obtain ⟨middle, spared, within, before, halfway, behind⟩ :=
        split links (targetBase place target) (targetParts target ++ first) after onward
      exact ⟨middle, spared, Nat.le_succ_of_le within, .through inside step found before, halfway,
        behind⟩
    | into inside step found solid after =>
      obtain ⟨middle, spared, within, before, halfway, behind⟩ :=
        split links (place ++ [part]) first (cut ▸ after) onward
      exact ⟨middle, spared, within, .into inside step found solid before, halfway, behind⟩
    | fresh => exact absurd (List.append_eq_nil_iff.1 cut).2 onward
termination_by (links, first.length)

/-- What a path ends with a slash for is a directory. -/
theorem hasDirectory_of_slash (leads : Leads tree links place [part, []] last) :
    tree.HasDirectory last := by
  obtain ⟨middle, spared, -, -, halfway, onward⟩ :=
    split links place [part] leads (List.cons_ne_nil _ _)
  exact (onward.of_still (.inl rfl)).eq_of_nil ▸ halfway

/-- A file that a path leads to can be written there. -/
theorem locateFrom_file {content : ByteArray} {time : Int}
    (leads : Leads tree links place parts last)
    (found : tree.look last = some (.file content time)) :
    tree.locateFrom .file links place parts = .ok last := by
  have solid : ¬tree.HasDirectory last := by simp [HasDirectory, found]
  induction leads with
  | here => exact locateFrom_nil
  | idle inside still _ ih => rw [locateFrom_idle inside still, ih found solid]
  | up inside _ ih => rw [locateFrom_up inside, ih found solid]
  | @through _ _ _ _ _ rest inside step linked onward ih =>
    have sensible : ¬(Purpose.file = .file ∧ rest = [[]]) := by
      rintro ⟨-, rfl⟩
      exact solid (Leads.through inside step linked onward).hasDirectory_of_slash
    rw [locateFrom_through inside step sensible (by simp) linked, ih found solid]
  | @into _ _ _ _ rest _ inside step there unlinked onward ih =>
    have sensible : ¬(Purpose.file = .file ∧ rest = [[]]) := by
      rintro ⟨-, rfl⟩
      exact solid (Leads.into inside step there unlinked onward).hasDirectory_of_slash
    rw [locateFrom_into inside step sensible there unlinked, ih found solid]
  | fresh inside step absent => simp [absent] at found

/-- A name leads to the entry under it, unless that is a link. -/
theorem eq_or_link (leads : Leads tree links place [part] last) (step : IsStep part) :
    last = place ++ [part] ∨ ∃ target, tree.look (place ++ [part]) = some (.link target) := by
  rcases leads.of_step step with ⟨_, target, linked, _⟩ | ⟨_, onward⟩
  · exact .inr ⟨target, linked⟩
  · exact .inl onward.eq_of_nil

/-- In a tree with the same links, and directories wherever there were some, a path leads to the
same place. -/
theorem transfer {other : FileTree} (leads : Leads tree links place parts last)
    (linked : ∀ place target,
      tree.look place = some (.link target) ↔ other.look place = some (.link target))
    (kept : ∀ place, tree.HasDirectory place → other.HasDirectory place) :
    Leads other links place parts last := by
  -- what the other tree has at a last part that is no link here
  have ends : ∀ {links place part}, other.HasDirectory place → IsStep part →
      (∀ target, tree.look (place ++ [part]) ≠ some (.link target)) →
      Leads other links place [part] (place ++ [part]) := by
    intro links place part inside step unlinked
    cases there : other.look (place ++ [part]) with
    | none => exact .fresh inside step there
    | some entry =>
      refine .into inside step there ?_ .here
      rintro target rfl
      exact unlinked target ((linked _ target).2 there)
  induction leads with
  | here => exact .here
  | idle inside still _ ih => exact .idle (kept _ inside) still ih
  | up inside _ ih => exact .up (kept _ inside) ih
  | through inside step found _ ih =>
    exact .through (kept _ inside) step ((linked _ _).1 found) ih
  | @into links place last part rest entry inside step found solid onward ih =>
    by_cases further : tree.HasDirectory (place ++ [part])
    · exact .into (kept _ inside) step (kept _ further) nofun ih
    · obtain rfl := onward.eq_nil_of_outside further
      obtain rfl := onward.eq_of_nil
      refine ends (kept _ inside) step fun target there => solid target ?_
      exact Option.some.inj (found.symm.trans there)
  | fresh inside step absent =>
    exact ends (kept _ inside) step fun target there => by simp [absent] at there

/-- A path leads to the same place in two trees, if the links of the first are links of the second
and the second has no link where the first has a directory or where the path ends. -/
theorem agree {other : FileTree} {lastOther : Location} (leads : Leads tree links place parts last)
    {more : Nat} (leadsOther : Leads other more place parts lastOther)
    (linked : ∀ place target,
      tree.look place = some (.link target) → other.look place = some (.link target))
    (apart : ∀ place target,
      tree.HasDirectory place → other.look place ≠ some (.link target))
    (final : ∀ target, other.look last ≠ some (.link target)) : lastOther = last := by
  induction leads generalizing more with
  | here => exact leadsOther.eq_of_nil
  | idle _ still _ ih => exact ih (leadsOther.of_still still) final
  | up _ _ ih => exact ih leadsOther.of_up final
  | through _ step found _ ih =>
    have foundOther := linked _ _ found
    rcases leadsOther.of_step step with ⟨spared, target, there, onwardOther⟩ | ⟨unlinked, _⟩
    · rw [foundOther] at there
      cases there
      exact ih onwardOther final
    · exact absurd foundOther (unlinked _)
  | @into _ place _ part _ _ _ step _ _ onward ih =>
    rcases leadsOther.of_step step with ⟨_, target, there, _⟩ | ⟨_, onwardOther⟩
    · -- a link of the other tree is at no directory, so this is where the path ends
      by_cases further : tree.HasDirectory (place ++ [part])
      · exact absurd there (apart _ _ further)
      · obtain rfl := onward.eq_nil_of_outside further
        obtain rfl := onward.eq_of_nil
        exact absurd there (final _)
    · exact ih onwardOther final
  | fresh _ step =>
    rcases leadsOther.of_step step with ⟨_, target, there, _⟩ | ⟨_, onwardOther⟩
    · exact absurd there (final target)
    · exact onwardOther.eq_of_nil

end Leads

variable {current : Location} {path : Path}

theorem locate_eq_ok_iff :
    tree.locate .status current path = .ok place ↔
      path.isNameable = true ∧ Leads tree linkLimit (path.start current) path.parts place := by
  rw [locate, ← locateFrom_eq_ok_iff]
  split
  · next nameable => exact (and_iff_right nameable).symm
  · next unnameable => simp [unnameable]

/-- A look-up for any purpose ends where the path leads to, unless it stops at a link. -/
theorem locate_status (found : tree.locate purpose current path = .ok place)
    (ended : purpose = .entry → ∀ target, tree.look place ≠ some (.link target)) :
    tree.locate .status current path = .ok place := by
  rw [locate] at found
  split at found
  · next nameable => exact locate_eq_ok_iff.2 ⟨nameable, leads_of_locateFrom _ _ _ found ended⟩
  · cases found

theorem locate_file {content : ByteArray} {time : Int}
    (found : tree.locate .status current path = .ok place)
    (there : tree.look place = some (.file content time)) :
    tree.locate .file current path = .ok place := by
  obtain ⟨nameable, leads⟩ := locate_eq_ok_iff.1 found
  rw [locate, if_pos nameable]
  exact leads.locateFrom_file there

theorem status_eq_ok_iff {entry : Entry} :
    tree.status current path = .ok entry ↔
      ∃ place, tree.locate .status current path = .ok place ∧ tree.entry? place = some entry := by
  rw [status]
  cases tree.locate .status current path with
  | error reason => simp [Except.bind]
  | ok place => cases found : tree.entry? place <;> simp [Except.bind, found]

/-- A path leads to a file. -/
theorem status_eq_file_iff {content : ByteArray} {time : Int} :
    tree.status current path = .ok (.file content time) ↔ ∃ place,
      tree.locate .status current path = .ok place ∧
        tree.look place = some (.file content time) := by
  simp only [status_eq_ok_iff, look_eq_file_iff]

theorem isDirectory_eq_true_iff :
    tree.isDirectory current path = true ↔
      ∃ place, tree.locate .status current path = .ok place ∧ tree.HasDirectory place := by
  have answer : tree.isDirectory current path = true ↔
      ∃ time, tree.status current path = .ok (.directory time) := by
    rw [isDirectory]
    cases tree.status current path with
    | error reason => simp
    | ok entry => cases entry <;> simp [Entry.isDirectory]
  rw [answer]
  simp only [status_eq_ok_iff, hasDirectory_iff]
  exact exists_comm.trans (exists_congr fun place => exists_and_left)

theorem modified_eq_ok_iff {time : Int} :
    tree.modified current path = .ok time ↔
      ∃ entry, tree.status current path = .ok entry ∧ entry.modified? = some time := by
  rw [modified]
  cases tree.status current path with
  | error reason => simp [Except.bind]
  | ok entry => cases known : entry.modified? <;> simp [Except.bind, known]

theorem read_eq_ok_iff {content : ByteArray} :
    tree.read current path = .ok content ↔
      ∃ time, tree.status current path = .ok (.file content time) := by
  rw [read]
  cases tree.status current path with
  | error reason => simp [Except.bind]
  | ok entry => cases entry <;> simp [Except.bind]

theorem HasDirectory.start (inside : tree.HasDirectory current) (path : Path) :
    tree.HasDirectory (path.start current) := by
  rw [Path.start]
  split
  · exact inside
  · exact hasDirectory_root

end FileTree
end ShaderInterface
