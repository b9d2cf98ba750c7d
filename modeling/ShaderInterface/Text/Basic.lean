set_option autoImplicit false

namespace ShaderInterface

/-- A run of characters: a source, a line of it, a name. -/
abbrev Text := List Char

instance : Coe String Text := ⟨String.toList⟩

namespace Text

/-- What is left of `text` behind `lead`, when `text` starts with it. -/
def dropLead? : (lead text : Text) → Option Text
  | [], text => some text
  | _ :: _, [] => none
  | a :: lead, b :: text => if a = b then dropLead? lead text else none

/-- The texts before and behind the first `mark`. -/
def cutAt? (mark : Char) : Text → Option (Text × Text)
  | [] => none
  | c :: rest =>
      if c = mark then some ([], rest)
      else (cutAt? mark rest).map fun cut => (c :: cut.1, cut.2)

/-- The texts before and behind the first occurrence of `phrase`. -/
def cutAtPhrase? (phrase : Text) : Text → Option (Text × Text)
  | [] => if phrase = [] then some ([], []) else none
  | c :: rest =>
      match dropLead? phrase (c :: rest) with
      | some behind => some ([], behind)
      | none => (cutAtPhrase? phrase rest).map fun cut => (c :: cut.1, cut.2)

/-- Whether `phrase` occurs in `text`. The empty phrase occurs in every text. -/
def includes (phrase text : Text) : Bool := (cutAtPhrase? phrase text).isSome

/-- The text up to the first occurrence of `phrase`, or all of it. -/
def beforePhrase (phrase text : Text) : Text :=
  match cutAtPhrase? phrase text with
  | some cut => cut.1
  | none => text

/-- What is left of `text` before `tail`, when `text` ends with it. -/
def dropEnd? (tail text : Text) : Option Text :=
  (dropLead? tail.reverse text.reverse).map List.reverse

/-- `text` without the longest run of dropped characters at its end. -/
def dropEndWhile (dropped : Char → Bool) (text : Text) : Text :=
  (text.reverse.dropWhile dropped).reverse

/-- `text` without the dropped characters at either end. -/
def trimWhile (dropped : Char → Bool) (text : Text) : Text :=
  dropEndWhile dropped (text.dropWhile dropped)

/-- `text` with every `old` written as `new`. -/
def replaceChar (old new : Char) (text : Text) : Text :=
  text.map fun c => if c = old then new else c

/-- The usual decimal writing, with a minus sign in front of a negative number. -/
def decimal : Int → Text
  | .ofNat n => Nat.toDigits 10 n
  | .negSucc n => '-' :: Nat.toDigits 10 (n + 1)

/-- Order by code points, a shorter text before its continuations. -/
def atMost : Text → Text → Bool
  | [], _ => true
  | _ :: _, [] => false
  | c :: s, d :: t => decide (c.toNat < d.toNat) || (decide (c = d) && atMost s t)

theorem cutAt?_eq_some_append {mark : Char} {text left right : Text}
    (found : cutAt? mark text = some (left, right)) : text = left ++ mark :: right := by
  induction text generalizing left with
  | nil => simp [cutAt?] at found
  | cons c rest ih =>
    rw [cutAt?] at found
    split at found
    · next same => simp_all
    · obtain ⟨⟨before, behind⟩, inner, rebuilt⟩ := Option.map_eq_some_iff.1 found
      simp only [Prod.mk.injEq] at rebuilt
      obtain ⟨rfl, rfl⟩ := rebuilt
      simp [ih inner]

theorem cutAt?_eq_none_iff {mark : Char} {text : Text} :
    cutAt? mark text = none ↔ mark ∉ text := by
  induction text with
  | nil => simp [cutAt?]
  | cons c rest ih =>
    by_cases same : c = mark
    · simp [cutAt?, same]
    · have other : ¬mark = c := fun eq => same eq.symm
      simp [cutAt?, same, other, ih]

theorem cutAt?_append_cons {mark : Char} {left : Text} (absent : mark ∉ left) (right : Text) :
    cutAt? mark (left ++ mark :: right) = some (left, right) := by
  induction left with
  | nil => simp [cutAt?]
  | cons c left ih =>
    have other : c ≠ mark := fun eq => absent (by simp [eq])
    have later : mark ∉ left := fun member => absent (List.mem_cons_of_mem c member)
    simp [cutAt?, other, ih later]

theorem dropLead?_append (lead behind : Text) : dropLead? lead (lead ++ behind) = some behind := by
  induction lead with
  | nil => rfl
  | cons a lead ih => simp [dropLead?, ih]

theorem dropLead?_eq_some_append {lead text behind : Text}
    (found : dropLead? lead text = some behind) : text = lead ++ behind := by
  induction lead generalizing text with
  | nil => simpa [dropLead?] using found
  | cons a lead ih =>
    cases text with
    | nil => simp [dropLead?] at found
    | cons b text =>
      rw [dropLead?] at found
      split at found
      · next same => simp [same, ih found]
      · simp at found

theorem cutAtPhrase?_eq_some_append {phrase text left right : Text}
    (found : cutAtPhrase? phrase text = some (left, right)) :
    text = left ++ phrase ++ right := by
  induction text generalizing left with
  | nil =>
    rw [cutAtPhrase?] at found
    split at found <;> simp_all
  | cons c rest ih =>
    rw [cutAtPhrase?] at found
    split at found
    · next behind started =>
      simp only [Option.some.injEq, Prod.mk.injEq] at found
      obtain ⟨rfl, rfl⟩ := found
      simpa using dropLead?_eq_some_append started
    · obtain ⟨⟨before, behind⟩, inner, rebuilt⟩ := Option.map_eq_some_iff.1 found
      simp only [Prod.mk.injEq] at rebuilt
      obtain ⟨rfl, rfl⟩ := rebuilt
      simpa using ih inner

end Text
end ShaderInterface
