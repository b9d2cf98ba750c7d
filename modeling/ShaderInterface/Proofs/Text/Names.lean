import Mathlib.Data.List.Basic
import ShaderInterface.Stage
import ShaderInterface.Text.Digit
import ShaderInterface.Proofs.Text.Cuts

set_option autoImplicit false

namespace ShaderInterface.Text

variable {text : Text} {c : Char}

def isNameChar (c : Char) : Bool := c.isAlphanum || c == '_'

/-- What holds of every ASCII character, checked code point by code point. -/
theorem forall_ascii {P : Char → Prop} (table : ∀ code < 0x80, P (Char.ofNat code))
    (ascii : c.toNat < 0x80) : P c := by
  have entry := table c.toNat ascii
  rwa [Char.ofNat_toNat] at entry

theorem toNat_lt_of_isNameChar (named : isNameChar c = true) : c.toNat < 0x80 := by
  have spelled : (((c.isUpper || c.isLower) || c.isDigit) || c == '_') = true := named
  simp only [Bool.or_eq_true, beq_iff_eq] at spelled
  rcases spelled with ((upper | lower) | digit) | rfl
  · have bounds : 'A'.val ≤ c.val ∧ c.val ≤ 'Z'.val := of_decide_eq_true upper
    have last : c.toNat ≤ 0x5a := UInt32.le_iff_toNat_le.1 bounds.2
    omega
  · have bounds : (decide ('a'.val ≤ c.val) && decide (c.val ≤ 'z'.val)) = true := lower
    simp only [Bool.and_eq_true, decide_eq_true_eq] at bounds
    have last : c.toNat ≤ 0x7a := UInt32.le_iff_toNat_le.1 bounds.2
    omega
  · have bounds : (decide ('0'.val ≤ c.val) && decide (c.val ≤ '9'.val)) = true := digit
    simp only [Bool.and_eq_true, decide_eq_true_eq] at bounds
    have last : c.toNat ≤ 0x39 := UInt32.le_iff_toNat_le.1 bounds.2
    omega
  · decide

theorem isWord_of_isNameChar (named : isNameChar c = true) : isWord c = true := by
  rw [isWord, if_pos (toNat_lt_of_isNameChar named)]
  exact named

theorem isBlank_of_isNameChar (named : isNameChar c = true) : isBlank c = false :=
  forall_ascii (P := fun c => isNameChar c = true → isBlank c = false) (by decide)
    (toNat_lt_of_isNameChar named) named

/-- Lower case takes each character of a name to one character of a name. -/
theorem lowerChar_of_isNameChar (named : isNameChar c = true) :
    lowerChar c = [c.toLower] ∧ isNameChar c.toLower = true :=
  forall_ascii
    (P := fun c => isNameChar c = true → lowerChar c = [c.toLower] ∧ isNameChar c.toLower = true)
    (by decide) (toNat_lt_of_isNameChar named) named

theorem isNameChar_of_isDigit (digit : c.isDigit = true) : isNameChar c = true := by
  simp [isNameChar, Char.isAlphanum, digit]

theorem digitValue?_of_isDigit (digit : c.isDigit = true) :
    digitValue? c = some (c.toNat - '0'.toNat) :=
  forall_ascii (P := fun c => c.isDigit = true → digitValue? c = some (c.toNat - '0'.toNat))
    (by decide) (toNat_lt_of_isNameChar (isNameChar_of_isDigit digit)) digit

theorem isDigit_of_isDigit (digit : c.isDigit = true) : isDigit c = true := by
  simp [isDigit, digitValue?_of_isDigit digit]

theorem isDigit_of_mem_decimal {n : Nat} (member : c ∈ decimal n) : c.isDigit = true :=
  Nat.isDigit_of_mem_toDigits (by decide) (by decide) member

theorem minus_or_isDigit_of_mem_decimal {n : Int} (member : c ∈ decimal n) :
    c = '-' ∨ c.isDigit = true := by
  cases n with
  | ofNat n => exact .inr (isDigit_of_mem_decimal member)
  | negSucc n => exact (List.mem_cons.1 member).imp_right (isDigit_of_mem_decimal (n := n + 1))

theorem decimal_ne_nil (n : Nat) : decimal n ≠ [] := Nat.toDigits_ne_nil

theorem numeralFrom?_of_digits (digits : ∀ c ∈ text, c.isDigit = true) (value : Nat) :
    numeralFrom? value text = some (Nat.ofDigitChars 10 text value) := by
  induction text generalizing value with
  | nil => rw [numeralFrom?, Nat.ofDigitChars_nil]
  | cons c rest ih =>
    have first : c.isDigit = true := digits c (by simp)
    have later : ∀ d ∈ rest, d.isDigit = true := fun d member => digits d (by simp [member])
    rw [numeralFrom?, digitValue?_of_isDigit first, Option.bind_some, ih later,
      Nat.ofDigitChars_cons]

/-- Digits are read as a number, as long as they are not too many. -/
theorem numeral?_of_digits (present : text ≠ []) (digits : ∀ c ∈ text, c.isDigit = true)
    (readable : text.length ≤ numeralLimit) :
    numeral? text = some (Nat.ofDigitChars 10 text 0) := by
  have fits : ¬(text = [] ∨ numeralLimit < text.length) := by
    rintro (empty | long)
    · exact present empty
    · omega
  rw [numeral?, if_neg fits, numeralFrom?_of_digits digits]

/-- A number is read back from its digits. -/
theorem numeral?_decimal {n : Nat} (readable : (decimal n).length ≤ numeralLimit) :
    numeral? (decimal n) = some n := by
  rw [numeral?_of_digits (decimal_ne_nil n) (fun _ => isDigit_of_mem_decimal) readable]
  exact congrArg some Nat.ofDigitChars_ten_toDigits

theorem lowerWords_of_name (present : text ≠ []) (named : ∀ c ∈ text, isNameChar c = true) :
    lowerWords text = [text.map Char.toLower] := by
  have lowered : lower text = text.map Char.toLower := by
    rw [lower, List.map_eq_flatMap]
    apply List.flatMap_congr
    intro c member
    exact (lowerChar_of_isNameChar (named c member)).1
  have words : ∀ c ∈ text.map Char.toLower, (!isWord c) = false := by
    intro c member
    obtain ⟨upper, source, rfl⟩ := List.mem_map.1 member
    simp [isWord_of_isNameChar (lowerChar_of_isNameChar (named upper source)).2]
  rw [lowerWords, lowered, List.splitOnP_eq_singleton words]
  simp [present]

/-- A tag of one word names the fragment stage when that word does, in any case. -/
theorem stage_ofTag_of_name (present : text ≠ []) (named : ∀ c ∈ text, isNameChar c = true) :
    Stage.ofTag text =
      if text.map Char.toLower ∈ Stage.fragmentWords then .fragment else .vertex := by
  simp [Stage.ofTag, lowerWords_of_name present named]

end ShaderInterface.Text
