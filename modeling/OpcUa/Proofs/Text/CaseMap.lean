import Mathlib
import OpcUa.Text.Blank
import OpcUa.Text.CaseMap

/-!
# Case of ASCII text

The capital and the small form of an ASCII text are those of its characters, one by one. Letters and
digits are no blanks, and they are letters and digits in either case.
-/

namespace OpcUa.Text

variable {text : List Char}

theorem lowerInto_of_ascii {done before : List Char} (ascii : ∀ c ∈ text, c.toNat < 128) :
    lowerInto done before text = done.reverse ++ text.map Char.toLower := by
  induction text generalizing done before with
  | nil => simp [lowerInto]
  | cons c rest ih =>
    obtain ⟨small, others⟩ := List.forall_mem_cons.mp ascii
    have latin : c ≠ 'Σ' := by
      rintro rfl
      exact absurd small (by decide)
    rw [lowerInto, if_neg latin, ih others, smallForm, if_pos small]
    simp

theorem toLower_of_ascii (ascii : ∀ c ∈ text, c.toNat < 128) :
    toLower (String.ofList text) = String.ofList (text.map Char.toLower) := by
  rw [toLower, String.toList_ofList, lowerInto_of_ascii ascii]
  rfl

theorem toUpper_of_ascii (ascii : ∀ c ∈ text, c.toNat < 128) :
    toUpper (String.ofList text) = String.ofList (text.map Char.toUpper) := by
  have capitals : text.flatMap capitalForm = text.map Char.toUpper := by
    induction text with
    | nil => rfl
    | cons c rest ih =>
      obtain ⟨small, others⟩ := List.forall_mem_cons.mp ascii
      rw [List.flatMap_cons, ih others, capitalForm, if_pos small]
      rfl
  rw [toUpper, String.toList_ofList, capitals]

theorem toNat_of_isAlphanum {c : Char} (plain : c.isAlphanum = true) :
    48 ≤ c.toNat ∧ c.toNat ≤ 57 ∨ 65 ≤ c.toNat ∧ c.toNat ≤ 90 ∨
      97 ≤ c.toNat ∧ c.toNat ≤ 122 := by
  have digits : '0'.val.toNat = 48 ∧ '9'.val.toNat = 57 := by decide
  have capitals : 'A'.val.toNat = 65 ∧ 'Z'.val.toNat = 90 := by decide
  have letters : 'a'.val.toNat = 97 ∧ 'z'.val.toNat = 122 := by decide
  have code : c.toNat = c.val.toNat := rfl
  simp only [Char.isAlphanum, Char.isAlpha, Char.isUpper, Char.isLower, Char.isDigit,
    Bool.or_eq_true, Bool.and_eq_true, decide_eq_true_eq, UInt32.le_iff_toNat_le,
    ge_iff_le] at plain
  omega

theorem ascii_of_isAlphanum {c : Char} (plain : c.isAlphanum = true) : c.toNat < 128 := by
  have code := toNat_of_isAlphanum plain
  omega

theorem not_isBlank_of_isAlphanum {c : Char} (plain : c.isAlphanum = true) :
    isBlank c = false := by
  have code := toNat_of_isAlphanum plain
  simp only [isBlank, Bool.or_eq_false_iff, Bool.and_eq_false_iff, beq_eq_false_iff_ne,
    decide_eq_false_iff_not]
  omega

theorem isAlphanum_toLower (c : Char) : c.toLower.isAlphanum = c.isAlphanum := by
  by_cases upper : c.isUpper = true
  · have letter : c.isAlpha = true := by rw [Char.isAlpha, upper, Bool.true_or]
    rw [Char.isAlphanum, Char.isAlphanum, Char.isAlpha_toLower_eq_isAlpha, letter, Bool.true_or,
      Bool.true_or]
  · rw [Char.toLower_eq_of_not_isUpper upper]

end OpcUa.Text
