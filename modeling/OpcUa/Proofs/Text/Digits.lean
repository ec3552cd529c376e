import OpcUa.Text.Decimal

/-!
# Decimal digits

What the digits of a number are and that they spell it, with any zeros before them. A decimal is
read from these digits, which a plus sign may lead, and from nothing else.
-/

namespace OpcUa.Decimal

/-- What digits spell after others that spell `start`. -/
def valueFrom (start : Nat) (digits : List Char) : Nat :=
  digits.foldl (fun n c => n * 10 + digitValue c) start

theorem valueFrom_eq_ofDigitChars (start : Nat) (digits : List Char) :
    valueFrom start digits = Nat.ofDigitChars 10 digits start := by
  simp only [valueFrom, Nat.ofDigitChars_eq_foldl, digitValue, Nat.mul_comm]

theorem valueFrom_toDigits (n : Nat) : valueFrom 0 (Nat.toDigits 10 n) = n := by
  rw [valueFrom_eq_ofDigitChars, Nat.ofDigitChars_ten_toDigits]

theorem valueFrom_zeros (count : Nat) (digits : List Char) :
    valueFrom 0 (List.replicate count '0' ++ digits) = valueFrom 0 digits := by
  simp only [valueFrom_eq_ofDigitChars, Nat.ofDigitChars_append, Nat.ofDigitChars_replicate_zero,
    Nat.mul_zero]

/-- Only zero is spelled with a zero in front. -/
theorem head?_toDigits {n : Nat} (positive : 0 < n) : (Nat.toDigits 10 n).head? ≠ some '0' := by
  induction n using Nat.strongRecOn with
  | ind n ih =>
    rw [Nat.toDigits_eq_if (by decide)]
    split
    · rename_i small
      simp only [List.head?_cons, ne_eq, Option.some.injEq, Nat.digitChar_eq_zero]
      omega
    · rename_i large
      rw [List.head?_append, Option.or_of_isSome (by simp [Nat.toDigits_ne_nil])]
      exact ih (n / 10) (by omega) (by omega)

variable {bound n start : Nat} {digits text : List Char}

theorem digitChar_digitValue {c : Char} (digit : c.isDigit = true) :
    Nat.digitChar (digitValue c) = c := by
  obtain ⟨low, high⟩ : 48 ≤ c.toNat ∧ c.toNat ≤ 57 := Char.isDigit_iff_toNat.mp digit
  have value : digitValue c = c.toNat - 48 := rfl
  apply Char.toNat_inj.mp
  rw [Nat.toNat_digitChar_of_lt_ten (by omega)]
  omega

theorem digitValue_lt {c : Char} (digit : c.isDigit = true) : digitValue c < 10 := by
  obtain ⟨low, high⟩ : 48 ≤ c.toNat ∧ c.toNat ≤ 57 := Char.isDigit_iff_toNat.mp digit
  have value : digitValue c = c.toNat - 48 := rfl
  omega

theorem le_valueFrom (start : Nat) (digits : List Char) : start ≤ valueFrom start digits := by
  induction digits generalizing start with
  | nil => exact Nat.le_refl _
  | cons c digits ih =>
    have further : start * 10 + digitValue c ≤ valueFrom start (c :: digits) := ih _
    omega

/-- The digits that follow those of a number, zero apart, spell a number together with them. -/
theorem toDigits_append (positive : 0 < start) (all : ∀ c ∈ digits, c.isDigit = true) :
    Nat.toDigits 10 start ++ digits = Nat.toDigits 10 (valueFrom start digits) := by
  induction digits generalizing start with
  | nil => exact List.append_nil _
  | cons c digits ih =>
    obtain ⟨digit, later⟩ := List.forall_mem_cons.mp all
    have small := digitValue_lt digit
    have one_more : Nat.toDigits 10 start ++ [c] = Nat.toDigits 10 (start * 10 + digitValue c) := by
      have joined := Nat.toDigits_append_toDigits (b := 10) (by decide) positive small
      rwa [Nat.toDigits_of_lt_base small, digitChar_digitValue digit, Nat.mul_comm] at joined
    rw [← List.singleton_append, ← List.append_assoc, one_more]
    exact ih (by omega) later

/-- Digits are those of the number that they spell, after any zeros. -/
theorem exists_zeros (some_digit : digits ≠ []) (all : ∀ c ∈ digits, c.isDigit = true) :
    ∃ zeros, digits = List.replicate zeros '0' ++ Nat.toDigits 10 (valueFrom 0 digits) := by
  induction digits with
  | nil => exact absurd rfl some_digit
  | cons c digits ih =>
    obtain ⟨digit, later⟩ := List.forall_mem_cons.mp all
    by_cases zero : c = '0'
    · subst zero
      cases digits with
      | nil => exact ⟨0, rfl⟩
      | cons d digits =>
        obtain ⟨zeros, spelled⟩ := ih (List.cons_ne_nil _ _) later
        exact ⟨zeros + 1, congrArg ('0' :: ·) spelled⟩
    · have positive : 0 < digitValue c := by
        refine Nat.pos_of_ne_zero fun none_left => zero ?_
        rw [← digitChar_digitValue digit, none_left]
        rfl
      have first : valueFrom 0 (c :: digits) = valueFrom (digitValue c) digits := by
        rw [valueFrom, List.foldl_cons, Nat.zero_mul, Nat.zero_add, valueFrom]
      refine ⟨0, ?_⟩
      rw [first, ← toDigits_append positive later, Nat.toDigits_of_lt_base (digitValue_lt digit),
        digitChar_digitValue digit]
      rfl

/-! ### Reading a decimal -/

/-- The digits of a number, after any zeros. -/
def IsNumeral (digits : List Char) (n : Nat) : Prop :=
  ∃ zeros, digits = List.replicate zeros '0' ++ Nat.toDigits 10 n

/-- The texts of a number: its digits, after any zeros and possibly a plus sign. -/
def Spells (text : List Char) (n : Nat) : Prop :=
  IsNumeral text n ∨ ∃ digits, text = '+' :: digits ∧ IsNumeral digits n

theorem extend_eq_ok_iff : extend bound start digits = .ok n ↔
    (∀ c ∈ digits, c.isDigit = true) ∧ valueFrom start digits = n ∧ (digits = [] ∨ n < bound) := by
  induction digits generalizing start with
  | nil => simp [extend, valueFrom]
  | cons c digits ih =>
    have onward : valueFrom start (c :: digits) =
        valueFrom (start * 10 + digitValue c) digits := rfl
    have grows := le_valueFrom (start * 10 + digitValue c) digits
    rw [extend, List.forall_mem_cons, onward]
    by_cases digit : c.isDigit = true
    · rw [digit, Bool.not_true, if_neg Bool.false_ne_true]
      split
      · rename_i large
        simp only [reduceCtorEq, List.cons_ne_nil, false_or, false_iff]
        rintro ⟨-, rfl, small⟩
        omega
      · rename_i small
        rw [ih]
        constructor
        · rintro ⟨later, rfl, last | fits⟩
          · subst last
            exact ⟨⟨rfl, later⟩, rfl, .inr (Nat.lt_of_not_le small)⟩
          · exact ⟨⟨rfl, later⟩, rfl, .inr fits⟩
        · rintro ⟨⟨-, later⟩, rfl, last | fits⟩
          · cases last
          · exact ⟨later, rfl, .inr fits⟩
    · simp [digit]

theorem spells_toString (n : Nat) : Spells (toString n).toList n := by
  refine .inl ⟨0, ?_⟩
  show (String.ofList (Nat.toDigits 10 n)).toList = _
  rw [String.toList_ofList]
  rfl

theorem IsNumeral.isDigit (numeral : IsNumeral digits n) : ∀ c ∈ digits, c.isDigit = true := by
  obtain ⟨zeros, rfl⟩ := numeral
  intro c member
  rcases List.mem_append.mp member with zero | digit
  · rw [List.eq_of_mem_replicate zero]
    rfl
  · exact Nat.isDigit_of_mem_toDigits (by decide) (by decide) digit

theorem IsNumeral.ne_nil (numeral : IsNumeral digits n) : digits ≠ [] := by
  obtain ⟨zeros, rfl⟩ := numeral
  exact List.append_ne_nil_of_right_ne_nil _ Nat.toDigits_ne_nil

theorem IsNumeral.ne_plus (numeral : IsNumeral digits n) (more : List Char) :
    digits ≠ '+' :: more := by
  rintro rfl
  exact absurd (numeral.isDigit '+' List.mem_cons_self) (by decide)

/-- Nothing stands in a decimal but digits and a plus sign. -/
theorem Spells.not_mem {c : Char} (spelled : Spells text n) (other : c.isDigit = false)
    (unsigned : c ≠ '+') : c ∉ text := by
  intro member
  rcases spelled with numeral | ⟨digits, rfl, numeral⟩
  · exact Bool.false_ne_true (other.symm.trans (numeral.isDigit c member))
  · rcases List.mem_cons.mp member with sign | member
    · exact unsigned sign
    · exact Bool.false_ne_true (other.symm.trans (numeral.isDigit c member))

theorem isNumeral_iff (some_digit : digits ≠ []) :
    IsNumeral digits n ↔ (∀ c ∈ digits, c.isDigit = true) ∧ valueFrom 0 digits = n := by
  constructor
  · intro numeral
    refine ⟨numeral.isDigit, ?_⟩
    obtain ⟨zeros, rfl⟩ := numeral
    rw [valueFrom_zeros, valueFrom_toDigits]
  · rintro ⟨all, rfl⟩
    exact exists_zeros some_digit all

theorem extend_zero_eq_ok_iff (some_digit : digits ≠ []) :
    extend bound 0 digits = .ok n ↔ n < bound ∧ IsNumeral digits n := by
  rw [extend_eq_ok_iff, isNumeral_iff some_digit]
  simp only [some_digit, false_or]
  exact ⟨fun ⟨all, value, fits⟩ => ⟨fits, all, value⟩, fun ⟨fits, all, value⟩ => ⟨all, value, fits⟩⟩

/-- A number is read from its texts, if it is below the bound, and from no others. -/
theorem read_eq_ok_iff : read bound text = .ok n ↔ n < bound ∧ Spells text n := by
  unfold read Spells
  split
  · simp [show ¬ IsNumeral [] n from fun numeral => numeral.ne_nil rfl]
  · have unsigned : ¬ IsNumeral ['+'] n := fun numeral => numeral.ne_plus [] rfl
    have unfollowed : ¬ IsNumeral [] n := fun numeral => numeral.ne_nil rfl
    simp [unsigned, unfollowed]
  · rename_i digits some_digit
    have unsigned : ¬ IsNumeral ('+' :: digits) n := fun numeral => numeral.ne_plus digits rfl
    rw [extend_zero_eq_ok_iff (fun nothing => some_digit nothing)]
    simp [unsigned]
  · rename_i some_digit _ unsigned
    rw [extend_zero_eq_ok_iff some_digit]
    have signed : ¬ ∃ digits, text = '+' :: digits ∧ IsNumeral digits n :=
      fun ⟨digits, marked, _⟩ => unsigned digits marked
    simp [signed]

end OpcUa.Decimal
