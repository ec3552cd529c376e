import Mathlib.Algebra.Group.Int.Defs
import OpcUa.Json.Printer
import OpcUa.Json.Reader
import OpcUa.Proofs.Text.Digits
import OpcUa.Proofs.Text.Hex
import OpcUa.Proofs.Text.Utf8

/-!
# JSON literals

Every text is read back from its literal, character by character: an escaped character stands for
itself, and no byte of any other is the quote, the backslash or a control character. A whole number
is read back from its digits, if no character that could continue a number follows them.
-/

namespace OpcUa.Json

open OpcUa.Text

/-! ### Texts -/

/-- The bytes of characters that stand for themselves are taken as they are. -/
theorem scanText_plain {bytes : List UInt8}
    (plain : ∀ b ∈ bytes, 0x20 ≤ b.toNat ∧ b ≠ 0x22 ∧ b ≠ 0x5C)
    (done : List UInt8) (sound : Bool) (input : List UInt8) :
    scanText done sound (bytes ++ input) = scanText (bytes.reverse ++ done) sound input := by
  induction bytes generalizing done with
  | nil => rfl
  | cons b bytes ih =>
    obtain ⟨space, quote, backslash⟩ := plain b List.mem_cons_self
    have printed : ¬ b < 0x20 := by
      rw [UInt8.lt_iff_toNat_lt]
      exact Nat.not_lt.mpr space
    rw [List.cons_append, scanText.eq_def]
    simp only
    rw [if_neg quote, if_neg backslash, if_neg printed,
      ih fun d member => plain d (List.mem_cons_of_mem _ member)]
    simp

theorem scanText_letter {letter byte : UInt8} (escape : letterEscape? letter = some byte)
    (done : List UInt8) (sound : Bool) (input : List UInt8) :
    scanText done sound (0x5C :: letter :: input) = scanText (byte :: done) sound input := by
  have unicode : letter ≠ 0x75 := by
    rintro rfl
    cases escape
  rw [scanText.eq_def]
  simp only
  rw [if_neg (by decide), if_pos trivial, if_neg unicode, escape]

theorem ascii_ofNumber {width n : Nat} : ∀ c ∈ Hex.ofNumber width n, c.toNat < 0x80 := by
  intro c member
  obtain ⟨digit, small, rfl⟩ := Hex.mem_ofNumber member
  exact Hex.digitOf_ascii small

theorem length_utf8_ofNumber (width n : Nat) : (utf8 (Hex.ofNumber width n)).length = width := by
  rw [utf8_of_ascii ascii_ofNumber, List.length_map, Hex.length_ofNumber]

theorem hexUnit?_ofNumber {n : Nat} (fits : n < 0x10000) :
    hexUnit? (utf8 (Hex.ofNumber 4 n)) = some n := by
  have length := length_utf8_ofNumber 4 n
  have same : (utf8 (Hex.ofNumber 4 n)).map (fun b => Char.ofNat b.toNat) = Hex.ofNumber 4 n := by
    rw [utf8_of_ascii ascii_ofNumber, List.map_map]
    conv_rhs => rw [← List.map_id (Hex.ofNumber 4 n)]
    refine List.map_congr_left fun c member => ?_
    have small := ascii_ofNumber c member
    have wide : c.toNat % 256 = c.toNat := by omega
    simp [wide]
  rw [hexUnit?, if_neg (by omega), List.take_of_length_le (by omega), same, Hex.number?_ofNumber,
    Nat.mod_eq_of_lt (by omega)]

theorem scanText_unicode {c : Char} (control : c.toNat < 0x20) (done : List UInt8) (sound : Bool)
    (input : List UInt8) :
    scanText done sound (0x5C :: 0x75 :: (utf8 (Hex.ofNumber 4 c.toNat) ++ input)) =
      scanText (prepend c done) sound input := by
  have length := length_utf8_ofNumber 4 c.toNat
  have unit := hexUnit?_ofNumber (show c.toNat < 0x10000 by omega)
  have lead : isLeadSurrogate c.toNat = false := by
    simp only [isLeadSurrogate, Bool.and_eq_false_iff, decide_eq_false_iff_not]
    omega
  have trail : isTrailSurrogate c.toNat = false := by
    simp only [isTrailSurrogate, Bool.and_eq_false_iff, decide_eq_false_iff_not]
    omega
  rw [scanText.eq_def]
  simp only
  rw [if_neg (by decide), if_pos trivial, if_pos trivial, List.take_left' length, unit,
    List.drop_left' length]
  simp [lead, trail]

/-- A character that is not escaped shows as bytes that neither end nor escape. -/
theorem plain_utf8EncodeChar {c : Char} (printed : 0x20 ≤ c.toNat) (quote : c ≠ '"')
    (backslash : c ≠ '\\') :
    ∀ b ∈ String.utf8EncodeChar c, 0x20 ≤ b.toNat ∧ b ≠ 0x22 ∧ b ≠ 0x5C := by
  intro b member
  rcases Nat.lt_or_ge c.toNat 0x80 with ascii | wide
  · rw [utf8EncodeChar_of_ascii ascii, List.mem_singleton] at member
    have code : b.toNat = c.toNat := by
      rw [member, UInt8.toNat_ofNat', Nat.mod_eq_of_lt (by omega)]
    refine ⟨by omega, ?_, ?_⟩
    · rintro rfl
      exact quote (Char.toNat_inj.mp code.symm)
    · rintro rfl
      exact backslash (Char.toNat_inj.mp code.symm)
  · have := le_of_mem_utf8EncodeChar wide member
    refine ⟨by omega, ?_, ?_⟩
    · rintro rfl
      exact absurd this (by decide)
    · rintro rfl
      exact absurd this (by decide)

theorem scanText_escaped (c : Char) (done input : List UInt8) :
    scanText done true (utf8 (escaped c) ++ input) = scanText (prepend c done) true input := by
  rw [escaped.eq_def]
  split
  · exact @scanText_letter 0x22 0x22 rfl done true input
  · exact @scanText_letter 0x5C 0x5C rfl done true input
  · exact @scanText_letter 0x6E 0x0A rfl done true input
  · exact @scanText_letter 0x72 0x0D rfl done true input
  · exact @scanText_letter 0x74 0x09 rfl done true input
  · exact @scanText_letter 0x62 0x08 rfl done true input
  · exact @scanText_letter 0x66 0x0C rfl done true input
  · rename_i quote backslash _ _ _ _ _
    split
    · rename_i control
      exact scanText_unicode control done true input
    · rename_i printed
      rw [utf8_cons, utf8_nil, List.append_nil]
      exact scanText_plain (plain_utf8EncodeChar (Nat.not_lt.mp printed) quote backslash) done true
        input

/-- The literal of a text. -/
def quoted (text : String) : List Char :=
  '"' :: (text.toList.flatMap escaped ++ ['"'])

theorem scanText_quoted (before after : List Char) (input : List UInt8) :
    scanText (utf8 before).reverse true (utf8 (after.flatMap escaped) ++ 0x22 :: input) =
      some (some (String.ofList (before ++ after)), input) := by
  induction after generalizing before with
  | nil =>
    rw [List.flatMap_nil, utf8_nil, List.nil_append, scanText.eq_def]
    simp [textOf?, fromUTF8?_utf8]
  | cons c after ih =>
    have prepended : prepend c (utf8 before).reverse = (utf8 (before ++ [c])).reverse := by
      simp [prepend]
    rw [List.flatMap_cons, utf8_append, List.append_assoc, scanText_escaped, prepended, ih,
      List.append_assoc, List.singleton_append]

theorem scanToken_quoted (text : String) (input : List UInt8) :
    scanToken 0x22 (utf8 (text.toList.flatMap escaped) ++ 0x22 :: input) =
      some (.text (some text), input) := by
  have read := scanText_quoted [] text.toList input
  rw [List.nil_append, String.ofList_toList, utf8_nil, List.reverse_nil] at read
  simp [scanToken, read]

/-! ### Whole numbers -/

/-- Nothing follows, or what may follow a value in a list or an object. -/
def EndsValue (rest : List UInt8) : Prop :=
  ∀ b ∈ rest.head?, b = 0x2C ∨ b = 0x5D ∨ b = 0x7D

/-- The digits of a natural number. -/
def digits (n : Nat) : List Char :=
  Nat.toDigits 10 n

theorem toNat_of_mem_digits {n : Nat} {c : Char} (member : c ∈ digits n) :
    48 ≤ c.toNat ∧ c.toNat ≤ 57 :=
  Char.isDigit_iff_toNat.mp (Nat.isDigit_of_mem_toDigits (by decide) (by decide) member)

theorem utf8_digits (n : Nat) : utf8 (digits n) = (digits n).map fun c => UInt8.ofNat c.toNat := by
  refine utf8_of_ascii fun c member => ?_
  have := toNat_of_mem_digits member
  omega

theorem isDigit_of_mem_digits {n : Nat} {b : UInt8} (member : b ∈ utf8 (digits n)) :
    isDigit b = true := by
  rw [utf8_digits, List.mem_map] at member
  obtain ⟨c, member, rfl⟩ := member
  have := toNat_of_mem_digits member
  simp only [isDigit, Bool.and_eq_true, decide_eq_true_eq, UInt8.le_iff_toNat_le,
    UInt8.toNat_ofNat']
  simp
  omega

theorem digitsValue_digits (n : Nat) : digitsValue (utf8 (digits n)) = n := by
  have same : ∀ c ∈ digits n, (UInt8.ofNat c.toNat).toNat - 0x30 = Decimal.digitValue c := by
    intro c member
    have := toNat_of_mem_digits member
    rw [UInt8.toNat_ofNat', Nat.mod_eq_of_lt (by omega)]
    rfl
  have fold : ∀ (cs : List Char) (start : Nat), (∀ c ∈ cs, c ∈ digits n) →
      (cs.map fun c => UInt8.ofNat c.toNat).foldl (fun n b => n * 10 + (b.toNat - 0x30)) start =
        Decimal.valueFrom start cs := by
    intro cs
    induction cs with
    | nil => exact fun _ _ => rfl
    | cons c cs ih =>
      intro start within
      rw [List.map_cons, List.foldl_cons, same c (within c List.mem_cons_self),
        ih _ fun d member => within d (List.mem_cons_of_mem _ member)]
      rfl
  rw [digitsValue, utf8_digits, fold _ _ fun _ member => member]
  exact Decimal.valueFrom_toDigits n

theorem span_digits (n : Nat) {rest : List UInt8} (ends : EndsValue rest) :
    (utf8 (digits n) ++ rest).span isDigit = (utf8 (digits n), rest) := by
  have all : ∀ b ∈ utf8 (digits n), isDigit b = true := fun b => isDigit_of_mem_digits
  have stops : rest.takeWhile isDigit = [] ∧ rest.dropWhile isDigit = rest := by
    cases rest with
    | nil => exact ⟨rfl, rfl⟩
    | cons b rest =>
      have other : isDigit b = false := by
        rcases ends b rfl with rfl | rfl | rfl <;> rfl
      simp [other]
  rw [List.span_eq_takeWhile_dropWhile, List.takeWhile_append_of_pos all,
    List.dropWhile_append_of_pos all, stops.1, stops.2, List.append_nil]

theorem digits_ne_nil (n : Nat) : utf8 (digits n) ≠ [] := by
  rw [utf8_digits]
  simp [digits, Nat.toDigits_ne_nil]

theorem head?_digits {n : Nat} (zero : (utf8 (digits n)).head? = some 0x30) : n = 0 := by
  rw [utf8_digits, List.head?_map, Option.map_eq_some_iff] at zero
  obtain ⟨c, first, code⟩ := zero
  have digit := toNat_of_mem_digits (List.mem_of_mem_head? first)
  have codes : c.toNat % 256 = 48 := congrArg UInt8.toNat code
  have same : c = '0' := Char.toNat_inj.mp (show c.toNat = 48 by omega)
  rcases Nat.eq_zero_or_pos n with none | positive
  · exact none
  · exact absurd (same ▸ first) (Decimal.head?_toDigits positive)

theorem scanWhole_digits (n : Nat) {rest : List UInt8} (ends : EndsValue rest) :
    scanWhole (utf8 (digits n) ++ rest) = some (utf8 (digits n), rest) := by
  have plain : ¬(utf8 (digits n) = [] ∨
      ((utf8 (digits n)).head? = some 0x30 ∧ 1 < (utf8 (digits n)).length)) := by
    rintro (empty | ⟨zero, long⟩)
    · exact digits_ne_nil n empty
    · rw [head?_digits zero] at long
      exact absurd long (by decide)
  rw [scanWhole, span_digits n ends]
  simp only [if_neg plain]

theorem scanFraction_of_ends {rest : List UInt8} (ends : EndsValue rest) :
    scanFraction rest = some (none, rest) := by
  rw [scanFraction, if_neg]
  intro point
  rcases ends _ point with h | h | h <;> cases h

theorem scanExponent_of_ends {rest : List UInt8} (ends : EndsValue rest) :
    scanExponent rest = some (none, rest) := by
  cases rest with
  | nil => rfl
  | cons b rest => rcases ends b rfl with rfl | rfl | rfl <;> rfl

theorem scanNumber_digits (negative : Bool) (n : Nat) {rest : List UInt8} (ends : EndsValue rest) :
    scanNumber negative (utf8 (digits n) ++ rest) =
      some (.atom (Numeral.value ⟨negative, utf8 (digits n), none, none⟩), rest) := by
  simp [scanNumber, scanWhole_digits n ends, scanFraction_of_ends ends, scanExponent_of_ends ends]

/-- The digits of a whole number, after its sign. -/
def numeral (n : Int) : List Char :=
  if n < 0 then '-' :: digits n.natAbs else digits n.natAbs

theorem toList_toString (n : Int) : (toString n).toList = numeral n := by
  cases n with
  | ofNat n => exact Nat.toList_repr
  | negSucc n =>
    rw [numeral, if_pos (Int.negSucc_lt_zero n)]
    show ("-" ++ Nat.repr (n + 1)).toList = _
    rw [String.toList_append, Nat.toList_repr]
    rfl

theorem value_digits {n : Nat} (fits : n < UInt64.size) :
    Numeral.value ⟨false, utf8 (digits n), none, none⟩ = .int n := by
  simp only [Numeral.value, digitsValue_digits, decide_eq_true fits]
  rfl

theorem value_negative_digits {n : Nat} (positive : 0 < n) (fits : n ≤ 1 <<< 63) :
    Numeral.value ⟨true, utf8 (digits n), none, none⟩ = .int (-n) := by
  simp only [Numeral.value, digitsValue_digits, decide_eq_true positive, decide_eq_true fits]
  rfl

theorem isBlankByte_of_isDigit {b : UInt8} (digit : isDigit b = true) : isBlankByte b = false := by
  rw [← Bool.not_eq_true]
  intro blank
  simp only [isBlankByte, Bool.or_eq_true, beq_iff_eq] at blank
  rcases blank with ((rfl | rfl) | rfl) | rfl <;> cases digit

theorem scanToken_digit {b : UInt8} (digit : isDigit b = true) (rest : List UInt8) :
    scanToken b rest = scanNumber false (b :: rest) := by
  have other : ∀ mark, isDigit mark = false → b ≠ mark := by
    rintro mark unlike rfl
    exact absurd digit (by rw [unlike]; decide)
  rw [scanToken, if_neg (other _ rfl), if_neg (other _ rfl), if_neg (other _ rfl),
    if_neg (other _ rfl), if_neg (other _ rfl), if_neg (other _ rfl), if_neg (other _ rfl),
    if_neg (other _ rfl), if_pos digit]

theorem scanToken_numeral {n : Int} (lower : -2 ^ 63 ≤ n) (upper : n < 2 ^ 64)
    {rest : List UInt8} (ends : EndsValue rest) :
    ∃ b tail, utf8 (numeral n) = b :: tail ∧ isBlankByte b = false ∧
      scanToken b (tail ++ rest) = some (.atom (.int n), rest) := by
  rcases Int.lt_or_le n 0 with negative | nonneg
  · refine ⟨0x2D, utf8 (digits n.natAbs), ?_, rfl, ?_⟩
    · rw [numeral, if_pos negative]
      rfl
    · have size : -(n.natAbs : Int) = n := by omega
      have read := scanNumber_digits true n.natAbs ends
      rw [value_negative_digits (by omega) (by omega), size] at read
      exact read
  · obtain ⟨b, tail, spelled⟩ := List.exists_cons_of_ne_nil (digits_ne_nil n.natAbs)
    have digit : isDigit b = true := isDigit_of_mem_digits (spelled ▸ List.mem_cons_self)
    have size : (n.natAbs : Int) = n := by omega
    have read := scanNumber_digits false n.natAbs ends
    have fits : n.natAbs < 2 ^ 64 := by omega
    rw [value_digits fits, size, spelled] at read
    rw [numeral, if_neg (by omega), spelled]
    exact ⟨b, tail, rfl, isBlankByte_of_isDigit digit, (scanToken_digit digit _).trans read⟩

end OpcUa.Json
