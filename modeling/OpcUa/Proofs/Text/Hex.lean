import Mathlib.Algebra.Group.Nat.Defs
import Mathlib.Data.List.Induction
import Mathlib.Data.List.TakeDrop
import Mathlib.Tactic.SplitIfs
import OpcUa.Guid
import OpcUa.Text.Blank

/-!
# Hexadecimal digits

The digits of a number spell it, as far as their width reaches, in either case. A guid has as many
as it needs, so its text is read as the guid; it is read from three more forms of it and from
nothing else.
-/

namespace OpcUa

namespace Hex

theorem digitValue?_digitOf {n : Nat} (digit : n < 16) : digitValue? (digitOf n) = some n := by
  have all : ∀ n < 16, digitValue? (digitOf n) = some n := by decide
  exact all n digit

theorem digitOf_ascii {n : Nat} (digit : n < 16) : (digitOf n).toNat < 0x80 := by
  have all : ∀ n < 16, (digitOf n).toNat < 0x80 := by decide
  exact all n digit

theorem length_ofNumber (width n : Nat) : (ofNumber width n).length = width := by
  induction width generalizing n with
  | zero => rfl
  | succ width ih => rw [ofNumber, List.length_append, ih, List.length_singleton]

theorem mem_ofNumber {width n : Nat} {c : Char} (member : c ∈ ofNumber width n) :
    ∃ digit < 16, c = digitOf digit := by
  induction width generalizing n with
  | zero => cases member
  | succ width ih =>
    rcases List.mem_append.mp member with member | last
    · exact ih member
    · exact ⟨n % 16, Nat.mod_lt n (by decide), List.mem_singleton.mp last⟩

theorem number?_ofNumber (width n : Nat) : number? (ofNumber width n) = some (n % 16 ^ width) := by
  induction width generalizing n with
  | zero => rw [Nat.pow_zero, Nat.mod_one]; rfl
  | succ width ih =>
    have before : number? (ofNumber width (n / 16)) = some (n / 16 % 16 ^ width) := ih (n / 16)
    rw [number?] at before ⊢
    rw [ofNumber, List.foldlM_append, before]
    simp only [Option.bind_eq_bind, Option.bind_some, List.foldlM_cons, List.foldlM_nil,
      digitValue?_digitOf (Nat.mod_lt n (by decide)), Option.map_some, Option.pure_def]
    rw [Nat.pow_succ, Nat.mul_comm (16 ^ width), Nat.mod_mul]
    congr 1
    omega

/-! ### Either case -/

theorem toNat_digitOf {n : Nat} (digit : n < 16) :
    (digitOf n).toNat = if n < 10 then 48 + n else 87 + n := by
  have all : ∀ n < 16, (digitOf n).toNat = if n < 10 then 48 + n else 87 + n := by decide
  exact all n digit

theorem toNat_toLower (c : Char) :
    c.toLower.toNat = if 65 ≤ c.toNat ∧ c.toNat ≤ 90 then c.toNat + 32 else c.toNat := by
  have within : (c.val ≥ 'A'.val ∧ c.val ≤ 'Z'.val) ↔ 65 ≤ c.toNat ∧ c.toNat ≤ 90 := Iff.rfl
  unfold Char.toLower
  split
  · rename_i upper
    have small := (within.mp upper).2
    rw [if_pos (within.mp upper)]
    show (c.val + 32).toNat = c.val.toNat + 32
    rw [UInt32.toNat_add]
    exact Nat.mod_eq_of_lt (Nat.lt_of_le_of_lt (Nat.add_le_add_right small 32) (by decide))
  · rename_i other
    rw [if_neg (mt within.mpr other)]

/-- The digits of either case are those that are written, but for the case. -/
theorem digitValue?_eq_some_iff {c : Char} {n : Nat} :
    digitValue? c = some n ↔ n < 16 ∧ c.toLower = digitOf n := by
  have code (low high : Char) :
      (low ≤ c ∧ c ≤ high) = (low.toNat ≤ c.toNat ∧ c.toNat ≤ high.toNat) := rfl
  rw [← Char.toNat_inj, toNat_toLower]
  simp only [digitValue?, code, show '0'.toNat = 48 from rfl, show '9'.toNat = 57 from rfl,
    show 'a'.toNat = 97 from rfl, show 'f'.toNat = 102 from rfl, show 'A'.toNat = 65 from rfl,
    show 'F'.toNat = 70 from rfl]
  by_cases digit : n < 16
  · rw [toNat_digitOf digit]
    split_ifs <;> simp [digit] <;> omega
  · split_ifs <;> simp [digit] <;> omega

/-- A number is read from its digits in either case. -/
theorem number?_eq_some_iff {digits : List Char} {n : Nat} :
    number? digits = some n ↔
      n < 16 ^ digits.length ∧ digits.map Char.toLower = ofNumber digits.length n := by
  induction digits using List.reverseRecOn generalizing n with
  | nil => simp [number?, ofNumber, eq_comm]
  | append_singleton digits c ih =>
    have step : number? (digits ++ [c]) =
        (number? digits).bind fun m => (digitValue? c).map (m * 16 + ·) := by
      simp [number?, List.foldlM_append]
    rw [step, List.length_append, List.length_singleton, ofNumber, List.map_append,
      List.map_singleton, Nat.pow_succ]
    simp only [Option.bind_eq_some_iff, Option.map_eq_some_iff, ih, digitValue?_eq_some_iff]
    constructor
    · rintro ⟨m, ⟨fits, spelled⟩, d, ⟨small, last⟩, rfl⟩
      have high : (m * 16 + d) / 16 = m := by omega
      have low : (m * 16 + d) % 16 = d := by omega
      rw [high, low, spelled, last]
      exact ⟨by omega, rfl⟩
    · rintro ⟨fits, spelled⟩
      obtain ⟨before, last⟩ := List.append_inj' spelled rfl
      exact ⟨n / 16, ⟨Nat.div_lt_of_lt_mul (by omega), before⟩, n % 16,
        ⟨Nat.mod_lt n (by decide), List.singleton_inj.mp last⟩, by omega⟩

/-! ### Bytes -/

/-- A hexadecimal digit of either case. -/
def IsDigit (c : Char) : Prop :=
  '0' ≤ c ∧ c ≤ '9' ∨ 'a' ≤ c ∧ c ≤ 'f' ∨ 'A' ≤ c ∧ c ≤ 'F'

instance (c : Char) : Decidable (IsDigit c) :=
  inferInstanceAs (Decidable (_ ∨ _))

theorem exists_digitValue?_iff {c : Char} : (∃ n, digitValue? c = some n) ↔ IsDigit c := by
  unfold digitValue? IsDigit
  split_ifs <;> simp [*]

theorem byteOf?_eq_some_iff {high low : Char} {b : UInt8} :
    byteOf? high low = some b ↔ [high.toLower, low.toLower] = ofByte b := by
  have small := b.toNat_lt
  simp only [byteOf?, Option.bind_eq_bind, Option.bind_eq_some_iff, digitValue?_eq_some_iff,
    Option.pure_def, Option.some.injEq, ofByte, List.cons.injEq, and_true]
  constructor
  · rintro ⟨h, ⟨fits, first⟩, l, ⟨fits', second⟩, rfl⟩
    have value : (UInt8.ofNat (h * 16 + l)).toNat = h * 16 + l :=
      UInt8.toNat_ofNat_of_lt' (by show h * 16 + l < 256; omega)
    have upper : (h * 16 + l) / 16 = h := by omega
    have lower : (h * 16 + l) % 16 = l := by omega
    rw [value, upper, lower]
    exact ⟨first, second⟩
  · rintro ⟨first, second⟩
    refine ⟨b.toNat / 16, ⟨by omega, first⟩, b.toNat % 16, ⟨by omega, second⟩, ?_⟩
    have whole : b.toNat / 16 * 16 + b.toNat % 16 = b.toNat := by omega
    rw [whole, UInt8.ofNat_toNat]

theorem length_flatMap_ofByte (bytes : List UInt8) :
    (bytes.flatMap ofByte).length = 2 * bytes.length := by
  induction bytes with
  | nil => rfl
  | cons b bytes ih =>
    rw [List.flatMap_cons, List.length_append, ih, List.length_cons]
    show 2 + 2 * bytes.length = 2 * (bytes.length + 1)
    omega

theorem pair_of_append {a b : Char} {rest text : List Char} {c : UInt8}
    (same : a :: b :: rest = ofByte c ++ text) : [a, b] = ofByte c ∧ rest = text := by
  simp only [ofByte, List.cons_append, List.nil_append, List.cons.injEq, and_true] at same ⊢
  obtain ⟨first, second, others⟩ := same
  exact ⟨⟨first, second⟩, others⟩

theorem decodeInto_eq_some_iff {done bytes : List UInt8} {text : List Char} :
    decodeInto done text = some bytes ↔
      ∃ later, bytes = done.reverse ++ later ∧ text.map Char.toLower = later.flatMap ofByte := by
  fun_induction decodeInto done text with
  | case1 done =>
    constructor
    · rintro ⟨⟩
      exact ⟨[], by simp, rfl⟩
    · rintro ⟨later, rfl, spelled⟩
      cases later with
      | nil => simp
      | cons b later => cases spelled
  | case2 done high low rest b decoded ih =>
    rw [ih]
    constructor
    · rintro ⟨later, rfl, spelled⟩
      refine ⟨b :: later, by simp, ?_⟩
      rw [List.flatMap_cons, ← byteOf?_eq_some_iff.mp decoded, ← spelled]
      rfl
    · rintro ⟨later, rfl, spelled⟩
      cases later with
      | nil => cases spelled
      | cons c later =>
        obtain ⟨same, others⟩ := pair_of_append spelled
        cases decoded.symm.trans (byteOf?_eq_some_iff.mpr same)
        exact ⟨later, by simp, others⟩
  | case3 done high low rest undecoded =>
    simp only [reduceCtorEq, false_iff]
    rintro ⟨later, rfl, spelled⟩
    cases later with
    | nil => cases spelled
    | cons c later =>
      obtain ⟨same, -⟩ := pair_of_append spelled
      cases undecoded.symm.trans (byteOf?_eq_some_iff.mpr same)
  | case4 done c =>
    simp only [reduceCtorEq, false_iff]
    rintro ⟨later, rfl, spelled⟩
    have even := congrArg List.length spelled
    rw [length_flatMap_ofByte] at even
    simp only [List.length_map, List.length_singleton] at even
    omega

/-- Bytes are read from their digits in either case. -/
theorem decode?_eq_some_iff {text : List Char} {bytes : List UInt8} :
    decode? text = some bytes ↔ text.map Char.toLower = bytes.flatMap ofByte := by
  simp [decode?, decodeInto_eq_some_iff]

theorem exists_decode?_iff {text : List Char} :
    (∃ bytes, decode? text = some bytes) ↔ text.length % 2 = 0 ∧ ∀ c ∈ text, IsDigit c := by
  suffices general : ∀ done, (∃ bytes, decodeInto done text = some bytes) ↔
      text.length % 2 = 0 ∧ ∀ c ∈ text, IsDigit c from general []
  intro done
  fun_induction decodeInto done text with
  | case1 done => simp
  | case2 done high low rest b decoded ih =>
    obtain ⟨h, first, l, second, -⟩ : ∃ h, digitValue? high = some h ∧
        ∃ l, digitValue? low = some l ∧ UInt8.ofNat (h * 16 + l) = b := by
      simpa [byteOf?, Option.bind_eq_some_iff] using decoded
    have digits : IsDigit high ∧ IsDigit low :=
      ⟨exists_digitValue?_iff.mp ⟨h, first⟩, exists_digitValue?_iff.mp ⟨l, second⟩⟩
    have even : (high :: low :: rest).length % 2 = rest.length % 2 := by
      simp only [List.length_cons]
      omega
    rw [ih, even]
    simp [digits]
  | case3 done high low rest undecoded =>
    simp only [reduceCtorEq, exists_false, false_iff, not_and]
    intro _ digits
    obtain ⟨h, first⟩ := exists_digitValue?_iff.mpr (digits high List.mem_cons_self)
    obtain ⟨l, second⟩ :=
      exists_digitValue?_iff.mpr (digits low (List.mem_cons_of_mem _ List.mem_cons_self))
    simp [byteOf?, first, second] at undecoded
  | case4 done c => simp

/-- The digits that are written are neither blanks nor capitals. -/
theorem plain_of_mem_ofByte {b : UInt8} {c : Char} (member : c ∈ ofByte b) :
    Text.isBlank c = false ∧ c.toLower = c := by
  have all : ∀ n < 16, Text.isBlank (digitOf n) = false ∧ (digitOf n).toLower = digitOf n := by
    decide
  have small := b.toNat_lt
  simp only [ofByte, List.mem_cons, List.not_mem_nil, or_false] at member
  rcases member with rfl | rfl
  · exact all _ (by omega)
  · exact all _ (by omega)

end Hex

namespace Guid

theorem length_hyphenated {digits : List Char} (enough : digits.length = 32) :
    (hyphenated digits).length = 36 := by
  simp only [hyphenated, List.length_append, List.length_cons, List.length_take, List.length_drop]
  omega

/-- The groups of the hyphenated form, without the hyphens, are the digits. -/
theorem groups_hyphenated {digits : List Char} (enough : digits.length = 32) :
    (hyphenated digits).take 8 ++ ((hyphenated digits).drop 9).take 4 ++
      ((hyphenated digits).drop 14).take 4 ++ ((hyphenated digits).drop 19).take 4 ++
      (hyphenated digits).drop 24 = digits := by
  have first : (digits.take 8).length = 8 := by simp [enough]
  have second : ((digits.drop 8).take 4).length = 4 := by simp [enough]
  have third : ((digits.drop 12).take 4).length = 4 := by simp [enough]
  have fourth : ((digits.drop 16).take 4).length = 4 := by simp [enough]
  have joined : digits.take 8 ++ ((digits.drop 8).take 4 ++ ((digits.drop 12).take 4 ++
      ((digits.drop 16).take 4 ++ digits.drop 20))) = digits := by
    conv_rhs => rw [← List.take_append_drop 8 digits, ← List.take_append_drop 4 (digits.drop 8),
      List.drop_drop, ← List.take_append_drop 4 (digits.drop (8 + 4)), List.drop_drop,
      ← List.take_append_drop 4 (digits.drop (8 + 4 + 4)), List.drop_drop]
  unfold hyphenated
  generalize digits.take 8 = a, (digits.drop 8).take 4 = b, (digits.drop 12).take 4 = c,
    (digits.drop 16).take 4 = d, digits.drop 20 = e at *
  simp (disch := omega) [List.drop_append, List.drop_of_length_le, first, second,
    third, fourth, joined]

theorem ofHyphenated?_hyphenated {digits : List Char} (enough : digits.length = 32) :
    ofHyphenated? (hyphenated digits) = ofDigits? digits := by
  rw [ofHyphenated?]
  simp only [groups_hyphenated enough, length_hyphenated enough]
  rw [if_pos (by trivial)]

theorem read?_text (g : Guid) : read? g.text = some g := by
  have enough := Hex.length_ofNumber 32 g.value.toNat
  have bounded : g.value.toNat % 16 ^ 32 = g.value.toNat := Nat.mod_eq_of_lt g.value.isLt
  simp only [read?, text, String.toList_ofList, length_hyphenated enough]
  rw [if_neg (by decide), if_pos trivial, ofHyphenated?_hyphenated enough, ofDigits?,
    Hex.number?_ofNumber, bounded, Option.map_some, BitVec.ofNat_toNat, BitVec.setWidth_eq]

/-! ### The texts of a guid -/

/-- The digits of a guid in either case. -/
def HasDigits (g : Guid) (digits : List Char) : Prop :=
  digits.map Char.toLower = Hex.ofNumber 32 g.value.toNat

/-- The texts of a guid: its digits alone or in groups, and these in braces or after a mark. -/
inductive Spells : List Char → Guid → Prop
  | digits {g : Guid} {digits : List Char} (own : g.HasDigits digits) : Spells digits g
  | groups {g : Guid} {digits : List Char} (own : g.HasDigits digits) :
    Spells (hyphenated digits) g
  | braced {g : Guid} {digits : List Char} (own : g.HasDigits digits) :
    Spells ('{' :: (hyphenated digits ++ ['}'])) g
  | marked {g : Guid} {digits : List Char} (own : g.HasDigits digits) :
    Spells ("urn:uuid:".toList ++ hyphenated digits) g

variable {g : Guid} {digits : List Char}

theorem HasDigits.length (own : g.HasDigits digits) : digits.length = 32 := by
  have same := congrArg List.length own
  rwa [List.length_map, Hex.length_ofNumber] at same

theorem ofDigits?_eq_some_iff (enough : digits.length = 32) :
    ofDigits? digits = some g ↔ g.HasDigits digits := by
  rw [ofDigits?, Option.map_eq_some_iff, HasDigits]
  simp only [Hex.number?_eq_some_iff, enough]
  constructor
  · rintro ⟨n, ⟨fits, spelled⟩, rfl⟩
    have bounded : n < 2 ^ 128 := fits
    rw [spelled, BitVec.toNat_ofNat, Nat.mod_eq_of_lt bounded]
  · intro spelled
    exact ⟨_, ⟨g.value.isLt, spelled⟩, by rw [BitVec.ofNat_toNat, BitVec.setWidth_eq]⟩

theorem ofHyphenated?_eq_some_iff {text : List Char} :
    ofHyphenated? text = some g ↔ ∃ digits, g.HasDigits digits ∧ text = hyphenated digits := by
  constructor
  · intro read
    rw [ofHyphenated?] at read
    split at read
    · rename_i shape
      obtain ⟨long, grouped⟩ := shape
      refine ⟨_, (ofDigits?_eq_some_iff ?_).mp read, grouped⟩
      simp only [List.length_append, List.length_take, List.length_drop, long]
      rfl
    · cases read
  · rintro ⟨digits, own, rfl⟩
    rw [ofHyphenated?_hyphenated own.length, ofDigits?_eq_some_iff own.length]
    exact own

theorem spells_of_read? {text : String} (read : read? text = some g) : Spells text.toList g := by
  rw [read?] at read
  generalize text.toList = cs at read ⊢
  split_ifs at read with plain grouped braced ends marked urn
  · exact .digits ((ofDigits?_eq_some_iff plain).mp read)
  · obtain ⟨digits, own, rfl⟩ := ofHyphenated?_eq_some_iff.mp read
    exact .groups own
  · obtain ⟨digits, own, inside⟩ := ofHyphenated?_eq_some_iff.mp read
    obtain ⟨opens, closes⟩ := ends
    obtain ⟨front, rfl⟩ := List.getLast?_eq_some_iff.mp closes
    cases front with
    | nil => cases braced
    | cons c front =>
      cases opens
      have long : front.length = 36 := by
        simp only [List.length_append, List.length_cons, List.length_nil] at braced
        omega
      rw [List.cons_append, List.drop_one, List.tail_cons, List.take_left' long] at inside
      exact inside ▸ .braced own
  · obtain ⟨digits, own, grouped⟩ := ofHyphenated?_eq_some_iff.mp read
    rw [← List.take_append_drop 9 cs, urn, grouped]
    exact .marked own

theorem read?_of_spells {text : String} (spelled : Spells text.toList g) :
    read? text = some g := by
  rw [read?]
  generalize text.toList = cs at spelled ⊢
  cases spelled with
  | digits own =>
    rw [if_pos own.length]
    exact (ofDigits?_eq_some_iff own.length).mpr own
  | groups own =>
    rw [length_hyphenated own.length, if_neg (by decide), if_pos rfl]
    exact ofHyphenated?_eq_some_iff.mpr ⟨_, own, rfl⟩
  | @braced _ digits own =>
    have long := length_hyphenated own.length
    have length : ('{' :: (hyphenated digits ++ ['}'])).length = 38 := by
      rw [List.length_cons, List.length_append, long]
      rfl
    have closes : ('{' :: (hyphenated digits ++ ['}'])).getLast? = some '}' :=
      List.getLast?_concat (l := '{' :: hyphenated digits)
    rw [length, if_neg (by decide), if_neg (by decide), if_pos rfl, if_pos ⟨rfl, closes⟩,
      List.drop_one, List.tail_cons, List.take_left' long]
    exact ofHyphenated?_eq_some_iff.mpr ⟨_, own, rfl⟩
  | @marked _ digits own =>
    have length : ("urn:uuid:".toList ++ hyphenated digits).length = 45 := by
      rw [List.length_append, length_hyphenated own.length]
      rfl
    have mark : "urn:uuid:".toList.length = 9 := rfl
    rw [length, if_neg (by decide), if_neg (by decide), if_neg (by decide), if_pos rfl,
      List.take_left' mark, if_pos rfl, List.drop_left' mark]
    exact ofHyphenated?_eq_some_iff.mpr ⟨_, own, rfl⟩

/-- A guid is read from its texts and from no others. -/
theorem read?_eq_some_iff {text : String} : read? text = some g ↔ Spells text.toList g :=
  ⟨spells_of_read?, read?_of_spells⟩

end Guid

end OpcUa
