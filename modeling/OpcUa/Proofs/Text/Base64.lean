import OpcUa.Base64
import Mathlib.Tactic.SplitIfs

/-!
# Base64 is read back

Three bytes are four digits, and the bytes that are left over are padded, so the groups of a text
stand for the groups of the bytes one by one. Whatever is read has been written so, and bytes have
one text.
-/

namespace OpcUa.Base64

theorem digitValue?_digitOf {n : Nat} (digit : n < 64) : digitValue? (digitOf n) = some n := by
  have all : ∀ n < 64, digitValue? (digitOf n) = some n := by decide
  exact all n digit

theorem digitOf_ne_padding {n : Nat} (digit : n < 64) : digitOf n ≠ '=' := by
  have all : ∀ n < 64, digitOf n ≠ '=' := by decide
  exact all n digit

theorem encodeInto_eq : ∀ (done : List Char) (bytes : List UInt8),
    encodeInto done bytes = done.reverse ++ encodeInto [] bytes
  | done, [] => by simp [encodeInto]
  | done, [_] => by simp [encodeInto]
  | done, [_, _] => by simp [encodeInto]
  | done, _ :: _ :: _ :: rest => by
    rw [encodeInto, encodeInto_eq _ rest, encodeInto, encodeInto_eq [_, _, _, _] rest]
    simp

/-- A full group of digits is three bytes. -/
theorem decodeInto_group {a b c d : Nat} (first : a < 64) (second : b < 64) (third : c < 64)
    (fourth : d < 64) (done : List UInt8) (rest : List Char) :
    decodeInto done (digitOf a :: digitOf b :: digitOf c :: digitOf d :: rest) =
      decodeInto (UInt8.ofNat (c % 4 * 64 + d) :: UInt8.ofNat (b % 16 * 16 + c / 4) ::
        UInt8.ofNat (a * 4 + b / 16) :: done) rest := by
  have plain := digitOf_ne_padding fourth
  rw [decodeInto]
  · simp only [digitValue?_digitOf, first, second, third, fourth]
  · intro _ padded
    exact absurd padded plain
  · intro padded
    exact absurd padded plain

/-- Two digits before the padding are one byte, where they leave nothing over. -/
theorem decodeInto_byte {a b : Nat} (first : a < 64) (second : b < 64) (clear : b % 16 = 0)
    (done : List UInt8) :
    decodeInto done [digitOf a, digitOf b, '=', '='] =
      some (UInt8.ofNat (a * 4 + b / 16) :: done).reverse := by
  simp only [decodeInto, digitValue?_digitOf first, digitValue?_digitOf second, clear, if_pos,
    Option.bind_eq_bind, Option.bind_some]

/-- Three digits before the padding are two bytes, where they leave nothing over. -/
theorem decodeInto_bytes {a b c : Nat} (first : a < 64) (second : b < 64) (third : c < 64)
    (clear : c % 4 = 0) (done : List UInt8) :
    decodeInto done [digitOf a, digitOf b, digitOf c, '='] =
      some (UInt8.ofNat (b % 16 * 16 + c / 4) :: UInt8.ofNat (a * 4 + b / 16) :: done).reverse := by
  have plain := digitOf_ne_padding third
  rw [decodeInto]
  · simp only [digitValue?_digitOf first, digitValue?_digitOf second, digitValue?_digitOf third,
      clear, if_pos, Option.bind_eq_bind, Option.bind_some]
  · intro padded
    exact absurd padded plain

theorem decodeInto_encodeInto : ∀ done bytes : List UInt8,
    decodeInto done (encodeInto [] bytes) = some (done.reverse ++ bytes)
  | done, [] => by simp [encodeInto, decodeInto]
  | done, [a] => by
    have := a.toNat_lt
    have whole : a.toNat / 4 * 4 + a.toNat % 4 * 16 / 16 = a.toNat := by omega
    rw [encodeInto]
    simp only [List.reverse_cons, List.reverse_nil, List.nil_append, List.cons_append]
    rw [decodeInto_byte (by omega) (by omega) (by omega), whole, UInt8.ofNat_toNat,
      List.reverse_cons]
  | done, [a, b] => by
    have := a.toNat_lt
    have := b.toNat_lt
    have first : a.toNat / 4 * 4 + (a.toNat % 4 * 16 + b.toNat / 16) / 16 = a.toNat := by omega
    have second : (a.toNat % 4 * 16 + b.toNat / 16) % 16 * 16 + b.toNat % 16 * 4 / 4 = b.toNat := by
      omega
    rw [encodeInto]
    simp only [List.reverse_cons, List.reverse_nil, List.nil_append, List.cons_append]
    rw [decodeInto_bytes (by omega) (by omega) (by omega) (by omega), first, second,
      UInt8.ofNat_toNat, UInt8.ofNat_toNat]
    simp
  | done, a :: b :: c :: rest => by
    have := a.toNat_lt
    have := b.toNat_lt
    have := c.toNat_lt
    have first : a.toNat / 4 * 4 + (a.toNat % 4 * 16 + b.toNat / 16) / 16 = a.toNat := by omega
    have second : (a.toNat % 4 * 16 + b.toNat / 16) % 16 * 16 +
        (b.toNat % 16 * 4 + c.toNat / 64) / 4 = b.toNat := by omega
    have third : (b.toNat % 16 * 4 + c.toNat / 64) % 4 * 64 + c.toNat % 64 = c.toNat := by omega
    rw [encodeInto, encodeInto_eq]
    simp only [List.reverse_cons, List.reverse_nil, List.nil_append, List.cons_append]
    rw [decodeInto_group (by omega) (by omega) (by omega) (by omega), first, second, third,
      decodeInto_encodeInto _ rest]
    simp

theorem decode?_encode (bytes : List UInt8) : decode? (encode bytes) = some bytes := by
  rw [decode?, encode, String.toList_ofList, decodeInto_encodeInto]
  rfl

/-! ### What is read has been written -/

theorem digitOf_of_digitValue? {c : Char} {n : Nat} (digit : digitValue? c = some n) :
    n < 64 ∧ digitOf n = c := by
  have code {low high : Char} (within : low ≤ c ∧ c ≤ high) :
      low.toNat ≤ c.toNat ∧ c.toNat ≤ high.toNat := within
  unfold digitValue? at digit
  split_ifs at digit with upper lower numeral plus slash <;> cases digit
  · obtain ⟨low, high⟩ := code upper
    have small : c.toNat - 'A'.toNat < 26 := by
      have : 'A'.toNat = 65 := rfl
      have : 'Z'.toNat = 90 := rfl
      omega
    refine ⟨by omega, ?_⟩
    rw [digitOf, if_pos small, Nat.add_sub_cancel' low, Char.ofNat_toNat]
  · obtain ⟨low, high⟩ := code lower
    have small : c.toNat - 'a'.toNat < 26 := by
      have : 'a'.toNat = 97 := rfl
      have : 'z'.toNat = 122 := rfl
      omega
    refine ⟨by omega, ?_⟩
    rw [digitOf, if_neg (by omega), if_pos (by omega), Nat.add_sub_cancel, Nat.add_sub_cancel' low,
      Char.ofNat_toNat]
  · obtain ⟨low, high⟩ := code numeral
    have small : c.toNat - '0'.toNat < 10 := by
      have : '0'.toNat = 48 := rfl
      have : '9'.toNat = 57 := rfl
      omega
    refine ⟨by omega, ?_⟩
    rw [digitOf, if_neg (by omega), if_neg (by omega), if_pos (by omega), Nat.add_sub_cancel,
      Nat.add_sub_cancel' low, Char.ofNat_toNat]
  · exact ⟨by decide, plus.symm⟩
  · exact ⟨by decide, slash.symm⟩

/-- Digits that are read as bytes are the ones that the bytes are written in. -/
theorem encodeInto_of_decodeInto {done bytes : List UInt8} {cs : List Char}
    (spelled : decodeInto done cs = some bytes) :
    ∃ more, bytes = done.reverse ++ more ∧ encodeInto [] more = cs := by
  have written {n : Nat} (byte : n < 256) : (UInt8.ofNat n).toNat = n :=
    UInt8.toNat_ofNat_of_lt' byte
  fun_induction decodeInto done cs with
  | case1 done =>
    cases spelled
    exact ⟨[], (List.append_nil _).symm, rfl⟩
  | case2 done =>
    obtain ⟨a, first, spelled⟩ := Option.bind_eq_some_iff.mp spelled
    obtain ⟨b, second, spelled⟩ := Option.bind_eq_some_iff.mp spelled
    split at spelled <;> cases spelled
    obtain ⟨_, rfl⟩ := digitOf_of_digitValue? first
    obtain ⟨_, rfl⟩ := digitOf_of_digitValue? second
    refine ⟨_, List.reverse_cons, ?_⟩
    have high : (a * 4 + b / 16) / 4 = a := by omega
    have low : (a * 4 + b / 16) % 4 * 16 = b := by omega
    rw [encodeInto, written (by omega), high, low]
    rfl
  | case3 done =>
    obtain ⟨a, first, spelled⟩ := Option.bind_eq_some_iff.mp spelled
    obtain ⟨b, second, spelled⟩ := Option.bind_eq_some_iff.mp spelled
    obtain ⟨c, third, spelled⟩ := Option.bind_eq_some_iff.mp spelled
    split at spelled <;> cases spelled
    obtain ⟨_, rfl⟩ := digitOf_of_digitValue? first
    obtain ⟨_, rfl⟩ := digitOf_of_digitValue? second
    obtain ⟨_, rfl⟩ := digitOf_of_digitValue? third
    refine ⟨[UInt8.ofNat (a * 4 + b / 16), UInt8.ofNat (b % 16 * 16 + c / 4)], by simp, ?_⟩
    have high : (a * 4 + b / 16) / 4 = a := by omega
    have middle : (a * 4 + b / 16) % 4 * 16 + (b % 16 * 16 + c / 4) / 16 = b := by omega
    have low : (b % 16 * 16 + c / 4) % 16 * 4 = c := by omega
    rw [encodeInto, written (by omega), written (by omega), high, middle, low]
    rfl
  | case4 done _ _ _ _ rest _ _ a b c d first second third fourth ih =>
    obtain ⟨more, rfl, later⟩ := ih spelled
    obtain ⟨_, rfl⟩ := digitOf_of_digitValue? first
    obtain ⟨_, rfl⟩ := digitOf_of_digitValue? second
    obtain ⟨_, rfl⟩ := digitOf_of_digitValue? third
    obtain ⟨_, rfl⟩ := digitOf_of_digitValue? fourth
    refine ⟨UInt8.ofNat (a * 4 + b / 16) :: UInt8.ofNat (b % 16 * 16 + c / 4) ::
      UInt8.ofNat (c % 4 * 64 + d) :: more, by simp, ?_⟩
    have high : (a * 4 + b / 16) / 4 = a := by omega
    have upper : (a * 4 + b / 16) % 4 * 16 + (b % 16 * 16 + c / 4) / 16 = b := by omega
    have lower : (b % 16 * 16 + c / 4) % 16 * 4 + (c % 4 * 64 + d) / 64 = c := by omega
    have low : (c % 4 * 64 + d) % 64 = d := by omega
    rw [encodeInto, encodeInto_eq, written (by omega), written (by omega), written (by omega), high,
      upper, lower, low, later]
    rfl
  | case5 | case6 => cases spelled

/-- Bytes have one text. -/
theorem decode?_eq_some_iff {text : String} {bytes : List UInt8} :
    decode? text = some bytes ↔ text = encode bytes := by
  constructor
  · intro spelled
    obtain ⟨more, rfl, written⟩ := encodeInto_of_decodeInto spelled
    rw [encode, written, String.ofList_toList]
  · rintro rfl
    exact decode?_encode bytes

/-! ### Lengths and characters -/

theorem length_encodeInto : ∀ (done : List Char) (bytes : List UInt8),
    (encodeInto done bytes).length = done.length + 4 * ((bytes.length + 2) / 3)
  | done, [] | done, [_] | done, [_, _] => by simp [encodeInto]
  | done, _ :: _ :: _ :: rest => by
    rw [encodeInto, length_encodeInto _ rest]
    simp only [List.length_cons]
    omega

/-- Every three bytes are four characters, the last ones padded. -/
theorem length_encode (bytes : List UInt8) :
    (encode bytes).toList.length = 4 * ((bytes.length + 2) / 3) := by
  rw [encode, String.toList_ofList, length_encodeInto, List.length_nil, Nat.zero_add]

theorem length_of_decodeInto {done bytes : List UInt8} {cs : List Char}
    (spelled : decodeInto done cs = some bytes) : bytes.length ≤ done.length + cs.length := by
  fun_induction decodeInto done cs with
  | case1 =>
    cases spelled
    simp
  | case2 =>
    obtain ⟨a, -, spelled⟩ := Option.bind_eq_some_iff.mp spelled
    obtain ⟨b, -, spelled⟩ := Option.bind_eq_some_iff.mp spelled
    split at spelled <;> cases spelled
    simp
  | case3 =>
    obtain ⟨a, -, spelled⟩ := Option.bind_eq_some_iff.mp spelled
    obtain ⟨b, -, spelled⟩ := Option.bind_eq_some_iff.mp spelled
    obtain ⟨c, -, spelled⟩ := Option.bind_eq_some_iff.mp spelled
    split at spelled <;> cases spelled
    simp
  | case4 =>
    rename_i later
    have short := later spelled
    simp only [List.length_cons] at short ⊢
    omega
  | case5 | case6 => cases spelled

/-- The bytes of a text are no more than its characters. -/
theorem length_of_decode? {text : String} {bytes : List UInt8}
    (spelled : decode? text = some bytes) : bytes.length ≤ text.toList.length := by
  have within := length_of_decodeInto spelled
  rwa [List.length_nil, Nat.zero_add] at within

/-- What holds of every digit and of the padding holds of all characters. -/
theorem forall_mem_encode {p : Char → Prop} (digits : ∀ n < 64, p (digitOf n)) (padding : p '=')
    (bytes : List UInt8) : ∀ c ∈ (encode bytes).toList, p c := by
  have each (done : List Char) (bytes : List UInt8) (before : ∀ c ∈ done, p c) :
      ∀ c ∈ encodeInto done bytes, p c := by
    fun_induction encodeInto done bytes with
    | case1 done => simpa only [List.mem_reverse] using before
    | case2 done a =>
      have := a.toNat_lt
      simp only [List.mem_reverse, List.forall_mem_cons]
      exact ⟨padding, padding, digits _ (by omega), digits _ (by omega), before⟩
    | case3 done a b =>
      have := a.toNat_lt
      have := b.toNat_lt
      simp only [List.mem_reverse, List.forall_mem_cons]
      exact ⟨padding, digits _ (by omega), digits _ (by omega), digits _ (by omega), before⟩
    | case4 done a b c rest ih =>
      have := a.toNat_lt
      have := b.toNat_lt
      have := c.toNat_lt
      refine ih ?_
      simp only [List.forall_mem_cons]
      exact ⟨digits _ (by omega), digits _ (by omega), digits _ (by omega), digits _ (by omega),
        before⟩
  rw [encode, String.toList_ofList]
  exact each [] bytes nofun

end OpcUa.Base64
