import Mathlib.Data.List.TakeDrop
import Mathlib.Tactic.SplitIfs

/-!
# UTF-8

The bytes of a text, character by character. An ASCII character is one byte, its code, and no byte
of any other character is such a code: so whoever looks for ASCII characters may look at bytes.
-/

namespace OpcUa.Text

/-- The bytes of some characters. -/
def utf8 (cs : List Char) : List UInt8 :=
  cs.flatMap String.utf8EncodeChar

@[simp] theorem utf8_nil : utf8 [] = [] := rfl

@[simp] theorem utf8_cons (c : Char) (cs : List Char) :
    utf8 (c :: cs) = String.utf8EncodeChar c ++ utf8 cs := rfl

@[simp] theorem utf8_append (cs ds : List Char) : utf8 (cs ++ ds) = utf8 cs ++ utf8 ds :=
  List.flatMap_append

theorem toList_loop (bytes : ByteArray) (i : Nat) (done : List UInt8) :
    ByteArray.toList.loop bytes i done = done.reverse ++ bytes.data.toList.drop i := by
  fun_induction ByteArray.toList.loop bytes i done with
  | case1 i done below ih =>
    have here : bytes.data.toList.drop i = bytes.get! i :: bytes.data.toList.drop (i + 1) := by
      have inside : i < bytes.data.toList.length := below
      rw [List.drop_eq_getElem_cons inside]
      congr 1
      exact (getElem!_pos bytes.data i below).symm
    rw [ih, here, List.reverse_cons, List.append_assoc, List.singleton_append]
  | case2 i done past =>
    rw [List.drop_eq_nil_of_le (Nat.le_of_not_lt past), List.append_nil]

theorem toList_toByteArray (bytes : List UInt8) : bytes.toByteArray.toList = bytes := by
  rw [ByteArray.toList, toList_loop, List.toList_data_toByteArray]
  rfl

theorem toList_toUTF8 (text : String) : text.toUTF8.toList = utf8 text.toList := by
  conv_lhs => rw [← @String.ofList_toList text]
  rw [String.toUTF8_eq_toByteArray, String.toByteArray_ofList]
  exact toList_toByteArray _

/-- The bytes of a text spell it. -/
theorem fromUTF8?_utf8 (cs : List Char) :
    String.fromUTF8? ⟨(utf8 cs).toArray⟩ = some (String.ofList cs) := by
  have same : ByteArray.mk (utf8 cs).toArray = (String.ofList cs).toByteArray := by
    rw [String.toByteArray_ofList]
    exact ByteArray.ext (by simp [List.utf8Encode, utf8])
  rw [same, String.fromUTF8?, dif_pos (String.ofList cs).isValidUTF8]
  rfl

theorem utf8EncodeChar_of_ascii {c : Char} (ascii : c.toNat < 0x80) :
    String.utf8EncodeChar c = [UInt8.ofNat c.toNat] := by
  have small : c.val.toNat ≤ 127 := Nat.le_of_lt_succ ascii
  simp only [String.utf8EncodeChar, if_pos small]
  rfl

/-- No byte of a character beyond ASCII is the code of one within. -/
theorem le_of_mem_utf8EncodeChar {c : Char} {b : UInt8} (wide : 0x80 ≤ c.toNat)
    (member : b ∈ String.utf8EncodeChar c) : 0x80 ≤ b.toNat := by
  have large : ¬ c.val.toNat ≤ 127 := by
    have : c.toNat = c.val.toNat := rfl
    omega
  simp only [String.utf8EncodeChar, if_neg large] at member
  split_ifs at member <;> simp only [List.mem_cons, List.not_mem_nil, or_false] at member
  · rcases member with rfl | rfl <;> simp <;> omega
  · rcases member with rfl | rfl | rfl <;> simp <;> omega
  · rcases member with rfl | rfl | rfl | rfl <;> simp <;> omega

/-- ASCII characters are as many bytes. -/
theorem utf8_of_ascii {cs : List Char} (ascii : ∀ c ∈ cs, c.toNat < 0x80) :
    utf8 cs = cs.map fun c => UInt8.ofNat c.toNat := by
  induction cs with
  | nil => rfl
  | cons c cs ih =>
    rw [utf8_cons, utf8EncodeChar_of_ascii (ascii c List.mem_cons_self),
      ih fun d member => ascii d (List.mem_cons_of_mem _ member)]
    rfl

/-- The code of an ASCII character stands for this character alone. -/
theorem mem_of_mem_utf8 {c : Char} (ascii : c.toNat < 0x80) {cs : List Char}
    (member : UInt8.ofNat c.toNat ∈ utf8 cs) : c ∈ cs := by
  have code {d : Char} (narrow : d.toNat < 0x80) : (UInt8.ofNat d.toNat).toNat = d.toNat :=
    UInt8.toNat_ofNat_of_lt' (Nat.lt_trans narrow (by decide))
  obtain ⟨d, among, spelled⟩ := List.mem_flatMap.mp member
  rcases Nat.lt_or_ge d.toNat 0x80 with narrow | wide
  · rw [utf8EncodeChar_of_ascii narrow, List.mem_singleton] at spelled
    have same : c.toNat = d.toNat := by rw [← code ascii, spelled, code narrow]
    rwa [Char.toNat_inj.mp same]
  · have large := le_of_mem_utf8EncodeChar wide spelled
    rw [code ascii] at large
    omega

/-- A text is spelled by the bytes that it is read from. -/
theorem utf8_of_fromUTF8? {bytes : List UInt8} {text : String}
    (read : String.fromUTF8? ⟨bytes.toArray⟩ = some text) : utf8 text.toList = bytes := by
  have whole : text.toByteArray = ⟨bytes.toArray⟩ := by
    unfold String.fromUTF8? at read
    split at read <;> cases read
    rfl
  rw [← String.utf8Encode_toList] at whole
  simpa [List.utf8Encode, utf8] using congrArg (fun b => b.data.toList) whole

theorem length_le_utf8 (cs : List Char) : cs.length ≤ (utf8 cs).length := by
  induction cs with
  | nil => exact Nat.le_refl _
  | cons c cs ih =>
    have some_byte : 0 < (String.utf8EncodeChar c).length := by
      rw [String.length_utf8EncodeChar]
      exact c.utf8Size_pos
    rw [utf8_cons, List.length_append, List.length_cons]
    omega

end OpcUa.Text
