import OpcUa.NodeId.Basic
import OpcUa.Proofs.Fallible
import OpcUa.Proofs.Text.Base64
import OpcUa.Proofs.Text.Cut
import OpcUa.Proofs.Text.Digits
import OpcUa.Proofs.Text.Hex

/-!
# Texts of node ids

A node id is read from its texts and from nothing else. A letter and an equals sign tell what comes
next, up to the end of the text, so a free text may hold all the marks that come before it. An index
is made of digits, so it ends where the first semicolon stands.
-/

namespace OpcUa

namespace Identifier

/-- The texts of an identifier. Those of a guid are its own; bytes have one in base64. -/
inductive Spells : List Char → Identifier → Prop
  | numeric {digits : List Char} {n : UInt32} (spelled : Decimal.Spells digits n.toNat) :
    Spells ('i' :: '=' :: digits) (.numeric n)
  | text (cs : List Char) : Spells ('s' :: '=' :: cs) (.text (String.ofList cs))
  | guid {cs : List Char} {g : Guid} (spelled : Guid.Spells cs g) :
    Spells ('g' :: '=' :: cs) (.guid g)
  | bytes (b : List UInt8) : Spells ('b' :: '=' :: (Base64.encode b).toList) (.bytes b)

variable {i : Identifier} {sort value text : List Char} {fault : Fault}

theorem spells_of_ofValue (read : ofValue sort value = .ok i) :
    Spells (sort ++ '=' :: value) i := by
  unfold ofValue at read
  dsimp only at read
  split_ifs at read with number free guid coded
  · subst number
    split at read <;> cases read
    rename_i n spelled
    obtain ⟨fits, digits⟩ := Decimal.read_eq_ok_iff.mp spelled
    refine .numeric ?_
    rwa [UInt32.toNat_ofNat_of_lt' fits]
  · subst free
    cases read
    exact .text value
  · subst guid
    split at read <;> cases read
    rename_i g spelled
    have digits := Guid.read?_eq_some_iff.mp spelled
    rw [String.toList_ofList] at digits
    exact .guid digits
  · subst coded
    split at read <;> cases read
    rename_i b spelled
    have written : value = (Base64.encode b).toList := by
      rw [← Base64.decode?_eq_some_iff.mp spelled, String.toList_ofList]
    rw [written]
    exact .bytes b

theorem ofChars_of_spells (spelled : Spells text i) : ofChars text = .ok i := by
  have cut {letter : Char} (other : letter ≠ '=') (value : List Char) :
      ofChars (letter :: '=' :: value) = ofValue [letter] value := by
    have alone : '=' ∉ [letter] := by simpa using other.symm
    rw [ofChars, ← List.singleton_append, Text.splitAtFirst_append alone]
  cases spelled with
  | @numeric digits n spelled =>
    have read := Decimal.read_eq_ok_iff.mpr ⟨n.toNat_lt, spelled⟩
    rw [cut (by decide)]
    unfold ofValue
    rw [if_pos rfl, read]
    dsimp only
    rw [UInt32.ofNat_toNat]
  | text cs => exact cut (by decide) cs
  | @guid cs g spelled =>
    have read : Guid.read? (String.ofList cs) = some g :=
      Guid.read?_eq_some_iff.mpr (by rwa [String.toList_ofList])
    rw [cut (by decide)]
    unfold ofValue
    dsimp only
    rw [if_neg (by decide), if_neg (by decide), if_pos rfl, read]
  | bytes b =>
    rw [cut (by decide)]
    unfold ofValue
    dsimp only
    rw [if_neg (by decide), if_neg (by decide), if_neg (by decide), if_pos rfl,
      String.ofList_toList, Base64.decode?_encode]

theorem ofChars_eq_ok_iff : ofChars text = .ok i ↔ Spells text i := by
  refine ⟨fun read => ?_, ofChars_of_spells⟩
  unfold ofChars at read
  split at read
  · rename_i sort value cut
    obtain ⟨rfl, -⟩ := Text.splitAtFirst_eq_some_iff.mp cut
    exact spells_of_ofValue read
  · cases read

theorem spells_toText (i : Identifier) : Spells i.toText.toList i := by
  cases i with
  | numeric n =>
    rw [toText, String.toList_append]
    exact .numeric (Decimal.spells_toString n.toNat)
  | text t =>
    have own : Spells ('s' :: '=' :: t.toList) (.text (String.ofList t.toList)) := .text t.toList
    rw [String.ofList_toList] at own
    rw [toText, String.toList_append]
    exact own
  | guid g =>
    rw [toText, String.toList_append]
    exact .guid (Guid.read?_eq_some_iff.mp (Guid.read?_text g))
  | bytes b =>
    rw [toText, String.toList_append]
    exact .bytes b

theorem kind_of_ofChars (refused : ofChars text = .error fault) : fault.kind = .decoding := by
  unfold ofChars ofValue at refused
  dsimp only at refused
  split at refused
  · split_ifs at refused
    · split at refused <;> cases refused
      rfl
    · split at refused <;> cases refused
      rfl
    · split at refused <;> cases refused
      rfl
    · cases refused
      rfl
  · cases refused
    rfl

end Identifier

namespace NodeId

/-- The texts of a node id. The index can be left out when it is zero. -/
inductive Spells : List Char → NodeId → Prop
  | base {text : List Char} {i : Identifier} (own : Identifier.Spells text i) : Spells text ⟨0, i⟩
  | indexed {digits text : List Char} {index : UInt16} {i : Identifier}
    (counted : Decimal.Spells digits index.toNat) (own : Identifier.Spells text i) :
    Spells ("ns=".toList ++ digits ++ ';' :: text) ⟨index, i⟩

variable {id : NodeId} {text : List Char} {fault : Fault}

theorem spells_of_ofIndexed (read : ofIndexed text = .ok id) :
    Spells ("ns=".toList ++ text) id := by
  unfold ofIndexed at read
  split at read
  · cases read
  · rename_i digits rest cut
    obtain ⟨rfl, -⟩ := Text.splitAtFirst_eq_some_iff.mp cut
    split at read
    · cases read
    · rename_i n counted
      obtain ⟨fits, spelled⟩ := Decimal.read_eq_ok_iff.mp counted
      obtain ⟨i, own, rfl⟩ := exists_of_map read
      have index : Decimal.Spells digits (UInt16.ofNat n).toNat := by
        rwa [UInt16.toNat_ofNat_of_lt' fits]
      have whole := Spells.indexed index (Identifier.ofChars_eq_ok_iff.mp own)
      rwa [List.append_assoc] at whole

theorem ofIndexed_of_spells {digits : List Char} {index : UInt16} {i : Identifier}
    (counted : Decimal.Spells digits index.toNat) (own : Identifier.Spells text i) :
    ofIndexed (digits ++ ';' :: text) = .ok ⟨index, i⟩ := by
  have bare : ';' ∉ digits := counted.not_mem (by decide) (by decide)
  have read : Decimal.read UInt16.size digits = .ok index.toNat :=
    Decimal.read_eq_ok_iff.mpr ⟨index.toNat_lt, counted⟩
  rw [ofIndexed, Text.splitAtFirst_append bare]
  dsimp only
  rw [read, Identifier.ofChars_of_spells own]
  dsimp only
  rw [UInt16.ofNat_toNat]
  rfl

theorem ofChars_eq_ok_iff : ofChars text = .ok id ↔ Spells text id := by
  constructor
  · intro read
    unfold ofChars at read
    split at read
    · exact spells_of_ofIndexed read
    · obtain ⟨i, own, rfl⟩ := exists_of_map read
      exact .base (Identifier.ofChars_eq_ok_iff.mp own)
  · intro spelled
    cases spelled with
    | base own =>
      unfold ofChars
      split
      · cases own
      · rw [Identifier.ofChars_of_spells own]
        rfl
    | indexed counted own =>
      rw [List.append_assoc]
      exact ofIndexed_of_spells counted own

theorem spells_toText (id : NodeId) : Spells id.toText.toList id := by
  obtain ⟨index, i⟩ := id
  rw [toText, String.toList_append, indexText]
  split
  · rename_i zero
    subst zero
    exact .base i.spells_toText
  · have whole := Spells.indexed (Decimal.spells_toString index.toNat) i.spells_toText
    rw [String.toList_append, String.toList_append, List.append_assoc]
    exact whole

theorem kind_of_ofIndexed (refused : ofIndexed text = .error fault) : fault.kind = .decoding := by
  unfold ofIndexed at refused
  split at refused
  · cases refused
    rfl
  · split at refused
    · cases refused
      rfl
    · exact Identifier.kind_of_ofChars (eq_error_of_map refused)

theorem kind_of_ofChars (refused : ofChars text = .error fault) : fault.kind = .decoding := by
  unfold ofChars at refused
  split at refused
  · exact kind_of_ofIndexed refused
  · exact Identifier.kind_of_ofChars (eq_error_of_map refused)

/-- A node id is read from its own text. A text is read just when it is one of an id, which may have
an index before the identifier; every other one is refused, and that is a fault of decoding. -/
theorem texts_of_ids :
    (∀ id : NodeId, ofText id.toText = .ok id) ∧
    (∀ text id, ofText text = .ok id ↔ Spells text.toList id) ∧
    ∀ text, (∃ id, Spells text.toList id) ∨
      ∃ fault, ofText text = .error fault ∧ fault.kind = .decoding := by
  refine ⟨fun id => ofChars_eq_ok_iff.mpr (spells_toText id),
    fun text id => ofChars_eq_ok_iff, fun text => ?_⟩
  cases read : ofText text with
  | ok id => exact .inl ⟨id, ofChars_eq_ok_iff.mp read⟩
  | error fault => exact .inr ⟨fault, rfl, kind_of_ofChars read⟩

example : ofText "ns=+02;s=;ns=3;i=4" = .ok ⟨2, .text ";ns=3;i=4"⟩ := rfl

end NodeId

end OpcUa
