import OpcUa.Armour
import OpcUa.Proofs.Text.Base64
import OpcUa.Proofs.Text.Cut
import OpcUa.Proofs.Text.Utf8

/-!
# Armour is read back

A block is one line that begins it, rows of base64, and one line that ends it. It is found again
line by line if its label can be told from the marks around it.
-/

namespace OpcUa.Armour

open Text

/-! ### Rows -/

/-- Text in rows, each with a line feed, is as long as the text and the number of rows. -/
theorem wrap_eq (text : List Char) : ∃ rows : List (List Char),
    rows.flatten = text ∧ rows.length = (text.length + 63) / 64 ∧
      wrap text = rows.flatMap (· ++ ['\n']) := by
  fun_induction wrap text with
  | case1 text short nothing => exact ⟨[], by simp_all⟩
  | case2 text short something =>
    have some_char : 0 < text.length := List.length_pos_iff.mpr (by simpa using something)
    refine ⟨[text], List.flatten_singleton, ?_, by simp⟩
    rw [List.length_singleton]
    omega
  | case3 text long ih =>
    obtain ⟨rows, whole, count, wrapped⟩ := ih
    refine ⟨text.take 64 :: rows, ?_, ?_, ?_⟩
    · rw [List.flatten_cons, whole, List.take_append_drop]
    · rw [List.length_drop] at count
      rw [List.length_cons, count]
      omega
    · rw [wrapped]
      simp

theorem utf8_flatMap (parts : List (List Char)) :
    utf8 (parts.flatMap (· ++ ['\n'])) = (parts.map utf8).flatMap (· ++ [0x0A]) := by
  induction parts with
  | nil => rfl
  | cons line parts ih =>
    rw [List.flatMap_cons, utf8_append, ih, utf8_append]
    rfl

/-- The lines of a text, from its bytes. -/
theorem lines_utf8 {parts : List (List Char)} (absent : ∀ line ∈ parts, '\n' ∉ line) :
    lines 0x0A (utf8 (parts.flatMap (· ++ ['\n']))) = parts.map utf8 := by
  rw [utf8_flatMap]
  refine lines_flatMap fun bytes among => ?_
  obtain ⟨line, member, rfl⟩ := List.mem_map.mp among
  exact fun fed => absent line member (mem_of_mem_utf8 (by decide) fed)

/-! ### A block that is written -/

def firstLine (label : String) : List Char :=
  beginMark ++ label.toList ++ rule

def lastLine (label : String) : List Char :=
  endMark ++ label.toList ++ rule

/-- The characters in a row of base64: ASCII, and no dashes or blanks. -/
def IsPlain (c : Char) : Prop :=
  c.toNat < 0x80 ∧ c ≠ '-' ∧ isBlank c = false

instance : DecidablePred IsPlain :=
  fun c => inferInstanceAs (Decidable (c.toNat < 0x80 ∧ c ≠ '-' ∧ isBlank c = false))

theorem encode_eq (label : String) (bytes : List UInt8) : ∃ rows : List (List Char),
    rows.flatten = (Base64.encode bytes).toList ∧ (∀ row ∈ rows, ∀ c ∈ row, IsPlain c) ∧
      rows.length = (4 * ((bytes.length + 2) / 3) + 63) / 64 ∧
      (encode label bytes).toList =
        (firstLine label :: rows ++ [lastLine label]).flatMap (· ++ ['\n']) := by
  obtain ⟨rows, whole, count, wrapped⟩ := wrap_eq (Base64.encode bytes).toList
  have plain : ∀ c ∈ rows.flatten, IsPlain c := by
    rw [whole]
    exact Base64.forall_mem_encode (p := IsPlain) (by decide) (by decide) bytes
  refine ⟨rows, whole, fun row among c member => plain c (List.mem_flatten_of_mem among member),
    Base64.length_encode bytes ▸ count, ?_⟩
  rw [encode, wrapped, String.toList_ofList]
  simp [firstLine, lastLine]

/-- What holds of the marks, the label and the rows holds of the whole block. -/
theorem forall_mem_lines {p : Char → Prop} [DecidablePred p] {label : String}
    {rows : List (List Char)} (marks : (beginMark ++ endMark ++ rule).all (p ·) = true)
    (labelled : ∀ c ∈ label.toList, p c) (inside : ∀ row ∈ rows, ∀ c ∈ row, p c) :
    ∀ line ∈ firstLine label :: rows ++ [lastLine label], ∀ c ∈ line, p c := by
  simp only [List.all_append, Bool.and_eq_true, List.all_eq_true, decide_eq_true_eq] at marks
  obtain ⟨⟨begins, ends⟩, rules⟩ := marks
  have first : ∀ c ∈ firstLine label, p c := by
    simp only [firstLine, List.forall_mem_append]
    exact ⟨⟨begins, labelled⟩, rules⟩
  have last : ∀ c ∈ lastLine label, p c := by
    simp only [lastLine, List.forall_mem_append]
    exact ⟨⟨ends, labelled⟩, rules⟩
  simp only [List.forall_mem_append, List.forall_mem_cons]
  exact ⟨⟨first, inside⟩, last, nofun⟩

theorem length_flatMap (parts : List (List Char)) :
    (parts.flatMap (· ++ ['\n'])).length = parts.flatten.length + parts.length := by
  induction parts with
  | nil => rfl
  | cons line parts ih =>
    rw [List.flatMap_cons, List.length_append, ih, List.flatten_cons]
    simp only [List.length_append, List.length_cons, List.length_nil]
    omega

/-- The length of a block in bytes, if its label is ASCII. -/
theorem length_encode {label : String} (ascii : label.toList.all (·.toNat < 0x80) = true)
    (bytes : List UInt8) : (encode label bytes).toUTF8.toList.length =
      32 + 2 * label.toList.length + 4 * ((bytes.length + 2) / 3) +
        (4 * ((bytes.length + 2) / 3) + 63) / 64 := by
  obtain ⟨rows, whole, plain, count, written⟩ := encode_eq label bytes
  have narrow : ∀ c ∈ (encode label bytes).toList, c.toNat < 0x80 := by
    have labelled : ∀ c ∈ label.toList, c.toNat < 0x80 := by
      simpa only [List.all_eq_true, decide_eq_true_eq] using ascii
    have each := forall_mem_lines (by decide) labelled fun row among c member =>
      (plain row among c member).1
    rw [written]
    intro c member
    obtain ⟨line, among, member⟩ := List.mem_flatMap.mp member
    rcases List.mem_append.mp member with inside | feed
    · exact each line among c inside
    · rw [List.mem_singleton.mp feed]
      decide
  have marks : beginMark.length = 11 ∧ endMark.length = 9 ∧ rule.length = 5 := by decide
  rw [toList_toUTF8, utf8_of_ascii narrow, List.length_map, written, length_flatMap]
  simp only [List.flatten_append, List.flatten_cons, List.flatten_nil, whole, List.length_append,
    Base64.length_encode, count, firstLine, lastLine, marks, List.length_cons, List.length_nil]
  omega

/-! ### A block that is read -/

theorem isArmoured_encode (label : String) (bytes : List UInt8) :
    isArmoured (encode label bytes).toUTF8.toList = true := by
  obtain ⟨rest, begins⟩ : ∃ rest, (encode label bytes).toList = "-----BEGIN".toList ++ rest := by
    rw [encode, String.toList_ofList]
    exact ⟨_, rfl⟩
  rw [isArmoured, toList_toUTF8, toList_toUTF8, begins, utf8_append]
  exact List.isPrefixOf_iff_prefix.mpr (List.prefix_append _ _)

theorem line?_utf8 (line : List Char) : line? (utf8 line) = some line := by
  rw [line?, fromUTF8?_utf8, Option.map_some, String.toList_ofList]

theorem trimmedEnd_of_plain {row : List Char} (plain : ∀ c ∈ row, IsPlain c) :
    trimmedEnd row = row := by
  have kept : row.reverse.dropWhile isBlank = row.reverse := by
    cases reversed : row.reverse with
    | nil => rfl
    | cons c rest =>
      have last : c ∈ row := List.mem_reverse.mp (reversed ▸ List.mem_cons_self)
      rw [List.dropWhile_cons, (plain c last).2.2, if_neg Bool.false_ne_true]
  rw [trimmedEnd, kept, List.reverse_reverse]

theorem endMark_of_plain {row : List Char} (plain : ∀ c ∈ row, IsPlain c) :
    endMark.isPrefixOf row = false := by
  obtain ⟨more, dash⟩ : ∃ more, endMark = '-' :: more := ⟨_, rfl⟩
  cases row with
  | nil =>
    rw [dash]
    rfl
  | cons c rest =>
    have differs : '-' ≠ c := (plain c List.mem_cons_self).2.1.symm
    rw [dash, List.isPrefixOf, beq_false_of_ne differs, Bool.false_and]

theorem payload?_rows {rows : List (List Char)} (plain : ∀ row ∈ rows, ∀ c ∈ row, IsPlain c)
    (done : List (List Char)) (label : String) :
    payload? done (rows.map utf8 ++ [utf8 (lastLine label)]) =
      some (done.reverse.flatten ++ rows.flatten) := by
  induction rows generalizing done with
  | nil =>
    have ends : endMark.isPrefixOf (lastLine label) = true := by
      rw [lastLine, List.append_assoc]
      exact List.isPrefixOf_iff_prefix.mpr (List.prefix_append _ _)
    rw [List.map_nil, List.nil_append, payload?, line?_utf8]
    simp only [ends, if_true, List.flatten_nil, List.append_nil]
  | cons row rows ih =>
    obtain ⟨first, later⟩ := List.forall_mem_cons.mp plain
    rw [List.map_cons, List.cons_append, payload?, line?_utf8]
    simp only [endMark_of_plain first, trimmedEnd_of_plain first, Bool.false_eq_true, if_false,
      ih later]
    simp

/-- A block is found where its text is, if its label has no dashes and no line feeds. -/
theorem firstBlock?_encode {label : String} (told : '-' ∉ label.toList)
    (on_line : '\n' ∉ label.toList) (bytes : List UInt8) :
    firstBlock? (encode label bytes).toUTF8.toList = some ⟨label, bytes⟩ := by
  obtain ⟨rows, whole, plain, -, written⟩ := encode_eq label bytes
  have on_lines : ∀ line ∈ firstLine label :: rows ++ [lastLine label], '\n' ∉ line := by
    have each := forall_mem_lines (p := (· ≠ '\n')) (by decide)
      (fun c member same => on_line (same ▸ member))
      (fun row among c member same => absurd (plain row among c member).2.2 (by rw [same]; decide))
    exact fun line among feed => each line among '\n' feed rfl
  have begins : beginMark.isPrefixOf (firstLine label) = true := by
    rw [firstLine, List.append_assoc]
    exact List.isPrefixOf_iff_prefix.mpr (List.prefix_append _ _)
  have labelled :
      cutAt? rule ((firstLine label).drop beginMark.length) = some (label.toList, []) := by
    obtain ⟨more, dash⟩ : ∃ more, rule = '-' :: more := ⟨_, rfl⟩
    have cut : cutAt? ('-' :: more) (label.toList ++ '-' :: more ++ []) = some (label.toList, []) :=
      cutAt?_of_not_mem told
    rw [List.append_nil, ← dash] at cut
    rwa [firstLine, List.append_assoc, List.drop_left]
  have spelled : payload? [] (rows.map utf8 ++ [utf8 (lastLine label)]) =
      some (Base64.encode bytes).toList := by
    rw [payload?_rows plain, whole]
    rfl
  rw [firstBlock?, toList_toUTF8, written, lines_utf8 on_lines, List.cons_append, List.map_cons,
    List.map_append, List.map_singleton, blockOfLines?, line?_utf8]
  simp only [begins, if_true, labelled, spelled, Option.bind_eq_bind, Option.bind_some,
    String.ofList_toList, Base64.decode?_encode, Option.pure_def]

/-! ### A block is no longer than its text -/

theorem length_of_line? {bytes : List UInt8} {line : List Char} (read : line? bytes = some line) :
    line.length ≤ bytes.length := by
  obtain ⟨text, decoded, rfl⟩ := Option.map_eq_some_iff.mp read
  rw [← utf8_of_fromUTF8? decoded]
  exact length_le_utf8 _

theorem length_trimmedEnd_le (line : List Char) : (trimmedEnd line).length ≤ line.length := by
  have kept := (List.dropWhile_sublist (l := line.reverse) isBlank).length_le
  rwa [List.length_reverse, ← List.length_reverse] at kept

theorem length_of_payload? {done : List (List Char)} {parts : List (List UInt8)}
    {payload : List Char} (read : payload? done parts = some payload) :
    payload.length ≤ done.flatten.length + parts.flatten.length := by
  induction parts generalizing done with
  | nil => cases read
  | cons bytes parts ih =>
    rw [payload?] at read
    split at read
    · cases read
    · rename_i line decoded
      split at read
      · cases read
        simp only [List.length_flatten, List.map_reverse, List.sum_reverse]
        omega
      · have later := ih read
        have first := length_of_line? decoded
        have trimmed := length_trimmedEnd_le line
        simp only [List.flatten_cons, List.length_append] at later ⊢
        omega

theorem length_of_blockOfLines? {parts : List (List UInt8)} {block : Block}
    (found : blockOfLines? parts = some block) : block.bytes.length ≤ parts.flatten.length := by
  induction parts with
  | nil => cases found
  | cons bytes parts ih =>
    rw [List.flatten_cons, List.length_append]
    rw [blockOfLines?] at found
    split at found
    · cases found
    · split at found
      · obtain ⟨⟨label, rest⟩, -, found⟩ := Option.bind_eq_some_iff.mp found
        obtain ⟨payload, read, found⟩ := Option.bind_eq_some_iff.mp found
        obtain ⟨content, spelled, same⟩ := Option.bind_eq_some_iff.mp found
        cases same
        have short := Base64.length_of_decode? spelled
        have within := length_of_payload? read
        rw [String.toList_ofList] at short
        simp only [List.flatten_nil, List.length_nil] at within
        dsimp only
        omega
      · have later := ih found
        omega

theorem length_of_firstBlock? {bytes : List UInt8} {block : Block}
    (found : firstBlock? bytes = some block) : block.bytes.length ≤ bytes.length :=
  Nat.le_trans (length_of_blockOfLines? found) (length_lines_le 0x0A bytes)

end OpcUa.Armour
