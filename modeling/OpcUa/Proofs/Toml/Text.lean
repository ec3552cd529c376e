import OpcUa.Proofs.Text.Hex
import OpcUa.Toml.Text

/-!
# TOML strings read back

Every text is read back from the string that is written for it, in each of its forms, if no quote
follows. Between double quotes each character is read from its own spelling; between threefold
single quotes a row of quotes is kept until it is known not to close the string.
-/

namespace OpcUa.Toml

/-! ### Characters between double quotes -/

/-- How a character is spelled between double quotes: by an escape, as a line break or as it is. -/
inductive Spelling (multiline : Bool) (c : Char) : List Char → Prop
  | escape {first : Char} {others : List Char} (unbroken : first ≠ '\n' ∧ first ≠ '\r')
      (solid : isBlank first = false)
      (escaped : ∀ rest, escaped? (first :: others ++ rest) = some (c, rest)) :
      Spelling multiline c ('\\' :: first :: others)
  | lineBreak (several : multiline = true) (broken : c = '\n') : Spelling multiline c ['\n']
  | plain (unquoted : c ≠ '"') (unescaped : c ≠ '\\') (unbroken : c ≠ '\n' ∧ c ≠ '\r')
      (plain : isPlain c = true) : Spelling multiline c [c]

theorem digits_toUpper {n : Nat} {digit : Char} (member : digit ∈ Hex.ofNumber 4 n) :
    digit.toUpper.toLower = digit.toLower := by
  obtain ⟨d, small, rfl⟩ := Hex.mem_ofNumber member
  have all : ∀ d < 16, (Hex.digitOf d).toUpper.toLower = (Hex.digitOf d).toLower := by decide
  exact all d small

theorem digits_toLower {n : Nat} {digit : Char} (member : digit ∈ Hex.ofNumber 4 n) :
    digit.toLower = digit := by
  obtain ⟨d, small, rfl⟩ := Hex.mem_ofNumber member
  have all : ∀ d < 16, (Hex.digitOf d).toLower = Hex.digitOf d := by decide
  exact all d small

/-- A character is read from the four digits of its number. -/
theorem numbered?_ofNumber {c : Char} (small : c.toNat < 0x80) (rest : List Char) :
    numbered? 4 ((Hex.ofNumber 4 c.toNat).map Char.toUpper ++ rest) = some (c, rest) := by
  have length : ((Hex.ofNumber 4 c.toNat).map Char.toUpper).length = 4 := by
    rw [List.length_map, Hex.length_ofNumber]
  have number : Hex.number? ((Hex.ofNumber 4 c.toNat).map Char.toUpper) = some c.toNat := by
    rw [Hex.number?_eq_some_iff, length, List.map_map]
    refine ⟨by omega, ?_⟩
    conv_rhs => rw [← List.map_id (Hex.ofNumber 4 c.toNat)]
    refine List.map_congr_left fun digit member => ?_
    exact (digits_toUpper member).trans (digits_toLower member)
  have long : ¬ ((Hex.ofNumber 4 c.toNat).map Char.toUpper ++ rest).length < 4 := by
    rw [List.length_append, length]
    omega
  unfold numbered?
  rw [if_neg long, List.take_left' length, List.drop_left' length, number]
  simp only [Option.bind_eq_bind, Option.bind_some]
  have valid : c.toNat.isValidChar := c.valid
  rw [if_pos valid, Char.ofNat_toNat]

theorem spelling_basicChar (multiline : Bool) (c : Char) :
    Spelling multiline c (basicChar multiline c) := by
  have lettered {letter : Char} (unbroken : letter ≠ '\n' ∧ letter ≠ '\r')
      (solid : isBlank letter = false) (unnumbered : letter ≠ 'u' ∧ letter ≠ 'U')
      (means : letterEscape? letter = some c) : Spelling multiline c ['\\', letter] := by
    refine .escape unbroken solid fun rest => ?_
    rw [List.singleton_append, escaped?, if_neg unnumbered.1, if_neg unnumbered.2, means]
    rfl
  unfold basicChar
  split_ifs with quote backslash broken several backspace tab feed carriage control
  · exact lettered (by decide) (by decide) (by decide) (by rw [quote]; rfl)
  · exact lettered (by decide) (by decide) (by decide) (by rw [backslash]; rfl)
  · exact .lineBreak several broken
  · exact lettered (by decide) (by decide) (by decide) (by rw [broken]; rfl)
  · exact lettered (by decide) (by decide) (by decide) (by rw [backspace]; rfl)
  · exact lettered (by decide) (by decide) (by decide) (by rw [tab]; rfl)
  · exact lettered (by decide) (by decide) (by decide) (by rw [feed]; rfl)
  · exact lettered (by decide) (by decide) (by decide) (by rw [carriage]; rfl)
  · refine .escape (by decide) (by decide) fun rest => ?_
    have small : c.toNat < 0x80 := by
      simp only [isControl, Bool.or_eq_true, decide_eq_true_eq, beq_iff_eq] at control
      omega
    rw [List.cons_append, escaped?, if_pos rfl, numbered?_ofNumber small]
  · refine .plain quote backslash ⟨broken, carriage⟩ ?_
    simp [isPlain, control]

/-! ### Strings between double quotes -/

variable {c : Char} {spelling : List Char}

theorem scanBasic_spelling (spelled : Spelling false c spelling) (done rest : List Char) :
    scanBasic done (spelling ++ rest) = scanBasic (c :: done) rest := by
  cases spelled with
  | @escape first others unbroken solid escaped =>
    rw [List.cons_append, scanBasic, if_neg (by decide), if_pos rfl]
    split
    · rename_i found
      cases found.symm.trans (escaped rest)
      rfl
    · rename_i missing
      cases missing.symm.trans (escaped rest)
  | lineBreak several broken => cases several
  | plain unquoted unescaped unbroken plain =>
    rw [List.singleton_append, scanBasic, if_neg unquoted, if_neg unescaped, if_pos plain]

theorem scanBasic_text (done text rest : List Char) :
    scanBasic done (text.flatMap (basicChar false) ++ '"' :: rest) =
      some (String.ofList (done.reverse ++ text), rest) := by
  induction text generalizing done with
  | nil => rw [List.flatMap_nil, List.nil_append, scanBasic, if_pos rfl, List.append_nil]
  | cons c text ih =>
    rw [List.flatMap_cons, List.append_assoc, scanBasic_spelling (spelling_basicChar false c), ih,
      List.reverse_cons, List.append_assoc, List.singleton_append]

/-! ### Strings on several lines -/

variable {quote : Char} {escapes : Bool}

/-- Three quotes close a string if no other follows. -/
theorem scanLines_closed (done : List Char) {rest : List Char} (ends : rest.head? ≠ some quote) :
    scanLines quote escapes done 0 (quote :: quote :: quote :: rest) =
      some (String.ofList done.reverse, rest) := by
  have counted (count : Nat) (few : count < 3) (rest : List Char) :
      scanLines quote escapes done count (quote :: rest) =
        scanLines quote escapes done (count + 1) rest := by
    rw [scanLines, if_pos rfl, if_neg (by omega)]
  rw [counted 0 (by decide), counted 1 (by decide), counted 2 (by decide)]
  cases rest with
  | nil => rw [scanLines]; rfl
  | cons c rest =>
    have other : c ≠ quote := fun same => ends (congrArg some same)
    rw [scanLines, if_neg other, if_pos (by decide)]
    rfl

theorem scanLines_break (done : List Char) {count : Nat} (few : count < 3) (rest : List Char)
    (other : '\n' ≠ quote) :
    scanLines quote escapes done count ('\n' :: rest) =
      scanLines quote escapes ('\n' :: (List.replicate count quote ++ done)) 0 rest := by
  rw [scanLines, if_neg other, if_neg (by omega)]
  split
  · rename_i found
    cases found
    rfl
  · rename_i missing
    cases missing

theorem afterBreak?_of_unbroken {c : Char} (unbroken : c ≠ '\n' ∧ c ≠ '\r') (rest : List Char) :
    afterBreak? (c :: rest) = none := by
  rw [afterBreak?, if_neg unbroken.1, if_neg (fun both => unbroken.2 both.1)]

theorem scanLines_plain {c : Char} (done : List Char) {count : Nat} (few : count < 3)
    (rest : List Char) (other : c ≠ quote) (unbroken : c ≠ '\n' ∧ c ≠ '\r')
    (unescaped : (escapes && c == '\\') = false) (plain : isPlain c = true) :
    scanLines quote escapes done count (c :: rest) =
      scanLines quote escapes (c :: (List.replicate count quote ++ done)) 0 rest := by
  have unbroken := afterBreak?_of_unbroken unbroken rest
  rw [scanLines, if_neg other, if_neg (by omega)]
  split
  · rename_i found
    cases found.symm.trans unbroken
  · rw [unescaped, if_neg Bool.false_ne_true, if_pos plain]

theorem joined?_of_solid {first : Char} (unbroken : first ≠ '\n' ∧ first ≠ '\r')
    (solid : isBlank first = false) (rest : List Char) : joined? (first :: rest) = none := by
  rw [joined?, List.dropWhile_cons, solid, if_neg Bool.false_ne_true,
    afterBreak?_of_unbroken unbroken, Option.map_none]

/-- A spelled character is read between threefold double quotes. -/
theorem scanLines_spelling (spelled : Spelling true c spelling) (done rest : List Char) :
    scanLines '"' true done 0 (spelling ++ rest) = scanLines '"' true (c :: done) 0 rest := by
  cases spelled with
  | @escape first others unbroken solid escaped =>
    have whole := afterBreak?_of_unbroken (by decide : '\\' ≠ '\n' ∧ '\\' ≠ '\r')
      (first :: others ++ rest)
    have alone := joined?_of_solid unbroken solid (others ++ rest)
    rw [List.cons_append, scanLines, if_neg (by decide), if_neg (by decide)]
    split
    · rename_i found
      cases found.symm.trans whole
    · rw [if_pos (by decide)]
      split
      · rename_i found
        cases found.symm.trans alone
      · split
        · rename_i found
          cases found.symm.trans (escaped rest)
          rfl
        · rename_i missing
          cases missing.symm.trans (escaped rest)
  | lineBreak several broken =>
    subst broken
    exact scanLines_break done (by decide) rest (by decide)
  | plain unquoted unescaped unbroken plain =>
    exact scanLines_plain done (by decide) rest unquoted unbroken (by simpa using unescaped) plain

theorem scanLines_text (done text : List Char) {rest : List Char} (ends : rest.head? ≠ some '"') :
    scanLines '"' true done 0 (text.flatMap (basicChar true) ++ ['"', '"', '"'] ++ rest) =
      some (String.ofList (done.reverse ++ text), rest) := by
  induction text generalizing done with
  | nil =>
    rw [List.flatMap_nil, List.append_nil]
    exact scanLines_closed done ends
  | cons c text ih =>
    rw [List.flatMap_cons, List.append_assoc, List.append_assoc,
      scanLines_spelling (spelling_basicChar true c), ← List.append_assoc, ih, List.reverse_cons,
      List.append_assoc, List.singleton_append]

/-! ### Strings between single quotes -/

theorem scanLiteral_text (done : List Char) {text : List Char} (rest : List Char)
    (plain : ∀ c ∈ text, isPlain c = true) (unquoted : '\'' ∉ text) :
    scanLiteral done (text ++ '\'' :: rest) =
      some (String.ofList (done.reverse ++ text), rest) := by
  induction text generalizing done with
  | nil => rw [List.nil_append, scanLiteral, if_pos rfl, List.append_nil]
  | cons c text ih =>
    obtain ⟨first, others⟩ := List.forall_mem_cons.mp plain
    obtain ⟨differs, later⟩ := not_or.mp (mt List.mem_cons.mpr unquoted)
    rw [List.cons_append, scanLiteral, if_neg (Ne.symm differs), if_pos first, ih _ others later,
      List.reverse_cons, List.append_assoc, List.singleton_append]

theorem longestRow_le {row : Nat} {text : List Char} : row ≤ longestRow quote row text := by
  induction text generalizing row with
  | nil => exact Nat.le_refl _
  | cons c text ih =>
    rw [longestRow]
    split
    · have longer : row + 1 ≤ longestRow quote (row + 1) text := ih
      omega
    · exact Nat.le_max_left _ _

/-- Quotes that have been counted belong to the string once another character follows them. -/
theorem scanLines_literal (done : List Char) {count : Nat} {text rest : List Char}
    (plain : ∀ c ∈ text, isPlain c = true ∨ c = '\n') (short : longestRow '\'' count text < 3)
    (settled : text = [] → count = 0) (open_end : text.getLast? ≠ some '\'')
    (ends : rest.head? ≠ some '\'') :
    scanLines '\'' false done count (text ++ ['\'', '\'', '\''] ++ rest) =
      some (String.ofList (done.reverse ++ List.replicate count '\'' ++ text), rest) := by
  induction text generalizing done count with
  | nil =>
    rw [settled rfl]
    simpa using scanLines_closed done ends
  | cons c text ih =>
    obtain ⟨first, others⟩ := List.forall_mem_cons.mp plain
    have few : count < 3 := Nat.lt_of_le_of_lt longestRow_le short
    have later_end : text.getLast? ≠ some '\'' := by
      intro last
      rw [List.getLast?_cons, last] at open_end
      exact open_end rfl
    rw [longestRow] at short
    by_cases quoted : c = '\''
    · subst quoted
      rw [if_pos rfl] at short
      have unfinished : text = [] → count + 1 = 0 := by
        rintro rfl
        exact absurd rfl open_end
      rw [List.cons_append, List.cons_append, scanLines, if_pos rfl, if_neg (by omega),
        ih done others short unfinished later_end, List.replicate_succ']
      simp
    · rw [if_neg quoted] at short
      have next := ih (c :: (List.replicate count '\'' ++ done)) others
        (Nat.lt_of_le_of_lt (Nat.le_max_right _ _) short) (fun _ => rfl) later_end
      have step : scanLines '\'' false done count (c :: (text ++ ['\'', '\'', '\''] ++ rest)) =
          scanLines '\'' false (c :: (List.replicate count '\'' ++ done)) 0
            (text ++ ['\'', '\'', '\''] ++ rest) := by
        by_cases broken : c = '\n'
        · subst broken
          exact scanLines_break done few _ quoted
        · have plain := first.resolve_right broken
          have carried : c ≠ '\r' := by
            rintro rfl
            exact absurd plain (by decide)
          exact scanLines_plain done few _ quoted ⟨broken, carried⟩ rfl plain
      rw [List.cons_append, List.cons_append, step, next]
      simp

/-! ### Strings -/

/-- Whether what follows a string is no quote. -/
def EndsText (rest : List Char) : Prop :=
  rest.head? ≠ some '"' ∧ rest.head? ≠ some '\''

theorem basicChar_ne_nil (multiline : Bool) (c : Char) :
    ∃ first others, basicChar multiline c = first :: others ∧ first ≠ '"' := by
  generalize spelled : basicChar multiline c = spelling
  cases spelled ▸ spelling_basicChar multiline c with
  | escape => exact ⟨_, _, rfl, by decide⟩
  | lineBreak => exact ⟨_, _, rfl, by decide⟩
  | plain unquoted => exact ⟨_, _, rfl, unquoted⟩

theorem text?_basicText (text : List Char) {rest : List Char} (ends : rest.head? ≠ some '"') :
    text? (basicText text ++ rest) = some (String.ofList text, rest) := by
  unfold basicText
  split
  · have whole := scanLines_text [] text ends
    simpa [text?, afterFirstBreak, afterBreak?] using whole
  · have short : ((text.flatMap (basicChar false) ++ ['"']) ++ rest).take 2 ≠ ['"', '"'] := by
      cases text with
      | nil =>
        cases rest with
        | nil => simp
        | cons c rest => simpa using ends
      | cons c text =>
        obtain ⟨first, others, spelled, unquoted⟩ := basicChar_ne_nil false c
        simp [spelled, unquoted]
    have whole := scanBasic_text [] text rest
    rw [List.cons_append, List.cons_append, text?.eq_def]
    simp only [↓reduceIte]
    rw [if_neg short, List.append_assoc]
    exact whole

theorem text?_literalText {text rest : List Char} (literal : isLiteral text = true)
    (marked : text ≠ []) (ends : rest.head? ≠ some '\'') :
    text? (literalText text ++ rest) = some (String.ofList text, rest) := by
  simp only [isLiteral, Bool.and_eq_true, List.all_eq_true, Bool.or_eq_true, beq_iff_eq,
    decide_eq_true_eq, bne_iff_ne] at literal
  obtain ⟨⟨plain, short⟩, open_end⟩ := literal
  have lines := scanLines_literal [] plain short (fun _ => rfl) open_end ends
  unfold literalText
  split
  · simpa [text?, afterFirstBreak, afterBreak?] using lines
  · rename_i unbroken
    obtain ⟨first, others, rfl⟩ := List.exists_cons_of_ne_nil marked
    have broken : '\n' ∉ first :: others := by simpa using unbroken
    replace plain : ∀ c ∈ first :: others, isPlain c = true := fun c member =>
      (plain c member).resolve_right fun same => broken (same ▸ member)
    split
    · have one_line : afterFirstBreak (first :: others ++ ['\'', '\'', '\''] ++ rest) =
          first :: others ++ ['\'', '\'', '\''] ++ rest := by
        have carried : first ≠ '\r' := by
          rintro rfl
          exact absurd (plain '\r' List.mem_cons_self) (by decide)
        have differs : first ≠ '\n' := fun same => broken (same ▸ List.mem_cons_self)
        rw [afterFirstBreak, List.cons_append, List.cons_append,
          afterBreak?_of_unbroken ⟨differs, carried⟩, Option.getD_none]
      have whole := lines
      rw [← one_line] at whole
      simpa [text?] using whole
    · rename_i unquoted
      replace unquoted : '\'' ∉ first :: others := by simpa using unquoted
      have differs : first ≠ '\'' := fun same => unquoted (same ▸ List.mem_cons_self)
      have whole := scanLiteral_text [] rest plain unquoted
      simpa [text?, differs] using whole

theorem exists_writeText (text : List Char) :
    ∃ c more, writeText text = c :: more ∧ (c = '"' ∨ c = '\'') := by
  unfold writeText literalText basicText
  split_ifs
  · exact ⟨_, _, rfl, .inr rfl⟩
  · exact ⟨_, _, rfl, .inr rfl⟩
  · exact ⟨_, _, rfl, .inr rfl⟩
  · exact ⟨_, _, rfl, .inl rfl⟩
  · exact ⟨_, _, rfl, .inl rfl⟩

/-- A text is read back from the string that is written for it. -/
theorem text?_writeText (text : List Char) {rest : List Char} (ends : EndsText rest) :
    text? (writeText text ++ rest) = some (String.ofList text, rest) := by
  unfold writeText
  split
  · rename_i preferred
    simp only [Bool.and_eq_true, Bool.or_eq_true, List.contains_iff_mem] at preferred
    refine text?_literalText preferred.2 ?_ ends.2
    rintro rfl
    rcases preferred.1 with quoted | escaped
    · cases quoted
    · cases escaped
  · exact text?_basicText text ends.1

end OpcUa.Toml
