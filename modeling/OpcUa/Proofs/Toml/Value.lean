import OpcUa.Proofs.Json.Literal
import OpcUa.Proofs.Text.Cut
import OpcUa.Proofs.Toml.Text
import OpcUa.Toml.Writer

/-!
# TOML values read back

Scalars are read back from what is written for them if the end of a line, a comma or a bracket
follows, and so are lists of them, on one line or on several.
-/

namespace OpcUa.Toml

/-- What follows a value in a document or in a list. -/
def EndsScalar (rest : List Char) : Prop :=
  ∃ c more, rest = c :: more ∧ (c = '\n' ∨ c = ',' ∨ c = ']')

theorem EndsScalar.endsText {rest : List Char} (ends : EndsScalar rest) : EndsText rest := by
  obtain ⟨c, more, rfl, closes⟩ := ends
  rcases closes with rfl | rfl | rfl <;> simp [EndsText]

/-! ### Whole numbers -/

theorem digitRun?_of_digits {digits : List Char} (some_digit : digits ≠ [])
    (all : ∀ c ∈ digits, c.isDigit = true) : digitRun? Char.isDigit digits = some digits := by
  induction digits with
  | nil => exact absurd rfl some_digit
  | cons c digits ih =>
    obtain ⟨digit, later⟩ := List.forall_mem_cons.mp all
    cases digits with
    | nil => rw [digitRun?, if_pos digit]
    | cons d digits =>
      have separate : d ≠ '_' := by
        rintro rfl
        exact absurd (later '_' List.mem_cons_self) (by decide)
      rw [digitRun?, if_pos digit, ih (List.cons_ne_nil _ _) later, Option.map_some]
      · exact fun empty => List.cons_ne_nil _ _ empty
      · exact fun more same => separate (List.cons.inj same).1

theorem decimal_digits (n : Nat) : decimal (Json.digits n) = n :=
  Decimal.valueFrom_toDigits n

theorem isDigit_of_mem_digits {n : Nat} {c : Char} (member : c ∈ Json.digits n) :
    c.isDigit = true :=
  Nat.isDigit_of_mem_toDigits (by decide) (by decide) member

theorem wholeRun?_digits (n : Nat) : wholeRun? (Json.digits n) = some (Json.digits n) := by
  have run : digitRun? Char.isDigit (Json.digits n) = some (Json.digits n) :=
    digitRun?_of_digits Nat.toDigits_ne_nil fun c => isDigit_of_mem_digits
  rw [wholeRun?, run, Option.filter_some_pos]
  rcases Nat.eq_zero_or_pos n with rfl | positive
  · rfl
  · simpa using .inl (Decimal.head?_toDigits positive)

theorem based?_of_decimal {text : List Char}
    (plain : ∀ c ∈ text, c.isDigit = true ∨ c = '-') : based? text = none := by
  have absent {first second : Char} (letter : second.isDigit = false ∧ second ≠ '-') :
      text.take 2 ≠ [first, second] := by
    intro same
    have member : second ∈ text.take 2 := by rw [same]; simp
    rcases plain second (List.mem_of_mem_take member) with digit | sign
    · rw [letter.1] at digit
      cases digit
    · exact letter.2 sign
  unfold based?
  dsimp only
  rw [if_neg (absent (by decide)), if_neg (absent (by decide)), if_neg (absent (by decide))]

theorem plain_of_mem_numeral {n : Int} {c : Char} (member : c ∈ Json.numeral n) :
    c.isDigit = true ∨ c = '-' := by
  unfold Json.numeral at member
  split at member
  · rcases List.mem_cons.mp member with sign | digit
    · exact .inr sign
    · exact .inl (isDigit_of_mem_digits digit)
  · exact .inl (isDigit_of_mem_digits member)

theorem numeral_ne_nil (n : Int) : Json.numeral n ≠ [] := by
  unfold Json.numeral
  split
  · exact List.cons_ne_nil _ _
  · exact Nat.toDigits_ne_nil

theorem unsigned_of_digits {digits : List Char} (all : ∀ c ∈ digits, c.isDigit = true) :
    unsigned digits = (false, digits) := by
  cases digits with
  | nil => rfl
  | cons c digits =>
    have digit := all c List.mem_cons_self
    have negative : c ≠ '-' := by
      rintro rfl
      exact absurd digit (by decide)
    have positive : c ≠ '+' := by
      rintro rfl
      exact absurd digit (by decide)
    rw [unsigned, if_neg negative, if_neg positive]

theorem integer?_numeral (n : Int) : integer? (Json.numeral n) = some n := by
  rw [integer?, based?_of_decimal fun c => plain_of_mem_numeral]
  dsimp only
  unfold decimalInteger? Json.numeral
  by_cases negative : n < 0
  · rw [if_pos negative, unsigned, if_pos rfl]
    simp only [wholeRun?_digits, decimal_digits, Option.map_some, if_true]
    congr 1
    omega
  · rw [if_neg negative, unsigned_of_digits fun c => isDigit_of_mem_digits]
    simp only [wholeRun?_digits, decimal_digits, Option.map_some, Bool.false_eq_true, if_false]
    congr 1
    omega

/-! ### Scalars -/

/-- A value without parts: a truth value, a whole number of 64 bits or a text. -/
inductive IsScalar : Json → Prop
  | bool (value : Bool) : IsScalar (.bool value)
  | int {n : Int} (lower : -2 ^ 63 ≤ n) (upper : n < 2 ^ 63) : IsScalar (.int n)
  | text (value : String) : IsScalar (.text value)

theorem ofScalar?_numeral {n : Int} (lower : -2 ^ 63 ≤ n) (upper : n < 2 ^ 63) :
    ofScalar? (Json.numeral n) = some (.int n) := by
  have wordless {c : Char} {text : List Char} (letter : c.isDigit = false ∧ c ≠ '-') :
      Json.numeral n ≠ c :: text := by
    intro same
    rcases plain_of_mem_numeral (same ▸ List.mem_cons_self) with digit | sign
    · rw [letter.1] at digit
      cases digit
    · exact letter.2 sign
  have least : Int64.minValue.toInt = -2 ^ 63 := by decide
  have most : Int64.maxValue.toInt = 2 ^ 63 - 1 := by decide
  have words : "true".toList = ['t', 'r', 'u', 'e'] ∧ "false".toList = ['f', 'a', 'l', 's', 'e'] :=
    ⟨rfl, rfl⟩
  unfold ofScalar?
  rw [words.1, words.2, if_neg (wordless (by decide)), if_neg (wordless (by decide)),
    integer?_numeral]
  dsimp only
  rw [if_pos (by omega)]

/-- A scalar reaches up to the first character that cannot belong to it. -/
theorem scalar?_of_chars {text rest : List Char} {value : Json}
    (chars : ∀ c ∈ text, isScalarChar c = true) (ends : EndsScalar rest)
    (read : ofScalar? text = some value) : scalar? (text ++ rest) = some (value, rest) := by
  have stops : ∀ c ∈ rest.head?, isScalarChar c = false ∧ c ≠ ' ' := by
    obtain ⟨d, more, rfl, closes⟩ := ends
    rintro c ⟨⟩
    rcases closes with rfl | rfl | rfl <;> decide
  have unspaced : (rest.head? == some ' ') = false := by
    rw [beq_eq_false_iff_ne]
    exact fun spaced => (stops ' ' spaced).2 rfl
  unfold scalar?
  rw [Text.takeWhile_append_of_stop chars fun c first => (stops c first).1,
    Text.dropWhile_append_of_stop chars fun c first => (stops c first).1]
  simp [unspaced, read]

theorem isScalarChar_of_mem_numeral {n : Int} {c : Char} (member : c ∈ Json.numeral n) :
    isScalarChar c = true := by
  unfold isScalarChar
  rcases plain_of_mem_numeral member with digit | rfl
  · simp [Char.isAlphanum, digit]
  · decide

/-- The characters that scalars start with. -/
def StartsScalar (c : Char) : Prop :=
  c.isAlphanum = true ∨ c = '-' ∨ c = '"' ∨ c = '\''

instance (c : Char) : Decidable (StartsScalar c) :=
  inferInstanceAs (Decidable (_ ∨ _))

theorem StartsScalar.ne {c d : Char} (starts : StartsScalar c) (other : ¬ StartsScalar d) :
    c ≠ d :=
  fun same => other (same ▸ starts)

theorem exists_numeral (n : Int) :
    ∃ c more, Json.numeral n = c :: more ∧ (c.isAlphanum = true ∨ c = '-') := by
  obtain ⟨c, more, starts⟩ := List.exists_cons_of_ne_nil (numeral_ne_nil n)
  refine ⟨c, more, starts, (plain_of_mem_numeral (starts ▸ List.mem_cons_self)).imp_left ?_⟩
  intro digit
  rw [Char.isAlphanum, digit, Bool.or_true]

theorem writeInline_int (n : Int) : writeInline (.int n) = Json.numeral n := by
  rw [writeInline, Json.toList_toString]

theorem exists_writeInline {value : Json} (scalar : IsScalar value) :
    ∃ c more, writeInline value = c :: more ∧ StartsScalar c := by
  cases scalar with
  | bool value => cases value <;> exact ⟨_, _, rfl, by decide⟩
  | @int n lower upper =>
    obtain ⟨c, more, starts, first⟩ := exists_numeral n
    exact ⟨c, more, (writeInline_int n).trans starts, first.imp_right .inl⟩
  | text value =>
    obtain ⟨c, more, starts, quote⟩ := exists_writeText value.toList
    exact ⟨c, more, starts, .inr (.inr quote)⟩

/-- A scalar is a string if it starts like one. -/
theorem scanValue_of_starts {c : Char} (starts : StartsScalar c) (steps depth : Nat)
    (rest : List Char) :
    scanValue (steps + 1) depth (c :: rest) =
      match text? (c :: rest) with
      | some (t, rest) => some (.text t, rest)
      | none => scalar? (c :: rest) := by
  rw [scanValue.eq_def]
  dsimp only
  split
  · rename_i same
    exact absurd (List.cons.inj same).1 (starts.ne (by decide))
  · rename_i same
    exact absurd (List.cons.inj same).1 (starts.ne (by decide))
  · rfl

theorem text?_of_unquoted {c : Char} (letter : c.isAlphanum = true ∨ c = '-') (rest : List Char) :
    text? (c :: rest) = none := by
  have other {d : Char} (mark : ¬ (d.isAlphanum = true ∨ d = '-')) : c ≠ d :=
    fun same => mark (same ▸ letter)
  rw [text?.eq_def]
  dsimp only
  rw [if_neg (other (by decide)), if_neg (other (by decide))]

theorem scanValue_scalar {value : Json} (scalar : IsScalar value) (steps depth : Nat)
    {rest : List Char} (ends : EndsScalar rest) :
    scanValue (steps + 1) depth (writeInline value ++ rest) = some (value, rest) := by
  have unquoted {text : List Char} {c : Char} {more : List Char} (starts : text = c :: more)
      (letter : c.isAlphanum = true ∨ c = '-') (chars : ∀ c ∈ text, isScalarChar c = true)
      (read : ofScalar? text = some value) :
      scanValue (steps + 1) depth (text ++ rest) = some (value, rest) := by
    have whole := scalar?_of_chars chars ends read
    subst starts
    rw [List.cons_append] at whole ⊢
    rw [scanValue_of_starts (letter.imp_right .inl), text?_of_unquoted letter, whole]
  cases scalar with
  | bool value =>
    have chars : ∀ c ∈ writeInline (.bool value), isScalarChar c = true := by
      cases value <;> exact List.all_eq_true.mp rfl
    cases value <;> exact unquoted rfl (by decide) chars rfl
  | @int n lower upper =>
    obtain ⟨c, more, starts, first⟩ := exists_numeral n
    rw [writeInline_int]
    exact unquoted starts first (fun c => isScalarChar_of_mem_numeral)
      (ofScalar?_numeral lower upper)
  | text value =>
    obtain ⟨c, more, starts, quote⟩ := exists_writeText value.toList
    have read := text?_writeText value.toList ends.endsText
    rw [starts, List.cons_append, String.ofList_toList] at read
    rw [writeInline, starts, List.cons_append, scanValue_of_starts (.inr (.inr quote)), read]

/-! ### Lists -/

/-- What neither is passed over in a list nor starts a comment. -/
def IsSolid (c : Char) : Prop :=
  isBlank c = false ∧ c ≠ '\n' ∧ c ≠ '\r' ∧ c ≠ '#'

instance (c : Char) : Decidable (IsSolid c) :=
  inferInstanceAs (Decidable (_ ∧ _))

theorem StartsScalar.isSolid {c : Char} (starts : StartsScalar c) : IsSolid c := by
  have blank : isBlank c = false := by
    rw [isBlank, Bool.or_eq_false_iff, beq_eq_false_iff_ne, beq_eq_false_iff_ne]
    exact ⟨starts.ne (by decide), starts.ne (by decide)⟩
  exact ⟨blank, starts.ne (by decide), starts.ne (by decide), starts.ne (by decide)⟩

theorem skipBlanks_solid {c : Char} (solid : IsSolid c) (rest : List Char) :
    skipBlanks (c :: rest) = c :: rest := by
  rw [skipBlanks, List.dropWhile_cons, solid.1, if_neg Bool.false_ne_true]

theorem skipComment_solid {c : Char} (solid : IsSolid c) (rest : List Char) :
    skipComment (c :: rest) = c :: rest := by
  have uncommented : (c :: rest).head? ≠ some '#' :=
    fun same => solid.2.2.2 (Option.some.inj same)
  rw [skipComment, if_neg uncommented]

theorem skipFiller?_solid {c : Char} (solid : IsSolid c) (rest : List Char) :
    skipFiller? (c :: rest) = some (c :: rest) := by
  have unbroken := afterBreak?_of_unbroken ⟨solid.2.1, solid.2.2.1⟩ rest
  rw [skipFiller?]
  split
  · rename_i found
    rw [skipBlanks_solid solid, skipComment_solid solid, unbroken] at found
    cases found
  · rw [skipBlanks_solid solid, List.head?_cons]
    simp [solid.2.2.1, solid.2.2.2]

theorem skipFiller?_break (rest : List Char) : skipFiller? ('\n' :: rest) = skipFiller? rest := by
  rw [skipFiller?]
  split
  · rename_i found
    cases found
    rfl
  · rename_i missing
    cases missing

theorem skipFiller?_blank (rest : List Char) : skipFiller? (' ' :: rest) = skipFiller? rest := by
  have passed : skipBlanks (' ' :: rest) = skipBlanks rest := rfl
  rw [skipFiller?.eq_def, skipFiller?.eq_def rest, passed]

theorem scanItems_closed (steps depth : Nat) (done : List Json) {input : List Char}
    (rest : List Char) (passed : skipFiller? input = skipFiller? (']' :: rest)) :
    scanItems (steps + 1) depth done input = some (.list done.reverse, rest) := by
  rw [scanItems, passed, skipFiller?_solid (by decide)]
  rfl

/-- An item is read up to the mark after it, whatever is passed over before it. -/
theorem scanItems_item {item : Json} (scalar : IsScalar item) (steps depth : Nat)
    (done : List Json) {mark : Char} (separates : mark = ',' ∨ mark = ']') {input : List Char}
    (rest : List Char)
    (passed : skipFiller? input = skipFiller? (writeInline item ++ mark :: rest)) :
    scanItems (steps + 2) depth done input =
      if mark = ',' then scanItems (steps + 1) depth (item :: done) rest
      else some (.list (item :: done).reverse, rest) := by
  obtain ⟨c, more, starts, first⟩ := exists_writeInline scalar
  have ends : EndsScalar (mark :: rest) := ⟨mark, rest, rfl, .inr separates⟩
  have read := scanValue_scalar scalar steps depth ends
  have after : skipFiller? (mark :: rest) = some (mark :: rest) :=
    skipFiller?_solid (by rcases separates with rfl | rfl <;> decide) rest
  rw [starts, List.cons_append] at passed read
  rw [skipFiller?_solid first.isSolid] at passed
  rw [scanItems, passed]
  split
  · rename_i closes
    cases closes
  · rename_i closes
    cases closes
    exact absurd first (by decide)
  · rename_i _ whole
    cases whole
    rw [read]
    dsimp only
    rw [after]
    rcases separates with rfl | rfl <;> rfl

theorem scanItems_lines {items : List Json} (scalars : ∀ item ∈ items, IsScalar item)
    {steps : Nat} (enough : items.length < steps) (depth : Nat) (done : List Json)
    (rest : List Char) :
    scanItems steps depth done (items.flatMap itemLine ++ ['\n', ']'] ++ rest) =
      some (.list (done.reverse ++ items), rest) := by
  induction items generalizing steps done with
  | nil =>
    obtain ⟨steps, rfl⟩ := Nat.exists_eq_add_of_le' enough
    rw [List.append_nil]
    exact scanItems_closed steps depth done rest (skipFiller?_break _)
  | cons item items ih =>
    obtain ⟨scalar, others⟩ := List.forall_mem_cons.mp scalars
    rw [List.length_cons] at enough
    obtain ⟨spare, rfl⟩ : ∃ spare, steps = spare + 2 := ⟨steps - 2, by omega⟩
    have shape : (item :: items).flatMap itemLine ++ ['\n', ']'] ++ rest =
        '\n' :: ' ' :: ' ' :: ' ' :: ' ' :: (writeInline item ++
          ',' :: (items.flatMap itemLine ++ ['\n', ']'] ++ rest)) := by
      have indent : "\n    ".toList = ['\n', ' ', ' ', ' ', ' '] := rfl
      simp [itemLine, indent]
    have passed := skipFiller?_break (' ' :: ' ' :: ' ' :: ' ' :: (writeInline item ++
      ',' :: (items.flatMap itemLine ++ ['\n', ']'] ++ rest)))
    simp only [skipFiller?_blank] at passed
    rw [shape, scanItems_item scalar spare depth done (.inl rfl) _ passed, if_pos rfl,
      ih others (by omega), List.reverse_cons, List.append_assoc, List.singleton_append]

/-! ### Values -/

/-- A scalar or a list of scalars. -/
inductive IsValue : Json → Prop
  | scalar {value : Json} (scalar : IsScalar value) : IsValue value
  | list {items : List Json} (scalars : ∀ item ∈ items, IsScalar item) : IsValue (.list items)

theorem length_le_lines (items : List Json) : items.length ≤ (items.flatMap itemLine).length := by
  induction items with
  | nil => exact Nat.le_refl _
  | cons item items ih =>
    have some_line : 0 < (itemLine item).length := by simp [itemLine]
    rw [List.flatMap_cons, List.length_append, List.length_cons]
    omega

theorem value?_list {items : List Json} (scalars : ∀ item ∈ items, IsScalar item)
    (rest : List Char) :
    value? (writeValue (.list items) ++ rest) = some (.list items, rest) := by
  have opened (input : List Char) : value? ('[' :: input) =
      scanItems (2 * input.length + 3) 1 [] input := by
    rw [value?, List.length_cons]
    rfl
  cases items with
  | nil => exact (opened (']' :: rest)).trans (scanItems_closed _ _ _ _ rfl)
  | cons first others =>
    cases others with
    | nil =>
      have shape : writeValue (.list [first]) ++ rest =
          '[' :: (writeInline first ++ ']' :: rest) := by
        simp [writeValue, writeInline, writeItems]
      have scalar := scalars first List.mem_cons_self
      rw [shape, opened]
      exact scanItems_item scalar _ 1 [] (.inr rfl) rest rfl
    | cons second others =>
      have shape : writeValue (.list (first :: second :: others)) ++ rest =
          '[' :: ((first :: second :: others).flatMap itemLine ++ ['\n', ']'] ++ rest) := by
        simp [writeValue]
      have short := length_le_lines (first :: second :: others)
      rw [shape, opened, scanItems_lines scalars]
      · rfl
      · simp only [List.length_append]
        omega

/-- A value is read back from what is written for it at the end of a line. -/
theorem value?_writeValue {value : Json} (plain : IsValue value) {rest : List Char}
    (ends : EndsScalar rest) : value? (writeValue value ++ rest) = some (value, rest) := by
  cases plain with
  | scalar scalar =>
    have inline : writeValue value = writeInline value := by cases scalar <;> rfl
    rw [inline]
    exact scanValue_scalar scalar _ 0 ends
  | list scalars => exact value?_list scalars rest

end OpcUa.Toml
