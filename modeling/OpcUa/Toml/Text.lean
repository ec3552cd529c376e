import OpcUa.Hex

/-!
# TOML strings

A string stands between quotes on one line, or between threefold quotes on several. Between double
quotes escapes are read, between single ones every character stands for itself. A string is written
in the form that needs no escapes, as far as there is one.
-/

namespace OpcUa.Toml

def isControl (c : Char) : Bool :=
  c.toNat < 0x20 || c.toNat == 0x7F

/-- May stand in a string as it is. -/
def isPlain (c : Char) : Bool :=
  c == '\t' || !isControl c

def isBlank (c : Char) : Bool :=
  c == ' ' || c == '\t'

/-- The input after the line break that starts it. -/
def afterBreak? : List Char → Option (List Char)
  | [] => none
  | c :: rest =>
    if c = '\n' then some rest
    else if c = '\r' ∧ rest.head? = some '\n' then some rest.tail
    else none

theorem length_of_afterBreak? {input rest : List Char} (present : afterBreak? input = some rest) :
    rest.length < input.length := by
  unfold afterBreak? at present
  split at present
  · cases present
  · rename_i c tail
    split at present
    · cases present
      exact Nat.lt_succ_self _
    · split at present
      · cases present
        simp only [List.length_tail, List.length_cons]
        omega
      · cases present

/-! ### Reading -/

def letterEscape? (letter : Char) : Option Char :=
  if letter = '"' ∨ letter = '\\' then some letter
  else if letter = 'b' then some '\x08'
  else if letter = 't' then some '\t'
  else if letter = 'n' then some '\n'
  else if letter = 'f' then some '\x0c'
  else if letter = 'r' then some '\r'
  else none

/-- The character whose number has `size` hexadecimal digits at the start of the input. -/
def numbered? (size : Nat) (input : List Char) : Option (Char × List Char) := do
  if input.length < size then none
  let n ← Hex.number? (input.take size)
  if n.isValidChar then some (Char.ofNat n, input.drop size) else none

/-- The character of the escape whose backslash has been read. -/
def escaped? : List Char → Option (Char × List Char)
  | [] => none
  | c :: rest =>
    if c = 'u' then numbered? 4 rest
    else if c = 'U' then numbered? 8 rest
    else (letterEscape? c).map (·, rest)

theorem length_of_escaped? {input rest : List Char} {c : Char}
    (present : escaped? input = some (c, rest)) : rest.length < input.length := by
  have numbered {size : Nat} {tail : List Char} (h : numbered? size tail = some (c, rest)) :
      rest.length < tail.length + 1 := by
    unfold numbered? at h
    split at h
    · cases h
    · simp only [bind, Option.bind] at h
      split at h
      · cases h
      · dsimp only at h
        split at h
        · cases h
          simp only [List.length_drop]
          omega
        · cases h
  unfold escaped? at present
  split at present
  · cases present
  · split at present
    · exact numbered present
    · split at present
      · exact numbered present
      · simp only [Option.map_eq_some_iff] at present
        obtain ⟨_, _, same⟩ := present
        cases same
        exact Nat.lt_succ_self _

/-- A string on one line whose double quote has been read. -/
def scanBasic (done : List Char) (input : List Char) : Option (String × List Char) :=
  match input with
  | [] => none
  | c :: rest =>
    if c = '"' then some (String.ofList done.reverse, rest)
    else if c = '\\' then
      match _present : escaped? rest with
      | some (c, rest) => scanBasic (c :: done) rest
      | none => none
    else if isPlain c then scanBasic (c :: done) rest
    else none
termination_by input.length
decreasing_by
  · have := length_of_escaped? _present
    simp only [List.length_cons]
    omega
  · simp only [List.length_cons]
    omega

/-- A string on one line whose single quote has been read. -/
def scanLiteral (done : List Char) : List Char → Option (String × List Char)
  | [] => none
  | c :: rest =>
    if c = '\'' then some (String.ofList done.reverse, rest)
    else if isPlain c then scanLiteral (c :: done) rest
    else none

/-- The end of a string on several lines, after `count` quotes: three close it, and up to two
before them belong to it. -/
def closing? (quote : Char) (done : List Char) (count : Nat) (rest : List Char) :
    Option (String × List Char) :=
  if 3 ≤ count ∧ count ≤ 5 then
    some (String.ofList (List.replicate (count - 3) quote ++ done).reverse, rest)
  else none

/-- Drops blanks and line breaks. -/
def skipSpace : List Char → List Char
  | [] => []
  | c :: rest =>
    if isBlank c || c == '\n' then skipSpace rest
    else if c == '\r' && rest.head? == some '\n' then skipSpace rest
    else c :: rest

theorem length_skipSpace (input : List Char) : (skipSpace input).length ≤ input.length := by
  induction input with
  | nil => exact Nat.le_refl _
  | cons c rest ih =>
    unfold skipSpace
    split
    · exact Nat.le_succ_of_le ih
    · split
      · exact Nat.le_succ_of_le ih
      · exact Nat.le_refl _

/-- What follows a backslash at the end of a line, with the space that the next lines start with
left out. -/
def joined? (input : List Char) : Option (List Char) :=
  (afterBreak? (input.dropWhile isBlank)).map skipSpace

theorem length_of_joined? {input rest : List Char} (present : joined? input = some rest) :
    rest.length < input.length := by
  simp only [joined?, Option.map_eq_some_iff] at present
  obtain ⟨tail, broken, same⟩ := present
  have := length_of_afterBreak? broken
  have := (input.dropWhile_sublist isBlank).length_le
  have := length_skipSpace tail
  subst same
  omega

/-- A string on several lines in `quote`, after its first line break. `count` quotes have just been
read that may belong to its end. -/
def scanLines (quote : Char) (escapes : Bool) (done : List Char) (count : Nat)
    (input : List Char) : Option (String × List Char) :=
  match input with
  | [] => closing? quote done count []
  | c :: rest =>
    if c = quote then
      if count = 5 then closing? quote done count (c :: rest)
      else scanLines quote escapes done (count + 1) rest
    else if 3 ≤ count then closing? quote done count (c :: rest)
    else
      let done := List.replicate count quote ++ done
      match _broken : afterBreak? (c :: rest) with
      | some rest => scanLines quote escapes ('\n' :: done) 0 rest
      | none =>
        if escapes && c == '\\' then
          match _joins : joined? rest with
          | some rest => scanLines quote escapes done 0 rest
          | none =>
            match _present : escaped? rest with
            | some (c, rest) => scanLines quote escapes (c :: done) 0 rest
            | none => none
        else if isPlain c then scanLines quote escapes (c :: done) 0 rest
        else none
termination_by input.length
decreasing_by
  · simp only [List.length_cons]
    omega
  · exact length_of_afterBreak? _broken
  · have := length_of_joined? _joins
    simp only [List.length_cons]
    omega
  · have := length_of_escaped? _present
    simp only [List.length_cons]
    omega
  · simp only [List.length_cons]
    omega

/-- The input after a line break, if it starts with one. -/
def afterFirstBreak (input : List Char) : List Char :=
  (afterBreak? input).getD input

/-- The string that starts the input. -/
def text? (input : List Char) : Option (String × List Char) :=
  match input with
  | [] => none
  | c :: rest =>
    if c = '"' then
      if rest.take 2 = ['"', '"'] then scanLines '"' true [] 0 (afterFirstBreak (rest.drop 2))
      else scanBasic [] rest
    else if c = '\'' then
      if rest.take 2 = ['\'', '\''] then scanLines '\'' false [] 0 (afterFirstBreak (rest.drop 2))
      else scanLiteral [] rest
    else none

/-! ### Writing -/

/-- The longest row of single quotes. -/
def longestRow (quote : Char) : Nat → List Char → Nat
  | row, [] => row
  | row, c :: rest =>
    if c = quote then longestRow quote (row + 1) rest else max row (longestRow quote 0 rest)

/-- Nothing between single quotes has to be escaped: no control but tabs and line breaks, and no row
of three single quotes or one at the end. -/
def isLiteral (text : List Char) : Bool :=
  text.all (fun c => isPlain c || c == '\n') && decide (longestRow '\'' 0 text < 3) &&
    text.getLast? != some '\''

/-- A character between double quotes, on one line or on several. -/
def basicChar (multiline : Bool) (c : Char) : List Char :=
  if c = '"' then ['\\', '"']
  else if c = '\\' then ['\\', '\\']
  else if c = '\n' then (if multiline then ['\n'] else ['\\', 'n'])
  else if c = '\x08' then ['\\', 'b']
  else if c = '\t' then ['\\', 't']
  else if c = '\x0c' then ['\\', 'f']
  else if c = '\r' then ['\\', 'r']
  else if isControl c then '\\' :: 'u' :: (Hex.ofNumber 4 c.toNat).map Char.toUpper
  else [c]

/-- The string between double quotes. -/
def basicText (text : List Char) : List Char :=
  if text.contains '\n' then
    "\"\"\"\n".toList ++ text.flatMap (basicChar true) ++ "\"\"\"".toList
  else '"' :: text.flatMap (basicChar false) ++ ['"']

/-- The string between single quotes. -/
def literalText (text : List Char) : List Char :=
  if text.contains '\n' then "'''\n".toList ++ text ++ "'''".toList
  else if text.contains '\'' then "'''".toList ++ text ++ "'''".toList
  else '\'' :: text ++ ['\'']

/-- A text with double quotes or backslashes goes between single quotes if it can. -/
def writeText (text : List Char) : List Char :=
  if (text.contains '"' || text.contains '\\') && isLiteral text then literalText text
  else basicText text

end OpcUa.Toml
