import OpcUa.Toml.Value

/-!
# TOML documents

A document is a row of statements, one on each line: pairs of a key and a value, headers of tables
and headers of tables in a row. It is read as the object that it describes.
-/

namespace OpcUa.Toml

inductive Statement where
  | pair (path : List String) (value : Json)
  | table (path : List String)
  | row (path : List String)

namespace Statement

/-- The end of a line, or of the input, after blanks and a comment. -/
def afterLine? (input : List Char) : Option (List Char) :=
  let rest := skipComment (skipBlanks input)
  if rest.isEmpty then some [] else afterBreak? rest

/-- A pair, without the end of its line. -/
def pair? (input : List Char) : Option (Statement × List Char) := do
  let (path, rest) ← path? input
  let rest ← afterChar? '=' rest
  let (value, rest) ← value? (skipBlanks rest)
  return (.pair path value, rest)

/-- A header whose first bracket has been read. -/
def header? (input : List Char) : Option (Statement × List Char) :=
  match input with
  | '[' :: rest => do
    let (path, rest) ← path? rest
    let rest ← afterChar? ']' rest
    return (.row path, ← afterChar? ']' rest)
  | rest => do
    let (path, rest) ← path? rest
    return (.table path, ← afterChar? ']' rest)

/-- The statement that starts the input, and the input after its line. -/
def read? (input : List Char) : Option (Statement × List Char) := do
  let (statement, rest) ← match input with
    | '[' :: rest => header? rest
    | rest => pair? rest
  return (statement, ← afterLine? rest)

end Statement

/-! ### Lines -/

/-- Passes over lines with nothing but blanks and a comment. -/
def skipLines? (input : List Char) : Option (List Char) :=
  match _broken : afterBreak? (skipComment (skipBlanks input)) with
  | some rest => skipLines? rest
  | none =>
    let next := (skipBlanks input).head?
    if (skipComment (skipBlanks input)).isEmpty then some []
    else if next = some '#' ∨ next = some '\r' then none
    else some (skipBlanks input)
termination_by input.length
decreasing_by
  have := length_of_afterBreak? _broken
  have := length_skipComment (skipBlanks input)
  have := (input.dropWhile_sublist isBlank).length_le
  simp only [skipBlanks] at *
  omega

/-- All statements of the input, those of `done` before them in reverse. Each one takes a
character. -/
def scanStatements (steps : Nat) (done : List Statement) (input : List Char) :
    Option (List Statement) :=
  match skipLines? input with
  | none => none
  | some [] => some done.reverse
  | some rest =>
    match steps, Statement.read? rest with
    | steps + 1, some (statement, rest) => scanStatements steps (statement :: done) rest
    | _, _ => none

/-- The input without a byte order mark. -/
def afterMark (input : List Char) : List Char :=
  if input.head? = some '\ufeff' then input.tail else input

def statements? (input : List Char) : Option (List Statement) :=
  scanStatements input.length [] (afterMark input)

/-! ### Documents -/

/-- The members of a document as far as it has been read. -/
structure Draft where
  /-- The table that pairs belong to. -/
  table : List String := []
  members : Members := []

namespace Draft

def add (d : Draft) : Statement → Option Draft
  | .pair path value => do
    let key ← path.getLast?
    let members ← d.members.descend false (Members.define path.dropLast key value) d.table .header
    return { d with members }
  | .table path => do
    let key ← path.getLast?
    return ⟨path, ← d.members.descend false (Members.openTable key) path.dropLast .header⟩
  | .row path => do
    let key ← path.getLast?
    return ⟨path, ← d.members.descend false (Members.openRow key) path.dropLast .header⟩

end Draft

/-- The object that statements describe. -/
def ofStatements? (statements : List Statement) : Option Json :=
  (statements.foldlM Draft.add {}).map fun draft => .object (membersJson draft.members)

/-- The object that a text describes. -/
def parse? (text : String) : Option Json :=
  (statements? text.toList).bind ofStatements?

end OpcUa.Toml
