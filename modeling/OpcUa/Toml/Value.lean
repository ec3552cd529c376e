import OpcUa.Toml.Scalar
import OpcUa.Toml.Table
import OpcUa.Toml.Text

/-!
# TOML values

Keys, and values with lists and inline tables among them.
-/

namespace OpcUa.Toml

def skipBlanks (input : List Char) : List Char :=
  input.dropWhile isBlank

/-- The input after a comment, if it starts with one. -/
def skipComment (input : List Char) : List Char :=
  if input.head? = some '#' then input.dropWhile isPlain else input

theorem length_skipComment (input : List Char) : (skipComment input).length ≤ input.length := by
  unfold skipComment
  split
  · exact (input.dropWhile_sublist isPlain).length_le
  · exact Nat.le_refl _

/-- Passes over blanks, line breaks and comments with a line break after them. -/
def skipFiller? (input : List Char) : Option (List Char) :=
  match _broken : afterBreak? (skipComment (skipBlanks input)) with
  | some rest => skipFiller? rest
  | none =>
    let next := (skipBlanks input).head?
    if next = some '#' ∨ next = some '\r' then none else some (skipBlanks input)
termination_by input.length
decreasing_by
  have := length_of_afterBreak? _broken
  have := length_skipComment (skipBlanks input)
  have := (input.dropWhile_sublist isBlank).length_le
  simp only [skipBlanks] at *
  omega

/-! ### Keys -/

def isKeyChar (c : Char) : Bool :=
  c.isAlphanum || c == '_' || c == '-'

/-- The key without dots that starts the input. -/
def key? (input : List Char) : Option (String × List Char) :=
  match input with
  | [] => none
  | c :: rest =>
    if c = '"' then scanBasic [] rest
    else if c = '\'' then scanLiteral [] rest
    else if isKeyChar c then
      some (String.ofList (input.takeWhile isKeyChar), input.dropWhile isKeyChar)
    else none

/-- How deep lists and tables may be nested, and how long a path may be. -/
def nestingLimit : Nat := 80

/-- Continues a path by the keys that start the input, with blanks and dots between them. Each key
takes a character. -/
def scanPath : Nat → List String → List Char → Option (List String × List Char)
  | 0, _, _ => none
  | steps + 1, done, input =>
    match key? (skipBlanks input) with
    | none => none
    | some (key, rest) =>
      match skipBlanks rest with
      | '.' :: rest => scanPath steps (key :: done) rest
      | rest => some ((key :: done).reverse, rest)

/-- The path that starts the input, blanks around it. -/
def path? (input : List Char) : Option (List String × List Char) :=
  (scanPath input.length [] input).filter fun (path, _) => path.length < nestingLimit

/-- The input after a character, if it starts with it. -/
def afterChar? (c : Char) : List Char → Option (List Char)
  | [] => none
  | d :: rest => if d = c then some rest else none

/-! ### Values -/

mutual

/-- The value that starts the input, inside `depth` others. Each call takes a step, and reads a
character or hands the input on once. -/
def scanValue : Nat → Nat → List Char → Option (Json × List Char)
  | 0, _, _ => none
  | steps + 1, depth, input =>
    match input with
    | '[' :: rest => if depth + 1 < nestingLimit then scanItems steps (depth + 1) [] rest else none
    | '{' :: rest =>
      if depth + 1 < nestingLimit then
        match skipBlanks rest with
        | '}' :: rest => some (.object [], rest)
        | rest => scanPairs steps (depth + 1) [] rest
      else none
    | input =>
      match text? input with
      | some (t, rest) => some (.text t, rest)
      | none => scalar? input

/-- The list of which the items of `done` have been read, in reverse. -/
def scanItems : Nat → Nat → List Json → List Char → Option (Json × List Char)
  | 0, _, _, _ => none
  | steps + 1, depth, done, input =>
    match skipFiller? input with
    | none => none
    | some (']' :: rest) => some (.list done.reverse, rest)
    | some rest =>
      match scanValue steps depth rest with
      | none => none
      | some (item, rest) =>
        match skipFiller? rest with
        | some (',' :: rest) => scanItems steps depth (item :: done) rest
        | some (']' :: rest) => some (.list (item :: done).reverse, rest)
        | _ => none

/-- The inline table of which `members` have been read and the next pair stands first. -/
def scanPairs : Nat → Nat → Members → List Char → Option (Json × List Char)
  | 0, _, _, _ => none
  | steps + 1, depth, members, input => do
    let (path, rest) ← path? input
    let rest ← afterChar? '=' rest
    let (value, rest) ← scanValue steps depth (skipBlanks rest)
    let key ← path.getLast?
    let members ← members.define path.dropLast key value .header
    match skipBlanks rest with
    | ',' :: rest => scanPairs steps depth members rest
    | '}' :: rest => some (.object (membersJson members), rest)
    | _ => none

end

/-- The value that starts the input. -/
def value? (input : List Char) : Option (Json × List Char) :=
  scanValue (2 * input.length + 2) 0 input

end OpcUa.Toml
