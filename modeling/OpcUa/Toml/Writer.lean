import OpcUa.Toml.Document

/-!
# Writing TOML

An object is written as a document: of each table the plain values first, then the tables inside it
and the tables in a row, each under a header with an empty line before it. What is null is left out.
A list of several items takes a line for each.
-/

namespace OpcUa.Toml

/-! ### Values -/

def isBareKey (key : List Char) : Bool :=
  !key.isEmpty && key.all isKeyChar

def writeKey (key : String) : List Char :=
  if isBareKey key.toList then key.toList else basicText key.toList

def writePath (path : List String) : List Char :=
  ['.'].intercalate (path.map writeKey)

mutual

/-- A value on one line. -/
def writeInline : Json → List Char
  | .null => []
  | .bool value => (toString value).toList
  | .int n => (toString n).toList
  | .real spelling => spelling.toList
  | .text t => writeText t.toList
  | .list items => '[' :: [',', ' '].intercalate (writeItems items) ++ [']']
  | .object [] => ['{', '}']
  | .object members => ['{', ' '] ++ [',', ' '].intercalate (writeMembers members) ++ [' ', '}']
  | .unreadable => []

def writeItems : List Json → List (List Char)
  | [] => []
  | item :: rest => writeInline item :: writeItems rest

def writeMembers : List (String × Json) → List (List Char)
  | [] => []
  | (name, value) :: rest =>
    (writeKey name ++ [' ', '=', ' '] ++ writeInline value) :: writeMembers rest

end

/-- An item on a line of its own. -/
def itemLine (item : Json) : List Char :=
  "\n    ".toList ++ writeInline item ++ [',']

/-- The value of a pair. -/
def writeValue : Json → List Char
  | .list (first :: second :: rest) =>
    '[' :: (first :: second :: rest).flatMap itemLine ++ ['\n', ']']
  | value => writeInline value

/-! ### Statements -/

/-- The tables of a list that holds nothing else. -/
def tables? : List Json → Option (List (List (String × Json)))
  | [] => some []
  | .object members :: rest => (tables? rest).map (members :: ·)
  | _ :: _ => none

/-- How a member is written. -/
inductive Part where
  | absent
  | plain (value : Json)
  | table (members : List (String × Json))
  | row (first : List (String × Json)) (others : List (List (String × Json)))

def Part.of : Json → Part
  | .null => .absent
  | .object members => .table members
  | .list items =>
    match tables? items with
    | some (first :: others) => .row first others
    | _ => .plain (.list items)
  | value => .plain value

/-- The pairs of a table. -/
def pairs (members : List (String × Json)) : List Statement :=
  members.filterMap fun (name, value) =>
    match Part.of value with
    | .plain value => some (.pair [name] value)
    | _ => none

/-- The header of a table, unless it has nothing but other tables. -/
def header (path : List String) (members : List (String × Json)) : List Statement :=
  if !members.isEmpty && (pairs members).isEmpty then [] else [.table path]

mutual

/-- What is written for a member that is no plain value, with the tables inside it. -/
def sections (path : List String) : Json → List Statement
  | .object members => header path members ++ pairs members ++ memberSections path members
  | .list items => if (tables? items).any (!·.isEmpty) then rowSections path items else []
  | _ => []

def memberSections (path : List String) : List (String × Json) → List Statement
  | [] => []
  | (name, value) :: rest => sections (path ++ [name]) value ++ memberSections path rest

def rowSections (path : List String) : List Json → List Statement
  | [] => []
  | .object members :: rest =>
    .row path :: pairs members ++ memberSections path members ++ rowSections path rest
  | _ :: rest => rowSections path rest

end

/-- The statements that describe an object. -/
def statements (members : List (String × Json)) : List Statement :=
  pairs members ++ memberSections [] members

/-! ### Text -/

def Statement.line : Statement → List Char
  | .pair path value => writePath path ++ [' ', '=', ' '] ++ writeValue value ++ ['\n']
  | .table path => '[' :: writePath path ++ [']', '\n']
  | .row path => '[' :: '[' :: writePath path ++ [']', ']', '\n']

def Statement.isHeader : Statement → Bool
  | .pair _ _ => false
  | _ => true

/-- Every header but one at the very start has an empty line before it. -/
def writeLines : List Statement → List Char
  | [] => []
  | first :: rest =>
    first.line ++ rest.flatMap fun s => if s.isHeader then '\n' :: s.line else s.line

/-- The document of an object. -/
def render (document : Json) : String :=
  String.ofList (writeLines (statements document.membersOrNone))

end OpcUa.Toml
