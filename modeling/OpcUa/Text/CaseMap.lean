import OpcUa.Text.CaseTable

/-!
# Case mapping of text

The capital and the small form of a text by Unicode's full case mapping, in which a character may
become several. A capital sigma becomes a final small sigma where a cased character stands before
it and none after it.
-/

namespace OpcUa.Text

def isWithin (ranges : List (Nat × Nat)) (c : Char) : Bool :=
  ranges.any fun (first, last) => first ≤ c.toNat && c.toNat ≤ last

/-- The image of a character under a table of runs and a table of spelled-out mappings. -/
def caseImage (runs : List (Nat × Nat × Nat × Nat)) (spelled : List (Nat × List Nat)) (c : Char) :
    List Char :=
  match spelled.find? (·.1 == c.toNat) with
  | some (_, image) => image.map Char.ofNat
  | none =>
    match runs.find? fun (first, last, step, _) =>
        first ≤ c.toNat && c.toNat ≤ last && (c.toNat - first) % step == 0 with
    | some (first, _, _, image) => [Char.ofNat (image + (c.toNat - first))]
    | none => [c]

def capitalForm (c : Char) : List Char :=
  if c.toNat < 128 then [c.toUpper] else caseImage CaseTable.capital CaseTable.capitalSpelled c

def smallForm (c : Char) : List Char :=
  if c.toNat < 128 then [c.toLower] else caseImage CaseTable.small CaseTable.smallSpelled c

/-- The first character that is not passed over is cased. -/
def startsCased (text : List Char) : Bool :=
  match text.dropWhile (isWithin CaseTable.ignorable) with
  | c :: _ => isWithin CaseTable.cased c
  | [] => false

/-- The small forms of a text that follows the characters of `before`, nearest first, put before
`done` in reverse. -/
def lowerInto (done before : List Char) : List Char → List Char
  | [] => done.reverse
  | c :: rest =>
    if c = 'Σ' then
      lowerInto ((if startsCased before && !startsCased rest then 'ς' else 'σ') :: done)
        (c :: before) rest
    else lowerInto ((smallForm c).reverse ++ done) (c :: before) rest

def toLower (text : String) : String :=
  String.ofList (lowerInto [] [] text.toList)

def toUpper (text : String) : String :=
  String.ofList (text.toList.flatMap capitalForm)

end OpcUa.Text
