import OpcUa.Json.Record
import OpcUa.Proofs.Json.Literal

/-!
# JSON read back

The compact form of a value is scanned as the tokens of the value, and those are read as the
value. It holds of every value without numbers other than integers of 64 bits and without
unreadable parts, however its members are named and however deep it is.
-/

namespace OpcUa.Json

open OpcUa.Text

/-- All numbers are 64-bit integers, everything can be read, and at most so many lists and objects
stand around each other. -/
inductive IsPlain : Nat → Json → Prop where
  | null {depth : Nat} : IsPlain depth .null
  | bool {depth : Nat} (value : Bool) : IsPlain depth (.bool value)
  | int {depth : Nat} {n : Int} (lower : -2 ^ 63 ≤ n) (upper : n < 2 ^ 64) : IsPlain depth (.int n)
  | text {depth : Nat} (value : String) : IsPlain depth (.text value)
  | list {depth : Nat} {items : List Json} (all : ∀ item ∈ items, IsPlain depth item) :
      IsPlain (depth + 1) (.list items)
  | object {depth : Nat} {members : List (String × Json)}
      (all : ∀ member ∈ members, IsPlain depth member.2) : IsPlain (depth + 1) (.object members)

theorem IsPlain.mono {depth more : Nat} {value : Json} (plain : IsPlain depth value)
    (le : depth ≤ more) : IsPlain more value := by
  induction plain generalizing more with
  | null => exact .null
  | bool value => exact .bool value
  | int lower upper => exact .int lower upper
  | text value => exact .text value
  | list _ ih =>
    obtain ⟨more, rfl⟩ := Nat.exists_eq_add_of_le' (Nat.le_of_add_left_le le)
    exact .list fun item member => ih item member (by omega)
  | object _ ih =>
    obtain ⟨more, rfl⟩ := Nat.exists_eq_add_of_le' (Nat.le_of_add_left_le le)
    exact .object fun entry member => ih entry member (by omega)

theorem readableItems_iff (items : List Json) :
    readableItems items = true ↔ ∀ item ∈ items, item.isReadable = true := by
  induction items with
  | nil => simp [readableItems]
  | cons item items ih => simp [readableItems, ih]

theorem readableMembers_iff (members : List (String × Json)) :
    readableMembers members = true ↔ ∀ entry ∈ members, entry.2.isReadable = true := by
  induction members with
  | nil => simp [readableMembers]
  | cons entry members ih => simp [readableMembers, ih]

theorem depthItems_le_iff (items : List Json) (limit : Nat) :
    depthItems items ≤ limit ↔ ∀ item ∈ items, item.depth ≤ limit := by
  induction items with
  | nil => simp [depthItems]
  | cons item items ih => rw [depthItems, Nat.max_le, ih, List.forall_mem_cons]

theorem depthMembers_le_iff (members : List (String × Json)) (limit : Nat) :
    depthMembers members ≤ limit ↔ ∀ entry ∈ members, entry.2.depth ≤ limit := by
  induction members with
  | nil => simp [depthMembers]
  | cons entry members ih => rw [depthMembers, Nat.max_le, ih, List.forall_mem_cons]

theorem IsPlain.isReadable {depth : Nat} {value : Json} (plain : IsPlain depth value) :
    value.isReadable = true := by
  induction plain with
  | null | bool | int | text => rfl
  | list _ ih => exact (readableItems_iff _).mpr ih
  | object _ ih => exact (readableMembers_iff _).mpr ih

theorem IsPlain.depth_le {depth : Nat} {value : Json} (plain : IsPlain depth value) :
    value.depth ≤ depth := by
  induction plain with
  | null | bool | int | text => exact Nat.zero_le _
  | list _ ih => exact Nat.succ_le_succ ((depthItems_le_iff _ _).mpr ih)
  | object _ ih => exact Nat.succ_le_succ ((depthMembers_le_iff _ _).mpr ih)

/-- A plain value can be kept for a second reading. -/
theorem IsPlain.isKept {limit : Nat} {value : Json} (plain : IsPlain limit value) :
    isKept limit value = true := by
  rw [Json.isKept, plain.isReadable, decide_eq_true plain.depth_le]
  rfl

/-! ### The compact form as characters -/

mutual

/-- The characters of the compact form. -/
def chars : Json → List Char
  | .null => "null".toList
  | .bool true => "true".toList
  | .bool false => "false".toList
  | .int n => numeral n
  | .real spelling => spelling.toList
  | .text t => quoted t
  | .list [] => ['[', ']']
  | .list (item :: rest) => '[' :: (chars item ++ charsOfItems rest)
  | .object [] => ['\x7b', '\x7d']
  | .object ((name, value) :: rest) =>
    '\x7b' :: (quoted name ++ ':' :: (chars value ++ charsOfMembers rest))
  | .unreadable => "null".toList

def charsOfItems : List Json → List Char
  | [] => [']']
  | item :: rest => ',' :: (chars item ++ charsOfItems rest)

def charsOfMembers : List (String × Json) → List Char
  | [] => ['\x7d']
  | (name, value) :: rest => ',' :: (quoted name ++ ':' :: (chars value ++ charsOfMembers rest))

end

theorem toList_foldl_push (out : String) (cs : List Char) :
    (cs.foldl String.push out).toList = out.toList ++ cs := by
  induction cs generalizing out with
  | nil => simp
  | cons c cs ih => rw [List.foldl_cons, ih, String.toList_push, List.append_assoc]; rfl

theorem toList_writeText (out text : String) :
    (writeText out text).toList = out.toList ++ quoted text := by
  have fold : ∀ (cs : List Char) (out : String),
      (cs.foldl (fun out c => (escaped c).foldl String.push out) out).toList =
        out.toList ++ cs.flatMap escaped := by
    intro cs
    induction cs with
    | nil => simp
    | cons c cs ih =>
      intro out
      rw [List.foldl_cons, ih, toList_foldl_push, List.flatMap_cons, List.append_assoc]
  rw [writeText, String.foldl_eq_foldl_toList, String.toList_push, fold, String.toList_push, quoted]
  simp

mutual

theorem toList_write (out : String) (value : Json) :
    (write out value).toList = out.toList ++ chars value := by
  match value with
  | .null => simp [write, chars]
  | .bool true => simp [write, chars]
  | .bool false => simp [write, chars]
  | .int n => rw [write, chars, String.toList_append, toList_toString]
  | .real spelling => simp [write, chars]
  | .text t => simp [write, chars, toList_writeText]
  | .list [] => simp [write, chars]
  | .list (item :: rest) => simp [write, chars, toList_writeItems, toList_write]
  | .object [] => simp [write, chars]
  | .object ((name, value) :: rest) =>
    simp [write, chars, toList_writeMembers, toList_write, toList_writeText]
  | .unreadable => simp [write, chars]

theorem toList_writeItems (out : String) (items : List Json) :
    (writeItems out items).toList = out.toList ++ charsOfItems items := by
  match items with
  | [] => simp [writeItems, charsOfItems]
  | item :: rest => simp [writeItems, charsOfItems, toList_writeItems, toList_write]

theorem toList_writeMembers (out : String) (members : List (String × Json)) :
    (writeMembers out members).toList = out.toList ++ charsOfMembers members := by
  match members with
  | [] => simp [writeMembers, charsOfMembers]
  | (name, value) :: rest =>
    simp [writeMembers, charsOfMembers, toList_writeMembers, toList_write, toList_writeText]

end

theorem bytes_eq_utf8 (value : Json) : value.bytes = utf8 value.chars := by
  rw [bytes, toList_toUTF8, render, toList_write]
  rfl

/-! ### The tokens of a value -/

mutual

def tokens : Json → List Token
  | .text t => [.text (some t)]
  | .list [] => [.openList, .closeList]
  | .list (item :: rest) => .openList :: (tokens item ++ tokensOfItems rest)
  | .object [] => [.openObject, .closeObject]
  | .object ((name, value) :: rest) =>
    .openObject :: .text (some name) :: .colon :: (tokens value ++ tokensOfMembers rest)
  | leaf => [.atom leaf]

def tokensOfItems : List Json → List Token
  | [] => [.closeList]
  | item :: rest => .comma :: (tokens item ++ tokensOfItems rest)

def tokensOfMembers : List (String × Json) → List Token
  | [] => [.closeObject]
  | (name, value) :: rest =>
    .comma :: .text (some name) :: .colon :: (tokens value ++ tokensOfMembers rest)

end

/-- The input starts with bytes that are scanned as the tokens, and `rest` comes after them. As many
steps are left as `rest` has bytes, so that one scan can follow another. -/
def Scans (input : List UInt8) (tokens : List Token) (rest : List UInt8) : Prop :=
  ∀ steps done, input.length ≤ steps → ∃ left, rest.length ≤ left ∧
    scanInto steps done input = scanInto left (tokens.reverse ++ done) rest

theorem Scans.trans {input middle rest : List UInt8} {first second : List Token}
    (before : Scans input first middle) (after : Scans middle second rest) :
    Scans input (first ++ second) rest := by
  intro steps done enough
  obtain ⟨left, still, scanned⟩ := before steps done enough
  obtain ⟨final, fits, finished⟩ := after left (first.reverse ++ done) still
  refine ⟨final, fits, ?_⟩
  rw [scanned, finished, List.reverse_append, List.append_assoc]

theorem Scans.token {b : UInt8} {tail rest : List UInt8} {token : Token}
    (dark : isBlankByte b = false) (scanned : scanToken b tail = some (token, rest))
    (shorter : rest.length ≤ tail.length) : Scans (b :: tail) [token] rest := by
  intro steps done enough
  rw [List.length_cons] at enough
  obtain ⟨left, rfl⟩ := Nat.exists_eq_add_of_le' (Nat.le_of_add_left_le enough)
  refine ⟨left, by omega, ?_⟩
  rw [scanInto, dark, scanned]
  rfl

theorem tokens?_of_scans {input : List UInt8} {tokens : List Token}
    (scans : Scans input tokens []) : tokens? input = some tokens := by
  obtain ⟨left, -, scanned⟩ := scans input.length [] (Nat.le_refl _)
  rw [tokens?, scanned, scanInto, List.append_nil, List.reverse_reverse]

/-! ### Scanning a plain value -/

theorem afterName?_append (name : String) (rest : List UInt8) :
    afterName? name (utf8 name.toList ++ rest) = some rest := by
  rw [afterName?, toList_toUTF8]
  simp

theorem scans_name {b : UInt8} (name : String) {value : Json} (dark : isBlankByte b = false)
    (scanned : ∀ tail,
      scanToken b tail = (afterName? name tail).map fun rest => (.atom value, rest))
    (rest : List UInt8) : Scans (b :: (utf8 name.toList ++ rest)) [.atom value] rest := by
  refine Scans.token dark ?_ (by simp)
  rw [scanned, afterName?_append, Option.map_some]

theorem scans_quoted (text : String) (rest : List UInt8) :
    Scans (utf8 (quoted text) ++ rest) [.text (some text)] rest := by
  have spelled : utf8 (quoted text) ++ rest =
      0x22 :: (utf8 (text.toList.flatMap escaped) ++ 0x22 :: rest) := by
    rw [quoted, utf8_cons, utf8_append, List.append_assoc, List.append_assoc]
    rfl
  rw [spelled]
  exact Scans.token rfl (scanToken_quoted text rest) (by simp; omega)

/-- A mark of the grammar, in front of anything. -/
theorem scans_mark {c : Char} {b : UInt8} {token : Token} (code : String.utf8EncodeChar c = [b])
    (dark : isBlankByte b = false) (scanned : ∀ tail, scanToken b tail = some (token, tail))
    (cs : List Char) (rest : List UInt8) :
    Scans (utf8 (c :: cs) ++ rest) [token] (utf8 cs ++ rest) := by
  rw [utf8_cons, code]
  exact Scans.token dark (scanned _) (Nat.le_refl _)

/-- The name of a member and the colon after it. -/
theorem scans_key (name : String) (cs ds : List Char) (rest : List UInt8) :
    Scans (utf8 (quoted name ++ ':' :: (cs ++ ds)) ++ rest) [.text (some name), .colon]
      (utf8 cs ++ (utf8 ds ++ rest)) := by
  have colon := scans_mark (c := ':') rfl rfl (fun _ => rfl) (cs ++ ds) rest
  rw [utf8_append cs, List.append_assoc] at colon
  rw [utf8_append (quoted name), List.append_assoc]
  exact (scans_quoted name _).trans colon

theorem endsValue_items (items : List Json) (rest : List UInt8) :
    EndsValue (utf8 (charsOfItems items) ++ rest) := by
  intro b first
  cases items with
  | nil => cases first; decide
  | cons item items => cases first; decide

theorem endsValue_members (members : List (String × Json)) (rest : List UInt8) :
    EndsValue (utf8 (charsOfMembers members) ++ rest) := by
  intro b first
  cases members with
  | nil => cases first; decide
  | cons entry members => cases first; decide

/-- A value is scanned as its tokens wherever it may stand. -/
def IsScanned (value : Json) : Prop :=
  ∀ rest, EndsValue rest → Scans (utf8 (chars value) ++ rest) (tokens value) rest

theorem scans_items {items : List Json} (all : ∀ item ∈ items, IsScanned item)
    (rest : List UInt8) : Scans (utf8 (charsOfItems items) ++ rest) (tokensOfItems items) rest := by
  induction items with
  | nil => exact scans_mark (c := ']') rfl rfl (fun _ => rfl) [] rest
  | cons item items ih =>
    have first := all item List.mem_cons_self _ (endsValue_items items rest)
    have others := ih fun other member => all other (List.mem_cons_of_mem _ member)
    have comma := scans_mark (c := ',') rfl rfl (fun _ => rfl)
      (chars item ++ charsOfItems items) rest
    rw [utf8_append, List.append_assoc] at comma
    exact comma.trans (first.trans others)

theorem scans_members {members : List (String × Json)}
    (all : ∀ entry ∈ members, IsScanned entry.2) (rest : List UInt8) :
    Scans (utf8 (charsOfMembers members) ++ rest) (tokensOfMembers members) rest := by
  induction members with
  | nil => exact scans_mark (c := '\x7d') rfl rfl (fun _ => rfl) [] rest
  | cons entry members ih =>
    obtain ⟨name, value⟩ := entry
    have first := all _ List.mem_cons_self _ (endsValue_members members rest)
    have others := ih fun other member => all other (List.mem_cons_of_mem _ member)
    have comma := scans_mark (c := ',') rfl rfl (fun _ => rfl)
      (quoted name ++ ':' :: (chars value ++ charsOfMembers members)) rest
    exact comma.trans ((scans_key name (chars value) _ rest).trans (first.trans others))

theorem IsPlain.isScanned {depth : Nat} {value : Json} (plain : IsPlain depth value) :
    IsScanned value := by
  induction plain with
  | null => exact fun rest _ => scans_name "ull" rfl (fun _ => rfl) rest
  | bool value =>
    cases value with
    | true => exact fun rest _ => scans_name "rue" rfl (fun _ => rfl) rest
    | false => exact fun rest _ => scans_name "alse" rfl (fun _ => rfl) rest
  | int lower upper =>
    -- Only a number is told from what comes after it by what that is.
    intro rest ends
    obtain ⟨b, tail, spelled, dark, scanned⟩ := scanToken_numeral lower upper ends
    rw [chars, spelled]
    exact Scans.token dark scanned (by simp)
  | text value => exact fun rest _ => scans_quoted value rest
  | @list _ items _ ih =>
    intro rest _
    cases items with
    | nil =>
      exact (scans_mark (c := '[') rfl rfl (fun _ => rfl) [']'] rest).trans
        (scans_mark (c := ']') rfl rfl (fun _ => rfl) [] rest)
    | cons item items =>
      have opened := scans_mark (c := '[') rfl rfl (fun _ => rfl)
        (chars item ++ charsOfItems items) rest
      rw [utf8_append, List.append_assoc] at opened
      have first := ih item List.mem_cons_self _ (endsValue_items items rest)
      have others := scans_items (fun other member => ih other (List.mem_cons_of_mem _ member)) rest
      exact opened.trans (first.trans others)
  | @object _ members _ ih =>
    intro rest _
    cases members with
    | nil =>
      exact (scans_mark (c := '\x7b') rfl rfl (fun _ => rfl) ['\x7d'] rest).trans
        (scans_mark (c := '\x7d') rfl rfl (fun _ => rfl) [] rest)
    | cons entry members =>
      obtain ⟨name, value⟩ := entry
      have opened := scans_mark (c := '\x7b') rfl rfl (fun _ => rfl)
        (quoted name ++ ':' :: (chars value ++ charsOfMembers members)) rest
      have first := ih _ List.mem_cons_self _ (endsValue_members members rest)
      have others :=
        scans_members (fun other member => ih other (List.mem_cons_of_mem _ member)) rest
      exact opened.trans ((scans_key name (chars value) _ rest).trans (first.trans others))

/-! ### Reading the tokens of a value -/

/-- Two steps for each token are enough to read the tokens of a value as the value. -/
def IsRead (value : Json) : Prop :=
  ∀ steps rest, 2 * (tokens value).length ≤ steps →
    ofTokens steps (tokens value ++ rest) = some (value, rest)

theorem tokens_ne_closeList (value : Json) (rest tail : List Token) :
    tokens value ++ rest ≠ .closeList :: tail := by
  cases value with
  | list items => cases items <;> simp [tokens]
  | object members => cases members <;> simp [tokens]
  | _ => simp [tokens]

theorem length_tokens_pos (value : Json) : 0 < (tokens value).length := by
  cases value with
  | list items => cases items <;> simp [tokens]
  | object members => cases members <;> simp [tokens]
  | _ => simp [tokens]

theorem exists_step (value : Json) {others steps : Nat}
    (enough : 2 * ((tokens value).length + others) ≤ steps) : ∃ left, steps = left + 1 := by
  have := length_tokens_pos value
  exact Nat.exists_eq_add_one.mpr (by omega)

theorem itemsOf_tokens {item : Json} {items : List Json} (first : IsRead item)
    (others : ∀ other ∈ items, IsRead other) (done : List Json) {steps : Nat} (rest : List Token)
    (enough : 2 * ((tokens item).length + (tokensOfItems items).length) ≤ steps) :
    itemsOf steps done (tokens item ++ (tokensOfItems items ++ rest)) =
      some (.list (done.reverse ++ item :: items), rest) := by
  induction items generalizing item done steps with
  | nil =>
    obtain ⟨steps, rfl⟩ := exists_step item enough
    rw [tokensOfItems, List.length_singleton] at enough
    rw [itemsOf, first steps _ (by omega)]
    simp [tokensOfItems]
  | cons next items ih =>
    obtain ⟨steps, rfl⟩ := exists_step item enough
    rw [tokensOfItems, List.length_cons, List.length_append] at enough
    have read := ih (others next List.mem_cons_self)
      (fun other member => others other (List.mem_cons_of_mem _ member)) (item :: done)
      (show _ ≤ steps by omega)
    rw [itemsOf, first steps _ (by omega)]
    simp only [tokensOfItems, List.cons_append, List.append_assoc, read, List.reverse_cons,
      List.nil_append]

/-- Members as they are gathered: the keys are texts. -/
def keyed (members : List (String × Json)) : List (Option String × Json) :=
  members.map fun (name, value) => (some name, value)

theorem ofMembers_keyed (members : List (String × Json)) :
    ofMembers (keyed members) = .object members := by
  have mapped : (keyed members).mapM (fun entry => entry.1.map (·, entry.2)) = some members := by
    induction members with
    | nil => rfl
    | cons entry members ih =>
      rw [keyed, List.map_cons, List.mapM_cons, ← keyed, ih]
      rfl
  rw [ofMembers]
  simp only [mapped]

theorem membersOf_tokens (name : String) {value : Json} {members : List (String × Json)}
    (first : IsRead value) (others : ∀ other ∈ members, IsRead other.2)
    (done : List (String × Json)) {steps : Nat} (rest : List Token)
    (enough : 2 * ((tokens value).length + (tokensOfMembers members).length) ≤ steps) :
    membersOf steps (keyed done)
        (.text (some name) :: .colon :: (tokens value ++ (tokensOfMembers members ++ rest))) =
      some (.object (done.reverse ++ (name, value) :: members), rest) := by
  induction members generalizing name value done steps with
  | nil =>
    obtain ⟨steps, rfl⟩ := exists_step value enough
    rw [tokensOfMembers, List.length_singleton] at enough
    have gathered : ((some name, value) :: keyed done).reverse =
        keyed (done.reverse ++ [(name, value)]) := by
      simp [keyed]
    rw [membersOf, first steps _ (by omega)]
    simp only [tokensOfMembers, List.cons_append, List.nil_append, gathered, ofMembers_keyed]
  | cons next members ih =>
    obtain ⟨key, following⟩ := next
    obtain ⟨steps, rfl⟩ := exists_step value enough
    simp only [tokensOfMembers, List.length_cons, List.length_append] at enough
    have read := ih key (others (key, following) List.mem_cons_self)
      (fun other member => others other (List.mem_cons_of_mem _ member)) ((name, value) :: done)
      (show 2 * ((tokens following).length + (tokensOfMembers members).length) ≤ steps by omega)
    rw [membersOf, first steps _ (by omega)]
    simp only [tokensOfMembers, List.cons_append, List.append_assoc]
    rw [show (some name, value) :: keyed done = keyed ((name, value) :: done) from rfl, read,
      List.reverse_cons, List.append_assoc, List.singleton_append]

theorem IsPlain.isRead {depth : Nat} {value : Json} (plain : IsPlain depth value) :
    IsRead value := by
  induction plain with
  | null | bool | int | text =>
    intro steps rest enough
    obtain ⟨steps, rfl⟩ := Nat.exists_eq_add_of_le' (Nat.le_of_succ_le enough)
    rfl
  | @list _ items _ ih =>
    intro steps rest enough
    cases items with
    | nil =>
      obtain ⟨steps, rfl⟩ := Nat.exists_eq_add_of_le' (Nat.le_of_succ_le enough)
      rfl
    | cons item items =>
      rw [tokens, List.length_cons, List.length_append] at enough
      obtain ⟨steps, rfl⟩ : ∃ left, steps = left + 1 := Nat.exists_eq_add_one.mpr (by omega)
      have read := itemsOf_tokens (ih item List.mem_cons_self)
        (fun other member => ih other (List.mem_cons_of_mem _ member)) [] rest
        (show _ ≤ steps by omega)
      rw [tokens, List.cons_append, List.append_assoc, ofTokens, read]
      · rfl
      · exact fun tail closed => tokens_ne_closeList item _ tail closed
  | @object _ members _ ih =>
    intro steps rest enough
    cases members with
    | nil =>
      obtain ⟨steps, rfl⟩ := Nat.exists_eq_add_of_le' (Nat.le_of_succ_le enough)
      rfl
    | cons entry members =>
      obtain ⟨name, value⟩ := entry
      simp only [tokens, List.length_cons, List.length_append] at enough
      obtain ⟨steps, rfl⟩ : ∃ left, steps = left + 1 := Nat.exists_eq_add_one.mpr (by omega)
      have read := membersOf_tokens name (ih (name, value) List.mem_cons_self)
        (fun other member => ih other (List.mem_cons_of_mem _ member)) [] rest
        (show 2 * ((tokens value).length + (tokensOfMembers members).length) ≤ steps by omega)
      rw [tokens, List.cons_append, List.cons_append, List.cons_append, List.append_assoc, ofTokens]
      · exact read
      · exact fun tail closed => by cases closed

theorem parse?_bytes {depth : Nat} {value : Json} (plain : IsPlain depth value) :
    parse? value.bytes = some value := by
  have scanned := tokens?_of_scans
    (by simpa using plain.isScanned [] (by simp [EndsValue]))
  have read := plain.isRead (2 * (tokens value).length + 1) [] (by omega)
  rw [List.append_nil] at read
  rw [parse?, bytes_eq_utf8, scanned]
  simp [read]

end OpcUa.Json
