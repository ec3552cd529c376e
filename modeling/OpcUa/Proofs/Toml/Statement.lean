import OpcUa.Proofs.Toml.Value

/-!
# TOML statements read back

A document is read back as the statements that it was written for, if their keys need no quotes and
their values are scalars or lists of these.
-/

namespace OpcUa.Toml

/-! ### Paths -/

/-- A key that needs no quotes. -/
def IsKey (name : String) : Prop :=
  isBareKey name.toList = true

instance (name : String) : Decidable (IsKey name) :=
  inferInstanceAs (Decidable (_ = true))

/-- A path that is not too long, of keys that need no quotes. -/
structure IsPath (path : List String) : Prop where
  some_key : path ≠ []
  short : path.length < nestingLimit
  keys : ∀ key ∈ path, IsKey key

theorem IsKey.parts {name : String} (key : IsKey name) :
    (∃ c more, name.toList = c :: more) ∧ ∀ c ∈ name.toList, isKeyChar c = true := by
  unfold IsKey isBareKey at key
  rw [Bool.and_eq_true, Bool.not_eq_true', List.isEmpty_eq_false_iff, List.all_eq_true] at key
  exact ⟨List.exists_cons_of_ne_nil key.1, key.2⟩

theorem isSolid_of_isKeyChar {c : Char} (letter : isKeyChar c = true) : IsSolid c := by
  have other {d : Char} (mark : isKeyChar d = false) : c ≠ d := by
    rintro rfl
    rw [mark] at letter
    cases letter
  have blank : isBlank c = false := by
    rw [isBlank, Bool.or_eq_false_iff, beq_eq_false_iff_ne, beq_eq_false_iff_ne]
    exact ⟨other (by decide), other (by decide)⟩
  exact ⟨blank, other (by decide), other (by decide), other (by decide)⟩

/-- A key reaches up to the first character that cannot belong to it. -/
theorem key?_append {name : String} (key : IsKey name) {rest : List Char}
    (stops : ∀ c ∈ rest.head?, isKeyChar c = false) :
    key? (name.toList ++ rest) = some (name, rest) := by
  obtain ⟨⟨c, more, starts⟩, chars⟩ := key.parts
  have letter : isKeyChar c = true := chars c (starts ▸ List.mem_cons_self)
  have other {d : Char} (mark : isKeyChar d = false) : c ≠ d := by
    rintro rfl
    rw [mark] at letter
    cases letter
  have taken := Text.takeWhile_append_of_stop chars stops
  have left := Text.dropWhile_append_of_stop chars stops
  have whole : String.ofList (c :: more) = name := by rw [← starts, String.ofList_toList]
  rw [starts, List.cons_append] at taken left ⊢
  rw [key?, if_neg (other (by decide)), if_neg (other (by decide)), if_pos letter]
  rw [taken, left, whole]

theorem writeKey_of_bare {key : String} (bare : IsKey key) : writeKey key = key.toList :=
  if_pos bare

theorem writePath_cons_cons {key next : String} (bare : IsKey key) (path : List String) :
    writePath (key :: next :: path) = key.toList ++ '.' :: writePath (next :: path) := by
  rw [writePath, List.map_cons, List.map_cons, List.intercalate_cons_cons, writeKey_of_bare bare]
  simp [writePath]

theorem writePath_singleton {key : String} (bare : IsKey key) : writePath [key] = key.toList := by
  rw [writePath, List.map_singleton, List.intercalate_singleton, writeKey_of_bare bare]

theorem skipBlanks_key {name : String} (bare : IsKey name) (rest : List Char) :
    skipBlanks (name.toList ++ rest) = name.toList ++ rest := by
  obtain ⟨⟨c, more, starts⟩, chars⟩ := bare.parts
  have letter : isKeyChar c = true := chars c (starts ▸ List.mem_cons_self)
  rw [starts]
  exact skipBlanks_solid (isSolid_of_isKeyChar letter) _

/-- A path reaches up to the first mark that is no dot, blanks apart. -/
theorem scanPath_writePath {path : List String} (some_key : path ≠ [])
    (keys : ∀ key ∈ path, IsKey key) {steps : Nat} (enough : path.length ≤ steps)
    (done : List String) {rest : List Char} (stops : ∀ c ∈ rest.head?, isKeyChar c = false)
    (ends : (skipBlanks rest).head? ≠ some '.') :
    scanPath steps done (writePath path ++ rest) =
      some (done.reverse ++ path, skipBlanks rest) := by
  induction path generalizing steps done with
  | nil => exact absurd rfl some_key
  | cons key path ih =>
    obtain ⟨bare, others⟩ := List.forall_mem_cons.mp keys
    rw [List.length_cons] at enough
    obtain ⟨spare, rfl⟩ : ∃ spare, steps = spare + 1 := ⟨steps - 1, by omega⟩
    cases path with
    | nil =>
      rw [writePath_singleton bare, scanPath, skipBlanks_key bare, key?_append bare stops]
      dsimp only
      split
      · rename_i dotted
        rw [dotted] at ends
        exact absurd rfl ends
      · rw [List.reverse_cons]
    | cons next path =>
      have dot : ∀ c ∈ ('.' :: (writePath (next :: path) ++ rest)).head?, isKeyChar c = false := by
        rintro c ⟨⟩
        rfl
      have stays : skipBlanks ('.' :: (writePath (next :: path) ++ rest)) =
          '.' :: (writePath (next :: path) ++ rest) := skipBlanks_solid (by decide) _
      rw [writePath_cons_cons bare, List.append_assoc, List.cons_append, scanPath,
        skipBlanks_key bare, key?_append bare dot]
      dsimp only
      rw [stays]
      refine (ih (List.cons_ne_nil _ _) others (by omega) (key :: done)).trans ?_
      rw [List.reverse_cons, List.append_assoc, List.singleton_append]

theorem exists_writePath {path : List String} (plain : IsPath path) :
    ∃ c more, writePath path = c :: more ∧ isKeyChar c = true := by
  obtain ⟨key, path, rfl⟩ := List.exists_cons_of_ne_nil plain.some_key
  have bare := plain.keys key List.mem_cons_self
  obtain ⟨⟨c, more, starts⟩, chars⟩ := bare.parts
  have letter : isKeyChar c = true := chars c (starts ▸ List.mem_cons_self)
  cases path with
  | nil => exact ⟨c, more, (writePath_singleton bare).trans starts, letter⟩
  | cons next path =>
    rw [writePath_cons_cons bare, starts]
    exact ⟨c, _, rfl, letter⟩

theorem length_le_writePath {path : List String} (keys : ∀ key ∈ path, IsKey key) :
    path.length ≤ (writePath path).length := by
  induction path with
  | nil => exact Nat.zero_le _
  | cons key path ih =>
    obtain ⟨bare, others⟩ := List.forall_mem_cons.mp keys
    obtain ⟨⟨c, more, starts⟩, -⟩ := bare.parts
    have longer := ih others
    cases path with
    | nil => rw [writePath_singleton bare, starts]; simp
    | cons next path =>
      rw [writePath_cons_cons bare, starts]
      simp only [List.length_append, List.length_cons] at longer ⊢
      omega

theorem path?_writePath {path : List String} (plain : IsPath path) {rest : List Char}
    (stops : ∀ c ∈ rest.head?, isKeyChar c = false) (ends : (skipBlanks rest).head? ≠ some '.') :
    path? (writePath path ++ rest) = some (path, skipBlanks rest) := by
  have enough : path.length ≤ (writePath path ++ rest).length := by
    rw [List.length_append]
    exact Nat.le_add_right_of_le (length_le_writePath plain.keys)
  rw [path?, scanPath_writePath plain.some_key plain.keys enough [] stops ends]
  exact Option.filter_some_pos (decide_eq_true plain.short)

/-- After a path comes the mark that follows it. -/
theorem path?_before {path : List String} (plain : IsPath path) {mark : Char}
    (other : IsSolid mark ∧ isKeyChar mark = false ∧ mark ≠ '.') (rest : List Char) :
    path? (writePath path ++ mark :: rest) = some (path, mark :: rest) ∧
      path? (writePath path ++ ' ' :: mark :: rest) = some (path, mark :: rest) := by
  have stays : skipBlanks (mark :: rest) = mark :: rest := skipBlanks_solid other.1 rest
  have dotless : (mark :: rest).head? ≠ some '.' := fun same => other.2.2 (Option.some.inj same)
  constructor
  · have stops : ∀ c ∈ (mark :: rest).head?, isKeyChar c = false := by simpa using other.2.1
    have read := path?_writePath plain stops (by rw [stays]; exact dotless)
    rwa [stays] at read
  · have stops : ∀ c ∈ (' ' :: mark :: rest).head?, isKeyChar c = false := by
      rintro c ⟨⟩
      rfl
    have spaced : skipBlanks (' ' :: mark :: rest) = mark :: rest := stays
    have read := path?_writePath plain stops (by rw [spaced]; exact dotless)
    rwa [spaced] at read

/-! ### Statements -/

/-- A statement that can be read back: its keys need no quotes, and its value is a scalar or a list
of scalars. -/
inductive IsStatement : Statement → Prop
  | pair {name : String} {value : Json} (key : IsKey name) (plain : IsValue value) :
      IsStatement (.pair [name] value)
  | table {path : List String} (plain : IsPath path) : IsStatement (.table path)
  | row {path : List String} (plain : IsPath path) : IsStatement (.row path)

namespace Statement

theorem afterLine?_break (rest : List Char) : afterLine? ('\n' :: rest) = some rest := rfl

theorem exists_writeValue {value : Json} (plain : IsValue value) :
    ∃ c more, writeValue value = c :: more ∧ IsSolid c := by
  cases plain with
  | scalar scalar =>
    obtain ⟨c, more, starts, first⟩ := exists_writeInline scalar
    have inline : writeValue value = writeInline value := by cases scalar <;> rfl
    exact ⟨c, more, inline.trans starts, first.isSolid⟩
  | @list items scalars =>
    cases items with
    | nil => exact ⟨_, _, rfl, by decide⟩
    | cons first others =>
      cases others <;> exact ⟨_, _, rfl, by decide⟩

theorem isPath_singleton {name : String} (key : IsKey name) : IsPath [name] where
  some_key := List.cons_ne_nil _ _
  short := show 1 < 80 by decide
  keys := by simpa using key

theorem pair?_line {name : String} {value : Json} (key : IsKey name) (plain : IsValue value)
    (rest : List Char) :
    pair? (writePath [name] ++ ' ' :: '=' :: ' ' :: (writeValue value ++ '\n' :: rest)) =
      some (.pair [name] value, '\n' :: rest) := by
  have ends : EndsScalar ('\n' :: rest) := ⟨_, _, rfl, .inl rfl⟩
  obtain ⟨c, more, starts, solid⟩ := exists_writeValue plain
  have blank : skipBlanks (' ' :: (writeValue value ++ '\n' :: rest)) =
      writeValue value ++ '\n' :: rest := by
    rw [starts]
    exact skipBlanks_solid solid _
  have mark : IsSolid '=' ∧ isKeyChar '=' = false ∧ '=' ≠ '.' := by decide
  have named := (path?_before (isPath_singleton key) mark
    (' ' :: (writeValue value ++ '\n' :: rest))).2
  have equals (input : List Char) : afterChar? '=' ('=' :: input) = some input := rfl
  unfold pair?
  simp only [named, equals, blank, value?_writeValue plain ends, Option.bind_eq_bind,
    Option.bind_some, Option.pure_def]

theorem header?_table {path : List String} (plain : IsPath path) (rest : List Char) :
    header? (writePath path ++ ']' :: '\n' :: rest) = some (.table path, '\n' :: rest) := by
  have named := (path?_before plain (by decide : IsSolid ']' ∧ isKeyChar ']' = false ∧ ']' ≠ '.')
    ('\n' :: rest)).1
  have closed (input : List Char) : afterChar? ']' (']' :: input) = some input := rfl
  obtain ⟨c, more, starts, letter⟩ := exists_writePath plain
  rw [starts, List.cons_append] at named ⊢
  rw [header?]
  · simp only [named, closed, Option.bind_eq_bind, Option.bind_some, Option.pure_def]
  · rintro input same
    rw [(List.cons.inj same).1] at letter
    cases letter

theorem header?_row {path : List String} (plain : IsPath path) (rest : List Char) :
    header? ('[' :: (writePath path ++ ']' :: ']' :: '\n' :: rest)) =
      some (.row path, '\n' :: rest) := by
  have named := (path?_before plain (by decide : IsSolid ']' ∧ isKeyChar ']' = false ∧ ']' ≠ '.')
    (']' :: '\n' :: rest)).1
  have closed (input : List Char) : afterChar? ']' (']' :: input) = some input := rfl
  rw [header?]
  simp only [named, closed, Option.bind_eq_bind, Option.bind_some, Option.pure_def]

/-- A statement is read back from its line. -/
theorem read?_line {s : Statement} (plain : IsStatement s) (rest : List Char) :
    read? (s.line ++ rest) = some (s, rest) := by
  cases plain with
  | @pair name value key plain =>
    have shape : (Statement.pair [name] value).line ++ rest =
        writePath [name] ++ ' ' :: '=' :: ' ' :: (writeValue value ++ '\n' :: rest) := by
      simp [line]
    have read := pair?_line key plain rest
    obtain ⟨c, more, starts, letter⟩ := exists_writePath (isPath_singleton key)
    rw [shape]
    rw [starts, List.cons_append] at read ⊢
    rw [read?]
    · simp only [read, afterLine?_break, Option.bind_eq_bind, Option.bind_some, Option.pure_def]
    · rintro input same
      rw [(List.cons.inj same).1] at letter
      cases letter
  | @table path plain =>
    have shape : (Statement.table path).line ++ rest =
        '[' :: (writePath path ++ ']' :: '\n' :: rest) := by simp [line]
    rw [shape, read?]
    simp only [header?_table plain, afterLine?_break, Option.bind_eq_bind, Option.bind_some,
      Option.pure_def]
  | @row path plain =>
    have shape : (Statement.row path).line ++ rest =
        '[' :: '[' :: (writePath path ++ ']' :: ']' :: '\n' :: rest) := by simp [line]
    rw [shape, read?]
    simp only [header?_row plain, afterLine?_break, Option.bind_eq_bind, Option.bind_some,
      Option.pure_def]

theorem exists_line {s : Statement} (plain : IsStatement s) :
    ∃ c more, s.line = c :: more ∧ IsSolid c ∧ c ≠ '\ufeff' := by
  cases plain with
  | @pair name value key plain =>
    obtain ⟨c, more, starts, letter⟩ := exists_writePath (isPath_singleton key)
    refine ⟨c, more ++ ([' ', '=', ' '] ++ writeValue value ++ ['\n']), ?_,
      isSolid_of_isKeyChar letter, ?_⟩
    · simp [line, starts]
    · rintro rfl
      cases letter
  | table => exact ⟨_, _, rfl, by decide, by decide⟩
  | row => exact ⟨_, _, rfl, by decide, by decide⟩

end Statement

/-! ### Documents -/

theorem skipLines?_solid {c : Char} (solid : IsSolid c) (rest : List Char) :
    skipLines? (c :: rest) = some (c :: rest) := by
  have unbroken := afterBreak?_of_unbroken ⟨solid.2.1, solid.2.2.1⟩ rest
  rw [skipLines?]
  split
  · rename_i found
    rw [skipBlanks_solid solid, skipComment_solid solid, unbroken] at found
    cases found
  · rw [skipBlanks_solid solid, skipComment_solid solid, List.head?_cons]
    simp [solid.2.2.1, solid.2.2.2]

theorem skipLines?_break (rest : List Char) : skipLines? ('\n' :: rest) = skipLines? rest := by
  rw [skipLines?]
  split
  · rename_i found
    cases found
    rfl
  · rename_i missing
    cases missing

theorem skipLines?_nil : skipLines? [] = some [] := by
  rw [skipLines?]
  rfl

variable {statements : List Statement}

/-- A statement is read from its line, and then those after it. -/
theorem scanStatements_line {s : Statement} (plain : IsStatement s) (steps : Nat)
    (done : List Statement) {input : List Char} (rest : List Char)
    (passed : skipLines? input = skipLines? (s.line ++ rest)) :
    scanStatements (steps + 1) done input = scanStatements steps (s :: done) rest := by
  obtain ⟨c, more, starts, solid, -⟩ := Statement.exists_line plain
  have read := Statement.read?_line plain rest
  rw [starts, List.cons_append] at passed read
  rw [skipLines?_solid solid] at passed
  rw [scanStatements, passed]
  dsimp only
  rw [read]

/-- The line of a statement, with an empty line before it if it is a header. -/
def Statement.gapped (s : Statement) : List Char :=
  if s.isHeader then '\n' :: s.line else s.line

theorem scanStatements_gapped (all : ∀ s ∈ statements, IsStatement s) {steps : Nat}
    (enough : statements.length ≤ steps) (done : List Statement) :
    scanStatements steps done (statements.flatMap Statement.gapped) =
      some (done.reverse ++ statements) := by
  induction statements generalizing steps done with
  | nil =>
    rw [List.flatMap_nil, List.append_nil, scanStatements.eq_def, skipLines?_nil]
  | cons s statements ih =>
    obtain ⟨plain, others⟩ := List.forall_mem_cons.mp all
    rw [List.length_cons] at enough
    obtain ⟨spare, rfl⟩ : ∃ spare, steps = spare + 1 := ⟨steps - 1, by omega⟩
    have passed : skipLines? (s.gapped ++ statements.flatMap Statement.gapped) =
        skipLines? (s.line ++ statements.flatMap Statement.gapped) := by
      unfold Statement.gapped
      split
      · exact skipLines?_break _
      · rfl
    rw [List.flatMap_cons, scanStatements_line plain spare done _ passed, ih others (by omega),
      List.reverse_cons, List.append_assoc, List.singleton_append]

theorem length_le_gapped (all : ∀ s ∈ statements, IsStatement s) :
    statements.length ≤ (statements.flatMap Statement.gapped).length := by
  induction statements with
  | nil => exact Nat.le_refl _
  | cons s statements ih =>
    obtain ⟨plain, others⟩ := List.forall_mem_cons.mp all
    obtain ⟨c, more, starts, -⟩ := Statement.exists_line plain
    have some_line : 0 < s.gapped.length := by
      unfold Statement.gapped
      split <;> simp [starts]
    have longer := ih others
    rw [List.flatMap_cons, List.length_append, List.length_cons]
    omega

/-- The statements of a document are read back from its lines. -/
theorem statements?_writeLines (all : ∀ s ∈ statements, IsStatement s) :
    statements? (writeLines statements) = some statements := by
  cases statements with
  | nil => exact scanStatements_gapped all (Nat.le_refl _) []
  | cons s statements =>
    obtain ⟨plain, others⟩ := List.forall_mem_cons.mp all
    obtain ⟨c, more, starts, solid, unmarked⟩ := Statement.exists_line plain
    have lines : writeLines (s :: statements) =
        s.line ++ statements.flatMap Statement.gapped := rfl
    have kept : afterMark (writeLines (s :: statements)) = writeLines (s :: statements) := by
      have markless : (writeLines (s :: statements)).head? ≠ some '\ufeff' := by
        rw [lines, starts]
        exact fun same => unmarked (Option.some.inj same)
      rw [afterMark, if_neg markless]
    have enough : statements.length + 1 ≤ (writeLines (s :: statements)).length := by
      have longer := length_le_gapped others
      rw [lines, starts, List.length_append, List.length_cons]
      omega
    obtain ⟨spare, length⟩ := Nat.exists_eq_add_of_le' enough
    rw [statements?, kept, length, lines, ← Nat.add_assoc,
      scanStatements_line plain _ [] _ rfl, scanStatements_gapped others (by omega)]
    rfl

end OpcUa.Toml
