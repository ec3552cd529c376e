import OpcUa.Proofs.Toml.Section
import OpcUa.Proofs.Toml.Table

/-!
# TOML documents read back

The statements of a table fill the hole that its header makes, member by member, so that an object
is read back from its document.
-/

namespace OpcUa.Toml

open Json Members

/-! ### Nodes -/

theorem membersJson_eq_map (nodes : Members) :
    membersJson nodes = nodes.map fun n => (n.1, n.2.toJson) := by
  induction nodes with
  | nil => rfl
  | cons node nodes ih => rw [membersJson, ih, List.map_cons]

theorem rowJson_eq_map (tables : List Members) :
    rowJson tables = tables.map fun table => .object (membersJson table) := by
  induction tables with
  | nil => rfl
  | cons table tables ih => rw [rowJson, ih, List.map_cons]

theorem membersJson_append (nodes others : Members) :
    membersJson (nodes ++ others) = membersJson nodes ++ membersJson others := by
  simp only [membersJson_eq_map, List.map_append]

theorem names_membersJson (nodes : Members) :
    (membersJson nodes).map (·.1) = nodes.map (·.1) := by
  rw [membersJson_eq_map, List.map_map]
  rfl

theorem find?_of_nodup {nodes : Members} {name : String} {value : Json}
    {rest : List (String × Json)}
    (distinct : ((membersJson nodes ++ (name, value) :: rest).map (·.1)).Nodup) :
    find? name nodes = none := by
  rw [List.map_append, names_membersJson] at distinct
  have apart := (List.nodup_append.mp distinct).2.2
  exact find?_eq_none_iff.mpr fun member => apart name member name List.mem_cons_self rfl

/-! ### Pairs -/

variable {path : List String} {fill : Members → Members} {nodes : Members}

theorem runs_values (hole : IsHole path fill) (values : List (String × Json))
    (distinct : ((membersJson nodes ++ values).map (·.1)).Nodup) :
    ∃ all, Draft.Runs (values.map fun m => .pair [m.1] m.2) ⟨path, fill nodes⟩ ⟨path, fill all⟩ ∧
      membersJson all = membersJson nodes ++ values := by
  induction values generalizing nodes with
  | nil => exact ⟨nodes, .nil, (List.append_nil _).symm⟩
  | cons member values ih =>
    obtain ⟨name, value⟩ := member
    have free := find?_of_nodup distinct
    have grown : membersJson (nodes ++ [(name, .value value)]) ++ values =
        membersJson nodes ++ (name, value) :: values := by
      rw [membersJson_append, List.append_assoc]
      rfl
    obtain ⟨all, runs, read⟩ := ih (grown ▸ distinct)
    exact ⟨all, .cons (add_pair hole free value) runs, read.trans grown⟩

/-! ### Sections -/

/-- The statements of the table fill every hole with what is kept of it. -/
def Fills (members : List (String × Json)) : Prop :=
  ∀ {path : List String} {fill : Members → Members}, IsHole path fill →
    ∃ table nodes, Draft.Runs (body path members) ⟨path, fill []⟩ ⟨table, fill nodes⟩ ∧
      membersJson nodes = arranged members

variable {name : String}

/-- Further tables of a row come after those that are there. -/
theorem runs_rows (table : List String) (hole : IsHole path fill) (free : find? name nodes = none)
    {tables : List (List (String × Json))} (all : ∀ t ∈ tables, Fills t)
    (earlier : List Members) (last : Members) :
    ∃ after node,
      Draft.Runs (tables.flatMap fun t => .row (path ++ [name]) :: body (path ++ [name]) t)
        ⟨table, fill (nodes ++ [(name, .row earlier last)])⟩
        ⟨after, fill (nodes ++ [(name, node)])⟩ ∧
      node.toJson = .list (rowJson (earlier ++ [last]) ++
        tables.map fun t => .object (arranged t)) := by
  induction tables generalizing table earlier last with
  | nil =>
    refine ⟨table, .row earlier last, .nil, ?_⟩
    simp [Node.toJson, rowJson_eq_map]
  | cons t tables ih =>
    obtain ⟨fills, others⟩ := List.forall_mem_cons.mp all
    obtain ⟨within, next, filled, read⟩ := fills (hole.row free (earlier ++ [last]))
    obtain ⟨after, node, runs, shown⟩ := ih within others (earlier ++ [last]) next
    refine ⟨after, node, .append (.cons (add_next_row hole free earlier last) filled) runs, ?_⟩
    rw [shown]
    simp [rowJson_eq_map, read]

theorem runs_sections (table : List String) (hole : IsHole path fill) {value : Json}
    (member : IsMember Fills value) (free : (headed? value).isSome → find? name nodes = none) :
    ∃ after others, Draft.Runs (sections (path ++ [name]) value) ⟨table, fill nodes⟩
        ⟨after, fill (nodes ++ others)⟩ ∧
      membersJson others = record [(name, headed? value)] := by
  have unchanged : Draft.Runs [] ⟨table, fill nodes⟩ ⟨table, fill (nodes ++ [])⟩ := by
    rw [List.append_nil]
    exact .nil
  cases member with
  | null => exact ⟨table, [], unchanged, rfl⟩
  | value plain =>
    have paired := Option.isSome_of_eq_some (plain?_of_isValue plain)
    rw [sections_of_isValue plain, headed?_of_plain? paired]
    exact ⟨table, [], unchanged, rfl⟩
  | @table inner headed fills =>
    have read := headed?_object inner
    replace free := free (Option.isSome_of_eq_some read)
    obtain ⟨after, filled, runs, same⟩ := fills (hole.table free)
    rw [sections_table headed, read, ← same]
    exact ⟨after, [(name, .table .header filled)], .cons (add_table hole free) runs, rfl⟩
  | @row first others all =>
    have read := headed?_row first others
    replace free := free (Option.isSome_of_eq_some read)
    obtain ⟨fills, later⟩ := List.forall_mem_cons.mp all
    obtain ⟨within, filled, started, same⟩ := fills (hole.row free [])
    obtain ⟨after, node, runs, shown⟩ :=
      runs_rows within hole free later [] filled
    rw [sections_row, read]
    refine ⟨after, [(name, node)], .append (.cons (add_row hole free) started) runs, ?_⟩
    rw [membersJson_eq_map, List.map_singleton, shown]
    simp [rowJson_eq_map, same]

theorem runs_memberSections (table : List String) (hole : IsHole path fill)
    {members : List (String × Json)} (all : ∀ m ∈ members, IsMember Fills m.2)
    (distinct : ((membersJson nodes ++ sectionMembers members).map (·.1)).Nodup) :
    ∃ after others, Draft.Runs (memberSections path members) ⟨table, fill nodes⟩
        ⟨after, fill others⟩ ∧
      membersJson others = membersJson nodes ++ sectionMembers members := by
  induction members generalizing table nodes with
  | nil => exact ⟨table, nodes, .nil, (List.append_nil _).symm⟩
  | cons member members ih =>
    obtain ⟨name, value⟩ := member
    obtain ⟨first, later⟩ := List.forall_mem_cons.mp all
    have free : (headed? value).isSome → find? name nodes = none := by
      intro there
      obtain ⟨read, found⟩ := Option.isSome_iff_exists.mp there
      rw [sectionMembers, found] at distinct
      exact find?_of_nodup distinct
    obtain ⟨within, added, started, same⟩ := runs_sections table hole first free
    have grown : membersJson (nodes ++ added) ++ sectionMembers members =
        membersJson nodes ++ sectionMembers ((name, value) :: members) := by
      rw [membersJson_append, same, List.append_assoc, sectionMembers]
    obtain ⟨after, others, runs, read⟩ := ih within later (grown ▸ distinct)
    exact ⟨after, others, .append started runs, read.trans grown⟩

/-! ### Documents -/

/-- A table is what its statements fill a hole with. -/
theorem fills_of_isTable {depth : Nat} {members : List (String × Json)}
    (table : IsTable depth members) : Fills members := by
  induction depth generalizing members with
  | zero => exact table.elim
  | succ depth ih =>
    intro path fill hole
    replace table : IsTableOf (IsMember (IsTable depth)) members := table
    have distinct : ((membersJson [] ++ arranged members).map (·.1)).Nodup :=
      nodup_arranged table.distinct
    have paired : ((membersJson [] ++ plainMembers members).map (·.1)).Nodup := by
      rw [arranged, ← List.append_assoc, List.map_append] at distinct
      exact (List.nodup_append.mp distinct).1
    obtain ⟨values, started, same⟩ := runs_values hole (plainMembers members) paired
    rw [arranged, ← List.append_assoc, ← same] at distinct
    have fill_members (m : String × Json) (listed : m ∈ members) : IsMember Fills m.2 :=
      (table.all m listed).imp fun _ => ih
    obtain ⟨after, nodes, runs, read⟩ :=
      runs_memberSections path hole fill_members distinct
    refine ⟨after, nodes, ?_, ?_⟩
    · rw [body, pairs_eq_map]
      exact .append started runs
    · rw [read, same]
      rfl

/-- An object is read back from its document, arranged. -/
theorem parse?_render {members : List (String × Json)} (table : IsTable nestingLimit members) :
    parse? (render (.object members)) = some (.object (arranged members)) := by
  have unnamed : ∀ key ∈ ([] : List String), IsKey key := nofun
  have all : ∀ s ∈ statements members, IsStatement s := fun s =>
    isStatement_of_mem_body table unnamed (Nat.le_of_eq (Nat.zero_add _))
  obtain ⟨after, nodes, runs, read⟩ := fills_of_isTable table isHole_root
  have described : ofStatements? (statements members) = some (.object (membersJson nodes)) := by
    rw [ofStatements?, statements, ← body]
    have run : (body [] members).foldlM Draft.add {} = some ⟨after, nodes⟩ := runs
    rw [run]
    rfl
  have text : (render (.object members)).toList = writeLines (statements members) :=
    String.toList_ofList
  rw [parse?, text, statements?_writeLines all, Option.bind_some, described, read]

end OpcUa.Toml
