import OpcUa.Toml.Document

/-!
# Growing tables

A document with one of its tables left out is a hole that a table fills. What changes the table at
the end of a path changes what fills the hole there and nothing else, and a free key of a table
gives a hole further down, for a table or for the next one of a row.
-/

namespace OpcUa.Toml

namespace Members

variable {key : String} {node other : Node} {members : Members}

theorem find?_eq_none_iff : find? key members = none ↔ key ∉ members.map (·.1) := by
  induction members with
  | nil => simp [find?]
  | cons entry members ih =>
    obtain ⟨name, node⟩ := entry
    rw [find?, List.map_cons, List.mem_cons, not_or, ← ih]
    by_cases same : name = key
    · simp [same]
    · simp [same, Ne.symm same]

theorem find?_append (absent : find? key members = none) :
    find? key (members ++ [(key, node)]) = some node := by
  induction members with
  | nil => simp [find?]
  | cons entry members ih =>
    obtain ⟨name, first⟩ := entry
    rw [find?] at absent
    split at absent
    · cases absent
    · rename_i apart
      rw [List.cons_append, find?, if_neg apart, ih absent]

theorem replace_append (absent : find? key members = none) :
    replace key other (members ++ [(key, node)]) = members ++ [(key, other)] := by
  induction members with
  | nil => simp [replace]
  | cons entry members ih =>
    obtain ⟨name, first⟩ := entry
    rw [find?] at absent
    split at absent
    · cases absent
    · rename_i apart
      rw [List.cons_append, replace, if_neg apart, ih absent, List.cons_append]

/-- A path is followed step by step. -/
theorem descend_append (dots : Bool) (change : Origin → Members → Option Members)
    (path further : List String) (origin : Origin) (members : Members) :
    descend dots change (path ++ further) origin members =
      descend dots (descend dots change further) path origin members := by
  induction path generalizing origin members with
  | nil => rfl
  | cons key path ih =>
    rw [List.cons_append, descend.eq_def, descend.eq_def]
    simp only [ih]

/-! ### Holes -/

/-- Whatever table fills the hole is the one at the end of the path, under a header of its own. -/
def IsHole (path : List String) (fill : Members → Members) : Prop :=
  ∀ (change : Origin → Members → Option Members) (inner : Members),
    descend false change path .header (fill inner) = (change .header inner).map fill

variable {path : List String} {fill : Members → Members}

theorem isHole_root : IsHole [] id := by
  intro change inner
  rw [Option.map_id, id]
  rfl

theorem IsHole.table (hole : IsHole path fill) (free : find? key members = none) :
    IsHole (path ++ [key]) fun inner => fill (members ++ [(key, .table .header inner)]) := by
  intro change inner
  rw [descend_append, hole]
  simp only [descend, find?_append free, replace_append free, Bool.false_and, Bool.false_eq_true,
    if_false, Option.map_map]
  rfl

theorem IsHole.row (hole : IsHole path fill) (free : find? key members = none)
    (earlier : List Members) :
    IsHole (path ++ [key]) fun inner => fill (members ++ [(key, .row earlier inner)]) := by
  intro change inner
  rw [descend_append, hole]
  simp only [descend, find?_append free, replace_append free, Option.map_map]
  rfl

/-! ### Statements -/

variable {table : List String}

theorem add_pair (hole : IsHole path fill) (free : find? key members = none) (value : Json) :
    Draft.add ⟨path, fill members⟩ (.pair [key] value) =
      some ⟨path, fill (members ++ [(key, .value value)])⟩ := by
  have defined : define [] key value .header members = some (members ++ [(key, .value value)]) := by
    show (if (Origin.header == .dots) = true then none else addValue key value members) = _
    rw [if_neg (by decide), addValue, free]
  show (descend false (define [] key value) path .header (fill members)).bind _ = _
  rw [hole, defined]
  rfl

theorem add_table (hole : IsHole path fill) (free : find? key members = none) :
    Draft.add ⟨table, fill members⟩ (.table (path ++ [key])) =
      some ⟨path ++ [key], fill (members ++ [(key, .table .header [])])⟩ := by
  unfold Draft.add
  simp only [List.getLast?_concat, List.dropLast_concat, Option.bind_eq_bind, Option.bind_some]
  rw [hole, openTable, free]
  rfl

theorem add_row (hole : IsHole path fill) (free : find? key members = none) :
    Draft.add ⟨table, fill members⟩ (.row (path ++ [key])) =
      some ⟨path ++ [key], fill (members ++ [(key, .row [] [])])⟩ := by
  unfold Draft.add
  simp only [List.getLast?_concat, List.dropLast_concat, Option.bind_eq_bind, Option.bind_some]
  rw [hole, openRow, free]
  rfl

theorem add_next_row (hole : IsHole path fill) (free : find? key members = none)
    (earlier : List Members) (last : Members) :
    Draft.add ⟨table, fill (members ++ [(key, .row earlier last)])⟩ (.row (path ++ [key])) =
      some ⟨path ++ [key], fill (members ++ [(key, .row (earlier ++ [last]) [])])⟩ := by
  unfold Draft.add
  simp only [List.getLast?_concat, List.dropLast_concat, Option.bind_eq_bind, Option.bind_some]
  rw [hole, openRow, find?_append free]
  dsimp only
  rw [replace_append free]
  rfl

end Members

/-! ### Runs -/

namespace Draft

/-- The statements lead from one draft to the other. -/
def Runs (statements : List Statement) (d after : Draft) : Prop :=
  statements.foldlM add d = some after

variable {statements others : List Statement} {s : Statement} {d middle after : Draft}

theorem Runs.nil : Runs [] d d := rfl

theorem Runs.cons (step : d.add s = some middle) (rest : Runs statements middle after) :
    Runs (s :: statements) d after := by
  rw [Runs, List.foldlM_cons, step]
  exact rest

theorem Runs.append (first : Runs statements d middle) (rest : Runs others middle after) :
    Runs (statements ++ others) d after := by
  rw [Runs, List.foldlM_append, first]
  exact rest

end Draft

end OpcUa.Toml
