import OpcUa.Proofs.Json.Order
import OpcUa.Proofs.Toml.Statement

/-!
# What is kept of a table

A table comes back from its document with its plain values before its other tables, each part in the
order in which it was written, and without what is null. Its names and what stands under each of
them stay the same.
-/

namespace OpcUa.Toml

open Json

/-- The value itself if it is written as a pair. -/
def plain? (value : Json) : Option Json :=
  match Part.of value with
  | .plain value => some value
  | _ => none

def plainMembers (members : List (String × Json)) : List (String × Json) :=
  record (members.map fun m => (m.1, plain? m.2))

mutual

/-- What is read back of a value that is written under a header. -/
def headed? : Json → Option Json
  | .object members => some (.object (plainMembers members ++ sectionMembers members))
  | .list items =>
    if (tables? items).any (!·.isEmpty) then some (.list (sectionItems items)) else none
  | _ => none

def sectionMembers : List (String × Json) → List (String × Json)
  | [] => []
  | (name, value) :: rest => record [(name, headed? value)] ++ sectionMembers rest

def sectionItems : List Json → List Json
  | [] => []
  | item :: rest => (headed? item).toList ++ sectionItems rest

end

/-- The members that a table has when it is read back. -/
def arranged (members : List (String × Json)) : List (String × Json) :=
  plainMembers members ++ sectionMembers members

/-- What is read back of a value, if it is not null. -/
def kept? (value : Json) : Option Json :=
  (plain? value).or (headed? value)

variable {value : Json} {members : List (String × Json)}

/-! ### Members -/

@[simp] theorem tables?_map (tables : List (List (String × Json))) :
    tables? (tables.map .object) = some tables := by
  induction tables with
  | nil => rfl
  | cons table tables ih => rw [List.map_cons, tables?, ih, Option.map_some]

theorem tables?_scalars {items : List Json} (scalars : ∀ item ∈ items, IsScalar item) :
    (tables? items).any (!·.isEmpty) = false := by
  cases items with
  | nil => rfl
  | cons item items =>
    cases scalars item List.mem_cons_self <;> rfl

theorem plain?_list (items : List Json) :
    plain? (.list items) =
      if (tables? items).any (!·.isEmpty) then none else some (.list items) := by
  unfold plain? Part.of
  dsimp only
  rcases tables? items with _ | _ | ⟨_, _⟩ <;> rfl

/-- No value is written both as a pair and under a header. -/
theorem headed?_of_plain? (plain : (plain? value).isSome) : headed? value = none := by
  cases value with
  | null | bool | int | real | text | unreadable => rfl
  | object => cases plain
  | list items =>
    rw [plain?_list] at plain
    rw [headed?]
    split at plain
    · cases plain
    · rename_i rowless
      rw [if_neg rowless]

theorem plain?_of_isValue (plain : IsValue value) : plain? value = some value := by
  cases plain with
  | scalar scalar => cases scalar <;> rfl
  | list scalars => rw [plain?_list, tables?_scalars scalars, if_neg Bool.false_ne_true]

theorem headed?_object (members : List (String × Json)) :
    headed? (.object members) = some (.object (arranged members)) := by
  rw [headed?, arranged]

theorem sectionItems_map (tables : List (List (String × Json))) :
    sectionItems (tables.map .object) = tables.map fun table => .object (arranged table) := by
  induction tables with
  | nil => rfl
  | cons table tables ih =>
    rw [List.map_cons, sectionItems, headed?_object, ih]
    rfl

theorem headed?_row (first : List (String × Json)) (others : List (List (String × Json))) :
    headed? (.list ((first :: others).map .object)) =
      some (.list ((first :: others).map fun table => .object (arranged table))) := by
  rw [headed?, tables?_map, sectionItems_map]
  rfl

theorem sectionMembers_eq_record (members : List (String × Json)) :
    sectionMembers members = record (members.map fun m => (m.1, headed? m.2)) := by
  induction members with
  | nil => rfl
  | cons member members ih =>
    rw [sectionMembers, ih, ← record_append]
    rfl

/-- A table keeps its members, up to their order. -/
theorem arranged_perm (members : List (String × Json)) :
    (arranged members).Perm (record (members.map fun m => (m.1, kept? m.2))) := by
  rw [arranged, plainMembers, sectionMembers_eq_record]
  induction members with
  | nil => exact .nil
  | cons member members ih =>
    obtain ⟨name, value⟩ := member
    simp only [List.map_cons, kept?]
    cases plain : plain? value with
    | some written =>
      rw [headed?_of_plain? (Option.isSome_of_eq_some plain)]
      exact ih.cons _
    | none =>
      rw [Option.none_or]
      cases headed? value with
      | some read => exact List.perm_middle.trans (ih.cons _)
      | none => exact ih

theorem names_record_sublist (entries : List (String × Option Json)) :
    ((record entries).map (·.1)).Sublist (entries.map (·.1)) := by
  induction entries with
  | nil => exact .slnil
  | cons entry entries ih =>
    obtain ⟨name, value⟩ := entry
    cases value with
    | none => exact ih.cons _
    | some value => exact ih.cons_cons _

theorem nodup_arranged (distinct : (members.map (·.1)).Nodup) :
    ((arranged members).map (·.1)).Nodup := by
  rw [((arranged_perm members).map _).nodup_iff]
  refine .sublist (names_record_sublist _) ?_
  rwa [List.map_map]

/-- A record is read alike from a table as it was and from the table read back, except that what
was null is absent. -/
theorem fields?_arranged (names : List String) (members : List (String × Json)) :
    fields? names (.object (arranged members)) =
      fields? names (.object (record (members.map fun m => (m.1, kept? m.2)))) := by
  have same (name : String) := single?_perm name (arranged_perm members)
  simp only [fields?, same]

/-! ### Tables that can be read back -/

/-- A member that is read back: it is null, a scalar or a list of scalars, a table, or tables in a
row. A table that has members has a pair among them, for else it has no header. -/
inductive IsMember (isTable : List (String × Json) → Prop) : Json → Prop
  | null : IsMember isTable .null
  | value {v} (plain : IsValue v) : IsMember isTable v
  | table {inner} (headed : inner = [] ∨ pairs inner ≠ []) (table : isTable inner) :
      IsMember isTable (.object inner)
  | row {first others} (all : ∀ table ∈ first :: others, isTable table) :
      IsMember isTable (.list ((first :: others).map .object))

theorem IsMember.imp {isTable other : List (String × Json) → Prop}
    (member : IsMember isTable value) (imp : ∀ members, isTable members → other members) :
    IsMember other value := by
  cases member with
  | null => exact .null
  | value plain => exact .value plain
  | table headed table => exact .table headed (imp _ table)
  | row all => exact .row fun table within => imp _ (all table within)

structure IsTableOf (isMember : Json → Prop) (members : List (String × Json)) : Prop where
  keys : ∀ name ∈ members.map (·.1), IsKey name
  distinct : (members.map (·.1)).Nodup
  all : ∀ m ∈ members, isMember m.2

/-- A table with fewer than `depth` others inside one another. -/
def IsTable : Nat → List (String × Json) → Prop
  | 0 => fun _ => False
  | depth + 1 => IsTableOf (IsMember (IsTable depth))

/-! ### Sections -/

theorem pairs_eq_map (members : List (String × Json)) :
    pairs members = (plainMembers members).map fun m => .pair [m.1] m.2 := by
  rw [plainMembers, record, List.filterMap_map, List.map_filterMap]
  refine congrArg (List.filterMap · members) (funext fun m => ?_)
  obtain ⟨name, value⟩ := m
  dsimp only [Function.comp, plain?]
  cases Part.of value <;> rfl

theorem memberSections_eq_flatMap (path : List String) (members : List (String × Json)) :
    memberSections path members = members.flatMap fun m => sections (path ++ [m.1]) m.2 := by
  induction members with
  | nil => rfl
  | cons member members ih => rw [memberSections, ih, List.flatMap_cons]

/-- The statements of a table after its header. -/
def body (path : List String) (members : List (String × Json)) : List Statement :=
  pairs members ++ memberSections path members

variable {path : List String}

theorem sections_of_isValue (plain : IsValue value) : sections path value = [] := by
  cases plain with
  | scalar scalar => cases scalar <;> rw [sections] <;> nofun
  | list scalars => rw [sections, tables?_scalars scalars, if_neg Bool.false_ne_true]

theorem sections_table (headed : members = [] ∨ pairs members ≠ []) :
    sections path (.object members) = .table path :: body path members := by
  have header : header path members = [.table path] := by
    rw [header, if_neg]
    rcases headed with rfl | paired
    · exact Bool.false_ne_true
    · simp [paired]
  rw [sections, header, List.append_assoc]
  rfl

theorem rowSections_map (tables : List (List (String × Json))) :
    rowSections path (tables.map .object) =
      tables.flatMap fun table => .row path :: body path table := by
  induction tables with
  | nil => rfl
  | cons table tables ih =>
    rw [List.map_cons, rowSections, ih, List.flatMap_cons]
    rfl

theorem sections_row (first : List (String × Json)) (others : List (List (String × Json))) :
    sections path (.list ((first :: others).map .object)) =
      (first :: others).flatMap fun table => .row path :: body path table := by
  rw [sections, tables?_map, rowSections_map]
  rfl

theorem IsPath.concat {name : String} (keys : ∀ key ∈ path, IsKey key) (key : IsKey name)
    (short : path.length + 1 < nestingLimit) : IsPath (path ++ [name]) where
  some_key := List.append_ne_nil_of_right_ne_nil _ (List.cons_ne_nil _ _)
  short := by simpa using short
  keys := by simpa [or_imp, forall_and] using ⟨keys, key⟩

theorem IsMember.isValue_of_plain? {isTable : List (String × Json) → Prop} {written : Json}
    (member : IsMember isTable value) (plain : plain? value = some written) : IsValue written := by
  cases member with
  | null => cases plain
  | value scalars =>
    rw [plain?_of_isValue scalars] at plain
    cases plain
    exact scalars
  | table => cases plain
  | @row first others =>
    have rowed : plain? (.list ((first :: others).map .object)) = none := by
      rw [plain?_list, tables?_map]
      rfl
    cases rowed.symm.trans plain

theorem isStatement_of_mem_pairs {isTable : List (String × Json) → Prop}
    (table : IsTableOf (IsMember isTable) members) {s : Statement} (within : s ∈ pairs members) :
    IsStatement s := by
  rw [pairs_eq_map] at within
  obtain ⟨written, listed, rfl⟩ := List.mem_map.mp within
  obtain ⟨entry, present, given⟩ := List.mem_filterMap.mp listed
  obtain ⟨member, known, rfl⟩ := List.mem_map.mp present
  obtain ⟨value, plain, rfl⟩ := Option.map_eq_some_iff.mp given
  have key : IsKey member.1 := table.keys _ (List.mem_map_of_mem known)
  exact .pair key ((table.all member known).isValue_of_plain? plain)

theorem IsTable.pos {depth : Nat} (table : IsTable depth members) : 0 < depth := by
  cases depth with
  | zero => exact table.elim
  | succ depth => exact Nat.succ_pos depth

/-- Every statement of a table can be read back, if the table is not too deep. -/
theorem isStatement_of_mem_body {depth : Nat} (table : IsTable depth members)
    (keys : ∀ key ∈ path, IsKey key) (short : path.length + depth ≤ nestingLimit)
    {s : Statement} (within : s ∈ body path members) : IsStatement s := by
  induction depth generalizing path members with
  | zero => exact table.elim
  | succ depth ih =>
    have inner {name : String} (key : IsKey name) {table : List (String × Json)}
        (deeper : IsTable depth table) :
        IsPath (path ++ [name]) ∧ (s ∈ body (path ++ [name]) table → IsStatement s) := by
      have pos := deeper.pos
      have plain : IsPath (path ++ [name]) := .concat keys key (by omega)
      refine ⟨plain, ih deeper plain.keys ?_⟩
      rw [List.length_append, List.length_singleton]
      omega
    replace table : IsTableOf (IsMember (IsTable depth)) members := table
    rcases List.mem_append.mp within with paired | later
    · exact isStatement_of_mem_pairs table paired
    · rw [memberSections_eq_flatMap] at later
      obtain ⟨⟨name, value⟩, listed, written⟩ := List.mem_flatMap.mp later
      have key : IsKey name := table.keys _ (List.mem_map_of_mem listed)
      cases table.all _ listed with
      | null => cases written
      | value plain =>
        rw [sections_of_isValue plain] at written
        cases written
      | table headed deeper =>
        rw [sections_table headed] at written
        rcases List.mem_cons.mp written with rfl | written
        · exact .table (inner key deeper).1
        · exact (inner key deeper).2 written
      | row all =>
        rw [sections_row] at written
        obtain ⟨table, member, written⟩ := List.mem_flatMap.mp written
        rcases List.mem_cons.mp written with rfl | written
        · exact .row (inner key (all table member)).1
        · exact (inner key (all table member)).2 written

end OpcUa.Toml
