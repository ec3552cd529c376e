import OpcUa.Proofs.Toml.Document

/-!
# Typed values read back from tables

What it takes for a member of a table to be read back as the typed value that it was written for: a
scalar, a list of scalars, a table, a row of tables, or one of these that may be absent.
-/

namespace OpcUa.Toml

open Json

variable {α : Type} {read : Json → Option α} {write : α → Json} {value : Json} {a : α}
  {members : List (String × Json)}

/-! ### Tables -/

theorem isScalar_uint32 (n : UInt32) : IsScalar (.ofNat n.toNat) := by
  have upper := n.toNat_lt
  exact .int (by omega) (by omega)

theorem isScalar_int32 (n : Int32) : IsScalar (.int n.toInt) := by
  have lower := n.le_toInt
  have upper := n.toInt_lt
  exact .int (by omega) (by omega)

theorem isValue_list (items : List α) (all : ∀ a, IsScalar (write a)) :
    IsValue (.list (items.map write)) := by
  refine .list fun item within => ?_
  obtain ⟨a, -, rfl⟩ := List.mem_map.mp within
  exact all a

theorem isValue_texts (items : List String) : IsValue (.ofStrings items) :=
  isValue_list items .text

theorem isMember_ofOption {isTable : List (String × Json) → Prop} (o : Option α)
    (all : ∀ a, IsMember isTable (write a)) : IsMember isTable (.ofOption write o) := by
  cases o with
  | none => exact .null
  | some a => exact all a

theorem isMember_text {isTable : List (String × Json) → Prop} (t : String) :
    IsMember isTable (.text t) :=
  .value (.scalar (.text t))

theorem isMember_tables {isTable : List (String × Json) → Prop}
    (tables : List (List (String × Json))) (all : ∀ table ∈ tables, isTable table) :
    IsMember isTable (.list (tables.map .object)) := by
  cases tables with
  | nil => exact .value (.list nofun)
  | cons first others => exact .row all

/-- A table that has a value has a header. -/
theorem isMember_table {isTable : List (String × Json) → Prop} {member : String × Json}
    (listed : member ∈ members) (plain : IsValue member.2) (table : isTable members) :
    IsMember isTable (.object members) := by
  have paired : (member.1, plain? member.2) ∈ members.map fun m => (m.1, plain? m.2) :=
    List.mem_map_of_mem listed
  rw [plain?_of_isValue plain] at paired
  have kept : member ∈ plainMembers members := List.mem_filterMap.mpr ⟨_, paired, rfl⟩
  refine .table (.inr ?_) table
  rw [pairs_eq_map]
  exact List.ne_nil_of_mem (List.mem_map_of_mem kept)

theorem isTableOf_names {isMember : Json → Prop} (names : List String)
    (declared : members.map (·.1) = names) (plain : names.Nodup ∧ ∀ name ∈ names, IsKey name)
    (all : ∀ m ∈ members, isMember m.2) : IsTableOf isMember members where
  keys := declared ▸ plain.2
  distinct := declared ▸ plain.1
  all := all

/-! ### Values -/

theorem kept?_object (members : List (String × Json)) :
    kept? (.object members) = some (.object (arranged members)) :=
  headed?_object members

theorem kept?_of_isValue (plain : IsValue value) : kept? value = some value := by
  rw [kept?, plain?_of_isValue plain, Option.some_or]

theorem kept?_tables (tables : List (List (String × Json))) :
    kept? (.list (tables.map .object)) =
      some (.list (tables.map fun table => .object (arranged table))) := by
  cases tables with
  | nil => rfl
  | cons first others =>
    have unpaired : plain? (.list ((first :: others).map .object)) = none := by
      rw [plain?_list, tables?_map]
      rfl
    rw [kept?, unpaired, Option.none_or, headed?_row]

/-- What is kept of the value is read as `a`. -/
def Gives (read : Json → Option α) (value : Json) (a : α) : Prop :=
  ∃ kept, kept? value = some kept ∧ read kept = some a

theorem gives_of_isValue (plain : IsValue value) (given : read value = some a) :
    Gives read value a :=
  ⟨value, kept?_of_isValue plain, given⟩

theorem gives_table (given : read (.object (arranged members)) = some a) :
    Gives read (.object members) a :=
  ⟨_, kept?_object members, given⟩

theorem gives_list (items : List α) (all : ∀ a, IsScalar (write a) ∧ read (write a) = some a) :
    Gives (asList? read) (.list (items.map write)) items :=
  gives_of_isValue (isValue_list items fun a => (all a).1) (asList?_map fun a _ => (all a).2)

theorem gives_text (t : String) : Gives asText? (.text t) t :=
  gives_of_isValue (.scalar (.text t)) rfl

theorem gives_texts (items : List String) : Gives asTexts? (.ofStrings items) items :=
  gives_list items fun t => ⟨.text t, rfl⟩

theorem gives_tables {table : α → List (String × Json)} (items : List α)
    (all : ∀ a, read (.object (arranged (table a))) = some a) :
    Gives (asList? read) (.list (items.map fun a => .object (table a))) items := by
  have kept := kept?_tables (items.map table)
  rw [List.map_map, List.map_map] at kept
  exact ⟨_, kept, asList?_map fun a _ => all a⟩

theorem Gives.required (gives : Gives read value a) : required read (kept? value) = some a := by
  obtain ⟨kept, there, given⟩ := gives
  rw [there]
  exact given

theorem Gives.orElse (gives : Gives read value a) (fallback : α) :
    orElse fallback read (kept? value) = some a := by
  obtain ⟨kept, there, given⟩ := gives
  rw [there]
  exact given

theorem kept?_ne_null : kept? value ≠ some .null := by
  intro same
  cases value with
  | null | bool | int | real | text | unreadable => cases same
  | object members =>
    rw [kept?_object] at same
    cases same
  | list items =>
    rw [kept?, plain?_list, headed?] at same
    split at same <;> cases same

theorem optional_kept? (o : Option α) (all : ∀ a, Gives read (write a) a) :
    Json.optional read (kept? (.ofOption write o)) = some o := by
  cases o with
  | none => rfl
  | some a =>
    obtain ⟨kept, there, given⟩ := all a
    have present : kept ≠ .null := by
      rintro rfl
      exact kept?_ne_null there
    rw [ofOption, there, Json.optional, asOption?]
    · rw [given, Option.map_some]
    · exact present

theorem optional_kept?_text (o : Option String) :
    Json.optional asText? (kept? (.ofOption .text o)) = some o :=
  optional_kept? o gives_text

/-! ### Records -/

theorem bind_fields?_arranged {names : List String} (make : List (Option Json) → Option α)
    (declared : names = members.map (·.1)) (distinct : names.Nodup) :
    (fields? names (.object (arranged members)) >>= make) =
      make (members.map fun m => kept? m.2) := by
  rw [fields?_arranged, bind_fields?_record make _ distinct, List.map_map]
  · rfl
  · rw [declared, List.map_map]
    rfl

end OpcUa.Toml
