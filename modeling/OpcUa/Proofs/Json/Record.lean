import OpcUa.Json.Form
import OpcUa.Proofs.Json.RoundTrip
import OpcUa.Proofs.Text.Base64

/-!
# Typed values read back

What it takes for a typed value to be read back from its JSON, part by part: leaves, lists, absent
values and records. A record is given by its entries, each a name and what stands for it, if
anything does; with no name used twice, every reader finds under a name what was written there.
-/

namespace OpcUa.Json

variable {α : Type}

/-! ### Leaves -/

attribute [simp] IsPlain.null IsPlain.bool IsPlain.text

@[simp] theorem asText?_text (t : String) : asText? (.text t) = some t := rfl

@[simp] theorem asBool?_bool (b : Bool) : asBool? (.bool b) = some b := rfl

theorem plain_ofNat {depth n : Nat} (fits : n < 2 ^ 64) : IsPlain depth (.ofNat n) :=
  .int (by omega) (by omega)

theorem asNat?_ofNat {bound n : Nat} (fits : n < bound) : asNat? bound (.ofNat n) = some n := by
  simp [asNat?, ofNat, fits]

@[simp] theorem plain_uint8 (depth : Nat) (n : UInt8) : IsPlain depth (.ofNat n.toNat) :=
  plain_ofNat (Nat.lt_trans n.toNat_lt (by decide))

@[simp] theorem asUInt8?_toNat (n : UInt8) : asUInt8? (.ofNat n.toNat) = some n := by
  simp [asUInt8?, asNat?_ofNat n.toNat_lt_size]

@[simp] theorem plain_uint16 (depth : Nat) (n : UInt16) : IsPlain depth (.ofNat n.toNat) :=
  plain_ofNat (Nat.lt_trans n.toNat_lt (by decide))

@[simp] theorem asUInt16?_toNat (n : UInt16) : asUInt16? (.ofNat n.toNat) = some n := by
  simp [asUInt16?, asNat?_ofNat n.toNat_lt_size]

@[simp] theorem plain_uint32 (depth : Nat) (n : UInt32) : IsPlain depth (.ofNat n.toNat) :=
  plain_ofNat (Nat.lt_trans n.toNat_lt (by decide))

@[simp] theorem asUInt32?_toNat (n : UInt32) : asUInt32? (.ofNat n.toNat) = some n := by
  simp [asUInt32?, asNat?_ofNat n.toNat_lt_size]

@[simp] theorem plain_int32 (depth : Nat) (n : Int32) : IsPlain depth (.int n.toInt) := by
  have lower := n.le_toInt
  have upper := n.toInt_lt
  exact .int (by omega) (by omega)

@[simp] theorem asInt32?_toInt (n : Int32) : asInt32? (.int n.toInt) = some n := by
  rw [asInt32?, if_pos ⟨n.minValue_le_toInt, n.toInt_le⟩, Int32.ofInt_toInt]

@[simp] theorem plain_ofBytes (depth : Nat) (bytes : List UInt8) : IsPlain depth (ofBytes bytes) :=
  .text _

@[simp] theorem asBytes?_ofBytes (bytes : List UInt8) : asBytes? (ofBytes bytes) = some bytes :=
  Base64.decode?_encode bytes

/-! ### Lists -/

theorem plain_list {depth : Nat} {write : α → Json} {items : List α}
    (all : ∀ item ∈ items, IsPlain depth (write item)) :
    IsPlain (depth + 1) (.list (items.map write)) := by
  refine .list fun value within => ?_
  obtain ⟨item, member, rfl⟩ := List.mem_map.mp within
  exact all item member

theorem asList?_map {write : α → Json} {read : Json → Option α} {items : List α}
    (all : ∀ item ∈ items, read (write item) = some item) :
    asList? read (.list (items.map write)) = some items := by
  rw [asList?]
  induction items with
  | nil => rfl
  | cons item items ih =>
    rw [List.map_cons, List.mapM_cons, all item List.mem_cons_self,
      ih fun other member => all other (List.mem_cons_of_mem _ member)]
    rfl

@[simp] theorem plain_ofStrings (depth : Nat) (items : List String) :
    IsPlain (depth + 1) (.ofStrings items) :=
  plain_list fun item _ => .text item

@[simp] theorem asTexts?_ofStrings (items : List String) :
    asTexts? (.ofStrings items) = some items :=
  asList?_map fun _ _ => rfl

/-! ### Absent values -/

theorem plain_ofOption {depth : Nat} {write : α → Json} {o : Option α}
    (all : ∀ a ∈ o, IsPlain depth (write a)) : IsPlain depth (.ofOption write o) := by
  cases o with
  | none => exact .null
  | some a => exact all a rfl

/-- A value that is not written as null is told from an absent one. -/
theorem asOption?_ofOption {write : α → Json} {read : Json → Option α} {o : Option α}
    (all : ∀ a ∈ o, read (write a) = some a) (there : ∀ a, write a ≠ .null) :
    asOption? read (.ofOption write o) = some o := by
  cases o with
  | none => rfl
  | some a =>
    rw [ofOption, asOption?]
    · rw [all a rfl, Option.map_some]
    · exact there a

theorem optional_map {write : α → Json} {read : Json → Option α} (o : Option α)
    (all : ∀ a, read (write a) = some a) (there : ∀ a, write a ≠ .null) :
    optional read (o.map write) = some o := by
  cases o with
  | none => rfl
  | some a => exact asOption?_ofOption (o := some a) (fun a _ => all a) there

@[simp] theorem optional_text (o : Option String) : optional asText? (o.map .text) = some o :=
  optional_map o (fun _ => rfl) fun _ => Json.noConfusion

@[simp] theorem optional_ofBytes (o : Option (List UInt8)) :
    optional asBytes? (o.map ofBytes) = some o :=
  optional_map o asBytes?_ofBytes fun _ => Json.noConfusion

@[simp] theorem orElse_some (fallback : α) (read : Json → Option α) (value : Json) :
    orElse fallback read (some value) = read value := by
  rw [orElse]

@[simp] theorem required_some (read : Json → Option α) (value : Json) :
    required read (some value) = read value := by
  rw [required]

/-! ### Records -/

/-- The members of a record: of the entries, those for which something stands. -/
def record (entries : List (String × Option Json)) : List (String × Json) :=
  entries.filterMap fun (name, value) => value.map (name, ·)

@[simp] theorem record_nil : record [] = [] := rfl

@[simp] theorem record_some (name : String) (value : Json) (entries : List (String × Option Json)) :
    record ((name, some value) :: entries) = (name, value) :: record entries := rfl

@[simp] theorem record_none (name : String) (entries : List (String × Option Json)) :
    record ((name, none) :: entries) = record entries := rfl

@[simp] theorem record_map (name : String) (write : α → Json) (o : Option α)
    (entries : List (String × Option Json)) :
    record ((name, o.map write) :: entries) = present name write o ++ record entries := by
  cases o <;> rfl

theorem record_append (entries others : List (String × Option Json)) :
    record (entries ++ others) = record entries ++ record others :=
  List.filterMap_append

theorem mem_names_of_mem_record {entries : List (String × Option Json)} {member : String × Json}
    (within : member ∈ record entries) : member.1 ∈ entries.map (·.1) := by
  obtain ⟨⟨name, value⟩, entry, given⟩ := List.mem_filterMap.mp within
  obtain ⟨value, rfl, rfl⟩ := Option.map_eq_some_iff.mp given
  exact List.mem_map_of_mem entry

theorem filter_eq_record {name : String} {entries : List (String × Option Json)}
    (other : name ∉ entries.map (·.1)) : (record entries).filter (·.1 == name) = [] := by
  refine List.filter_eq_nil_iff.mpr fun member within same => other ?_
  rw [← eq_of_beq same]
  exact mem_names_of_mem_record within

theorem filter_ne_record {name : String} {entries : List (String × Option Json)}
    (other : name ∉ entries.map (·.1)) :
    (record entries).filter (·.1 != name) = record entries := by
  refine List.filter_eq_self.mpr fun member within => bne_iff_ne.mpr ?_
  rintro rfl
  exact other (mem_names_of_mem_record within)

theorem single?_record_cons {name : String} {value : Option Json}
    {entries : List (String × Option Json)} (fresh : name ∉ entries.map (·.1)) :
    single? name (record ((name, value) :: entries)) = some value := by
  have none_else := filter_eq_record fresh
  cases value with
  | none => simp [single?, none_else]
  | some value => simp [single?, none_else]

/-- Under each name stands what was written there, or nothing. -/
theorem single?_record {entries : List (String × Option Json)}
    (distinct : (entries.map (·.1)).Nodup) {name : String} {value : Option Json}
    (member : (name, value) ∈ entries) :
    single? name (record entries) = some value := by
  induction entries with
  | nil => cases member
  | cons entry entries ih =>
    obtain ⟨head, first⟩ := entry
    obtain ⟨fresh, others⟩ := List.nodup_cons.mp distinct
    rcases List.mem_cons.mp member with here | later
    · cases here
      exact single?_record_cons fresh
    · have unlike : (head == name) = false := by
        rw [beq_eq_false_iff_ne]
        rintro rfl
        exact fresh (List.mem_map.mpr ⟨_, later, rfl⟩)
      have found := ih others later
      cases first with
      | none => exact found
      | some first =>
        rw [single?, record_some, List.filter_cons_of_neg (by simp [unlike]), ← single?]
        exact found

theorem mapM_single?_record {entries asked : List (String × Option Json)}
    (distinct : (entries.map (·.1)).Nodup) (known : ∀ entry ∈ asked, entry ∈ entries) :
    (asked.map (·.1)).mapM (fun name => single? name (record entries)) =
      some (asked.map (·.2)) := by
  induction asked with
  | nil => rfl
  | cons entry asked ih =>
    rw [List.map_cons, List.mapM_cons, single?_record distinct (known entry List.mem_cons_self),
      ih fun other member => known other (List.mem_cons_of_mem _ member)]
    rfl

theorem fields?_record {names : List String} {entries : List (String × Option Json)}
    (declared : names = entries.map (·.1)) (distinct : names.Nodup) :
    fields? names (.object (record entries)) = some (entries.map (·.2)) := by
  subst declared
  exact mapM_single?_record distinct fun _ member => member

/-- A record is made from what stands for its members. -/
theorem bind_fields?_record {names : List String} {entries : List (String × Option Json)}
    (make : List (Option Json) → Option α) (declared : names = entries.map (·.1))
    (distinct : names.Nodup) :
    (fields? names (.object (record entries)) >>= make) = make (entries.map (·.2)) := by
  rw [fields?_record declared distinct]
  rfl

theorem plain_record {depth : Nat} {entries : List (String × Option Json)}
    (all : ∀ entry ∈ entries, ∀ value ∈ entry.2, IsPlain depth value) :
    IsPlain (depth + 1) (.object (record entries)) := by
  refine .object fun member within => ?_
  obtain ⟨⟨name, value⟩, entry, given⟩ := List.mem_filterMap.mp within
  obtain ⟨value, rfl, rfl⟩ := Option.map_eq_some_iff.mp given
  exact all _ entry value rfl

theorem isKept_of_mem_record {limit : Nat} {entries : List (String × Option Json)}
    (kept : ∀ entry ∈ entries, ∀ value ∈ entry.2, IsPlain limit value) {member : String × Json}
    (within : member ∈ record entries) : isKept limit member.2 = true := by
  obtain ⟨⟨name, value⟩, entry, given⟩ := List.mem_filterMap.mp within
  obtain ⟨value, rfl, rfl⟩ := Option.map_eq_some_iff.mp given
  exact (kept _ entry value rfl).isKept

/-- A record made of several is read in another order than it was written in. -/
theorem keptFields?_record {own others : List String} {entries asked : List (String × Option Json)}
    (declared : own ++ others = asked.map (·.1)) (distinct : (entries.map (·.1)).Nodup)
    (known : ∀ entry ∈ asked, entry ∈ entries)
    (kept : ∀ entry ∈ entries, ∀ value ∈ entry.2, IsPlain (nestingLimit - 1) value) :
    keptFields? own others (.object (record entries)) = some (asked.map (·.2)) := by
  rw [keptFields?, if_pos, declared]
  · exact mapM_single?_record distinct known
  · refine List.all_eq_true.mpr fun member within => ?_
    simp only [isKept_of_mem_record kept within, Bool.or_true]

theorem bind_keptFields?_record {own others : List String}
    {entries asked : List (String × Option Json)} (make : List (Option Json) → Option α)
    (declared : own ++ others = asked.map (·.1)) (distinct : (entries.map (·.1)).Nodup)
    (known : ∀ entry ∈ asked, entry ∈ entries)
    (kept : ∀ entry ∈ entries, ∀ value ∈ entry.2, IsPlain (nestingLimit - 1) value) :
    (keptFields? own others (.object (record entries)) >>= make) = make (asked.map (·.2)) := by
  rw [keptFields?_record declared distinct known kept]
  rfl

end OpcUa.Json
