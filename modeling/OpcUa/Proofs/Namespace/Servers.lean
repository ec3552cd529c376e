import OpcUa.Proofs.Namespace.Indices

/-!
# Indices of servers

Index 0 is the local server's, and every other server keeps the index that it was given, whatever is
added later and whichever server becomes the local one. Two cases are apart from this. Into a table
without a local server the first server is put at index 0, where it stays until there is a local
one. And a server that becomes the local one is found at index 0 from then on.
-/

namespace OpcUa.ServerTable

variable {t after : ServerTable} {uri : String} {index : UInt32}

inductive Change where
  | add (uri : String)
  | setLocal (uri : String)

/-- The URI that becomes the local server's. -/
def Change.local? : Change → Option String
  | .add _ => none
  | .setLocal uri => some uri

/-- The table after a change. Where there is no room for another server it stays as it was. -/
def change (t : ServerTable) : Change → ServerTable
  | .add uri =>
    match t.add uri with
    | .ok (after, _) => after
    | .error _ => t
  | .setLocal uri => t.setLocal uri

def run (t : ServerTable) (changes : List Change) : ServerTable :=
  changes.foldl change t

/-! ### Looking up -/

theorem indexOf?_eq_some_iff :
    t.indexOf? uri = some index ↔ t.uris[index.toNat]? = some uri ∧
      ∀ earlier < index.toNat, t.uris[earlier]? ≠ some uri := by
  rw [← NamespaceTable.findIdx?_eq_some_iff]
  unfold indexOf?
  cases t.uris.findIdx? (· == uri) with
  | none => simp
  | some place =>
    simp only [Option.ite_none_right_eq_some, Option.some.injEq]
    constructor
    · rintro ⟨fits, rfl⟩
      exact (UInt32.toNat_ofNat_of_lt' fits).symm
    · rintro rfl
      exact ⟨index.toNat_lt_size, UInt32.ofNat_toNat⟩

theorem indexOf?_local (isLocal : t.uri? 0 = some uri) : t.indexOf? uri = some 0 :=
  indexOf?_eq_some_iff.mpr ⟨isLocal, fun _ less => absurd less (Nat.not_lt_zero _)⟩

theorem not_mem_of_indexOf? (room : t.size < capacity) (absent : t.indexOf? uri = none) :
    uri ∉ t.uris := by
  unfold indexOf? at absent
  split at absent
  · rename_i place found
    have within := (List.findIdx?_eq_some_iff_getElem.mp found).1
    rw [if_pos (Nat.lt_trans within room)] at absent
    cases absent
  · rename_i unfound
    exact NamespaceTable.findIdx?_eq_none_iff.mp unfound

/-! ### One change -/

theorem add_eq_ok_iff : t.add uri = .ok (after, index) ↔
    t.indexOf? uri = some index ∧ after = t ∨
      t.indexOf? uri = none ∧ t.size < capacity ∧ after = ⟨t.uris ++ [uri]⟩ ∧
        index = .ofNat t.size := by
  unfold add
  cases t.indexOf? uri with
  | some first => simp [eq_comm, and_comm]
  | none =>
    dsimp only
    split
    · rename_i room
      simp [room, eq_comm]
    · rename_i full
      simp [full]

theorem prefix_of_add (added : t.add uri = .ok (after, index)) : t.uris <+: after.uris := by
  rcases add_eq_ok_iff.mp added with ⟨-, rfl⟩ | ⟨-, -, rfl, -⟩
  · exact List.prefix_rfl
  · exact List.prefix_append _ _

theorem indexOf?_of_add (added : t.add uri = .ok (after, index)) :
    after.indexOf? uri = some index := by
  rcases add_eq_ok_iff.mp added with ⟨found, rfl⟩ | ⟨absent, room, rfl, rfl⟩
  · exact found
  · have fits : (UInt32.ofNat t.size).toNat = t.size := UInt32.toNat_ofNat_of_lt' room
    have new := not_mem_of_indexOf? room absent
    rw [indexOf?_eq_some_iff, ← NamespaceTable.findIdx?_eq_some_iff, fits]
    exact NamespaceTable.findIdx?_concat new

/-- A change leaves everything where it is, but for the local server. -/
theorem getElem?_change (c : Change) {place : Nat} (within : place < t.size)
    (other : place ≠ 0 ∨ c.local? = none) : (t.change c).uris[place]? = t.uris[place]? := by
  cases c with
  | add uri =>
    cases added : t.add uri with
    | ok grown =>
      obtain ⟨more, whole⟩ := prefix_of_add added
      simp only [change, added]
      rw [← whole, List.getElem?_append_left within]
    | error fault => simp only [change, added]
  | setLocal uri =>
    have later : place ≠ 0 := other.resolve_right (by simp [Change.local?])
    obtain ⟨before, rfl⟩ := Nat.exists_eq_succ_of_ne_zero later
    rw [change, setLocal, List.getElem?_cons_succ, List.getElem?_tail]

theorem size_le_change (t : ServerTable) (c : Change) : t.size ≤ (t.change c).size := by
  cases c with
  | add uri =>
    cases added : t.add uri with
    | ok grown =>
      simp only [change, added]
      exact (prefix_of_add added).length_le
    | error fault => simp only [change, added, Nat.le_refl]
  | setLocal uri =>
    simp only [change, setLocal, size, List.length_cons, List.length_tail]
    omega

theorem size_change_pos (t : ServerTable) (c : Change) : 0 < (t.change c).size := by
  rcases Nat.eq_zero_or_pos t.size with none_yet | some_yet
  · obtain rfl : t = {} := congrArg ServerTable.mk (List.length_eq_zero_iff.mp none_yet)
    cases c <;> exact Nat.one_pos
  · exact Nat.lt_of_lt_of_le some_yet (size_le_change t c)

/-! ### Any number of changes -/

theorem size_le_run (t : ServerTable) (changes : List Change) :
    t.size ≤ (t.run changes).size := by
  induction changes generalizing t with
  | nil => exact Nat.le_refl _
  | cons c changes ih => exact Nat.le_trans (size_le_change t c) (ih (t.change c))

theorem getElem?_run {place : Nat} (within : place < t.size) (later : place ≠ 0)
    (changes : List Change) : (t.run changes).uris[place]? = t.uris[place]? := by
  induction changes generalizing t with
  | nil => rfl
  | cons c changes ih =>
    have onward := ih (Nat.lt_of_lt_of_le within (size_le_change t c))
    exact onward.trans (getElem?_change c within (.inl later))

theorem local_change (some_yet : 0 < t.size) (c : Change) :
    (t.change c).uri? 0 = c.local?.or (t.uri? 0) := by
  cases c with
  | add uri =>
    exact getElem?_change (.add uri) some_yet (.inr rfl)
  | setLocal uri => rfl

/-- The local server is the last that became it. -/
theorem local_run (some_yet : 0 < t.size) (changes : List Change) :
    (t.run changes).uri? 0 = (changes.filterMap Change.local?).getLast?.or (t.uri? 0) := by
  induction changes generalizing t with
  | nil => rfl
  | cons c changes ih =>
    have onward := ih (size_change_pos t c)
    rw [local_change some_yet c] at onward
    rw [List.filterMap_cons]
    refine onward.trans ?_
    cases c.local? with
    | none => rfl
    | some uri =>
      dsimp only
      rw [List.getLast?_cons]
      cases (changes.filterMap Change.local?).getLast? <;> rfl

/-- Only after no change at all is a table without any server. -/
theorem run_eq_empty_iff {changes : List Change} :
    t.run changes = {} ↔ t = {} ∧ changes = [] := by
  constructor
  · intro none_yet
    cases changes with
    | nil => exact ⟨none_yet, rfl⟩
    | cons c changes =>
      have some_yet : 0 < (t.run (c :: changes)).size :=
        Nat.lt_of_lt_of_le (size_change_pos t c) (size_le_run (t.change c) changes)
      rw [none_yet] at some_yet
      exact absurd some_yet (Nat.lt_irrefl 0)
  · rintro ⟨rfl, rfl⟩
    rfl

/-! ### Indices that were given -/

/-- Index 0 is given to the local server, or to the first server of all. -/
theorem index_eq_zero_iff (added : t.add uri = .ok (after, index)) :
    index = 0 ↔ t.uri? 0 = some uri ∨ t = {} := by
  rcases add_eq_ok_iff.mp added with ⟨found, -⟩ | ⟨absent, room, -, rfl⟩
  · constructor
    · rintro rfl
      exact .inl (indexOf?_eq_some_iff.mp found).1
    · rintro (isLocal | rfl)
      · exact Option.some.inj (found.symm.trans (indexOf?_local isLocal))
      · cases found
  · constructor
    · intro zero
      have none_yet : (UInt32.ofNat t.size).toNat = t.size := UInt32.toNat_ofNat_of_lt' room
      rw [zero] at none_yet
      exact .inr (congrArg ServerTable.mk (List.length_eq_zero_iff.mp none_yet.symm))
    · rintro (isLocal | rfl)
      · rw [indexOf?_local isLocal] at absent
        cases absent
      · rfl

/-- A server other than the local one keeps the index that it was given, and is found there unless
it has become the local server. -/
theorem indexOf?_run (found : t.indexOf? uri = some index) (other : index ≠ 0)
    (changes : List Change) :
    (t.run changes).uri? index = some uri ∧
      (t.run changes).indexOf? uri =
        some (if (t.run changes).uri? 0 = some uri then 0 else index) := by
  obtain ⟨here, before⟩ := indexOf?_eq_some_iff.mp found
  have within : index.toNat < t.size := (List.getElem?_eq_some_iff.mp here).1
  have later : index.toNat ≠ 0 := fun zero => other (UInt32.toNat_inj.mp zero)
  have kept : (t.run changes).uri? index = some uri :=
    (getElem?_run within later changes).trans here
  refine ⟨kept, ?_⟩
  split
  · rename_i isLocal
    exact indexOf?_local isLocal
  · rename_i elsewhere
    refine indexOf?_eq_some_iff.mpr ⟨kept, fun earlier less => ?_⟩
    rcases Nat.eq_zero_or_pos earlier with rfl | positive
    · exact elsewhere
    · rw [getElem?_run (Nat.lt_trans less within) (Nat.ne_of_gt positive)]
      exact before earlier less

/-- What is added is found at the index that was returned. That is 0 only for the local server or
for the first server of a table without one, and at 0 is whatever became the local server last. Every
other index stands for its server from then on, and the server is found there unless it has become
the local one, which is found at 0. -/
theorem indices_of_servers {start : ServerTable} {before : List Change}
    (added : (start.run before).add uri = .ok (after, index)) :
    after.uri? index = some uri ∧
    (index = 0 ↔ (start.run before).uri? 0 = some uri ∨ start = {} ∧ before = []) ∧
    (∀ changes, (after.run changes).uri? 0 =
      (changes.filterMap Change.local?).getLast?.or (after.uri? 0)) ∧
    (index ≠ 0 → ∀ changes, (after.run changes).uri? index = some uri ∧
      (after.run changes).indexOf? uri =
        some (if (after.run changes).uri? 0 = some uri then 0 else index)) := by
  have found := indexOf?_of_add added
  have here : after.uri? index = some uri := (indexOf?_eq_some_iff.mp found).1
  have some_yet : 0 < after.size :=
    Nat.zero_lt_of_lt (List.getElem?_eq_some_iff.mp here).1
  refine ⟨here, ?_, local_run some_yet, indexOf?_run found⟩
  rw [index_eq_zero_iff added, run_eq_empty_iff]

/-- A remote server that becomes local, after another was. -/
theorem indices_of_remote :
    ∃ after, ((ofLocal "urn:local").run [.add "urn:line"]).add "urn:remote" = .ok (after, 2) ∧
      (after.run [.setLocal "urn:remote", .setLocal "urn:spare"]).indexOf? "urn:remote" = some 2 ∧
      (after.run [.setLocal "urn:spare", .setLocal "urn:remote"]).indexOf? "urn:remote" =
        some 0 := by
  have added : ((ofLocal "urn:local").run [.add "urn:line"]).add "urn:remote" =
      .ok (⟨["urn:local", "urn:line", "urn:remote"]⟩, 2) := rfl
  obtain ⟨-, -, -, stays⟩ := indices_of_servers added
  exact ⟨_, added, (stays (by decide) _).2, (stays (by decide) _).2⟩

/-- Each server but the local one has an index other than 0, for good, and is found there. -/
def Steady (start : ServerTable) : Prop :=
  ∀ before uri after index, (start.run before).add uri = .ok (after, index) →
    after.uri? index = some uri ∧ ((start.run before).uri? 0 ≠ some uri →
      index ≠ 0 ∧ ∀ changes, (after.run changes).uri? index = some uri ∧
        (after.run changes).indexOf? uri = some index)

/-- The first server of a table without a local one loses its index to the local server, and one
that becomes local is no longer found at its index. -/
theorem not_steady_of_remote :
    (∃ after, add {} "urn:remote" = .ok (after, 0) ∧
      (after.run [.setLocal "urn:local"]).uri? 0 = some "urn:local" ∧
      (after.run [.setLocal "urn:local"]).indexOf? "urn:remote" = none) ∧
    (∃ after, add (.ofLocal "urn:local") "urn:remote" = .ok (after, 1) ∧
      (after.run [.setLocal "urn:remote"]).indexOf? "urn:remote" = some 0) ∧
    ¬ Steady {} ∧ ¬ Steady (.ofLocal "urn:local") := by
  have first : add {} "urn:remote" = .ok (⟨["urn:remote"]⟩, 0) := rfl
  have second : add (.ofLocal "urn:local") "urn:remote" =
      .ok (⟨["urn:local", "urn:remote"]⟩, 1) := rfl
  refine ⟨⟨_, first, by decide, by decide⟩, ⟨_, second, by decide⟩, fun steady => ?_,
    fun steady => ?_⟩
  · exact (steady [] _ _ _ first).2 (by decide) |>.1 rfl
  · have found := ((steady [] _ _ _ second).2 (by decide)).2 [.setLocal "urn:remote"]
    exact absurd found.2 (by decide)

end OpcUa.ServerTable
