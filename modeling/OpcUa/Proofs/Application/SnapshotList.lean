import OpcUa.Application.SnapshotList
import Mathlib.Tactic.ByContra
import Mathlib.Tactic.SplitIfs

/-!
# Readers of a list with snapshots

Every holder is counted, so a write never meets a cell that a reader holds. What a snapshot shows
stays the same until it is given back.
-/

namespace OpcUa

variable {α β : Type}

namespace SnapshotList

variable {s : SnapshotList α} {number other : Nat} {f : Cell α → Cell α} {items : List α}

/-! ### Cells -/

theorem cell_alter (present : number < s.cells.length) :
    (s.alter number f).cell number = f (s.cell number) := by
  simp [cell, alter, present]

theorem cell_alter_of_ne (apart : other ≠ number) :
    (s.alter number f).cell other = s.cell other := by
  simp [cell, alter, apart.symm]

theorem holders_of_le (absent : s.cells.length ≤ number) : (s.cell number).holders = 0 := by
  simp [cell, absent]

theorem cell_snapshot (s : SnapshotList α) :
    s.snapshot.1.cell s.current = (s.cell s.current).held :=
  cell_alter s.current_lt

theorem holders_snapshot (s : SnapshotList α) (number : Nat) :
    (s.snapshot.1.cell number).holders =
      (s.cell number).holders + if number = s.current then 1 else 0 := by
  split_ifs with same
  · rw [same, cell_snapshot, Cell.held]
  · exact congrArg Cell.holders (cell_alter_of_ne same)

theorem cell_release (s : SnapshotList α) (number : Nat) :
    (s.release number).cell number = (s.cell number).released := by
  rcases Nat.lt_or_ge number s.cells.length with present | absent
  · exact cell_alter present
  · simp [cell, release, alter, absent, Cell.released]

theorem holders_release (s : SnapshotList α) (number other : Nat) :
    ((s.release number).cell other).holders =
      (s.cell other).holders - if other = number then 1 else 0 := by
  split_ifs with same
  · rw [same, cell_release, Cell.released]
  · exact congrArg Cell.holders (cell_alter_of_ne same)

theorem current_moved (s : SnapshotList α) (items : List α) :
    (s.moved items).current = s.cells.length :=
  List.length_modify ..

theorem cell_moved_current (s : SnapshotList α) (items : List α) :
    (s.moved items).cell (s.moved items).current = { items, holders := 1 } := by
  simp [cell, moved]

theorem cell_moved_of_ne (apart : number ≠ (s.moved items).current) :
    (s.moved items).cell number = (s.release s.current).cell number := by
  have apart : number ≠ (s.release s.current).cells.length := apart
  rcases Nat.lt_or_gt_of_ne apart with before | after
  · simp only [cell, moved, List.getD_eq_getElem?_getD, List.getElem?_append_left before]
  · have short : (s.moved items).cells.length ≤ number := by
      rw [moved, List.length_append]
      exact after
    simp only [cell, List.getD_eq_getElem?_getD, List.getElem?_eq_none short,
      List.getElem?_eq_none (Nat.le_of_lt after)]

/-! ### Writes -/

theorem fst_update (s : SnapshotList α) (write : List α → List α × β) :
    (s.update write).1 =
      if (s.cell s.current).holders = 1 then s.alter s.current ({ · with items := (write s.items).1 })
      else s.moved (write s.items).1 := by
  unfold update
  split_ifs <;> rfl

end SnapshotList

/-- A list and the snapshots that were taken of it, the first one first. Of one that was given back
nothing is left. -/
structure Shared (α : Type) where
  list : SnapshotList α
  snapshots : List (Option Nat)

namespace Shared

def ofList (items : List α) : Shared α where
  list := .ofList items
  snapshots := []

/-- What is seen in the snapshot that was taken after `n` others. -/
def shown (s : Shared α) (n : Nat) : Option (List α) :=
  s.snapshots[n]?.join.bind s.list.shown

def update (s : Shared α) (write : List α → List α × β) : Shared α where
  list := (s.list.update write).1
  snapshots := s.snapshots

def look (s : Shared α) : Shared α where
  list := s.list.snapshot.1
  snapshots := s.snapshots ++ [some s.list.snapshot.2]

/-- Gives the snapshot back that was taken after `n` others. -/
def letGo (s : Shared α) (n : Nat) : Shared α where
  list := s.snapshots[n]?.join.elim s.list s.list.release
  snapshots := s.snapshots.set n none

/-- The holders of a cell are the snapshots of it, and the list if it is the list's. -/
def Counted (s : Shared α) : Prop :=
  ∀ number, (s.list.cell number).holders =
    s.snapshots.count (some number) + if number = s.list.current then 1 else 0

variable {s : Shared α} {number n k : Nat}

theorem Counted.holders_pos (counted : s.Counted) (held : some number ∈ s.snapshots) :
    0 < (s.list.cell number).holders := by
  rw [counted number]
  exact Nat.add_pos_left (List.count_pos_iff.mpr held) _

theorem Counted.lt_of_mem (counted : s.Counted) (held : some number ∈ s.snapshots) :
    number < s.list.cells.length := by
  by_contra absent
  have none_hold := SnapshotList.holders_of_le (Nat.le_of_not_lt absent)
  exact Nat.ne_of_gt (counted.holders_pos held) none_hold

theorem Counted.update (counted : s.Counted) (write : List α → List α × β) :
    (s.update write).Counted := by
  intro number
  simp only [Shared.update, SnapshotList.fst_update]
  -- The write goes into the list's cell or into a copy; the cell counted is the written one or not.
  split_ifs with alone same same
  · have same : number = s.list.current := same
    subst same
    rw [SnapshotList.cell_alter s.list.current_lt, counted, if_pos rfl]
  · have same : number ≠ s.list.current := same
    rw [SnapshotList.cell_alter_of_ne same, counted, if_neg same]
  · have not_held : s.snapshots.count (some number) = 0 := by
      refine List.count_eq_zero.mpr fun held => Nat.ne_of_lt (counted.lt_of_mem held) ?_
      exact same.trans (SnapshotList.current_moved _ _)
    subst same
    rw [not_held, SnapshotList.cell_moved_current]
  · rw [SnapshotList.cell_moved_of_ne same, SnapshotList.holders_release, counted]
    exact Nat.add_sub_cancel ..

example :
    let written := (ofList [1, 2]).look.update fun items => (items ++ [3], ())
    written.shown 0 = some [1, 2] ∧ written.list.items = [1, 2, 3] := ⟨rfl, rfl⟩

/-! ### Snapshots -/

theorem Counted.look (counted : s.Counted) : s.look.Counted := by
  intro number
  have held : (s.look.list.cell number).holders = _ := SnapshotList.holders_snapshot s.list number
  have taken : s.look.snapshots = s.snapshots ++ [some s.list.current] := rfl
  have here : s.look.list.current = s.list.current := rfl
  rw [held, counted, taken, here, List.count_append, List.count_singleton]
  simp only [beq_iff_eq, Option.some.injEq, @eq_comm _ number]

theorem current_letGo (s : Shared α) (k : Nat) : (s.letGo k).list.current = s.list.current := by
  unfold letGo
  cases s.snapshots[k]?.join <;> rfl

theorem holders_letGo (s : Shared α) (k number : Nat) :
    ((s.letGo k).list.cell number).holders =
      (s.list.cell number).holders - if s.snapshots[k]?.join = some number then 1 else 0 := by
  unfold letGo
  cases s.snapshots[k]?.join with
  | none => rfl
  | some held =>
    rw [Option.elim_some, SnapshotList.holders_release]
    simp only [Option.some.injEq, @eq_comm _ held]

theorem count_letGo (s : Shared α) (k number : Nat) :
    (s.letGo k).snapshots.count (some number) =
      s.snapshots.count (some number) - if s.snapshots[k]?.join = some number then 1 else 0 := by
  unfold letGo
  rcases Nat.lt_or_ge k s.snapshots.length with taken | not_taken
  · rw [List.count_set taken, List.getElem?_eq_getElem taken]
    simp
  · rw [List.set_eq_of_length_le not_taken, List.getElem?_eq_none not_taken]
    rfl

theorem Counted.letGo (counted : s.Counted) (k : Nat) : (s.letGo k).Counted := by
  intro number
  rw [holders_letGo, count_letGo, current_letGo, counted number]
  by_cases at_k : s.snapshots[k]?.join = some number
  · have held := List.mem_of_getElem? (Option.join_eq_some_iff.mp at_k)
    have some_hold := List.count_pos_iff.mpr held
    rw [if_pos at_k]
    omega
  · rw [if_neg at_k, Nat.sub_zero, Nat.sub_zero]

end Shared

end OpcUa
