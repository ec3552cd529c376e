/-!
# Lists with snapshots

A list that is written while others read it. It stands in a cell where everyone who holds the cell
is counted. Whoever writes goes into the cell if it is held by the list alone, and into a copy
otherwise, so what is shown to the readers is never written to.
-/

namespace OpcUa

variable {α β : Type}

/-- Some items, and how many hold them. Without a holder the cell is given up. -/
structure Cell (α : Type) where
  items : List α
  holders : Nat

namespace Cell

def held (c : Cell α) : Cell α :=
  { c with holders := c.holders + 1 }

def released (c : Cell α) : Cell α :=
  { c with holders := c.holders - 1 }

end Cell

/-- All cells that there ever were, and the number of the one that the list holds. -/
structure SnapshotList (α : Type) where
  cells : List (Cell α)
  current : Nat
  current_lt : current < cells.length

namespace SnapshotList

def ofList (items : List α) : SnapshotList α where
  cells := [{ items, holders := 1 }]
  current := 0
  current_lt := Nat.one_pos

/-- The cell with that number. One that never was has no holders. -/
def cell (s : SnapshotList α) (number : Nat) : Cell α :=
  s.cells.getD number { items := [], holders := 0 }

/-- The items as they are now. -/
def items (s : SnapshotList α) : List α :=
  (s.cell s.current).items

/-- What the cell with that number shows to those who hold it. -/
def shown (s : SnapshotList α) (number : Nat) : Option (List α) :=
  if (s.cell number).holders = 0 then none else some (s.cell number).items

/-- The list with the cell with that number changed. -/
def alter (s : SnapshotList α) (number : Nat) (f : Cell α → Cell α) : SnapshotList α where
  cells := s.cells.modify number f
  current := s.current
  current_lt := by simpa only [List.length_modify] using s.current_lt

/-- One more holds the list's cell; gives the cell's number too. -/
def snapshot (s : SnapshotList α) : SnapshotList α × Nat :=
  (s.alter s.current Cell.held, s.current)

/-- One less holds the cell with that number. -/
def release (s : SnapshotList α) (number : Nat) : SnapshotList α :=
  s.alter number Cell.released

/-- The list goes on with these items in a cell of its own. -/
def moved (s : SnapshotList α) (items : List α) : SnapshotList α where
  cells := (s.release s.current).cells ++ [{ items, holders := 1 }]
  current := (s.release s.current).cells.length
  current_lt := by simp

/-- Writes into the list's cell if the list alone holds it, and into a copy otherwise. -/
def update (s : SnapshotList α) (write : List α → List α × β) : SnapshotList α × β :=
  let (items, answer) := write s.items
  if (s.cell s.current).holders = 1 then (s.alter s.current ({ · with items }), answer)
  else (s.moved items, answer)

def push (s : SnapshotList α) (item : α) : SnapshotList α :=
  (s.update fun items => (items ++ [item], ())).1

/-- The list without the first item that is asked for, and that item. -/
def removeFirst (s : SnapshotList α) (asked : α → Bool) : SnapshotList α × Option α :=
  s.update fun items =>
    match items.findIdx? asked with
    | some i => (items.eraseIdx i, items[i]?)
    | none => (items, none)

end SnapshotList

end OpcUa
