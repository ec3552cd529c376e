import OpcUa.Fault

/-!
# Files

The operations on files that commands need, and a disk that keeps them in memory.
-/

namespace OpcUa

/-- What reading a file gives: its bytes, or the reason why it cannot be read. -/
abbrev FileReader := String → Except String (List UInt8)

namespace FileReader

/-- The bytes of a file. -/
def bytes (read : FileReader) (path : String) : Except Fault (List UInt8) :=
  (read path).mapError .io

/-- The files of a list, each under its path. -/
def ofList (files : List (String × Except String (List UInt8))) : FileReader := fun path =>
  match files.find? (·.1 == path) with
  | some (_, result) => result
  | none => .error "No such file or directory (os error 2)"

end FileReader

/-- A place that has files. Operations give the reason when they are refused. -/
class FileSystem (m : Type → Type) where
  isPresent (path : String) : m Bool
  read (path : String) : m (Except String (List UInt8))
  write (path : String) (bytes : List UInt8) : m (Except String Unit)
  /-- Makes a directory and those around it, as far as they are missing. -/
  makeDirectory (path : String) : m (Except String Unit)

/-- Writes a file; gives a fault where that is refused. -/
def FileSystem.save {m : Type → Type} [Monad m] [FileSystem m] (path : String)
    (bytes : List UInt8) : ExceptT Fault m Unit :=
  ExceptT.mk do return (← FileSystem.write path bytes).mapError .io

/-- Files in memory. A write that is refused changes nothing; one that is interrupted leaves the
bytes that have arrived. -/
structure Disk where
  files : List (String × List UInt8) := []
  /-- Why a path cannot be written, if it cannot. -/
  refusal : String → Option String := fun _ => none
  /-- How many bytes of a write arrive and why no more do, if they do not all arrive. -/
  interruption : String → Option (Nat × String) := fun _ => none

namespace Disk

def bytes? (d : Disk) (path : String) : Option (List UInt8) :=
  (d.files.find? (·.1 == path)).map (·.2)

def read (d : Disk) : FileReader :=
  .ofList (d.files.map fun (path, bytes) => (path, .ok bytes))

/-- The disk with new bytes in a file. -/
def put (d : Disk) (path : String) (bytes : List UInt8) : Disk :=
  { d with files := (path, bytes) :: d.files.filter (·.1 != path) }

def write (d : Disk) (path : String) (bytes : List UInt8) : Except String Unit × Disk :=
  match d.refusal path, d.interruption path with
  | some reason, _ => (.error reason, d)
  | none, some (count, reason) => (.error reason, d.put path (bytes.take count))
  | none, none => (.ok (), d.put path bytes)

instance : FileSystem (StateM Disk) where
  isPresent path := fun d => ((d.bytes? path).isSome, d)
  read path := fun d => (d.read path, d)
  write path bytes := fun d => d.write path bytes
  makeDirectory path := fun d =>
    match d.refusal path with
    | some reason => (.error reason, d)
    | none => (.ok (), d)

/-- The result of what is done on a disk, and the disk after it. -/
def run {α : Type} (d : Disk) (action : ExceptT Fault (StateM Disk) α) : Except Fault α × Disk :=
  StateT.run action.run d

end Disk

end OpcUa
