import OpcUa.Files

/-!
# Files in memory

A write changes the one file that it names, if it changes any.
-/

namespace OpcUa.Disk

variable {d after : Disk} {path other : String} {bytes : List UInt8}

@[simp] theorem refusal_put : (d.put path bytes).refusal = d.refusal := rfl

@[simp] theorem bytes?_put : (d.put path bytes).bytes? path = some bytes := by
  simp [bytes?, put]

theorem bytes?_put_of_ne (apart : other ≠ path) :
    (d.put path bytes).bytes? other = d.bytes? other := by
  have passed (file : String × List UInt8) :
      decide ((file.1 != path) = true ∧ (file.1 == other) = true) = (file.1 == other) := by
    by_cases same : file.1 = other <;> simp [same, apart]
  simp only [bytes?, put, List.find?_cons, beq_eq_false_iff_ne.mpr apart.symm, List.find?_filter,
    passed]

theorem read_eq_ok (held : d.bytes? path = some bytes) : d.read path = .ok bytes := by
  obtain ⟨file, found, same⟩ := Option.map_eq_some_iff.mp held
  have listed : (d.files.map fun file => (file.1, Except.ok (ε := String) file.2)).find?
      (·.1 == path) = some (file.1, .ok file.2) := by
    rw [List.find?_map]
    exact congrArg _ found
  show FileReader.ofList (d.files.map fun file => (file.1, .ok file.2)) path = _
  rw [FileReader.ofList, listed, ← same]

/-- Whether all of what is written to a path arrives. -/
def IsWritable (d : Disk) (path : String) : Prop :=
  d.refusal path = none ∧ d.interruption path = none

/-- What a write that fails leaves. -/
inductive Fails (d : Disk) (path : String) (bytes : List UInt8) : Disk → Prop
  | refused (refused : (d.refusal path).isSome) : Fails d path bytes d
  | interrupted {count : Nat} {reason : String} (begun : d.refusal path = none)
      (interrupted : d.interruption path = some (count, reason)) :
      Fails d path bytes (d.put path (bytes.take count))

/-- The file that a write to a path changes: none if it is refused. -/
def begun (d : Disk) (path : String) : List String :=
  if (d.refusal path).isSome then [] else [path]

theorem eq_of_mem_begun (member : other ∈ d.begun path) : other = path := by
  unfold begun at member
  split at member
  · cases member
  · exact List.eq_of_mem_singleton member

theorem Fails.bytes?_of_not_mem (fails : d.Fails path bytes after)
    (apart : other ∉ d.begun path) : after.bytes? other = d.bytes? other := by
  cases fails with
  | refused => rfl
  | interrupted begins =>
    rw [begun, begins] at apart
    exact bytes?_put_of_ne (List.ne_of_not_mem_cons apart)

theorem Fails.bytes?_of_ne (fails : d.Fails path bytes after) (apart : other ≠ path) :
    after.bytes? other = d.bytes? other :=
  fails.bytes?_of_not_mem (mt eq_of_mem_begun apart)

theorem IsWritable.not_fails (writable : d.IsWritable path) : ¬ d.Fails path bytes after := by
  rintro (refused | ⟨-, interrupted⟩)
  · rw [writable.1] at refused
    cases refused
  · rw [writable.2] at interrupted
    cases interrupted

theorem write_cases (d : Disk) (path : String) (bytes : List UInt8) :
    d.IsWritable path ∧ d.write path bytes = (.ok (), d.put path bytes) ∨
      ∃ reason after, d.write path bytes = (.error reason, after) ∧ d.Fails path bytes after := by
  unfold write IsWritable
  cases free : d.refusal path with
  | some reason => exact .inr ⟨_, _, rfl, .refused (Option.isSome_of_eq_some free)⟩
  | none =>
    cases whole : d.interruption path with
    | some part => exact .inr ⟨_, _, rfl, .interrupted free whole⟩
    | none => exact .inl ⟨⟨rfl, rfl⟩, rfl⟩

/-! ### Runs -/

theorem run_isPresent (d : Disk) (path : String) :
    StateT.run (FileSystem.isPresent path : StateM Disk Bool) d =
      ((d.bytes? path).isSome, d) := rfl

theorem run_makeDirectory (d : Disk) (path : String) :
    StateT.run (FileSystem.makeDirectory path : StateM Disk (Except String Unit)) d =
      match d.refusal path with
      | some reason => (.error reason, d)
      | none => (.ok (), d) := rfl

theorem run_write (d : Disk) (path : String) (bytes : List UInt8) :
    StateT.run (FileSystem.write path bytes : StateM Disk (Except String Unit)) d =
      d.write path bytes := rfl

/-- Where something fails, nothing is done after it. -/
theorem run_bind {α β : Type} (d : Disk) (x : ExceptT Fault (StateM Disk) α)
    (f : α → ExceptT Fault (StateM Disk) β) :
    d.run (x >>= f) =
      match d.run x with
      | (.ok a, after) => after.run (f a)
      | (.error fault, after) => (.error fault, after) := by
  unfold run
  rw [ExceptT.run_bind, StateT.run_bind]
  show (match StateT.run x.run d with | (result, after) => _) = _
  rcases StateT.run x.run d with ⟨_ | _, _⟩ <;> rfl

theorem save_cases (d : Disk) (path : String) (bytes : List UInt8) :
    d.IsWritable path ∧ d.run (FileSystem.save path bytes) = (.ok (), d.put path bytes) ∨
      ∃ fault after, d.run (FileSystem.save path bytes) = (.error fault, after) ∧
        d.Fails path bytes after := by
  have saved : d.run (FileSystem.save path bytes) =
      ((d.write path bytes).1.mapError .io, (d.write path bytes).2) := rfl
  rw [saved]
  obtain ⟨writable, written⟩ | ⟨reason, after, written, fails⟩ := d.write_cases path bytes
  · exact .inl ⟨writable, by rw [written]; rfl⟩
  · exact .inr ⟨.io reason, after, by rw [written]; rfl, fails⟩

end OpcUa.Disk
