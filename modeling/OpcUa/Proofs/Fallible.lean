/-!
# Steps that may fail

A list of such steps succeeds when all of them do, and fails with the fault of the first that does
not.
-/

namespace OpcUa

variable {α β ε : Type}

theorem exists_of_bind {x : Except ε α} {f : α → Except ε β} {result : β}
    (done : (x >>= f) = .ok result) : ∃ given, x = .ok given ∧ f given = .ok result := by
  cases x with
  | error fault => cases done
  | ok given => exact ⟨given, rfl, done⟩

theorem exists_of_map {x : Except ε α} {f : α → β} {result : β} (done : x.map f = .ok result) :
    ∃ given, x = .ok given ∧ f given = result := by
  cases x with
  | error fault => cases done
  | ok given => exact ⟨given, rfl, Except.ok.inj done⟩

theorem eq_error_of_map {x : Except ε α} {f : α → β} {fault : ε} (failed : x.map f = .error fault) :
    x = .error fault := by
  cases x with
  | error found => exact congrArg Except.error (Except.error.inj failed)
  | ok given => cases failed

theorem mapM_eq_ok_iff {f : α → Except ε β} {xs : List α} {ys : List β} :
    xs.mapM f = .ok ys ↔ xs.map f = ys.map .ok := by
  induction xs generalizing ys with
  | nil => cases ys <;> simp [pure, Except.pure]
  | cons x xs ih =>
    rw [List.mapM_cons, List.map_cons]
    cases first : f x with
    | error fault => cases ys <;> simp [bind, Except.bind]
    | ok y =>
      cases ys with
      | nil => cases rest : xs.mapM f <;> simp [bind, Except.bind, pure, Except.pure]
      | cons z ys =>
        rw [List.map_cons, List.cons.injEq, ← ih]
        cases rest : xs.mapM f <;> simp [bind, Except.bind, pure, Except.pure]

theorem mapM_eq_ok_iff_map {f : α → Except ε β} {g : α → β} {passes : α → Prop}
    (each : ∀ x y, f x = .ok y ↔ g x = y ∧ passes x) {xs : List α} {ys : List β} :
    xs.mapM f = .ok ys ↔ xs.map g = ys ∧ ∀ x ∈ xs, passes x := by
  rw [mapM_eq_ok_iff]
  induction xs generalizing ys with
  | nil => cases ys <;> simp
  | cons x xs ih => cases ys <;> simp [each, ih, and_assoc, and_left_comm]

theorem mapM_eq_error_iff {f : α → Except ε β} {xs : List α} {e : ε} :
    xs.mapM f = .error e ↔ ∃ before x after, xs = before ++ x :: after ∧
      (∀ y ∈ before, ∃ result, f y = .ok result) ∧ f x = .error e := by
  induction xs with
  | nil => simp [pure, Except.pure]
  | cons x xs ih =>
    rw [List.mapM_cons]
    constructor
    · intro failed
      cases first : f x with
      | error found =>
        rw [first] at failed
        cases failed
        exact ⟨[], x, xs, rfl, by simp, first⟩
      | ok result =>
        cases others : xs.mapM f with
        | ok results => simp [first, others, bind, Except.bind, pure, Except.pure] at failed
        | error found =>
          have same : found = e := by simpa [first, others, bind, Except.bind] using failed
          subst same
          obtain ⟨before, y, after, rfl, passed, failed⟩ := ih.mp others
          refine ⟨x :: before, y, after, rfl, List.forall_mem_cons.mpr ⟨⟨result, first⟩, passed⟩,
            failed⟩
    · rintro ⟨before, y, after, placed, passed, failed⟩
      cases before with
      | nil =>
        cases placed
        rw [failed]
        rfl
      | cons head before =>
        cases placed
        obtain ⟨⟨result, first⟩, passed⟩ := List.forall_mem_cons.mp passed
        rw [first, ih.mpr ⟨before, y, after, rfl, passed, failed⟩]
        rfl

theorem forM_eq_ok_iff {f : α → Except ε Unit} {xs : List α} :
    xs.forM f = .ok () ↔ ∀ x ∈ xs, f x = .ok () := by
  induction xs with
  | nil => simp [List.forM, pure, Except.pure]
  | cons x xs ih =>
    show (f x >>= fun _ => xs.forM f) = _ ↔ _
    rw [List.forall_mem_cons, ← ih]
    cases f x <;> simp [bind, Except.bind]

end OpcUa
