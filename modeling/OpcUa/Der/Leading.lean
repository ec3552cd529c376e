import OpcUa.Der.Element

/-!
# What leads an input

The element that starts an input is read from its own bytes: whatever comes after them changes
nothing about it.
-/

namespace OpcUa.Der

variable {α β : Type} {read : List UInt8 → Option (α × List UInt8)}

/-- Whether `a` is read from these bytes, with anything after them. -/
def Leads (read : List UInt8 → Option (α × List UInt8)) (lead : List UInt8) (a : α) : Prop :=
  ∀ more, read (lead ++ more) = some (a, more)

/-- Whether the bytes that are taken are all that is looked at. -/
def IsLocal (read : List UInt8 → Option (α × List UInt8)) : Prop :=
  ∀ ⦃input a rest⦄, read input = some (a, rest) → ∃ lead, input = lead ++ rest ∧ Leads read lead a

/-- What is told from a part that is read, and from nothing else. -/
theorem IsLocal.within (own : IsLocal read) (tell : α → Option β) :
    IsLocal fun input => do
      let (a, rest) ← read input
      return (← tell a, rest) := by
  intro input b rest found
  obtain ⟨⟨a, left⟩, taken, telling⟩ := Option.bind_eq_some_iff.mp found
  obtain ⟨b, told, same⟩ := Option.bind_eq_some_iff.mp telling
  cases same
  obtain ⟨lead, whole, leads⟩ := own taken
  refine ⟨lead, whole, fun more => ?_⟩
  show (read (lead ++ more)).bind _ = some (b, more)
  rw [leads more, Option.bind_some]
  exact Option.bind_eq_some_iff.mpr ⟨b, told, rfl⟩

theorem length?_isLocal : IsLocal length? := by
  intro input length rest found
  cases input with
  | nil => cases found
  | cons first input =>
    rw [length?] at found
    split at found
    · rename_i short
      cases found
      refine ⟨[first], rfl, fun more => ?_⟩
      rw [List.singleton_append, length?, if_pos short]
    · rename_i long
      dsimp only at found
      generalize count_eq : first.toNat - 0x80 = count at found
      split at found
      · cases found
      · rename_i fits
        cases found
        -- With more bytes behind, the count still reaches no further than before.
        simp only [not_or, Nat.not_lt] at fits
        obtain ⟨some_bytes, not_reserved, enough⟩ := fits
        have counted : (input.take count).length = count := List.length_take_of_le enough
        refine ⟨first :: input.take count, ?_, fun more => ?_⟩
        · rw [List.cons_append, List.take_append_drop]
        · have room : ¬ (input.take count ++ more).length < count := by
            rw [List.length_append]
            omega
          rw [List.cons_append, length?, if_neg long, count_eq]
          dsimp only
          rw [if_neg (by simp only [some_bytes, not_reserved, room, or_self, not_false_eq_true]),
            List.take_left' counted, List.drop_left' counted]

/-- What follows a tag of one byte or of several. -/
def afterTag (tag : UInt8) (input : List UInt8) : List UInt8 :=
  if tag &&& 0x1F = 0x1F then skipTagNumber input else input

theorem element?_cons (tag : UInt8) (input : List UInt8) :
    element? (tag :: input) = (length? (afterTag tag input)).bind fun (length, body) =>
      if body.length < length then none else some (⟨tag, body.take length⟩, body.drop length) := rfl

/-- A tag ends with its first byte below 128, if it has several. -/
theorem skipTagNumber_eq (input : List UInt8) :
    skipTagNumber input = [] ∨
      ∃ number, input = number ++ skipTagNumber input ∧
        ∀ more, skipTagNumber (number ++ more) = more := by
  induction input with
  | nil => exact .inl rfl
  | cons b input ih =>
    by_cases goesOn : 0x80 ≤ b
    · have passes (rest : List UInt8) : skipTagNumber (b :: rest) = skipTagNumber rest := by
        simp only [skipTagNumber, List.dropWhile_cons, goesOn, decide_true, if_true]
      rw [passes]
      rcases ih with nothing | ⟨number, whole, ends⟩
      · exact .inl nothing
      · refine .inr ⟨b :: number, congrArg (b :: ·) whole, fun more => ?_⟩
        rw [List.cons_append, passes, ends]
    · have stops (rest : List UInt8) : skipTagNumber (b :: rest) = rest := by
        simp [skipTagNumber, goesOn]
      refine .inr ⟨[b], ?_, stops⟩
      rw [stops]
      rfl

theorem afterTag_eq (tag : UInt8) (input : List UInt8) :
    afterTag tag input = [] ∨
      ∃ number, input = number ++ afterTag tag input ∧
        ∀ more, afterTag tag (number ++ more) = more := by
  unfold afterTag
  split
  · exact skipTagNumber_eq input
  · exact .inr ⟨[], rfl, fun _ => rfl⟩

theorem element?_isLocal : IsLocal element? := by
  intro input e rest found
  cases input with
  | nil => cases found
  | cons tag input =>
    rw [element?_cons] at found
    obtain ⟨⟨length, body⟩, counted, taken⟩ := Option.bind_eq_some_iff.mp found
    dsimp only at taken
    split at taken
    · cases taken
    · rename_i enough
      cases taken
      rcases afterTag_eq tag input with nothing | ⟨number, whole, ends⟩
      · rw [nothing] at counted
        cases counted
      · obtain ⟨lengthBytes, split, leads⟩ := length?_isLocal counted
        have taken : (body.take length).length = length :=
          List.length_take_of_le (Nat.le_of_not_lt enough)
        refine ⟨tag :: (number ++ (lengthBytes ++ body.take length)), ?_, fun more => ?_⟩
        · rw [List.cons_append, List.append_assoc, List.append_assoc, List.take_append_drop, ← split,
            ← whole]
        · have room : ¬ (body.take length ++ more).length < length := by
            rw [List.length_append]
            omega
          rw [List.cons_append, List.append_assoc, List.append_assoc, element?_cons, ends, leads,
            Option.bind_some]
          dsimp only
          rw [if_neg room, List.take_left' taken, List.drop_left' taken]

theorem expect?_isLocal (tag : UInt8) : IsLocal (expect? tag) := by
  let content? (e : Element) : Option (List UInt8) := if e.tag = tag then some e.content else none
  have same : expect? tag = fun input => do
      let (e, rest) ← element? input
      return (← content? e, rest) := by
    funext input
    unfold expect?
    cases element? input with
    | none => rfl
    | some found =>
      obtain ⟨e, rest⟩ := found
      by_cases tagged : e.tag = tag <;> simp [content?, tagged]
  rw [same]
  exact element?_isLocal.within content?

theorem head?_of_element? {input rest : List UInt8} {e : Element}
    (found : element? input = some (e, rest)) : input.head? = some e.tag := by
  cases input with
  | nil => cases found
  | cons tag input =>
    rw [element?_cons] at found
    obtain ⟨⟨length, body⟩, -, taken⟩ := Option.bind_eq_some_iff.mp found
    dsimp only at taken
    split at taken <;> cases taken
    rfl

theorem head?_of_expect? {tag : UInt8} {input content rest : List UInt8}
    (found : expect? tag input = some (content, rest)) : input.head? = some tag := by
  unfold expect? at found
  split at found
  · rename_i e left element
    split at found <;> cases found
    rename_i tagged
    exact tagged ▸ head?_of_element? element
  · cases found

end OpcUa.Der
