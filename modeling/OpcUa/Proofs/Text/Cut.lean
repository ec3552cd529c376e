import OpcUa.Text.Blank
import OpcUa.Text.Cut
import Mathlib.Data.List.TakeDrop
import Mathlib.Data.List.TakeWhile

/-!
# Cut sequences

A sequence is cut if the mark occurs in it, and the parts with the mark between them are the
sequence again. A text is cut at the first of a character. Lines that end in a mark are cut back
into these lines.
-/

namespace OpcUa.Text

variable {α : Type} [BEq α] [LawfulBEq α] {mark before first rest : List α}

theorem cutInto_eq_some {input : List α} (cut : cutInto mark before input = some (first, rest)) :
    ∃ passed, first = before.reverse ++ passed ∧ input = passed ++ mark ++ rest := by
  induction input generalizing before with
  | nil =>
    rw [cutInto] at cut
    split at cut
    · rename_i none_marked
      cases cut
      refine ⟨[], (List.append_nil _).symm, ?_⟩
      rw [List.isEmpty_iff.mp none_marked]
      rfl
    · cases cut
  | cons a input ih =>
    rw [cutInto] at cut
    split at cut
    · rename_i marked
      cases cut
      obtain ⟨after, whole⟩ := List.isPrefixOf_iff_prefix.mp marked
      refine ⟨[], (List.append_nil _).symm, ?_⟩
      rw [← whole, List.drop_left, List.nil_append]
    · obtain ⟨passed, rfl, rfl⟩ := ih cut
      exact ⟨a :: passed, by simp, rfl⟩

theorem cutInto_eq_none_iff {input : List α} :
    cutInto mark before input = none ↔ ¬ mark <:+: input := by
  induction input generalizing before with
  | nil =>
    rw [cutInto, List.infix_nil]
    cases mark <;> simp
  | cons a input ih =>
    rw [cutInto, List.infix_cons_iff, ← List.isPrefixOf_iff_prefix]
    by_cases marked : mark.isPrefixOf (a :: input) = true
    · simp [marked]
    · simp [marked, ih]

/-- The cut is made at the mark where the part before it has nothing of what the mark begins
with. -/
theorem cutInto_of_not_mem {a : α} (absent : a ∉ first) :
    cutInto (a :: mark) before (first ++ a :: mark ++ rest) =
      some (before.reverse ++ first, rest) := by
  induction first generalizing before with
  | nil =>
    have marked : (a :: mark).isPrefixOf (a :: (mark ++ rest)) = true :=
      List.isPrefixOf_iff_prefix.mpr ⟨rest, rfl⟩
    simp only [List.nil_append, List.cons_append, cutInto, marked, if_true, List.append_nil]
    exact congrArg (fun rest => some (before.reverse, rest)) List.drop_left
  | cons b first ih =>
    obtain ⟨differs, later⟩ := not_or.mp (mt List.mem_cons.mpr absent)
    have unmarked : (a :: mark).isPrefixOf (b :: (first ++ a :: mark ++ rest)) = false := by
      rw [List.isPrefixOf, beq_false_of_ne differs, Bool.false_and]
    rw [List.cons_append, List.cons_append, cutInto, unmarked]
    exact (ih later).trans (by simp)

theorem cutAt?_eq_some {input : List α} (cut : cutAt? mark input = some (first, rest)) :
    input = first ++ mark ++ rest := by
  obtain ⟨passed, rfl, whole⟩ := cutInto_eq_some cut
  exact whole

theorem cutAt?_of_not_mem {a : α} (absent : a ∉ first) :
    cutAt? (a :: mark) (first ++ a :: mark ++ rest) = some (first, rest) :=
  cutInto_of_not_mem absent

theorem cutAt?_eq_none_iff {input : List α} : cutAt? mark input = none ↔ ¬ mark <:+: input :=
  cutInto_eq_none_iff

/-! ### A run of characters at the start -/

section Run

variable {p : Char → Bool} {text rest : List Char}

theorem dropWhile_of_head (stops : ∀ c ∈ text.head?, p c = false) :
    text.dropWhile p = text := by
  cases text with
  | nil => rfl
  | cons c rest => rw [List.dropWhile_cons, stops c rfl, if_neg Bool.false_ne_true]

theorem head?_dropWhile (p : Char → Bool) (text : List Char) :
    ∀ c ∈ (text.dropWhile p).head?, p c = false := by
  intro c first
  have stops := List.head?_dropWhile_not p text
  rwa [Option.mem_def.mp first] at stops

/-- A run of characters reaches up to the first one that cannot belong to it. -/
theorem takeWhile_append_of_stop (all : ∀ c ∈ text, p c = true)
    (stops : ∀ c ∈ rest.head?, p c = false) : (text ++ rest).takeWhile p = text := by
  rw [List.takeWhile_append_of_pos all]
  cases rest with
  | nil => exact List.append_nil text
  | cons c rest => simp [stops c rfl]

theorem dropWhile_append_of_stop (all : ∀ c ∈ text, p c = true)
    (stops : ∀ c ∈ rest.head?, p c = false) : (text ++ rest).dropWhile p = rest := by
  rw [List.dropWhile_append_of_pos all, dropWhile_of_head stops]

end Run

/-! ### A text and one character -/

section Character

variable {mark : Char} {text before after : List Char}

theorem bne_of_not_mem (absent : mark ∉ text) : ∀ c ∈ text, (c != mark) = true := by
  intro c member
  exact bne_iff_ne.mpr fun same => absent (same ▸ member)

theorem splitAtFirst_of_not_mem (absent : mark ∉ text) : splitAtFirst mark text = none := by
  have passed : text.dropWhile (· != mark) = [] :=
    List.dropWhile_eq_nil_iff.mpr (bne_of_not_mem absent)
  rw [splitAtFirst, List.span_eq_takeWhile_dropWhile, passed]

/-- The cut is made at the mark where the part before it has none. -/
theorem splitAtFirst_append (absent : mark ∉ before) (after : List Char) :
    splitAtFirst mark (before ++ mark :: after) = some (before, after) := by
  have passed := bne_of_not_mem absent
  rw [splitAtFirst, List.span_eq_takeWhile_dropWhile, List.takeWhile_append_of_pos passed,
    List.dropWhile_append_of_pos passed]
  simp

theorem splitAtFirst_eq_some_iff : splitAtFirst mark text = some (before, after) ↔
    text = before ++ mark :: after ∧ mark ∉ before := by
  constructor
  · intro split
    by_cases present : mark ∈ text
    · obtain ⟨first, rest, rfl, absent⟩ := List.eq_append_cons_of_mem present
      rw [splitAtFirst_append absent] at split
      cases split
      exact ⟨rfl, absent⟩
    · rw [splitAtFirst_of_not_mem present] at split
      cases split
  · rintro ⟨rfl, absent⟩
    exact splitAtFirst_append absent after

end Character

/-! ### Lines -/

variable {stop : α}

theorem linesInto_of_not_mem {line : List α} (absent : stop ∉ line) (done : List (List α))
    (start rest : List α) : linesInto stop done start (line ++ stop :: rest) =
      linesInto stop ((start.reverse ++ line) :: done) [] rest := by
  induction line generalizing start with
  | nil => simp [linesInto]
  | cons a line ih =>
    obtain ⟨differs, later⟩ := not_or.mp (mt List.mem_cons.mpr absent)
    rw [List.cons_append, linesInto, if_neg (fun same => differs (eq_of_beq same).symm), ih later,
      List.reverse_cons, List.append_assoc, List.singleton_append]

theorem linesInto_flatMap {parts : List (List α)} (absent : ∀ line ∈ parts, stop ∉ line)
    (done : List (List α)) :
    linesInto stop done [] (parts.flatMap (· ++ [stop])) = done.reverse ++ parts := by
  induction parts generalizing done with
  | nil => simp [linesInto]
  | cons line parts ih =>
    obtain ⟨first, later⟩ := List.forall_mem_cons.mp absent
    rw [List.flatMap_cons, List.append_assoc, List.singleton_append, linesInto_of_not_mem first,
      ih later, List.reverse_cons, List.append_assoc]
    rfl

theorem lines_flatMap {parts : List (List α)} (absent : ∀ line ∈ parts, stop ∉ line) :
    lines stop (parts.flatMap (· ++ [stop])) = parts :=
  linesInto_flatMap absent []

omit [LawfulBEq α] in
theorem length_linesInto_le (done : List (List α)) (start input : List α) :
    (linesInto stop done start input).flatten.length ≤
      done.flatten.length + start.length + input.length := by
  induction input generalizing done start with
  | nil =>
    rw [linesInto]
    split <;> simp [List.length_flatten, List.map_reverse, List.sum_reverse, Nat.add_comm]
  | cons a input ih =>
    rw [linesInto]
    split
    · refine Nat.le_trans (ih _ _) ?_
      simp only [List.flatten_cons, List.length_append, List.length_reverse, List.length_cons,
        List.length_nil]
      omega
    · refine Nat.le_trans (ih _ _) ?_
      simp only [List.length_cons]
      omega

omit [LawfulBEq α] in
/-- The lines together are no longer than what they are cut from. -/
theorem length_lines_le (stop : α) (input : List α) :
    (lines stop input).flatten.length ≤ input.length := by
  have within := @length_linesInto_le _ _ stop [] [] input
  simp only [List.flatten_nil, List.length_nil, Nat.zero_add] at within
  exact within

end OpcUa.Text
