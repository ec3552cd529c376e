import OpcUa.Proofs.Text.Cut

/-!
# Trimmed text

What is left of a text between the blanks at its ends neither begins nor ends with a blank, and
nothing else that stands in the text between blanks does so.
-/

namespace OpcUa.Text

variable {text inner : List Char}

/-- A text without the blanks at its ends. -/
structure IsTrimmed (text inner : List Char) : Prop where
  around : ∃ before after, text = before ++ inner ++ after ∧
    (∀ c ∈ before, isBlank c = true) ∧ ∀ c ∈ after, isBlank c = true
  first : ∀ c ∈ inner.head?, isBlank c = false
  last : ∀ c ∈ inner.getLast?, isBlank c = false

theorem IsTrimmed.eq_trimmed (cut : IsTrimmed text inner) : inner = trimmed text := by
  obtain ⟨⟨before, after, rfl, blankBefore, blankAfter⟩, first, last⟩ := cut
  replace blankAfter : ∀ c ∈ after.reverse, isBlank c = true := by simpa using blankAfter
  have firstBack : ∀ c ∈ inner.reverse.head?, isBlank c = false := by simpa using last
  unfold trimmed
  rw [List.append_assoc, List.dropWhile_append_of_pos blankBefore]
  cases inner with
  | nil =>
    have gone : after.dropWhile isBlank = [] := by
      rw [List.dropWhile_eq_nil_iff]
      exact fun c member => blankAfter c (List.mem_reverse.mpr member)
    rw [List.nil_append, gone]
    rfl
  | cons c rest =>
    have kept : (c :: rest ++ after).dropWhile isBlank = c :: rest ++ after :=
      dropWhile_of_head first
    rw [kept, List.reverse_append, List.dropWhile_append_of_pos blankAfter,
      dropWhile_of_head firstBack, List.reverse_reverse]

theorem isTrimmed_trimmed (text : List Char) : IsTrimmed text (trimmed text) := by
  have front := List.takeWhile_append_dropWhile (p := isBlank) (l := text)
  generalize late : text.dropWhile isBlank = rest at front
  have back := List.takeWhile_append_dropWhile (p := isBlank) (l := rest.reverse)
  have kept : trimmed text = (rest.reverse.dropWhile isBlank).reverse := by rw [trimmed, late]
  have split : rest = trimmed text ++ (rest.reverse.takeWhile isBlank).reverse := by
    rw [kept, ← List.reverse_append, back, List.reverse_reverse]
  refine ⟨⟨text.takeWhile isBlank, (rest.reverse.takeWhile isBlank).reverse, ?_, ?_, ?_⟩, ?_, ?_⟩
  · rw [List.append_assoc, ← split, front]
  · intro c member
    exact List.mem_takeWhile_imp member
  · intro c member
    exact List.mem_takeWhile_imp (List.mem_reverse.mp member)
  · intro c first
    refine head?_dropWhile isBlank text c ?_
    rw [late, split, List.head?_append, Option.mem_def.mp first]
    rfl
  · rw [kept, List.getLast?_reverse]
    exact head?_dropWhile isBlank rest.reverse

theorem isTrimmed_iff : IsTrimmed text inner ↔ inner = trimmed text := by
  constructor
  · exact IsTrimmed.eq_trimmed
  · rintro rfl
    exact isTrimmed_trimmed text

/-- A text without blanks is trimmed as it stands. -/
theorem trimmed_of_not_blank (plain : ∀ c ∈ text, isBlank c = false) : trimmed text = text := by
  refine (IsTrimmed.eq_trimmed ⟨⟨[], [], by simp, by simp, by simp⟩, ?_, ?_⟩).symm
  · exact fun c first => plain c (List.mem_of_mem_head? first)
  · exact fun c last => plain c (List.mem_of_mem_getLast? last)

end OpcUa.Text
