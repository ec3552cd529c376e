import Mathlib.Algebra.Group.Nat.Defs
import OpcUa.Proofs.Text.Digits
import OpcUa.Proofs.Time.Calendar
import OpcUa.Time.Rfc3339

/-!
# Instants as text

The text of an instant reads back as the instant, unless it lies in a leap second that no minute
ends with: a sixtieth second is the only one that a text can tell from the next. Each part of the
text is read back in front of whatever follows it.
-/

namespace OpcUa.Instant

open OpcUa.Text OpcUa.Decimal

theorem isBlank_of_isDigit {c : Char} (digit : c.isDigit = true) : isBlank c = false := by
  have : 48 ≤ c.toNat ∧ c.toNat ≤ 57 := Char.isDigit_iff_toNat.mp digit
  simp only [isBlank, Bool.or_eq_false_iff, Bool.and_eq_false_iff, decide_eq_false_iff_not,
    beq_eq_false_iff_ne]
  omega

theorem skipBlanks_cons {c : Char} {rest : List Char} (dark : isBlank c = false) :
    skipBlanks (c :: rest) = c :: rest := by
  simp [skipBlanks, dark]

@[simp] theorem skipBlanks_nil : skipBlanks [] = [] :=
  rfl

theorem skipBlanks_digits {digits : List Char} (all : ∀ c ∈ digits, c.isDigit = true)
    (some : digits ≠ []) (rest : List Char) : skipBlanks (digits ++ rest) = digits ++ rest := by
  obtain ⟨c, others, rfl⟩ := List.exists_cons_of_ne_nil some
  exact skipBlanks_cons (isBlank_of_isDigit (all c (List.mem_cons_self ..)))

/-! ### Numbers -/

theorem toList_padded (width n : Nat) : (padded width n).toList =
    List.replicate (width - (Nat.toDigits 10 n).length) '0' ++ Nat.toDigits 10 n := by
  simp [padded, Nat.toList_repr]

theorem isDigit_of_mem_padded {width n : Nat} {c : Char} (member : c ∈ (padded width n).toList) :
    c.isDigit = true := by
  rw [toList_padded, List.mem_append] at member
  rcases member with zero | digit
  · rw [(List.mem_replicate.mp zero).2]
    rfl
  · exact Nat.isDigit_of_mem_toDigits (by decide) (by decide) digit

theorem padded_ne_nil (width n : Nat) : (padded width n).toList ≠ [] := by
  simp [toList_padded, Nat.toDigits_ne_nil]

theorem length_padded {width n : Nat} (some : 0 < width) (fits : n < 10 ^ width) :
    (padded width n).toList.length = width := by
  have := (Nat.length_toDigits_le_iff (by decide) some).mpr fits
  rw [toList_padded, List.length_append, List.length_replicate]
  omega

theorem valueFrom_padded (width n : Nat) : valueFrom 0 (padded width n).toList = n := by
  rw [toList_padded, valueFrom_zeros, valueFrom_toDigits]

/-- Digits are read to their end, or to as many as may be read. -/
theorem number?_append {most : Nat} {digits rest : List Char}
    (all : ∀ c ∈ digits, c.isDigit = true) (some : digits ≠ []) (fits : digits.length ≤ most)
    (stops : digits.length = most ∨ ∀ c ∈ rest.head?, c.isDigit = false) :
    number? most (digits ++ rest) = Option.some (valueFrom 0 digits, rest) := by
  have read : ((digits ++ rest).take most).takeWhile Char.isDigit = digits := by
    rw [List.take_append, List.take_of_length_le fits, List.takeWhile_append_of_pos all]
    rcases stops with full | stops
    · simp [full]
    · cases rest with
      | nil => simp
      | cons c rest =>
        cases most - digits.length with
        | zero => simp
        | succ _ => simp [stops c rfl]
  simp [number?, read, some, valueFrom]

theorem pair?_padded {n : Nat} (fits : n < 100) (rest : List Char) :
    pair? ((padded 2 n).toList ++ rest) = some (n, rest) := by
  have digits : ∀ c ∈ (padded 2 n).toList, c.isDigit = true := fun c => isDigit_of_mem_padded
  have length := length_padded (show 0 < 2 by decide) fits
  rw [pair?, skipBlanks_digits digits (padded_ne_nil 2 n),
    number?_append digits (padded_ne_nil 2 n) (by omega) (.inl length), valueFrom_padded]

theorem mark?_cons {c : Char} (dark : isBlank c = false) (rest : List Char) :
    mark? c (c :: rest) = some rest := by
  simp [mark?, skipBlanks_cons dark]

theorem year?_yearText (year : Int) (rest : List Char) :
    year? ((yearText year).toList ++ '-' :: rest) = some (year, '-' :: rest) := by
  have digits : ∀ n, ∀ c ∈ (padded 4 n).toList, c.isDigit = true :=
    fun n c => isDigit_of_mem_padded
  have signed : ∀ n, number? ((padded 4 n).toList ++ '-' :: rest).length
      ((padded 4 n).toList ++ '-' :: rest) = some (n, '-' :: rest) := by
    intro n
    rw [number?_append (digits n) (padded_ne_nil 4 n) (by simp) (.inr (by simp)),
      valueFrom_padded]
  rw [yearText]
  split
  · rename_i plain
    have length := length_padded (show 0 < 4 by decide) (show year.toNat < 10 ^ 4 by omega)
    obtain ⟨c, others, spelled⟩ := List.exists_cons_of_ne_nil (padded_ne_nil 4 year.toNat)
    have digit : c.isDigit = true := digits year.toNat c (by simp [spelled])
    have read : number? 4 (c :: (others ++ '-' :: rest)) = some (year.toNat, '-' :: rest) := by
      rw [← List.cons_append, ← spelled,
        number?_append (digits _) (padded_ne_nil _ _) (by omega) (.inl length), valueFrom_padded]
    rw [year?, skipBlanks_digits (digits _) (padded_ne_nil _ _), spelled, List.cons_append]
    split
    · rename_i minus
      cases minus
      cases digit
    · rename_i plus
      cases plus
      cases digit
    · rw [read]
      simp only [Option.map_some, Int.toNat_of_nonneg plain.1]
  · split
    · rename_i positive
      rw [String.toList_append]
      show year? ('+' :: ((padded 4 year.toNat).toList ++ '-' :: rest)) = _
      rw [year?, skipBlanks_cons (by decide)]
      simp only [signed, Option.map_some, Int.toNat_of_nonneg positive]
    · rename_i negative
      rw [String.toList_append]
      show year? ('-' :: ((padded 4 (-year).toNat).toList ++ '-' :: rest)) = _
      rw [year?, skipBlanks_cons (by decide)]
      have size : ((-year).toNat : Int) = -year := Int.toNat_of_nonneg (by omega)
      simp only [signed, Option.map_some, size, Int.neg_neg]

/-! ### Fractions of a second -/

/-- Digits after a point are read as so many thousand-millionths. -/
theorem fraction?_point {width n nanos : Nat} (some : 0 < width) (bound : width ≤ 9)
    (fits : n < 10 ^ width) (exact : n * 10 ^ (9 - width) = nanos) :
    fraction? (("." ++ padded width n).toList ++ ['Z']) = Option.some (nanos, ['Z']) := by
  have length := length_padded some fits
  have read : number? 9 ((padded width n).toList ++ ['Z']) = Option.some (n, ['Z']) := by
    rw [number?_append (fun c => isDigit_of_mem_padded) (padded_ne_nil width n) (by omega)
      (.inr (by simp)), valueFrom_padded]
  rw [String.toList_append]
  simp [fraction?, read, length, exact]

theorem fraction?_fractionText {nanos : Nat} (fits : nanos < 1000000000) :
    fraction? ((fractionText nanos).toList ++ ['Z']) = some (nanos, ['Z']) := by
  rw [fractionText]
  split
  · rename_i none
    rw [none]
    rfl
  · split
    · exact fraction?_point (by decide) (by decide) (by omega) (by omega)
    · split
      · exact fraction?_point (by decide) (by decide) (by omega) (by omega)
      · exact fraction?_point (by decide) (by decide) fits (by omega)

/-! ### Whole instants -/

theorem of?_eq_some {seconds : Int} {nanos : Nat} {t : Instant} (second : t.seconds = seconds)
    (fraction : t.nanos = nanos) : of? seconds nanos = some t := by
  obtain ⟨_, _, inRange⟩ := t
  cases second
  cases fraction
  rw [of?, dif_pos inRange]

/-- Past a whole second only in the last second of a minute, where leap seconds belong. -/
def IsRegular (t : Instant) : Prop :=
  t.nanos < 1000000000 ∨ t.seconds % 60 = 59

instance (t : Instant) : Decidable t.IsRegular :=
  inferInstanceAs (Decidable (_ ∨ _))

theorem day_succ {seconds : Int} (inside : seconds % 60 ≠ 59) :
    (seconds + 1) / 86400 = seconds / 86400 := by
  omega

theorem inRange_succ {t : Instant} (late : ¬ t.IsRegular) :
    inRange (t.seconds + 1) (t.nanos - 1000000000) = true := by
  have small := t.nanos_lt
  rw [inRange, day_succ fun last => late (.inr last), t.isYear, Bool.true_and]
  exact decide_eq_true (by omega)

/-- The instant that the text spells: for a leap second inside a minute it is the next second. -/
def spelled (t : Instant) : Instant :=
  if regular : t.IsRegular then t
  else ⟨t.seconds + 1, t.nanos - 1000000000, inRange_succ regular⟩

theorem spelled_eq_self_iff {t : Instant} : t.spelled = t ↔ t.IsRegular := by
  constructor
  · intro same
    by_cases regular : t.IsRegular
    · exact regular
    · have later := congrArg seconds same
      rw [spelled, dif_neg regular] at later
      exact absurd later (show ¬t.seconds + 1 = t.seconds by omega)
  · exact fun regular => dif_pos regular

theorem text_spelled (t : Instant) : t.spelled.text = t.text := by
  by_cases regular : t.IsRegular
  · rw [spelled, dif_pos regular]
  · rw [spelled, dif_neg regular]
    have small := t.nanos_lt
    obtain ⟨leaps, inside⟩ := not_or.mp regular
    have next : ((t.seconds + 1) % 86400).toNat = (t.seconds % 86400).toNat + 1 := by omega
    have hour : ((t.seconds % 86400).toNat + 1) / 3600 = (t.seconds % 86400).toNat / 3600 := by
      omega
    have minute : ((t.seconds % 86400).toNat + 1) / 60 = (t.seconds % 86400).toNat / 60 := by omega
    have second : ((t.seconds % 86400).toNat + 1) % 60 = (t.seconds % 86400).toNat % 60 + 1 := by
      omega
    have fraction : (t.nanos - 1000000000) % 1000000000 = t.nanos % 1000000000 := by omega
    have whole : ¬1000000000 ≤ t.nanos - 1000000000 := by omega
    have leap : 1000000000 ≤ t.nanos := by omega
    simp only [text, dateText, clockText, day_succ inside, next, hour, minute, second, fraction,
      if_neg whole, if_pos leap, Nat.add_zero]

/-- The seconds and nanoseconds of a clock, with the leap second in the last second of a minute. -/
theorem ofCivil?_clock {t : Instant} {days : Int} {year : Int} {month day : Nat}
    {hour minute second nanos : Nat} (years : Calendar.isYear year = true)
    (date : Calendar.isDate year month day = true)
    (told : Calendar.ofDays days = (year, month, day)) (hours : hour ≤ 23) (minutes : minute ≤ 59)
    (clock : t.seconds =
      days * 86400 + hour * 3600 + minute * 60 + (if second = 60 then 59 else second))
    (seconds : second ≤ 60) (rest : (if second = 60 then nanos + 1000000000 else nanos) = t.nanos) :
    ofCivil? year month day hour minute second nanos 0 = some t := by
  have counted : Calendar.toDays year month day = days := by
    have := Calendar.toDays_ofDays days
    rwa [told] at this
  simp only [ofCivil?, years, date, hours, minutes, seconds, decide_true, Bool.and_self, if_true,
    beq_iff_eq, counted, rest]
  refine of?_eq_some ?_ rfl
  rw [clock]
  split <;> omega

/-- The parts of the text are those of the instant that it spells. -/
theorem ofCivil?_parts {t : Instant} {year : Int} {month day : Nat}
    (days : Calendar.ofDays (t.seconds / 86400) = (year, month, day)) :
    ofCivil? year month day ((t.seconds % 86400).toNat / 3600) ((t.seconds % 86400).toNat / 60 % 60)
      ((t.seconds % 86400).toNat % 60 + if 1000000000 ≤ t.nanos then 1 else 0)
      (t.nanos % 1000000000) 0 = some t.spelled := by
  have years := t.isYear
  have date := Calendar.isDate_ofDays (t.seconds / 86400)
  have small := t.nanos_lt
  rw [days] at years date
  by_cases regular : t.IsRegular
  · rw [spelled, dif_pos regular]
    rcases Nat.lt_or_ge t.nanos 1000000000 with whole | leaps
    · rw [if_neg (by omega), Nat.add_zero]
      refine ofCivil?_clock years date days (by omega) (by omega) ?_ (by omega) ?_
      · rw [if_neg (by omega)]
        omega
      · rw [if_neg (by omega)]
        omega
    · have last : t.seconds % 60 = 59 := regular.resolve_left (by omega)
      rw [if_pos leaps]
      refine ofCivil?_clock years date days (by omega) (by omega) ?_ (by omega) ?_
      · rw [if_pos (by omega)]
        omega
      · rw [if_pos (by omega)]
        omega
  · rw [spelled, dif_neg regular]
    obtain ⟨leaps, inside⟩ := not_or.mp regular
    rw [if_pos (by omega)]
    refine ofCivil?_clock years date days (by omega) (by omega) ?_ (by omega) ?_
    · rw [if_neg (by omega)]
      show t.seconds + 1 = _
      omega
    · rw [if_neg (by omega)]
      show _ = t.nanos - 1000000000
      omega

theorem ofText?_text (t : Instant) : ofText? t.text = some t.spelled := by
  rcases days : Calendar.ofDays (t.seconds / 86400) with ⟨year, month, day⟩
  have date := Calendar.isDate_ofDays (t.seconds / 86400)
  simp only [days, Calendar.isDate, Bool.and_eq_true, decide_eq_true_eq] at date
  obtain ⟨⟨⟨-, months⟩, -⟩, length⟩ := date
  have within := Calendar.monthLength_le year month
  have dash : ∀ rest, mark? '-' ('-' :: rest) = some rest := mark?_cons (by decide)
  have colon : ∀ rest, mark? ':' (':' :: rest) = some rest := mark?_cons (by decide)
  have second : ((t.seconds % 86400).toNat % 60 + if 1000000000 ≤ t.nanos then 1 else 0) < 100 := by
    split <;> omega
  have fraction := fraction?_fractionText (Nat.mod_lt t.nanos (show 0 < 1000000000 by decide))
  have zulu : offset? (skipBlanks ['Z']) = some (0, []) := by decide
  rw [ofText?, text, dateText, days, clockText]
  simp only [String.toList_append, List.append_assoc]
  rw [show "-".toList = ['-'] from rfl, show ":".toList = [':'] from rfl,
    show "T".toList = ['T'] from rfl, show "Z".toList = ['Z'] from rfl]
  simp only [List.cons_append, List.nil_append]
  -- The parts one by one, in the order in which they are read.
  refine Option.bind_eq_some_iff.mpr ⟨_, year?_yearText year _, ?_⟩
  refine Option.bind_eq_some_iff.mpr ⟨_, dash _, ?_⟩
  refine Option.bind_eq_some_iff.mpr ⟨_, pair?_padded (by omega) _, ?_⟩
  refine Option.bind_eq_some_iff.mpr ⟨_, dash _, ?_⟩
  refine Option.bind_eq_some_iff.mpr ⟨_, pair?_padded (by omega) _, ?_⟩
  dsimp only
  rw [if_pos (.inl rfl), Option.bind_eq_bind, Option.bind_some]
  refine Option.bind_eq_some_iff.mpr ⟨_, pair?_padded (by omega) _, ?_⟩
  refine Option.bind_eq_some_iff.mpr ⟨_, colon _, ?_⟩
  refine Option.bind_eq_some_iff.mpr ⟨_, pair?_padded (by omega) _, ?_⟩
  refine Option.bind_eq_some_iff.mpr ⟨_, colon _, ?_⟩
  refine Option.bind_eq_some_iff.mpr ⟨_, pair?_padded second _, ?_⟩
  refine Option.bind_eq_some_iff.mpr ⟨_, fraction, ?_⟩
  refine Option.bind_eq_some_iff.mpr ⟨_, zulu, ?_⟩
  exact (if_pos ⟨rfl, by decide⟩).trans (ofCivil?_parts days)

end OpcUa.Instant
