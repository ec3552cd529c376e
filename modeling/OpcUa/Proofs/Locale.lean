import OpcUa.Locale
import OpcUa.Proofs.Json.Record
import OpcUa.Proofs.Text.Blank
import OpcUa.Proofs.Text.CaseMap

/-!
# Texts of locales

A locale is read from its language and its country, whatever their case, the separator between them
and the blanks around them, and from nothing else. Its canonical id is one of its texts.
-/

namespace OpcUa.Locale

variable {text : String} {l : Locale} {language country : List Char}

/-- The texts of a language and a country. Without a separator there is no country; after one it
may be empty. -/
inductive Spells : List Char → List Char → List Char → Prop
  | language {language : List Char} (some_letter : language ≠ [])
      (letters : ∀ c ∈ language, c.isAlpha = true) : Spells language language []
  | country {language country : List Char} {separator : Char} (some_letter : language ≠ [])
      (letters : ∀ c ∈ language, c.isAlpha = true) (separates : separator = '-' ∨ separator = '_')
      (characters : ∀ c ∈ country, c.isAlphanum = true) :
      Spells (language ++ separator :: country) language country

/-- A language in small letters, with a country in capitals if it is not empty. -/
def canonical (language country : List Char) : Locale where
  language := String.ofList (language.map Char.toLower)
  country := if country = [] then none else some (String.ofList (country.map Char.toUpper))

theorem isAlphanum_of_isAlpha {c : Char} (letter : c.isAlpha = true) : c.isAlphanum = true := by
  rw [Char.isAlphanum, letter, Bool.true_or]

theorem not_isSeparator_of_isAlphanum {c : Char} (plain : c.isAlphanum = true) :
    isSeparator c = false := by
  rw [isSeparator, Bool.or_eq_false_iff, beq_eq_false_iff_ne, beq_eq_false_iff_ne]
  constructor <;> rintro rfl <;> exact absurd plain (by decide)

theorem isSeparator_iff {c : Char} : isSeparator c = true ↔ c = '-' ∨ c = '_' := by
  rw [isSeparator, Bool.or_eq_true, beq_iff_eq, beq_iff_eq]

/-! ### Reading -/

theorem of_eq_canonical (letters : ∀ c ∈ language, c.isAlpha = true)
    (characters : ∀ c ∈ country, c.isAlphanum = true) :
    of (String.ofList language) (some (String.ofList country)) = canonical language country := by
  have asciiLanguage : ∀ c ∈ language, c.toNat < 128 := fun c member =>
    Text.ascii_of_isAlphanum (isAlphanum_of_isAlpha (letters c member))
  have asciiCountry : ∀ c ∈ country, c.toNat < 128 := fun c member =>
    Text.ascii_of_isAlphanum (characters c member)
  unfold of canonical
  rw [Text.toLower_of_ascii asciiLanguage]
  cases country with
  | nil => rfl
  | cons c rest =>
    rw [Option.filter_some_pos (by simp), Option.map_some,
      Text.toUpper_of_ascii asciiCountry, if_neg (List.cons_ne_nil _ _)]

theorem of_none_eq_canonical (letters : ∀ c ∈ language, c.isAlpha = true) :
    of (String.ofList language) none = canonical language [] := by
  have nothing : ∀ c ∈ ([] : List Char), c.isAlphanum = true := by simp
  exact of_eq_canonical letters nothing

/-- Letters reach up to the first separator. -/
theorem span_letters {rest : List Char} (letters : ∀ c ∈ language, c.isAlpha = true)
    (stops : ∀ c ∈ rest.head?, isSeparator c = true) :
    (language ++ rest).span (fun c => !isSeparator c) = (language, rest) := by
  have passed : ∀ c ∈ language, (!isSeparator c) = true := by
    intro c member
    rw [not_isSeparator_of_isAlphanum (isAlphanum_of_isAlpha (letters c member)), Bool.not_false]
  have ended : ∀ c ∈ rest.head?, (!isSeparator c) = false := by
    intro c first
    rw [stops c first, Bool.not_true]
  rw [List.span_eq_takeWhile_dropWhile, Text.takeWhile_append_of_stop passed ended,
    Text.dropWhile_append_of_stop passed ended]

theorem spells_of_ofText (read : ofText text = .ok l) :
    ∃ language country, Spells (Text.trimmed text.toList) language country ∧
      l = canonical language country := by
  unfold ofText at read
  generalize Text.trimmed text.toList = inner at read ⊢
  rw [List.span_eq_takeWhile_dropWhile] at read
  have whole := List.takeWhile_append_dropWhile (p := fun c => !isSeparator c) (l := inner)
  have stops := Text.head?_dropWhile (fun c => !isSeparator c) inner
  generalize inner.takeWhile (fun c => !isSeparator c) = language,
    inner.dropWhile (fun c => !isSeparator c) = rest at read whole stops
  subst whole
  dsimp only at read
  split at read
  · cases read
  · rename_i sound
    cases read
    simp only [Bool.or_eq_true, Bool.not_eq_true', not_or, Bool.not_eq_true, Bool.not_eq_false,
      List.isEmpty_eq_false_iff, List.all_eq_true] at sound
    obtain ⟨⟨some_letter, letters⟩, characters⟩ := sound
    cases rest with
    | nil =>
      refine ⟨language, [], ?_, of_none_eq_canonical letters⟩
      rw [List.append_nil]
      exact .language some_letter letters
    | cons separator country =>
      have separates : isSeparator separator = true := by simpa using stops separator rfl
      refine ⟨language, country, ?_, of_eq_canonical letters characters⟩
      exact .country some_letter letters (isSeparator_iff.mp separates) characters

theorem ofText_of_spells (spelled : Spells (Text.trimmed text.toList) language country) :
    ofText text = .ok (canonical language country) := by
  unfold ofText
  generalize Text.trimmed text.toList = inner at spelled ⊢
  cases spelled with
  | language some_letter letters =>
    have nothing : ∀ c ∈ ([] : List Char).head?, isSeparator c = true := by simp
    have split := span_letters letters nothing
    rw [List.append_nil] at split
    rw [split]
    simp only [List.drop_nil, List.all_nil, Bool.not_true, Bool.or_false, List.isEmpty_nil, if_true]
    rw [if_neg (by simpa [some_letter] using letters), of_none_eq_canonical letters]
  | @country _ _ separator some_letter letters separates characters =>
    have stops : ∀ c ∈ (separator :: country).head?, isSeparator c = true := by
      simpa using isSeparator_iff.mpr separates
    rw [span_letters letters stops]
    simp only [List.drop_one, List.tail_cons, List.isEmpty_cons, Bool.false_eq_true, if_false]
    rw [if_neg (by simpa [some_letter] using ⟨letters, characters⟩),
      of_eq_canonical letters characters]

theorem ofText_eq_ok_iff : ofText text = .ok l ↔ ∃ language country,
    Spells (Text.trimmed text.toList) language country ∧ l = canonical language country := by
  constructor
  · exact spells_of_ofText
  · rintro ⟨language, country, spelled, rfl⟩
    exact ofText_of_spells spelled

/-! ### Spellings of one locale -/

/-- A small letter for a capital one, and the hyphen for the underscore. -/
def foldChar (c : Char) : Char :=
  if c = '_' then '-' else c.toLower

/-- A text without the blanks around it, in small letters and with hyphens alone. -/
def folded (text : String) : List Char :=
  (Text.trimmed text.toList).map foldChar

theorem toLower_eq_of_foldChar {c d : Char} (plain : c.isAlphanum = true)
    (same : foldChar c = foldChar d) : c.toLower = d.toLower := by
  have other : c ≠ '_' := by
    rintro rfl
    exact absurd plain (by decide)
  unfold foldChar at same
  rw [if_neg other] at same
  split at same
  · rw [← Text.isAlphanum_toLower, same] at plain
    exact absurd plain (by decide)
  · exact same

theorem separates_of_foldChar {c d : Char} (separates : c = '-' ∨ c = '_')
    (same : foldChar c = foldChar d) : d = '-' ∨ d = '_' := by
  have hyphen : foldChar c = '-' := by rcases separates with rfl | rfl <;> rfl
  rw [hyphen, foldChar] at same
  split at same
  · exact .inr ‹_›
  · by_cases upper : d.isUpper = true
    · have letter : d.toLower.isAlpha = true := by
        rw [Char.isAlpha_toLower_eq_isAlpha, Char.isAlpha, upper, Bool.true_or]
      rw [← same] at letter
      exact absurd letter (by decide)
    · rw [Char.toLower_eq_of_not_isUpper upper] at same
      exact .inl same.symm

theorem map_toLower_of_fold {a b : List Char} (plain : ∀ c ∈ a, c.isAlphanum = true)
    (same : a.map foldChar = b.map foldChar) : a.map Char.toLower = b.map Char.toLower := by
  induction a generalizing b with
  | nil => rw [List.map_eq_nil_iff.mp same.symm]
  | cons c a ih =>
    obtain ⟨d, rest, rfl, first, later⟩ := List.map_eq_cons_iff.mp same.symm
    obtain ⟨one, others⟩ := List.forall_mem_cons.mp plain
    rw [List.map_cons, List.map_cons, toLower_eq_of_foldChar one first.symm, ih others later.symm]

/-- What does not depend on case holds of all characters of a text in either case. -/
theorem forall_mem_of_map_toLower {p : Char → Bool} (caseless : ∀ c, p c.toLower = p c)
    {a b : List Char} (same : a.map Char.toLower = b.map Char.toLower)
    (all : ∀ c ∈ a, p c = true) : ∀ c ∈ b, p c = true := by
  have lowered : ∀ c ∈ b.map Char.toLower, p c = true := by
    rw [← same]
    intro c member
    obtain ⟨d, held, rfl⟩ := List.mem_map.mp member
    rw [caseless, all d held]
  intro c member
  rw [← caseless, lowered _ (List.mem_map_of_mem member)]

theorem canonical_congr {language' country' : List Char}
    (language_same : language.map Char.toLower = language'.map Char.toLower)
    (country_same : country.map Char.toLower = country'.map Char.toLower) :
    canonical language country = canonical language' country' := by
  have capitals (a : List Char) : a.map Char.toUpper = (a.map Char.toLower).map Char.toUpper := by
    simp
  have empty : country = [] ↔ country' = [] := by
    rw [← List.map_eq_nil_iff (f := Char.toLower), country_same, List.map_eq_nil_iff]
  unfold canonical
  rw [language_same, capitals country, country_same, ← capitals]
  simp only [empty]

theorem spells_of_fold {a b : List Char} (spelled : Spells a language country)
    (same : a.map foldChar = b.map foldChar) :
    ∃ language' country', Spells b language' country' ∧
      canonical language' country' = canonical language country := by
  have lettered {a b : List Char} (letters : ∀ c ∈ a, c.isAlpha = true) (some_letter : a ≠ [])
      (same : a.map foldChar = b.map foldChar) :
      a.map Char.toLower = b.map Char.toLower ∧ b ≠ [] ∧ ∀ c ∈ b, c.isAlpha = true := by
    have plain (c : Char) (member : c ∈ a) : c.isAlphanum = true :=
      isAlphanum_of_isAlpha (letters c member)
    have lowered := map_toLower_of_fold plain same
    refine ⟨lowered, ?_, forall_mem_of_map_toLower Char.isAlpha_toLower_eq_isAlpha lowered letters⟩
    rintro rfl
    exact some_letter (List.map_eq_nil_iff.mp same)
  cases spelled with
  | language some_letter letters =>
    obtain ⟨lowered, present, all⟩ := lettered letters some_letter same
    exact ⟨b, [], .language present all, canonical_congr lowered.symm rfl⟩
  | @country _ _ separator some_letter letters separates characters =>
    rw [List.map_append, List.map_cons, eq_comm] at same
    obtain ⟨language', rest, rfl, first, later⟩ := List.map_eq_append_iff.mp same
    obtain ⟨separator', country', rfl, between, last⟩ := List.map_eq_cons_iff.mp later
    obtain ⟨lowered, present, all⟩ := lettered letters some_letter first.symm
    have lowered' := map_toLower_of_fold characters last.symm
    refine ⟨language', country', .country present all ?_ ?_, ?_⟩
    · exact separates_of_foldChar separates between.symm
    · exact forall_mem_of_map_toLower Text.isAlphanum_toLower lowered' characters
    · exact canonical_congr lowered.symm lowered'.symm

theorem ofText_of_folded {a b : String} (same : folded a = folded b) (read : ofText a = .ok l) :
    ofText b = .ok l := by
  obtain ⟨language, country, spelled, rfl⟩ := spells_of_ofText read
  obtain ⟨language', country', spelled', alike⟩ := spells_of_fold spelled same
  rw [ofText_of_spells spelled', alike]

theorem Spells.not_blank {inner : List Char} (spelled : Spells inner language country) :
    ∀ c ∈ inner, Text.isBlank c = false := by
  have lettered (letters : ∀ c ∈ language, c.isAlpha = true) :
      ∀ c ∈ language, Text.isBlank c = false := fun c member =>
    Text.not_isBlank_of_isAlphanum (isAlphanum_of_isAlpha (letters c member))
  intro c member
  cases spelled with
  | language some_letter letters => exact lettered letters c member
  | country some_letter letters separates characters =>
    rcases List.mem_append.mp member with early | late
    · exact lettered letters c early
    · rcases List.mem_cons.mp late with rfl | later
      · rcases separates with rfl | rfl <;> rfl
      · exact Text.not_isBlank_of_isAlphanum (characters c later)

theorem toOption_congr {a b : Except Fault Locale} (same : ∀ l, a = .ok l ↔ b = .ok l) :
    a.toOption = b.toOption := by
  cases a with
  | ok l => rw [(same l).mp rfl]
  | error fault =>
    cases b with
    | ok l => cases (same l).mpr rfl
    | error fault => rfl

theorem ofText_unfollowed {letters : List Char} {separator : Char}
    (all : ∀ c ∈ letters, c.isAlpha = true) (separates : separator = '-' ∨ separator = '_') :
    (ofText (String.ofList (letters ++ [separator]))).toOption =
      (ofText (String.ofList letters)).toOption := by
  by_cases some_letter : letters = []
  · subst some_letter
    rcases separates with rfl | rfl <;> decide
  · have alone : Spells letters letters [] := .language some_letter all
    have followed : Spells (letters ++ [separator]) letters [] :=
      .country some_letter all separates (by simp)
    have read {inner : List Char} (spelled : Spells inner letters []) :
        ofText (String.ofList inner) = .ok (canonical letters []) := by
      refine ofText_of_spells ?_
      rwa [String.toList_ofList, Text.trimmed_of_not_blank spelled.not_blank]
    rw [read alone, read followed]

/-! ### The canonical id -/

theorem toList_id_canonical (language country : List Char) :
    (canonical language country).id.toList =
      language.map Char.toLower ++
        if country = [] then [] else '-' :: country.map Char.toUpper := by
  unfold canonical id
  by_cases empty : country = []
  · simp [empty]
  · simp [empty]

theorem Spells.sound {inner : List Char} (spelled : Spells inner language country) :
    language ≠ [] ∧ (∀ c ∈ language, c.isAlpha = true) ∧ ∀ c ∈ country, c.isAlphanum = true := by
  cases spelled with
  | language some_letter letters => exact ⟨some_letter, letters, by simp⟩
  | country some_letter letters separates characters => exact ⟨some_letter, letters, characters⟩

theorem spells_id {inner : List Char} (spelled : Spells inner language country) :
    Spells (canonical language country).id.toList (language.map Char.toLower)
      (country.map Char.toUpper) := by
  obtain ⟨some_letter, letters, characters⟩ := spelled.sound
  have present : language.map Char.toLower ≠ [] := by simpa using some_letter
  have small : ∀ c ∈ language.map Char.toLower, c.isAlpha = true := by simpa using letters
  have capital : ∀ c ∈ country.map Char.toUpper, c.isAlphanum = true := by
    intro c member
    obtain ⟨d, held, rfl⟩ := List.mem_map.mp member
    rw [← Text.isAlphanum_toLower, Char.toLower_toUpper_eq_toLower, Text.isAlphanum_toLower]
    exact characters d held
  rw [toList_id_canonical]
  split
  · subst country
    rw [List.append_nil]
    exact .language present small
  · exact .country present small (.inl rfl) capital

/-- The canonical id of a locale that was read is read as this locale. -/
theorem ofText_id (read : ofText text = .ok l) : ofText l.id = .ok l := by
  obtain ⟨language, country, spelled, rfl⟩ := spells_of_ofText read
  have own := spells_id spelled
  have settled : canonical (language.map Char.toLower) (country.map Char.toUpper) =
      canonical language country := canonical_congr (by simp) (by simp)
  rw [← Text.trimmed_of_not_blank own.not_blank] at own
  rw [ofText_of_spells own, settled]

theorem ofJson?_toJson (read : ofText text = .ok l) : ofJson? l.toJson = some l := by
  unfold ofJson? toJson
  simp only [Json.asText?_text, Option.bind_eq_bind, Option.bind_some, ofText_id read]

/-- A locale is read from the texts of a language and a country between blanks, and from no others.
Neither case nor separators nor the blanks make a difference to what is read, nor does a separator
at the end. The canonical id is a language in small letters, and a country in capitals after a
hyphen if there is one; it is read as the same locale, and so is what is written of it. -/
theorem texts_of_locales :
    (∀ text l, ofText text = .ok l ↔ ∃ inner language country,
      Text.IsTrimmed text.toList inner ∧ Spells inner language country ∧
        l = canonical language country) ∧
    (∀ a b, folded a = folded b → (ofText a).toOption = (ofText b).toOption) ∧
    (∀ letters separator, (∀ c ∈ letters, c.isAlpha = true) → separator = '-' ∨ separator = '_' →
      (ofText (String.ofList (letters ++ [separator]))).toOption =
        (ofText (String.ofList letters)).toOption) ∧
    (∀ language country, (canonical language country).id.toList =
      language.map Char.toLower ++ if country = [] then [] else '-' :: country.map Char.toUpper) ∧
    ∀ text l, ofText text = .ok l →
      ofText l.id = .ok l ∧ ofJson? l.toJson = some l ∧
        (Json.parse? l.toJson.bytes).bind ofJson? = some l := by
  refine ⟨fun text l => ?_, fun a b same => ?_, fun letters separator all separates => ?_,
    toList_id_canonical, fun text l read => ⟨ofText_id read, ofJson?_toJson read, ?_⟩⟩
  · rw [ofText_eq_ok_iff]
    simp [Text.isTrimmed_iff]
  · exact toOption_congr fun l => ⟨ofText_of_folded same, ofText_of_folded same.symm⟩
  · rw [ofText_unfollowed all separates]
  · have plain : Json.IsPlain 0 l.toJson := .text l.id
    rw [Json.parse?_bytes plain]
    exact ofJson?_toJson read

end OpcUa.Locale
