import OpcUa.Fault
import OpcUa.Json.Form
import OpcUa.Text.Blank
import OpcUa.Text.CaseMap

/-!
# Locales

A language in small letters with an optional country in capitals, and text in a locale.
-/

namespace OpcUa

structure Locale where
  language : String
  country : Option String
  deriving DecidableEq, Repr

namespace Locale

/-- An empty country counts as none. -/
def of (language : String) (country : Option String) : Locale where
  language := Text.toLower language
  country := (country.filter (· != "")).map Text.toUpper

/-- The canonical id: the language alone, or language and country with a hyphen. -/
def id (l : Locale) : String :=
  match l.country with
  | some country => l.language ++ "-" ++ country
  | none => l.language

def isSeparator (c : Char) : Bool :=
  c == '-' || c == '_'

/-- Letters, then optionally a hyphen or an underscore and any letters and digits, all ASCII, with
blanks around them. -/
def ofText (text : String) : Except Fault Locale :=
  let (language, rest) := (Text.trimmed text.toList).span fun c => !isSeparator c
  let country := rest.drop 1
  if language.isEmpty || !language.all Char.isAlpha || !country.all Char.isAlphanum then
    .error (.localeInvalid text)
  else .ok (of (String.ofList language) (if rest.isEmpty then none else String.ofList country))

def toJson (l : Locale) : Json :=
  .text l.id

def ofJson? (value : Json) : Option Locale := do
  match ofText (← value.asText?) with
  | .ok l => some l
  | .error _ => none

instance : JsonForm Locale where
  toJson := toJson
  ofJson? _ := ofJson?

instance : ToString Locale :=
  ⟨id⟩

end Locale

structure LocalizedText where
  locale : Option String := none
  text : Option String := none
  deriving DecidableEq, Repr

namespace LocalizedText

def of (text : String) (locale : Option Locale) : LocalizedText where
  locale := locale.map Locale.id
  text := some text

/-- Text in no locale. -/
def invariant (text : String) : LocalizedText :=
  of text none

def display (t : LocalizedText) : String :=
  t.text.getD ""

def isEmpty (t : LocalizedText) : Bool :=
  t.display == ""

def toJson (t : LocalizedText) : Json :=
  .object (Json.present "locale" .text t.locale ++ Json.present "text" .text t.text)

def ofJson? (value : Json) : Option LocalizedText := do
  let [locale, text] ← value.fields? ["locale", "text"] | none
  return {
    locale := ← Json.optional Json.asText? locale
    text := ← Json.optional Json.asText? text }

instance : JsonForm LocalizedText where
  toJson := toJson
  ofJson? _ := ofJson?

instance : ToString LocalizedText :=
  ⟨display⟩

end LocalizedText

end OpcUa
