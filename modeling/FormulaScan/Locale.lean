/-!
# Locales

Which decimal separator a locale tag asks for. Only the language counts, which is the part of the
tag before the first of the characters `-`, `_`, `.` and `@`, with ASCII capitals made small.
-/

namespace FormulaScan.Locale

/-- Tells whether a character ends the language part of a tag. -/
def endsLanguage (c : Char) : Bool := c == '-' || c == '_' || c == '.' || c == '@'

/-- The language part of a tag, in small ASCII letters. -/
def language (tag : String) : String :=
  String.ofList ((tag.toList.takeWhile fun c => !endsLanguage c).map Char.toLower)

/-- The languages that write a point. -/
def pointLanguages : List String :=
  ["c", "posix", "en", "ga", "he", "hi", "ja", "ko", "ms", "mt", "th", "zh"]

/-- The languages that write a comma. -/
def commaLanguages : List String :=
  ["bg", "ca", "cs", "da", "de", "el", "es", "et", "fi", "fr", "hr", "hu", "id", "it", "lt", "lv",
    "nb", "nl", "nn", "no", "pl", "pt", "ro", "ru", "sk", "sl", "sr", "sv", "tr", "uk", "vi"]

/-- The separator that a language writes, for the languages that are known. -/
def languageSeparator? (language : String) : Option Char :=
  if language ∈ pointLanguages then some '.'
  else if language ∈ commaLanguages then some ','
  else none

/-- The separator that a locale tag asks for. -/
def separator? (tag : String) : Option Char := languageSeparator? (language tag)

/-- No language writes both. -/
theorem notMem_commaLanguages {language : String} (h : language ∈ pointLanguages) :
    language ∉ commaLanguages := by
  revert h language
  decide +kernel

/-- Territory, encoding and letter case do not count, and a script does not make a language. -/
example :
    separator? "de-DE" = some ',' ∧ separator? "FR_fr.UTF-8" = some ',' ∧
      separator? "C" = some '.' ∧ separator? "" = none ∧ separator? "-en" = none := by
  decide +kernel

end FormulaScan.Locale
