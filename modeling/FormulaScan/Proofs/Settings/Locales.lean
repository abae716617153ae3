import FormulaScan.Proofs.Settings.Changes
import Mathlib.Data.List.Forall2
import Mathlib.Logic.ExistsUnique

/-!
# Settings of a locale

The settings of a locale depend on the language part of its tag alone, and on this part only up to
the case of ASCII letters (`ofLocale_by_language`). The language part is said here without the code
that finds it: it is free of delimiters, and a delimiter or nothing follows it (`IsLanguage`).
-/

namespace FormulaScan

namespace Locale

/-- The characters behind which a tag says more than its language. -/
def delimiters : List Char := ['-', '_', '.', '@']

/-- The language part of a tag: what stands before the first delimiter, or the whole tag if there is
none. -/
structure IsLanguage (tag : String) (part : List Char) : Prop where
  behind : ∃ rest, tag.toList = part ++ rest ∧ ∀ c ∈ rest.head?, c ∈ delimiters
  plain : ∀ c ∈ part, c ∉ delimiters

/-- Characters that differ at most in ASCII letter case. -/
inductive SameLetter : Char → Char → Prop where
  | same (c : Char) : SameLetter c c
  | capital {c d : Char} (letter : c.isUpper = true) (small : d.toNat = c.toNat + 32) :
      SameLetter c d
  | small {c d : Char} (letter : d.isUpper = true) (small : c.toNat = d.toNat + 32) :
      SameLetter c d

/-! ## The language part -/

theorem endsLanguage_iff {c : Char} : endsLanguage c = true ↔ c ∈ delimiters := by
  simp [endsLanguage, delimiters, or_assoc]

/-- The language part of a tag is what is taken from its front. -/
theorem isLanguage_iff {tag : String} {part : List Char} :
    IsLanguage tag part ↔ part = tag.toList.takeWhile fun c => !endsLanguage c := by
  constructor
  · intro isPart
    obtain ⟨⟨rest, parts, stops⟩, plain⟩ := isPart
    rw [parts]
    -- No character of the part stops the taking, and the one behind it does.
    refine (span_of_head ?_ ?_).1.symm
    · intro c member
      simpa [← endsLanguage_iff] using plain c member
    · intro c first
      simpa [← endsLanguage_iff] using stops c first
  · intro taken
    rw [taken]
    refine ⟨⟨tag.toList.dropWhile fun c => !endsLanguage c, ?_, ?_⟩, ?_⟩
    · rw [List.takeWhile_append_dropWhile]
    · intro c first
      simpa [← endsLanguage_iff] using takes_head_dropWhile first
    · intro c member
      have goesOn := List.all_eq_true.mp List.all_takeWhile c member
      simpa [← endsLanguage_iff] using goesOn

/-- Every tag has one language part. -/
theorem existsUnique_isLanguage (tag : String) : ∃! part, IsLanguage tag part :=
  ⟨_, isLanguage_iff.mpr rfl, fun _ isPart => isLanguage_iff.mp isPart⟩

/-- The language of a tag is its language part in small ASCII letters. -/
theorem language_eq {tag : String} {part : List Char} (isPart : IsLanguage tag part) :
    language tag = String.ofList (part.map Char.toLower) := by
  rw [language, ← isLanguage_iff.mp isPart]

/-! ## Letter case -/

/-- The small form of a capital stands 32 code points behind it. -/
theorem toLower_eq_of_capital {c d : Char} (letter : c.isUpper = true)
    (small : d.toNat = c.toNat + 32) : c.toLower = d := by
  have range := Text.isUpper_iff_toNat.mp letter
  have moved : c.toLower.val = c.val + 32 :=
    congrArg Char.val (dif_pos (of_decide_eq_true letter))
  -- The sum is far from the end of the 32-bit words.
  have noOverflow : c.val.toNat + 32 < 2 ^ 32 := Nat.lt_of_le_of_lt
    (Nat.add_le_add_right range.2 32) (by decide)
  rw [← Char.toNat_inj, small]
  show c.toLower.val.toNat = c.val.toNat + 32
  rw [moved, UInt32.toNat_add]
  exact Nat.mod_eq_of_lt noOverflow

/-- Characters that differ at most in ASCII letter case have the same small form. -/
theorem SameLetter.toLower_eq {c d : Char} (letters : SameLetter c d) :
    c.toLower = d.toLower := by
  have itself {c d : Char} (letter : c.isUpper = true) (small : d.toNat = c.toNat + 32) :
      c.toLower = d.toLower := by
    have noCapital : d.isUpper = false := by
      rw [Bool.eq_false_iff, ne_eq, Text.isUpper_iff_toNat]
      have := Text.isUpper_iff_toNat.mp letter
      omega
    rw [toLower_eq_of_capital letter small, Text.toLower_eq_self noCapital]
  cases letters with
  | same => rfl
  | capital letter small => exact itself letter small
  | small letter small => exact (itself letter small).symm

/-- A small form is an ASCII letter only where the character itself is one. -/
theorem isAlpha_of_toLower {c : Char} (letter : c.toLower.isAlpha = true) : c.isAlpha = true := by
  cases capital : c.isUpper with
  | true =>
    show (c.isUpper || c.isLower) = true
    rw [capital, Bool.true_or]
  | false =>
    rw [Text.toLower_eq_self capital] at letter
    exact letter

/-- Tags whose language parts differ at most in ASCII letter case have the same language. -/
theorem language_congr {tag tag' : String} {part part' : List Char}
    (isPart : IsLanguage tag part) (isPart' : IsLanguage tag' part')
    (letters : List.Forall₂ SameLetter part part') : language tag = language tag' := by
  have small : part.map Char.toLower = part'.map Char.toLower := by
    rw [← List.forall₂_eq_eq_eq, List.forall₂_map_left_iff, List.forall₂_map_right_iff]
    exact letters.imp fun _ _ letter => letter.toLower_eq
  rw [language_eq isPart, language_eq isPart', small]

/-! ## The tables -/

/-- The separator of a language is that of the table in which the language stands. -/
theorem languageSeparator?_eq_some_iff {language : String} {separator : Char} :
    languageSeparator? language = some separator ↔
      language ∈ commaLanguages ∧ separator = ',' ∨
        language ∈ pointLanguages ∧ separator = '.' := by
  unfold languageSeparator?
  split
  · next point => simp [point, notMem_commaLanguages point, eq_comm]
  · next noPoint =>
    split
    · next comma => simp [noPoint, comma, eq_comm]
    · next noComma => simp [noPoint, noComma]

/-- No separator is known exactly for the languages that stand in neither table. -/
theorem languageSeparator?_eq_none_iff {language : String} :
    languageSeparator? language = none ↔
      language ∉ commaLanguages ∧ language ∉ pointLanguages := by
  rw [Option.eq_none_iff_forall_ne_some]
  simp [languageSeparator?_eq_some_iff, forall_and]

/-- Every language in the tables is written in ASCII letters, at least one of them. -/
theorem letters_of_known {language : String}
    (known : language ∈ commaLanguages ∨ language ∈ pointLanguages) :
    language.toList ≠ [] ∧ ∀ c ∈ language.toList, c.isAlpha = true := by
  have tables : (commaLanguages ++ pointLanguages).all
      (fun language => !language.toList.isEmpty && language.toList.all Char.isAlpha) = true := by
    decide +kernel
  have entry := List.all_eq_true.mp tables language (List.mem_append.mpr known)
  simpa using entry

end Locale

namespace Settings

open FormulaScan.Locale

/-! ## Settings -/

/-- The settings of a locale are lenient and have the separator that is known for it. -/
theorem ofLocale_eq_ok_iff {tag : String} {settings : Settings} :
    ofLocale tag = .ok settings ↔
      settings.mode = .lenient ∧ separator? tag = some settings.separator := by
  obtain ⟨made, isMade, lenient, known⟩ | ⟨failed, unknown⟩ := ofLocale_eq tag
  · rw [isMade, known, Except.ok.injEq, Option.some.injEq]
    constructor
    · intro same
      rw [← same]
      exact ⟨lenient, rfl⟩
    · intro both
      cases made
      cases settings
      cases both.2
      cases lenient.trans both.1.symm
      rfl
  · rw [failed, unknown]
    simp

/-- A locale has no settings exactly when no separator is known for it. -/
theorem ofLocale_eq_error_iff {tag : String} {e : SettingsError} :
    ofLocale tag = .error e ↔ e = .unknownLocale tag ∧ separator? tag = none := by
  obtain ⟨made, isMade, -, known⟩ | ⟨failed, unknown⟩ := ofLocale_eq tag
  · rw [isMade, known]
    simp
  · rw [failed, unknown]
    simp [eq_comm]

/-- What the language part of a tag settles about the settings of the locale. -/
structure FollowsLanguage (tag : String) (part : List Char) : Prop where
  ok_iff : ∀ settings, ofLocale tag = .ok settings ↔
    settings.mode = .lenient ∧
      (String.ofList (part.map Char.toLower) ∈ commaLanguages ∧ settings.separator = ',' ∨
        String.ofList (part.map Char.toLower) ∈ pointLanguages ∧ settings.separator = '.')
  error_iff : ∀ e, ofLocale tag = .error e ↔
    e = .unknownLocale tag ∧ String.ofList (part.map Char.toLower) ∉ commaLanguages ∧
      String.ofList (part.map Char.toLower) ∉ pointLanguages
  /-- A part that is empty or has anything but ASCII letters in it is no language. -/
  foreign : (part = [] ∨ ∃ c ∈ part, c.isAlpha = false) →
    ofLocale tag = .error (.unknownLocale tag)

/-- The language part of a tag settles the settings of the locale. -/
theorem followsLanguage {tag : String} {part : List Char} (isPart : IsLanguage tag part) :
    FollowsLanguage tag part := by
  have error_iff : ∀ e, ofLocale tag = .error e ↔
      e = .unknownLocale tag ∧ String.ofList (part.map Char.toLower) ∉ commaLanguages ∧
        String.ofList (part.map Char.toLower) ∉ pointLanguages := by
    intro e
    rw [ofLocale_eq_error_iff, separator?, language_eq isPart, languageSeparator?_eq_none_iff]
  refine ⟨?_, error_iff, ?_⟩
  · intro settings
    rw [ofLocale_eq_ok_iff, separator?, language_eq isPart, languageSeparator?_eq_some_iff]
  · intro foreign
    rw [error_iff, ← not_or]
    refine ⟨rfl, ?_⟩
    intro known
    obtain ⟨filled, letters⟩ := letters_of_known known
    rw [String.toList_ofList] at filled letters
    obtain empty | ⟨c, member, noLetter⟩ := foreign
    · exact filled (by rw [empty, List.map_nil])
    · have letter := isAlpha_of_toLower (letters c.toLower (List.mem_map_of_mem member))
      rw [noLetter] at letter
      cases letter

/-- Every tag has one language part. No language is in both tables, and the settings of a locale
follow the one in which the language part stands in small ASCII letters: they are lenient, with the
comma or the point for their separator. If it stands in neither, the error names the tag as it was
given. Tags whose language parts differ at most in ASCII letter case have the same settings, or both
have none. -/
theorem ofLocale_by_language :
    (∀ tag, ∃! part, IsLanguage tag part) ∧
      (∀ language, ¬ (language ∈ commaLanguages ∧ language ∈ pointLanguages)) ∧
      (∀ tag part, IsLanguage tag part → FollowsLanguage tag part) ∧
      ∀ tag tag' part part', IsLanguage tag part → IsLanguage tag' part' →
        List.Forall₂ SameLetter part part' →
          (∃ settings, settings.mode = .lenient ∧ ofLocale tag = .ok settings ∧
              ofLocale tag' = .ok settings) ∨
            (ofLocale tag = .error (.unknownLocale tag) ∧
              ofLocale tag' = .error (.unknownLocale tag')) := by
  refine ⟨existsUnique_isLanguage, ?_, ?_, ?_⟩
  · intro language both
    exact notMem_commaLanguages both.2 both.1
  · intro tag part isPart
    exact followsLanguage isPart
  · intro tag tag' part part' isPart isPart' letters
    have same : separator? tag = separator? tag' := by
      rw [separator?, separator?, language_congr isPart isPart' letters]
    obtain ⟨settings, isMade, lenient, known⟩ | ⟨failed, unknown⟩ := ofLocale_eq tag
    · exact .inl ⟨settings, lenient, isMade, ofLocale_eq_ok_iff.mpr ⟨lenient, same ▸ known⟩⟩
    · exact .inr ⟨failed, ofLocale_eq_error_iff.mpr ⟨rfl, same ▸ unknown⟩⟩

/-- Letters that are no ASCII letters are not folded: a Kelvin sign is no k, and a long s is no s. -/
example :
    separator? "kO-KR" = some '.' ∧ separator? "\u212ao" = none ∧ separator? "e\u017f_ES" = none ∧
      separator? "@de" = none := by
  decide +kernel

end Settings
end FormulaScan
