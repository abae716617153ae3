import FormulaScan.Proofs.Scan.Answer
import FormulaScan.Proofs.Scan.TokenText
import FormulaScan.Text.Line

/-!
# Tokens and errors are shown in one line

Whatever a formula holds, what is said of it stays in one line. The text of a token does, because a
name has letters and digits only (`inOneLine_text_of_scan`). The message of an error does, because a
malformed number has digits, a sign and separators only, an admissible separator is no control
character and no blank, and an unexpected character is quoted (`inOneLine_message_of_scan`).
-/

namespace FormulaScan

open Text (InOneLine inOneLine_append inOneLine_toList_append)

/-! ## Tokens -/

/-- A sign and a text in one line stay in one line. -/
theorem inOneLine_sign_append (negative : Bool) {text : List Char} (line : InOneLine text) :
    InOneLine ((if negative then ['-'] else []) ++ text) := by
  refine inOneLine_append.mpr ⟨?_, line⟩
  cases negative <;> decide

/-- A decimal stays in one line. -/
theorem Decimal.inOneLine_positional (d : Decimal) : InOneLine d.positional := by
  have digits : InOneLine (padded (d.places + 1) d.digits) := by
    intro c member
    have digit := List.all_eq_true.mp (all_isDigit_padded _ _) c member
    exact Text.isBreaking_of_isAlphanum (isAlphanum_of_isDigit digit)
  simp only [positional]
  split
  · exact fun c member => digits c (List.mem_of_mem_take member)
  · refine inOneLine_append.mpr ⟨fun c member => digits c (List.mem_of_mem_take member), ?_⟩
    exact Text.inOneLine_cons.mpr
      ⟨by decide, fun c member => digits c (List.mem_of_mem_drop member)⟩

/-- A floating-point number stays in one line. -/
theorem Binary64.inOneLine_text (x : Binary64) : InOneLine x.text := by
  cases x with
  | finite negative code => exact inOneLine_sign_append negative (Decimal.inOneLine_positional _)
  | infinite negative => exact inOneLine_sign_append negative (by decide)
  | nan => decide

/-- A name has letters and digits only. -/
theorem Item.isAlphanum_of_isName {text : List Char} (form : Item.isName text = true) :
    ∀ c ∈ text, c.isAlphanum = true := by
  cases text with
  | nil => cases form
  | cons first rest =>
    obtain ⟨letter, alphanum⟩ := Bool.and_eq_true_iff.mp form
    intro c member
    rcases List.mem_cons.mp member with rfl | later
    · exact isAlphanum_of_isAlpha letter
    · exact List.all_eq_true.mp alphanum c later

/-- A value that is written by some text is shown in one line. -/
theorem Token.Value.inOneLine_text {separator : Char} {text : List Char} {value : Token.Value}
    (written : value.WrittenAs separator text) : InOneLine value.text.toList := by
  cases value with
  | integer n =>
    simp only [Value.text, String.toList_ofList, wholeText]
    refine inOneLine_append.mpr ⟨?_, Text.inOneLine_toDigits (by decide) _⟩
    split <;> decide
  | floatingPoint x =>
    rw [Value.text, String.toList_ofList]
    exact x.inOneLine_text
  | identifier name =>
    -- This is the only text that comes from the formula as it is.
    obtain ⟨rfl, isName⟩ := written
    exact fun c member => Text.isBreaking_of_isAlphanum (Item.isAlphanum_of_isName isName c member)
  | operator op => cases op <;> decide
  | leftBracket => decide
  | rightBracket => decide

/-- A token whose value is written by some text is shown in one line. -/
theorem Token.inOneLine_text {separator : Char} {text : List Char} {t : Token}
    (written : t.value.WrittenAs separator text) : InOneLine t.text.toList := by
  have kind : InOneLine t.kind.name.toList := by
    cases t.kind <;> decide +kernel
  have bracket : InOneLine (t.kind.name ++ "(" ++ t.value.text ++ ") @ ").toList :=
    inOneLine_toList_append
      (inOneLine_toList_append (inOneLine_toList_append kind (by decide +kernel))
        (Value.inOneLine_text written))
      (by decide +kernel)
  have start : InOneLine (t.kind.name ++ "(" ++ t.value.text ++ ") @ " ++ toString t.start ++
      "..").toList :=
    inOneLine_toList_append (inOneLine_toList_append bracket (Text.inOneLine_toString t.start))
      (by decide +kernel)
  exact inOneLine_toList_append start (Text.inOneLine_toString t.stop)

/-- The tokens of a scan are shown in one line each. -/
theorem inOneLine_text_of_scan {settings : Settings} {formula : String} {read : List Token}
    (ok : scan settings formula = .ok read) : ∀ t ∈ read, InOneLine t.text.toList := by
  intro t isRead
  rw [eq_pointwise_of_scan ok] at isRead
  have reads := (tiling_findings settings.separator formula.toList).reads_source
    (Finding.mem_filterMap_token?.mp isRead)
  exact Token.inOneLine_text
    (reads.writtenAs (isDigit_of_isSeparator settings.isSeparator_separator))

/-! ## Errors -/

/-- A character that goes on a number ends no line. -/
theorem isBreaking_of_continuesNumber {separator c : Char}
    (admissible : isSeparator separator = true)
    (goesOn : Pointwise.continuesNumber separator c = true) : Text.isBreaking c = false := by
  rw [Pointwise.continuesNumber, Bool.or_eq_true, beq_iff_eq] at goesOn
  cases goesOn with
  | inl digit => exact Text.isBreaking_of_isAlphanum (isAlphanum_of_isDigit digit)
  | inr same =>
    obtain ⟨-, visible, noControl, -⟩ := isSeparator_iff.mp admissible
    rw [same]
    exact Text.isBreaking_of_not_isBlank noControl visible

/-- What a fault reads is described in one line. -/
theorem Finding.Reads.inOneLine_description {separator : Char}
    (admissible : isSeparator separator = true) {position : Nat} {text rest : List Char}
    {fault : Fault} (reads : (Finding.fault fault).Reads separator position text rest) :
    InOneLine fault.description.toList := by
  cases reads with
  | @malformed negative body _ nonempty form noLiteral stops =>
    have number : InOneLine (String.ofList (signText negative ++ body)).toList := by
      rw [String.toList_ofList]
      refine inOneLine_append.mpr ⟨?_, ?_⟩
      · intro c sign
        rw [eq_minus_of_mem_signText sign]
        decide
      · exact fun c member => isBreaking_of_continuesNumber admissible (form c member)
    exact inOneLine_toList_append (inOneLine_toList_append (by decide +kernel) number)
      (by decide +kernel)
  | @unexpected c _ plain visible noSymbol =>
    exact inOneLine_toList_append
      (inOneLine_toList_append (by decide +kernel) (Text.inOneLine_quoted c)) (by decide +kernel)

/-- A scan fails because the formula is empty, or in strict mode with a fault of the formula. -/
theorem empty_or_fault_of_scan {settings : Settings} {formula : String} {e : ScanError}
    (failed : scan settings formula = .error e) :
    (e = .emptyFormula ∧ formula.toList = []) ∨
      (settings.mode = .strict ∧ ∃ fault, e = .fault fault ∧
        .fault fault ∈ Pointwise.findings settings.separator formula.toList) := by
  by_cases empty : formula.toList = []
  · rw [scan, if_pos empty] at failed
    exact .inl ⟨(Except.error.inj failed).symm, empty⟩
  · rw [scan_eq_answer settings empty] at failed
    unfold answer at failed
    split at failed
    · next fault strict first =>
      obtain ⟨f, member, isFault⟩ := List.exists_of_findSome?_eq_some first
      rw [Finding.fault?_eq_some_iff.mp isFault] at member
      exact .inr ⟨strict, fault, (Except.error.inj failed).symm, member⟩
    · cases failed

/-- The error of a scan is reported in one line. -/
theorem inOneLine_message_of_scan {settings : Settings} {formula : String} {e : ScanError}
    (failed : scan settings formula = .error e) : InOneLine e.message.toList := by
  obtain ⟨rfl, -⟩ | ⟨-, fault, rfl, member⟩ := empty_or_fault_of_scan failed
  · decide +kernel
  · -- The fault says something of a part of the formula, and this settles its characters.
    obtain ⟨-, part, behind, -, -, reads⟩ :=
      (tiling_findings settings.separator formula.toList).exists_reads member
    have place : InOneLine ("Error at position " ++ toString fault.position ++ ": ").toList :=
      inOneLine_toList_append
        (inOneLine_toList_append (by decide +kernel) (Text.inOneLine_toString _))
        (by decide +kernel)
    exact inOneLine_toList_append place
      (reads.inOneLine_description settings.isSeparator_separator)

end FormulaScan
