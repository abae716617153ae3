import FormulaScan.Literal

/-!
# The form of number literals

What the texts of number literals look like, sign and body apart. `wholeNumber?_eq_some_iff` and
`integer?_eq_some_iff` say which texts are integers and which ones they are;
`form_of_floatingPoint?` says what the text of a floating-point number consists of.

`isSome_ofText?_iff` says which texts are literals at all. It takes no notice of the sign, so that a
minus sign in front of a text never changes whether the text is a literal.
-/

namespace FormulaScan

/-- The text of a sign. -/
def signText (negative : Bool) : List Char := if negative then ['-'] else []

@[simp] theorem signText_true : signText true = ['-'] := rfl

@[simp] theorem signText_false : signText false = [] := rfl

theorem eq_minus_of_mem_signText {negative : Bool} {c : Char} (member : c ∈ signText negative) :
    c = '-' := by
  cases negative with
  | true => exact List.mem_singleton.mp member
  | false => cases member

/-- A text is its sign and what is left without the sign. -/
theorem signText_append_splitSign (text : List Char) :
    signText (splitSign text).1 ++ (splitSign text).2 = text := by
  unfold splitSign
  split <;> rfl

/-- A sign is cut off a body that does not begin with another one. -/
theorem splitSign_append (negative : Bool) {body : List Char} (unsigned : body.head? ≠ some '-') :
    splitSign (signText negative ++ body) = (negative, body) := by
  cases negative with
  | true => rfl
  | false => exact splitSign_eq_self unsigned

theorem head?_ne_minus {digits : List Char} (all : ∀ c ∈ digits, c.isDigit = true) :
    digits.head? ≠ some '-' := by
  intro first
  have digit := all '-' (List.mem_of_mem_head? first)
  exact absurd digit (by decide)

namespace Literal

/-- The whole numbers are written by at least one digit, with or without a minus sign. -/
theorem wholeNumber?_eq_some_iff {text : List Char} {n : Int} :
    wholeNumber? text = some n ↔
      ∃ negative digits, text = signText negative ++ digits ∧ digits ≠ [] ∧
        (∀ c ∈ digits, c.isDigit = true) ∧
        n = if negative then -(digitsValue digits : Int) else digitsValue digits := by
  constructor
  · intro read
    simp only [wholeNumber?, Option.ite_none_right_eq_some, Option.some.injEq, List.all_eq_true,
      ne_eq] at read
    obtain ⟨⟨nonempty, all⟩, value⟩ := read
    exact ⟨(splitSign text).1, (splitSign text).2, (signText_append_splitSign text).symm,
      nonempty, all, value.symm⟩
  · rintro ⟨negative, digits, rfl, nonempty, all, rfl⟩
    simp only [wholeNumber?, splitSign_append negative (head?_ne_minus all), ne_eq, nonempty,
      not_false_eq_true, List.all_eq_true.mpr all, and_self, if_true]

/-- The integers are the whole numbers that fit 64 bits with sign. -/
theorem integer?_eq_some_iff {text : List Char} {n : Int64} :
    integer? text = some n ↔ wholeNumber? text = some n.toInt := by
  unfold integer?
  constructor
  · intro read
    split at read
    · rename_i whole value
      split at read
      · rw [value, ← Option.some.inj read, Int64.toInt_ofIntLE]
      · cases read
    · cases read
  · intro value
    have bounds : Int64.minValue.toInt ≤ n.toInt ∧ n.toInt ≤ Int64.maxValue.toInt :=
      ⟨n.minValue_le_toInt, n.toInt_le⟩
    simp only [value, bounds, and_self, dif_pos, Int64.ofIntLE_toInt]

/-- A body of digits and separators has as many separators as characters other than digits. -/
theorem wellFormedBody_iff {separator : Char} (noDigit : separator.isDigit = false)
    {body : List Char} :
    wellFormedBody separator body = true ↔
      (∀ c ∈ body, c.isDigit = true ∨ c = separator) ∧ (∃ c ∈ body, c.isDigit = true) ∧
        body.count separator ≤ 1 := by
  have count : body.countP (fun c => !c.isDigit && c == separator) = body.count separator := by
    rw [List.count]
    apply List.countP_congr
    intro c _
    by_cases same : c = separator
    · simp [same, noDigit]
    · simp [same]
  simp only [wellFormedBody, count, Bool.and_eq_true, List.all_eq_true, Bool.or_eq_true,
    beq_iff_eq, List.any_eq_true, decide_eq_true_eq, and_assoc]

/-- The text of a floating-point number is a well-formed body, with or without a minus sign, and the
number is the one that the text writes with a point for the separator. -/
theorem form_of_floatingPoint? {separator : Char} {text : List Char} {x : Binary64}
    (read : floatingPoint? separator text = some x) :
    (∃ negative body, text = signText negative ++ body ∧
        wellFormedBody separator body = true) ∧
      (Numeral.read? (withPoint separator text)).map Binary64.ofNumeral = some x := by
  unfold floatingPoint? at read
  split at read
  · rename_i form
    exact ⟨⟨_, _, (signText_append_splitSign text).symm, form⟩, read⟩
  · cases read

/-- A literal is an integer or else a floating-point number. -/
theorem ofText?_eq_some_iff {separator : Char} {text : List Char} {literal : Literal} :
    ofText? separator text = some literal ↔
      (∃ n, integer? text = some n ∧ literal = .integer n) ∨
        integer? text = none ∧
          ∃ x, floatingPoint? separator text = some x ∧ literal = .floatingPoint x := by
  unfold ofText?
  cases integer? text with
  | some n => simp [eq_comm]
  | none => simp [Option.map_eq_some_iff, @eq_comm _ literal]

theorem ofText?_minus (separator : Char) : ofText? separator ['-'] = none := rfl

/-! ## Which texts are literals -/

/-- A well-formed body is a row of digits, or two rows around a separator. -/
theorem exists_rows_of_wellFormedBody {separator : Char} (noDigit : separator.isDigit = false)
    {body : List Char} (form : wellFormedBody separator body = true) :
    (body ≠ [] ∧ body.all Char.isDigit = true) ∨
      ∃ whole fraction, body = whole ++ separator :: fraction ∧ whole ++ fraction ≠ [] ∧
        whole.all Char.isDigit = true ∧ fraction.all Char.isDigit = true := by
  obtain ⟨all, ⟨d, inBody, digit⟩, count⟩ := (wellFormedBody_iff noDigit).mp form
  -- What is no separator is a digit.
  have digits {row : List Char} (sub : ∀ c ∈ row, c ∈ body) (free : separator ∉ row) :
      row.all Char.isDigit = true := by
    rw [List.all_eq_true]
    intro c member
    refine (all c (sub c member)).resolve_right ?_
    intro same
    exact free (same ▸ member)
  by_cases has : separator ∈ body
  · right
    obtain ⟨whole, fraction, rfl⟩ := List.append_of_mem has
    -- The one separator that is allowed stands between the rows.
    simp only [List.count_append, List.count_cons_self] at count
    have freeWhole : separator ∉ whole := List.count_eq_zero.mp (by omega)
    have freeFraction : separator ∉ fraction := List.count_eq_zero.mp (by omega)
    refine ⟨whole, fraction, rfl, ?_, digits (by simp +contextual) freeWhole,
      digits (by simp +contextual) freeFraction⟩
    intro empty
    obtain ⟨rfl, rfl⟩ := List.append_eq_nil_iff.mp empty
    rw [List.mem_singleton.mp inBody, noDigit] at digit
    cases digit
  · left
    exact ⟨List.ne_nil_of_mem inBody, digits (fun _ member => member) has⟩

/-- Without a separator there is nothing to write a point for. -/
theorem withPoint_eq_self {separator : Char} {text : List Char} (free : separator ∉ text) :
    withPoint separator text = text := by
  have same : ∀ c ∈ text, (if c = separator then '.' else c) = id c := by
    intro c member
    have other : c ≠ separator := by
      rintro rfl
      exact free member
    rw [if_neg other, id]
  exact (List.map_congr_left same).trans (List.map_id text)

theorem separator_notMem {separator : Char} (noDigit : separator.isDigit = false)
    {row : List Char} (digits : row.all Char.isDigit = true) : separator ∉ row := by
  intro member
  have digit := List.all_eq_true.mp digits separator member
  rw [noDigit] at digit
  cases digit

/-- Between two rows of digits the separator becomes a point, and the digits stay. -/
theorem withPoint_divided {separator : Char} (noDigit : separator.isDigit = false)
    {whole fraction : List Char} (wholeDigits : whole.all Char.isDigit = true)
    (fractionDigits : fraction.all Char.isDigit = true) :
    withPoint separator (whole ++ separator :: fraction) = whole ++ '.' :: fraction := by
  have wholeSame := withPoint_eq_self (separator_notMem noDigit wholeDigits)
  have fractionSame := withPoint_eq_self (separator_notMem noDigit fractionDigits)
  unfold withPoint at wholeSame fractionSame ⊢
  rw [List.map_append, List.map_cons, wholeSame, fractionSame, if_pos rfl]

/-- With a point for the separator, a well-formed body is a magnitude. -/
theorem isSome_readMagnitude?_withPoint {separator : Char} (noDigit : separator.isDigit = false)
    {body : List Char} (form : wellFormedBody separator body = true) :
    (Numeral.readMagnitude? (withPoint separator body)).isSome = true := by
  rcases exists_rows_of_wellFormedBody noDigit form with
    ⟨nonempty, digits⟩ | ⟨whole, fraction, rfl, nonempty, wholeDigits, fractionDigits⟩
  · rw [withPoint_eq_self (separator_notMem noDigit digits),
      Numeral.readMagnitude?_digits nonempty digits]
    rfl
  · rw [withPoint_divided noDigit wholeDigits fractionDigits,
      Numeral.readMagnitude?_point nonempty wholeDigits fractionDigits]
    rfl

/-- The characters of a well-formed body are digits and separators, so that it has no sign. -/
theorem head?_ne_minus_of_wellFormedBody {separator : Char} (noSign : separator ≠ '-')
    {body : List Char} (form : wellFormedBody separator body = true) :
    body.head? ≠ some '-' := by
  intro first
  have member : '-' ∈ body := List.mem_of_mem_head? first
  simp only [wellFormedBody, Bool.and_eq_true, List.all_eq_true] at form
  have plain := form.1.1 '-' member
  simp [noSign.symm] at plain

/-- A point for the separator leaves the sign as it is. -/
theorem splitSign_withPoint {separator : Char} (noSign : separator ≠ '-') (negative : Bool)
    {body : List Char} (unsigned : body.head? ≠ some '-') :
    splitSign (withPoint separator (signText negative ++ body)) =
      (negative, withPoint separator body) := by
  have sign : withPoint separator (signText negative ++ body) =
      signText negative ++ withPoint separator body := by
    cases negative <;> simp [withPoint, noSign.symm]
  have unsigned' : (withPoint separator body).head? ≠ some '-' := by
    intro first
    simp only [withPoint, List.head?_map, Option.map_eq_some_iff] at first
    obtain ⟨c, first, minus⟩ := first
    split at minus
    · exact absurd minus (by decide)
    · exact unsigned (minus ▸ first)
  rw [sign, splitSign_append negative unsigned']

/-- A well-formed body, with or without a minus sign, is a floating-point number. -/
theorem isSome_floatingPoint? {separator : Char} (noDigit : separator.isDigit = false)
    (noSign : separator ≠ '-') (negative : Bool) {body : List Char}
    (form : wellFormedBody separator body = true) :
    (floatingPoint? separator (signText negative ++ body)).isSome = true := by
  have unsigned := head?_ne_minus_of_wellFormedBody noSign form
  rw [floatingPoint?, splitSign_append negative unsigned, if_pos form, Option.isSome_map,
    Numeral.read?, splitSign_withPoint noSign negative unsigned, Option.isSome_map]
  exact isSome_readMagnitude?_withPoint noDigit form

/-- A row of digits is a well-formed body, whatever the separator. -/
theorem wellFormedBody_of_digits {separator : Char} {digits : List Char} (nonempty : digits ≠ [])
    (all : ∀ c ∈ digits, c.isDigit = true) : wellFormedBody separator digits = true := by
  obtain ⟨d, inRow⟩ := List.exists_mem_of_ne_nil digits nonempty
  have noSeparator : digits.countP (fun c => !c.isDigit && c == separator) = 0 := by
    rw [List.countP_eq_zero]
    intro c member
    simp [all c member]
  simp only [wellFormedBody, noSeparator, Bool.and_eq_true, List.all_eq_true, Bool.or_eq_true,
    List.any_eq_true, decide_eq_true_eq]
  exact ⟨⟨fun c member => .inl (all c member), d, inRow, all d inRow⟩, Nat.zero_le 1⟩

/-- A text is a literal exactly when it is well-formed without its sign. -/
theorem isSome_ofText?_iff {separator : Char} (noDigit : separator.isDigit = false)
    (noSign : separator ≠ '-') (text : List Char) :
    (ofText? separator text).isSome = true ↔
      wellFormedBody separator (splitSign text).2 = true := by
  constructor
  · intro read
    obtain ⟨literal, value⟩ := Option.isSome_iff_exists.mp read
    rcases ofText?_eq_some_iff.mp value with ⟨n, whole, -⟩ | ⟨-, x, real, -⟩
    · obtain ⟨negative, digits, rfl, nonempty, all, -⟩ :=
        wholeNumber?_eq_some_iff.mp (integer?_eq_some_iff.mp whole)
      rw [splitSign_append negative (head?_ne_minus all)]
      exact wellFormedBody_of_digits nonempty all
    · unfold floatingPoint? at real
      exact (Option.ite_none_right_eq_some.mp real).1
  · intro form
    obtain ⟨x, real⟩ := Option.isSome_iff_exists.mp
      (isSome_floatingPoint? noDigit noSign (splitSign text).1 form)
    rw [signText_append_splitSign] at real
    unfold ofText?
    cases integer? text with
    | some n => rfl
    | none =>
      rw [real]
      rfl

end Literal

end FormulaScan
