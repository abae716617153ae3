import FormulaScan.Text.Blank
import FormulaScan.Text.Control
import FormulaScan.Text.Quoted

/-!
# Texts in one line

The characters that end a line on some display: the control characters, the line separator and the
paragraph separator. A text without any of them stays in one line. The digits of numbers do, and so
does every quoted character, whatever the character is (`inOneLine_quoted`).
-/

namespace FormulaScan.Text

/-- Tells whether a character can end a line. -/
def isBreaking (c : Char) : Bool := isControl c || c == '\u2028' || c == '\u2029'

/-- No character of a text can end a line. -/
def InOneLine (text : List Char) : Prop := ∀ c ∈ text, isBreaking c = false

instance (text : List Char) : Decidable (InOneLine text) :=
  decidable_of_iff (text.all (fun c => !isBreaking c) = true) (by simp [InOneLine])

/-! ## Single characters -/

theorem isBreaking_iff {c : Char} :
    isBreaking c = true ↔ isControl c = true ∨ c = '\u2028' ∨ c = '\u2029' := by
  simp only [isBreaking, Bool.or_eq_true, beq_iff_eq, or_assoc]

/-- The visible ASCII characters and the space end no line. -/
theorem isBreaking_of_ascii {c : Char} (ascii : 32 ≤ c.toNat ∧ c.toNat < 127) :
    isBreaking c = false := by
  apply Bool.eq_false_iff.mpr
  intro breaking
  obtain control | rfl | rfl := isBreaking_iff.mp breaking
  · -- One range of control characters ends before the space, the other begins behind the tilde.
    obtain ⟨range, member, bounds⟩ := Ranges.contains_iff.mp control
    simp only [controlRanges, List.mem_cons, List.not_mem_nil, or_false] at member
    obtain rfl | rfl := member
    all_goals
      simp only at bounds
      omega
  · exact absurd ascii (by decide)
  · exact absurd ascii (by decide)

/-- ASCII letters and digits end no line. -/
theorem isBreaking_of_isAlphanum {c : Char} (plain : c.isAlphanum = true) :
    isBreaking c = false := by
  have kinds : c.isAlpha = true ∨ c.isDigit = true := Bool.or_eq_true_iff.mp plain
  rw [isAlpha_iff_toNat, isDigit_iff_toNat] at kinds
  exact isBreaking_of_ascii (by omega)

/-- What ends a line is a control character or a blank. -/
theorem isBreaking_of_not_isBlank {c : Char} (noControl : isControl c = false)
    (visible : isBlank c = false) : isBreaking c = false := by
  apply Bool.eq_false_iff.mpr
  intro breaking
  obtain control | rfl | rfl := isBreaking_iff.mp breaking
  · rw [noControl] at control
    cases control
  · exact absurd visible (by decide)
  · exact absurd visible (by decide)

/-- What ends a line has no visible form. -/
theorem isUnprintable_of_isBreaking {c : Char} (breaking : isBreaking c = true) :
    isUnprintable c = true := by
  obtain control | rfl | rfl := isBreaking_iff.mp breaking
  · exact isUnprintable_of_isControl control
  · decide +kernel
  · decide +kernel

/-- No digit ends a line, to any base. -/
theorem isBreaking_digitChar (k : Nat) : isBreaking (Nat.digitChar k) = false := by
  by_cases small : k < 16
  · have digits : ∀ k < 16, isBreaking (Nat.digitChar k) = false := by decide
    exact digits k small
  · have star : Nat.digitChar k = '*' := by
      unfold Nat.digitChar
      repeat rw [if_neg (by omega)]
    rw [star]
    decide

/-! ## Texts -/

theorem inOneLine_append {front behind : List Char} :
    InOneLine (front ++ behind) ↔ InOneLine front ∧ InOneLine behind :=
  List.forall_mem_append

theorem inOneLine_cons {c : Char} {rest : List Char} :
    InOneLine (c :: rest) ↔ isBreaking c = false ∧ InOneLine rest :=
  List.forall_mem_cons

/-- Two strings in one line stay in one line when they are joined. -/
theorem inOneLine_toList_append {front behind : String} (line : InOneLine front.toList)
    (line' : InOneLine behind.toList) : InOneLine (front ++ behind).toList := by
  rw [String.toList_append]
  exact inOneLine_append.mpr ⟨line, line'⟩

/-- The digits of a number stay in one line, to every base. -/
theorem inOneLine_toDigits {base : Nat} (large : 1 < base) (n : Nat) :
    InOneLine (Nat.toDigits base n) := by
  induction n using Nat.strongRecOn with
  | ind n ih =>
    rw [Nat.toDigits_eq_if large]
    split
    · exact inOneLine_cons.mpr ⟨isBreaking_digitChar n, List.forall_mem_nil _⟩
    · next noDigit =>
      have smaller : n / base < n := Nat.div_lt_self (by omega) large
      exact inOneLine_append.mpr ⟨ih _ smaller,
        inOneLine_cons.mpr ⟨isBreaking_digitChar (n % base), List.forall_mem_nil _⟩⟩

/-- A number in base ten stays in one line. -/
theorem inOneLine_toString (n : Nat) : InOneLine (toString n).toList := by
  rw [Nat.toString_eq_ofList_toDigits, String.toList_ofList]
  exact inOneLine_toDigits (by decide) n

/-- The letters of the short escapes end no line. -/
theorem isBreaking_of_shortEscape? {c letter : Char} (escape : shortEscape? c = some letter) :
    isBreaking letter = false := by
  unfold shortEscape? at escape
  split at escape
  all_goals cases escape <;> decide

/-- The visible form of a character stays in one line. -/
theorem inOneLine_visible (c : Char) : InOneLine (visible c) := by
  unfold visible
  cases escape : shortEscape? c with
  | some letter =>
    exact inOneLine_cons.mpr
      ⟨by decide, inOneLine_cons.mpr ⟨isBreaking_of_shortEscape? escape, List.forall_mem_nil _⟩⟩
  | none =>
    by_cases unseen : isUnseen c = true
    · simp only [unseen, if_true, codePointEscape]
      refine inOneLine_append.mpr ⟨inOneLine_append.mpr ⟨by decide, ?_⟩, by decide⟩
      exact inOneLine_toDigits (by decide) c.toNat
    · simp only [unseen, if_false, Bool.false_eq_true]
      -- What is shown as it is has a visible form.
      refine inOneLine_cons.mpr ⟨?_, List.forall_mem_nil _⟩
      apply Bool.eq_false_iff.mpr
      intro breaking
      simp [isUnseen, isUnprintable_of_isBreaking breaking] at unseen

/-- A quoted character stays in one line. -/
theorem inOneLine_quoted (c : Char) : InOneLine (quoted c).toList := by
  rw [quoted, String.toList_ofList]
  exact inOneLine_append.mpr
    ⟨inOneLine_cons.mpr ⟨by decide, inOneLine_visible c⟩, by decide⟩

/-- A line separator ends a line, and its quoted form does not. -/
example : isBreaking '\u2028' = true ∧ quoted '\u2028' = "'\\u\x7b2028\x7d'" := by
  decide +kernel

end FormulaScan.Text
