import FormulaScan.Literal
import FormulaScan.Proofs.Run.Kinds
import FormulaScan.Token

/-!
# What the text of a token tells

The text of a token identifies it (`Token.text_inj`), although the name of an identifier is written
as it is and can look like anything that stands around it. The sort is settled from the front, where
only letters stand before the first bracket, and the place from the back, where only digits stand
behind the last point; the text of the value is what is left between them.
-/

namespace FormulaScan

/-! ## Rows at the ends of a text -/

section Rows

variable {p : Char → Bool} {row row' behind behind' before before' : List Char}

/-- A row of a class, with a text behind it that does not go on with the class, is settled by the
whole text. -/
theorem row_append_inj (goOn : ∀ c ∈ row, p c = true) (goOn' : ∀ c ∈ row', p c = true)
    (stops : ∀ c ∈ behind.head?, p c = false) (stops' : ∀ c ∈ behind'.head?, p c = false)
    (same : row ++ behind = row' ++ behind') : row = row' ∧ behind = behind' := by
  obtain ⟨taken, left⟩ := span_of_head goOn stops
  obtain ⟨taken', left'⟩ := span_of_head goOn' stops'
  rw [same] at taken left
  exact ⟨taken.symm.trans taken', left.symm.trans left'⟩

/-- A row of a class, with a text before it that does not end in the class, is settled by the whole
text. -/
theorem append_row_inj (goOn : ∀ c ∈ row, p c = true) (goOn' : ∀ c ∈ row', p c = true)
    (stops : ∀ c ∈ before.getLast?, p c = false) (stops' : ∀ c ∈ before'.getLast?, p c = false)
    (same : before ++ row = before' ++ row') : before = before' ∧ row = row' := by
  -- Read backwards, the row stands in front.
  have reversed : row.reverse ++ before.reverse = row'.reverse ++ before'.reverse := by
    rw [← List.reverse_append, same, List.reverse_append]
  rw [← List.head?_reverse] at stops stops'
  obtain ⟨rows, texts⟩ := row_append_inj (fun c member => goOn c (List.mem_reverse.mp member))
    (fun c member => goOn' c (List.mem_reverse.mp member)) stops stops' reversed
  exact ⟨List.reverse_inj.mp texts, List.reverse_inj.mp rows⟩

/-- A number is settled by its digits. -/
theorem toDigits_injective {m n : Nat} (same : Nat.toDigits 10 m = Nat.toDigits 10 n) : m = n := by
  have read := congrArg digitsValue same
  rwa [digitsValue, digitsValue, Nat.ofDigitChars_ten_toDigits,
    Nat.ofDigitChars_ten_toDigits] at read

/-- A number behind a character that is no digit is settled by the whole text. -/
theorem append_toDigits_inj {mark : Char} (plain : mark.isDigit = false) {m n : Nat}
    (same : before ++ mark :: Nat.toDigits 10 m = before' ++ mark :: Nat.toDigits 10 n) :
    before = before' ∧ m = n := by
  have digits (n : Nat) : ∀ c ∈ Nat.toDigits 10 n, c.isDigit = true := by
    intro c member
    exact Nat.isDigit_of_mem_toDigits (by decide) (by decide) member
  have stops (text : List Char) : ∀ c ∈ (text ++ [mark]).getLast?, c.isDigit = false := by
    simp [plain]
  rw [List.append_cons, List.append_cons before'] at same
  obtain ⟨texts, rows⟩ :=
    append_row_inj (digits m) (digits n) (stops before) (stops before') same
  exact ⟨List.append_cancel_right texts, toDigits_injective rows⟩

end Rows

/-- A 64-bit integer is settled by its text. -/
theorem wholeText_injective {m n : Int64} (same : wholeText m.toInt = wholeText n.toInt) :
    m = n := by
  have read := congrArg Literal.integer? same
  rw [Literal.integer?_wholeText, Literal.integer?_wholeText] at read
  exact Option.some.inj read

namespace Token

/-! ## The parts of a text -/

/-- The name of a sort is written in letters. -/
theorem Kind.isAlpha_of_mem_name {kind : Kind} : ∀ c ∈ kind.name.toList, c.isAlpha = true := by
  apply List.all_eq_true.mp
  cases kind <;> rfl

/-- Different sorts have different names. -/
theorem Kind.name_injective {kind kind' : Kind} (same : kind.name = kind'.name) :
    kind = kind' := by
  cases kind <;> cases kind' <;> first | rfl | exact absurd same (by decide)

/-- Values of one sort with the same text are the same. -/
theorem Value.eq_of_text {value value' : Value} (kinds : value.kind = value'.kind)
    (texts : value.text = value'.text) : value = value' := by
  cases value with
  | integer n =>
    cases value' <;> cases kinds
    next n' => rw [wholeText_injective (String.ofList_injective texts)]
  | floatingPoint x =>
    cases value' <;> cases kinds
    next x' => rw [Binary64.text_injective (String.ofList_injective texts)]
  | identifier name =>
    cases value' <;> cases kinds
    next name' => exact congrArg Value.identifier texts
  | operator op =>
    cases value' <;> cases kinds
    next op' =>
      have symbols : [op.symbol] = [op'.symbol] := by
        simpa [text] using congrArg String.toList texts
      rw [Operator.symbol_injective (List.singleton_inj.mp symbols)]
  | leftBracket =>
    cases value' <;> cases kinds
    rfl
  | rightBracket =>
    cases value' <;> cases kinds
    rfl

/-- The characters of a token's text, part by part. -/
theorem toList_text (t : Token) :
    t.text.toList =
      t.kind.name.toList ++ ('(' :: t.value.text.toList) ++ [')', ' ', '@'] ++
        (' ' :: Nat.toDigits 10 t.start) ++ ['.'] ++ ('.' :: Nat.toDigits 10 t.stop) := by
  simp [text]

/-! ## Text and token -/

/-- Tokens with the same text have the same sort, the same text of their value, and the same place.
-/
theorem parts_of_text {a b : Token} (same : a.text = b.text) :
    a.kind = b.kind ∧ a.value.text = b.value.text ∧ a.start = b.start ∧ a.stop = b.stop := by
  have chars := congrArg String.toList same
  rw [toList_text, toList_text] at chars
  -- From the back: the digits behind the points, then those before them.
  obtain ⟨chars, stops⟩ := append_toDigits_inj rfl chars
  obtain ⟨chars, starts⟩ := append_toDigits_inj rfl (List.append_cancel_right chars)
  -- From the front: the letters before the first bracket.
  obtain ⟨names, values⟩ := row_append_inj Kind.isAlpha_of_mem_name Kind.isAlpha_of_mem_name
    (by simp) (by simp) (List.append_cancel_right chars)
  exact ⟨Kind.name_injective (String.toList_injective names),
    String.toList_injective (List.cons.inj values).2, starts, stops⟩

/-- The text of a token identifies the token. -/
theorem text_inj {a b : Token} : a.text = b.text ↔ a = b := by
  constructor
  · intro same
    obtain ⟨kinds, texts, starts, stops⟩ := parts_of_text same
    have values : a.value = b.value := Value.eq_of_text kinds texts
    have lengths : a.length = b.length := by
      rw [stop, stop, starts] at stops
      exact Nat.add_left_cancel stops
    cases a
    cases b
    cases values
    cases starts
    cases lengths
    rfl
  · intro same
    rw [same]

/-- A name that looks like the end of a bracket token. -/
example :
    text ⟨.identifier ")) @ 0..1", 2, 3⟩ = "Identifier()) @ 0..1) @ 2..5" ∧
      text ⟨.identifier ")", 0, 1⟩ = "Identifier()) @ 0..1" := by
  decide +kernel

end Token
end FormulaScan
