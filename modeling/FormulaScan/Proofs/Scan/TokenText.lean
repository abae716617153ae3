import FormulaScan.Binary64.Reader
import FormulaScan.Proofs.Scan.Agreement
import FormulaScan.Proofs.Scan.Tiling
import FormulaScan.Scan.Coverage

/-!
# Tokens and the text that they cover

A token covers a stretch of the formula, and its value is what this stretch says. The number reader
and the name reader stop only at a character that they do not take. `TokensOf` collects what holds
of the tokens of a formula, and `tokensOf_of_scan` says that it holds of every scan that succeeds.
-/

namespace FormulaScan

namespace Token

/-- The characters that a token covers. -/
def source (formula : List Char) (t : Token) : List Char := (formula.drop t.start).take t.length

/-- What a text has to be to say a value: a signed row of digits with the value of an integer, a
signed row of digits with at most one separator that is read as a floating-point number once a point
stands for the separator, the characters of a name, or the one character of a symbol. -/
def Value.WrittenAs (separator : Char) (text : List Char) : Value → Prop
  | .integer n =>
    ∃ negative digits, text = signText negative ++ digits ∧ digits ≠ [] ∧
      (∀ c ∈ digits, c.isDigit = true) ∧
      n.toInt = if negative then -(digitsValue digits : Int) else digitsValue digits
  | .floatingPoint x =>
    ∃ negative body, text = signText negative ++ body ∧
      (∀ c ∈ body, c.isDigit = true ∨ c = separator) ∧ (∃ c ∈ body, c.isDigit = true) ∧
      body.count separator ≤ 1 ∧
      Binary64.read? (text.map fun c => if c = separator then '.' else c) = some x
  | .identifier name => text = name.toList ∧ Item.isName text = true
  | value => ∃ c, value.symbol? = some c ∧ text = [c]

/-- What may stand behind a value: no digit and no separator behind a number, no letter and no digit
behind a name, and anything behind a symbol. -/
def Value.EndsBefore (separator : Char) (rest : List Char) : Value → Prop
  | .integer _ | .floatingPoint _ => ∀ c ∈ rest.head?, c.isDigit = false ∧ c ≠ separator
  | .identifier _ => ∀ c ∈ rest.head?, c.isAlphanum = false
  | .operator _ | .leftBracket | .rightBracket => True

end Token

/-! ## The value of a reading -/

section

variable {separator : Char}

/-- A literal is written as its text. -/
theorem writtenAs_of_ofText? (noDigit : separator.isDigit = false) {text : List Char}
    {literal : Literal} (read : Literal.ofText? separator text = some literal) :
    literal.tokenValue.WrittenAs separator text := by
  rcases Literal.ofText?_eq_some_iff.mp read with ⟨n, whole, rfl⟩ | ⟨-, x, real, rfl⟩
  · exact Literal.wholeNumber?_eq_some_iff.mp (Literal.integer?_eq_some_iff.mp whole)
  · obtain ⟨⟨negative, body, form, wellFormed⟩, value⟩ := Literal.form_of_floatingPoint? real
    obtain ⟨all, digit, count⟩ := (Literal.wellFormedBody_iff noDigit).mp wellFormed
    obtain ⟨numeral, written, rfl⟩ := Option.map_eq_some_iff.mp value
    exact ⟨negative, body, form, all, digit, count, Binary64.read?_of_numeral written⟩

namespace Finding.Reads

variable {position : Nat} {text rest : List Char} {t : Token}

/-- The value of a token is what its text says. -/
theorem writtenAs (noDigit : separator.isDigit = false)
    (reads : (Finding.token t).Reads separator position text rest) :
    t.value.WrittenAs separator text := by
  cases reads with
  | number value => exact writtenAs_of_ofText? noDigit value
  | name form => exact ⟨(String.toList_ofList).symm, form⟩
  | operator op => exact ⟨op.symbol, rfl, rfl⟩
  | leftBracket => exact ⟨'(', rfl, rfl⟩
  | rightBracket => exact ⟨')', rfl, rfl⟩

/-- The text of a token ends where it has to. -/
theorem endsBefore (reads : (Finding.token t).Reads separator position text rest) :
    t.value.EndsBefore separator rest := by
  cases reads with
  | @number _ _ literal value stops =>
    have ends : ∀ c ∈ rest.head?, c.isDigit = false ∧ c ≠ separator := by
      intro c first
      simpa [Pointwise.continuesNumber] using stops c first
    cases literal <;> exact ends
  | name form stops => exact stops
  | operator op => trivial
  | leftBracket => trivial
  | rightBracket => trivial

end Finding.Reads

end

/-! ## The tokens of a formula -/

/-- What holds of the tokens of a formula. -/
structure TokensOf (separator : Char) (formula : String) (read : List Token) : Prop where
  increasing : read.Pairwise fun a b => a.start < b.start
  disjoint : read.Pairwise fun a b => ∀ place, ¬ (a.covers place = true ∧ b.covers place = true)
  nonempty : ∀ t ∈ read, 1 ≤ t.length
  within : ∀ t ∈ read, t.stop ≤ formula.length
  writtenAs : ∀ t ∈ read, t.value.WrittenAs separator (t.source formula.toList)
  endsBefore : ∀ t ∈ read, t.value.EndsBefore separator (formula.toList.drop t.stop)

namespace Tiling

variable {separator : Char} {formula : List Char} {found : List Finding}

/-- Each token stops before the next ones start. -/
theorem pairwise_tokens (tiling : Tiling separator 0 formula found) :
    (found.filterMap Finding.token?).Pairwise fun a b => a.stop ≤ b.start := by
  refine List.pairwise_filterMap.mpr (tiling.pairwise.imp ?_)
  intro f g order a isA b isB
  obtain rfl := Finding.token?_eq_some_iff.mp isA
  obtain rfl := Finding.token?_eq_some_iff.mp isB
  exact order

/-- A token says what it covers. -/
theorem reads_source (tiling : Tiling separator 0 formula found) {t : Token}
    (member : .token t ∈ found) :
    (Finding.token t).Reads separator t.start (t.source formula) (formula.drop t.stop) := by
  obtain ⟨before, part, behind, rfl, start, reads⟩ := tiling.exists_reads member
  -- The part that the finding reads is the one that start and length cut out.
  have start' : t.start = before.length := start.trans (Nat.zero_add _)
  have length : t.length = part.length := reads.length_eq
  have source : t.source (before ++ part ++ behind) = part := by
    simp [Token.source, start', length]
  have rest : (before ++ part ++ behind).drop t.stop = behind := by
    rw [Token.stop, start', length, ← List.length_append, List.drop_left]
  rw [source, rest]
  exact reads

end Tiling

/-- The tokens of a scan that succeeds are in order, do not overlap, lie within the formula, are what
they cover, and end where they have to. -/
theorem tokensOf_of_scan {settings : Settings} {formula : String} {read : List Token}
    (ok : scan settings formula = .ok read) : TokensOf settings.separator formula read := by
  have noDigit := isDigit_of_isSeparator settings.isSeparator_separator
  have tiling := tiling_findings settings.separator formula.toList
  have member {t : Token} (isRead : t ∈ read) :
      .token t ∈ Pointwise.findings settings.separator formula.toList := by
    rw [eq_pointwise_of_scan ok] at isRead
    exact Finding.mem_filterMap_token?.mp isRead
  have place {t : Token} (isRead : t ∈ read) :
      t.start < t.stop ∧ t.stop ≤ formula.toList.length := by
    have bounds := tiling.bounds (member isRead)
    rw [Nat.zero_add] at bounds
    exact bounds.2
  -- Both the order and the disjointness come from the findings lying side by side.
  have order : read.Pairwise fun a b => a.stop ≤ b.start := by
    rw [eq_pointwise_of_scan ok]
    exact tiling.pairwise_tokens
  constructor
  case increasing =>
    refine order.imp_of_mem ?_
    intro a b isA _ apart
    exact Nat.lt_of_lt_of_le (place isA).1 apart
  case disjoint =>
    refine order.imp ?_
    intro a b apart here ⟨inA, inB⟩
    have stopA := (Token.covers_iff.mp inA).2
    have startB := (Token.covers_iff.mp inB).1
    exact absurd (Nat.lt_of_lt_of_le stopA (Nat.le_trans apart startB)) (Nat.lt_irrefl _)
  case nonempty =>
    intro t isRead
    have := (place isRead).1
    rw [Token.stop] at this
    omega
  case within =>
    intro t isRead
    rw [← String.length_toList]
    exact (place isRead).2
  case writtenAs =>
    intro t isRead
    exact (tiling.reads_source (member isRead)).writtenAs noDigit
  case endsBefore =>
    intro t isRead
    exact (tiling.reads_source (member isRead)).endsBefore

/-- A signed integer, a name with a digit, and a number that begins with the separator. -/
theorem tokensOf_of_scan_sum :
    scan .default "-1+x2 *.5" =
        .ok [⟨.integer (-1), 0, 2⟩, ⟨.operator .add, 2, 1⟩, ⟨.identifier "x2", 3, 2⟩,
          ⟨.operator .multiply, 6, 1⟩, ⟨.floatingPoint (.ofWord 0x3FE0000000000000), 7, 2⟩] ∧
      TokensOf '.' "-1+x2 *.5"
        [⟨.integer (-1), 0, 2⟩, ⟨.operator .add, 2, 1⟩, ⟨.identifier "x2", 3, 2⟩,
          ⟨.operator .multiply, 6, 1⟩, ⟨.floatingPoint (.ofWord 0x3FE0000000000000), 7, 2⟩] := by
  have ok : scan .default "-1+x2 *.5" =
      .ok [⟨.integer (-1), 0, 2⟩, ⟨.operator .add, 2, 1⟩, ⟨.identifier "x2", 3, 2⟩,
        ⟨.operator .multiply, 6, 1⟩, ⟨.floatingPoint (.ofWord 0x3FE0000000000000), 7, 2⟩] := by
    rw [scan_lenient rfl (by decide)]
    exact congrArg Except.ok (by decide +kernel)
  exact ⟨ok, tokensOf_of_scan ok⟩

end FormulaScan
