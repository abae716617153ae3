import FormulaScan.Grammar.Item
import FormulaScan.Grammar.Segment
import FormulaScan.Proofs.Literal.Grammar
import FormulaScan.Proofs.Scan.Readers

/-!
# Findings tile the formula

The findings of a scan lie side by side: each begins where the one before stops, and together they
take up the whole formula. Each one says what stands at its place (`Finding.Reads`), and the readers
of numbers and names stop only where they have to.

`Tiling` puts this into one statement about a list of findings, `tiling_findings` shows it of a
pointwise scan, and the lemmas on `Tiling` draw from it what tokens, faults and blanks have in
common: order, disjointness, and a finding for every position.
-/

namespace FormulaScan

/-- The position behind the last character of a finding. -/
def Finding.stop (f : Finding) : Nat := f.start + f.length

/-- What a finding says of the text at a position, given the text behind it. -/
inductive Finding.Reads (separator : Char) (position : Nat) :
    List Char → List Char → Finding → Prop where
  | number {text rest : List Char} {literal : Literal}
      (value : Literal.ofText? separator text = some literal)
      (stops : ∀ c ∈ rest.head?, Pointwise.continuesNumber separator c = false) :
      Reads separator position text rest (.token ⟨literal.tokenValue, position, text.length⟩)
  | name {text rest : List Char} (form : Item.isName text = true)
      (stops : ∀ c ∈ rest.head?, c.isAlphanum = false) :
      Reads separator position text rest
        (.token ⟨.identifier (String.ofList text), position, text.length⟩)
  | operator (op : Operator) {rest : List Char} :
      Reads separator position [op.symbol] rest (.token ⟨.operator op, position, 1⟩)
  | leftBracket {rest : List Char} :
      Reads separator position ['('] rest (.token ⟨.leftBracket, position, 1⟩)
  | rightBracket {rest : List Char} :
      Reads separator position [')'] rest (.token ⟨.rightBracket, position, 1⟩)
  | blank {c : Char} {rest : List Char} (blank : Text.isBlank c = true) :
      Reads separator position [c] rest (.blank position 1)
  | malformed (negative : Bool) {body rest : List Char} (nonempty : body ≠ [])
      (form : ∀ c ∈ body, Pointwise.continuesNumber separator c = true)
      (noLiteral : Literal.ofText? separator (signText negative ++ body) = none)
      (stops : ∀ c ∈ rest.head?, Pointwise.continuesNumber separator c = false) :
      Reads separator position (signText negative ++ body) rest
        (.fault (.malformedNumber (String.ofList (signText negative ++ body)) position))
  | unexpected {c : Char} {rest : List Char} (plain : c.isAlphanum = false)
      (visible : Text.isBlank c = false) (noSymbol : Segment.isSymbol c = false) :
      Reads separator position [c] rest (.fault (.unexpectedCharacter c position))

namespace Finding.Reads

variable {separator : Char} {position : Nat} {text rest : List Char} {f : Finding}

theorem start_eq (reads : f.Reads separator position text rest) : f.start = position := by
  cases reads <;> rfl

theorem length_eq (reads : f.Reads separator position text rest) : f.length = text.length := by
  cases reads <;> simp [Finding.length, Fault.length]

theorem text_ne_nil (reads : f.Reads separator position text rest) : text ≠ [] := by
  cases reads with
  | number value =>
    rintro rfl
    cases value
  | name form =>
    rintro rfl
    cases form
  | malformed negative nonempty => simp [nonempty]
  | _ => simp

end Finding.Reads

/-! ## The readers say what stands there -/

namespace Pointwise

section

variable {separator : Char}

/-- What the number reader finds in a text that begins a number. -/
theorem reads_number {expects : Expectation} {c : Char}
    (begins : startsNumber separator expects c = true) (position : Nat) {more rest : List Char}
    (goOn : ∀ d ∈ more, continuesNumber separator d = true)
    (stops : ∀ d ∈ rest.head?, continuesNumber separator d = false) :
    (numberFinding separator position (c :: more)).Reads separator position (c :: more) rest := by
  obtain ⟨literal, value, found⟩ | ⟨lone, found⟩ | ⟨noLiteral, notLone, found⟩ :=
    numberFinding_cases separator (c :: more)
  · rw [found]
    exact .number value stops
  · rw [found, lone]
    exact .operator .subtract
  · rw [found]
    -- What begins the text is a digit or a separator, or else a sign with something behind it.
    simp only [startsNumber, Bool.or_eq_true, Bool.and_eq_true, beq_iff_eq] at begins
    rcases begins with first | ⟨rfl, -⟩
    · have form : ∀ d ∈ c :: more, continuesNumber separator d = true := by
        simpa [first] using goOn
      exact .malformed false (by simp) form noLiteral stops
    · have nonempty : more ≠ [] := by simpa using notLone
      exact .malformed true nonempty goOn noLiteral stops

/-- What the symbol reader finds in a character that is no letter and no digit. -/
theorem reads_symbol {c : Char} (plain : c.isAlphanum = false) (position : Nat)
    (rest : List Char) : (symbolFinding position c).Reads separator position [c] rest := by
  obtain ⟨blank, found⟩ | ⟨value, symbol, found⟩ | ⟨visible, noSymbol, found⟩ :=
    symbolFinding_cases c
  · rw [found]
    exact .blank blank
  · rw [found]
    obtain ⟨op, rfl, rfl⟩ | ⟨rfl, rfl⟩ | ⟨rfl, rfl⟩ := Token.Value.symbol?_eq_some_iff.mp symbol
    · exact .operator op
    · exact .leftBracket
    · exact .rightBracket
  · rw [found]
    exact .unexpected plain visible noSymbol

/-- A reading says what stands at its place. -/
theorem reads_step {state : ScanState} (position : Nat) {c : Char} {rest : List Char}
    (fits : Fits separator state.stage (c :: rest)) :
    (step separator state position c rest).finding.Reads separator position
      (step separator state position c rest).text
      (step separator state position c rest).rest := by
  -- The reader takes in what it can, and stops at what it cannot take in.
  have goOn : ∀ d ∈ rest.takeWhile (takes separator (reader separator state c)),
      takes separator (reader separator state c) d = true :=
    List.all_eq_true.mp List.all_takeWhile
  have stops : ∀ d ∈ (rest.dropWhile (takes separator (reader separator state c))).head?,
      takes separator (reader separator state c) d = false :=
    fun d first => takes_head_dropWhile first
  cases taker : reader separator state c with
  | number =>
    rw [taker] at goOn stops
    simp only [step, taker, findingOf]
    exact reads_number (startsNumber_of_reader taker) position goOn stops
  | name =>
    rw [taker] at goOn stops
    simp only [step, taker, findingOf]
    refine .name ?_ stops
    rw [Item.isName, isAlpha_of_reader taker, Bool.true_and, List.all_eq_true]
    exact goOn
  | symbol =>
    simp only [step, taker, findingOf, takeWhile_takes_symbol, dropWhile_takes_symbol]
    exact reads_symbol (isAlphanum_of_reader_symbol fits taker) position rest

end

end Pointwise

/-! ## Tilings -/

/-- Findings that lie side by side and take up a text whose first character has a given position. -/
inductive Tiling (separator : Char) : Nat → List Char → List Finding → Prop where
  | nil {position : Nat} : Tiling separator position [] []
  | cons {position : Nat} {text rest : List Char} {f : Finding} {found : List Finding}
      (reads : f.Reads separator position text rest)
      (tail : Tiling separator (position + text.length) rest found) :
      Tiling separator position (text ++ rest) (f :: found)

/-- The findings of a pointwise scan tile the text, where the text fits behind the stage. -/
theorem tiling_findingsFrom {separator : Char} (state : ScanState) (position : Nat)
    (text : List Char) (fits : Pointwise.Fits separator state.stage text) :
    Tiling separator position text (Pointwise.findingsFrom separator state position text) := by
  induction state, position, text using Pointwise.reading_induction separator with
  | nil state position =>
    rw [Pointwise.findingsFrom_nil]
    exact .nil
  | cons state position c rest ih =>
    rw [Pointwise.findingsFrom_cons, ← Pointwise.text_append_rest_step separator state position]
    exact .cons (Pointwise.reads_step position fits)
      (ih (Pointwise.fits_step separator state position c rest))

/-- The findings of a pointwise scan tile the formula. -/
theorem tiling_findings (separator : Char) (formula : List Char) :
    Tiling separator 0 formula (Pointwise.findings separator formula) :=
  tiling_findingsFrom .initial 0 formula (Pointwise.fits_number separator formula)

namespace Tiling

variable {separator : Char} {position : Nat} {text : List Char} {found : List Finding}

/-- A finding says what stands at its place in the text. -/
theorem exists_reads (tiling : Tiling separator position text found) {f : Finding}
    (member : f ∈ found) :
    ∃ before part behind, text = before ++ part ++ behind ∧ f.start = position + before.length ∧
      f.Reads separator f.start part behind := by
  induction tiling with
  | nil => cases member
  | @cons position part rest g found reads tail ih =>
    rcases List.mem_cons.mp member with rfl | member
    · refine ⟨[], part, rest, rfl, reads.start_eq, ?_⟩
      rw [reads.start_eq]
      exact reads
    · obtain ⟨before, part', behind, rfl, start, reads'⟩ := ih member
      refine ⟨part ++ before, part', behind, by simp, ?_, reads'⟩
      rw [start, List.length_append, Nat.add_assoc]

/-- A finding lies within the text and is not empty. -/
theorem bounds (tiling : Tiling separator position text found) {f : Finding}
    (member : f ∈ found) :
    position ≤ f.start ∧ f.start < f.stop ∧ f.stop ≤ position + text.length := by
  obtain ⟨before, part, behind, rfl, start, reads⟩ := tiling.exists_reads member
  have size := List.length_pos_iff.mpr reads.text_ne_nil
  simp only [Finding.stop, reads.length_eq, List.length_append]
  omega

/-- Each finding stops before the next ones start. -/
theorem pairwise (tiling : Tiling separator position text found) :
    found.Pairwise fun f g => f.stop ≤ g.start := by
  induction tiling with
  | nil => exact .nil
  | cons reads tail ih =>
    refine List.pairwise_cons.mpr ⟨?_, ih⟩
    intro g member
    rw [Finding.stop, reads.start_eq, reads.length_eq]
    exact (tail.bounds member).1

/-- No position belongs to two findings. -/
theorem eq_of_mem (tiling : Tiling separator position text found) {f g : Finding} {place : Nat}
    (member : f ∈ found) (inside : f.start ≤ place ∧ place < f.stop)
    (member' : g ∈ found) (inside' : g.start ≤ place ∧ place < g.stop) : f = g := by
  induction found generalizing position text with
  | nil => cases member
  | cons first found ih =>
    -- One finding would have to stop before the other starts.
    have order := List.pairwise_cons.mp tiling.pairwise
    rcases List.mem_cons.mp member with rfl | later <;>
      rcases List.mem_cons.mp member' with rfl | later'
    · rfl
    · have := order.1 g later'
      omega
    · have := order.1 f later
      omega
    · cases tiling with
      | cons reads tail => exact ih tail later later'

/-- Every position belongs to a finding. -/
theorem exists_mem (tiling : Tiling separator position text found) {place : Nat}
    (lower : position ≤ place) (upper : place < position + text.length) :
    ∃ f ∈ found, f.start ≤ place ∧ place < f.stop := by
  induction tiling with
  | nil => simp at upper; omega
  | @cons position part rest g found reads tail ih =>
    by_cases here : place < position + part.length
    · refine ⟨g, List.mem_cons_self .., ?_⟩
      rw [Finding.stop, reads.start_eq, reads.length_eq]
      exact ⟨lower, here⟩
    -- A position behind the first finding belongs to a later one.
    · rw [List.length_append] at upper
      obtain ⟨f, member, inside⟩ := ih (by omega) (by omega)
      exact ⟨f, List.mem_cons_of_mem _ member, inside⟩

/-- The last finding is the one that stops where the text does. -/
theorem getLast?_eq_some_iff (tiling : Tiling separator position text found) {f : Finding} :
    found.getLast? = some f ↔ f ∈ found ∧ f.stop = position + text.length := by
  induction tiling with
  | nil => simp
  | @cons position part rest g found reads tail ih =>
    have stop : g.stop = position + part.length := by
      rw [Finding.stop, reads.start_eq, reads.length_eq]
    cases found with
    | nil =>
      cases tail
      simp only [List.getLast?_singleton, Option.some.injEq, List.mem_singleton, List.append_nil]
      constructor
      · rintro rfl
        exact ⟨rfl, stop⟩
      · rintro ⟨rfl, -⟩
        rfl
    | cons h later =>
      -- The first finding stops where the second one starts, which is not the end.
      have size := tail.bounds (List.mem_cons_self ..)
      rw [List.getLast?_cons_cons, ih, List.length_append, Nat.add_assoc]
      constructor
      · rintro ⟨member, last⟩
        exact ⟨List.mem_cons_of_mem _ member, last⟩
      · rintro ⟨member, last⟩
        rcases List.mem_cons.mp member with rfl | member
        · omega
        · exact ⟨member, last⟩

end Tiling

end FormulaScan
