import FormulaScan.Proofs.Grammar.Acceptance
import FormulaScan.Proofs.Scan.MinusSigns
import FormulaScan.Proofs.Scan.TokenText

/-!
# Writing items and scanning them back

Items that are written with white space between them are scanned back, each as one token with its
value and its place (`scan_layout`). The other way around, the texts of the tokens of a scan are
items that could have been written so (`Item.exists_items_of_scan`): the number reader is offered a
minus sign only where an operand is expected, so that signed literals are in place, also where other
text was left out. Both ways together are `layout_scan_round_trip`.
-/

namespace FormulaScan

namespace Item

variable {separator : Char}

theorem signsInPlace_cons {expects : Expectation} {item : Item} {rest : List Item} :
    signsInPlace expects (item :: rest) = true ↔
      (∀ body, item = .signedLiteral body → expects = .operand) ∧
        signsInPlace item.expectsBehind rest = true := by
  cases item <;> simp [signsInPlace]

/-! ## The tokens of items -/

theorem behind_tokenValue (literal : Literal) :
    Expectation.behind literal.tokenValue = .operator := by
  cases literal <;> rfl

/-- The bodies of items are those of literals: one that has a separator has it among its digits. -/
theorem isBody_iff (admissible : isSeparator separator = true) {body : List Char} :
    isBody separator body = true ↔ Literal.wellFormedBody separator body = true := by
  rw [Literal.wellFormedBody_iff (isDigit_of_isSeparator admissible)]
  simp only [isBody, Bool.and_eq_true, List.all_eq_true, Bool.or_eq_true, beq_iff_eq,
    decide_eq_true_eq, List.one_le_countP_iff, and_assoc]

/-- The body of an item is a literal, with or without a sign. -/
theorem exists_literal (admissible : isSeparator separator = true) (negative : Bool)
    {body : List Char} (form : isBody separator body = true) :
    ∃ literal, Literal.ofText? separator (signText negative ++ body) = some literal := by
  have noSign := ne_minus_of_isSeparator admissible
  have wellFormed := (isBody_iff admissible).mp form
  rw [← Option.isSome_iff_exists,
    Literal.isSome_ofText?_iff (isDigit_of_isSeparator admissible) noSign,
    splitSign_append negative (Literal.head?_ne_minus_of_wellFormedBody noSign wellFormed)]
  exact wellFormed

/-- A well-formed item stands for a value, and the value settles what is expected behind it. -/
theorem exists_value_of_isWellFormed (admissible : isSeparator separator = true) {item : Item}
    (form : item.isWellFormed separator = true) :
    ∃ value, item.value? separator = some value ∧
      Expectation.behind value = item.expectsBehind := by
  cases item with
  | literal body =>
    obtain ⟨literal, value⟩ := exists_literal admissible false form
    exact ⟨literal.tokenValue, congrArg (Option.map _) value, behind_tokenValue literal⟩
  | signedLiteral body =>
    obtain ⟨literal, value⟩ := exists_literal admissible true form
    exact ⟨literal.tokenValue, congrArg (Option.map _) value, behind_tokenValue literal⟩
  | _ => exact ⟨_, rfl, rfl⟩

/-- A number in front of a boundary is found as one token, where its sign is in place. -/
theorem findingsFrom_literal (negative : Bool) {body : List Char}
    (form : isBody separator body = true) {literal : Literal}
    (value : Literal.ofText? separator (signText negative ++ body) = some literal)
    {expects : Expectation} (inPlace : negative = true → expects = .operand) (position : Nat)
    {behind : List Char} (boundary : Pointwise.Boundary separator behind) :
    Pointwise.findingsFrom separator ⟨expects, .number⟩ position
        (signText negative ++ body ++ behind) =
      .token ⟨literal.tokenValue, position, (signText negative ++ body).length⟩ ::
        Pointwise.findingsFrom separator ⟨.behind literal.tokenValue, .name⟩
          (position + (signText negative ++ body).length) behind := by
  have goOn : ∀ c ∈ body, Pointwise.continuesNumber separator c = true := by
    simp only [isBody, Bool.and_eq_true, List.all_eq_true] at form
    exact form.1.1
  -- With and without a sign, the number reader takes the first character and goes on over the others.
  obtain ⟨c, more, text, reads, inMore⟩ : ∃ c more, signText negative ++ body = c :: more ∧
      Pointwise.reader separator ⟨expects, .number⟩ c = .number ∧
      ∀ d ∈ more, Pointwise.continuesNumber separator d = true := by
    cases negative with
    | true =>
      refine ⟨'-', body, rfl, ?_, goOn⟩
      simp [Pointwise.reader, Pointwise.startsNumber, inPlace rfl]
    | false =>
      cases body with
      | nil => simp [isBody] at form
      | cons c more =>
        refine ⟨c, more, rfl, ?_, fun d member => goOn d (List.mem_cons_of_mem c member)⟩
        simp [Pointwise.reader, Pointwise.startsNumber, goOn c (List.mem_cons_self ..)]
  have finding : Pointwise.findingOf separator position c more .number =
      .token ⟨literal.tokenValue, position, (c :: more).length⟩ := by
    rw [text] at value
    simp only [Pointwise.findingOf, numberFinding, value]
  rw [text, Pointwise.findingsFrom_taken boundary reads inMore, finding]
  rfl

/-- A name in front of a boundary is found as one token. -/
theorem findingsFrom_name (admissible : isSeparator separator = true) {name : List Char}
    (form : isName name = true) (expects : Expectation) (position : Nat)
    {behind : List Char} (boundary : Pointwise.Boundary separator behind) :
    Pointwise.findingsFrom separator ⟨expects, .number⟩ position (name ++ behind) =
      .token ⟨.identifier (String.ofList name), position, name.length⟩ ::
        Pointwise.findingsFrom separator ⟨.operator, .symbol⟩ (position + name.length)
          behind := by
  cases name with
  | nil => cases form
  | cons c more =>
    simp only [isName, Bool.and_eq_true, List.all_eq_true] at form
    have reads := Pointwise.reader_of_isAlpha admissible
      ⟨expects, .number⟩ (by simp) form.1
    rw [Pointwise.findingsFrom_taken boundary reads form.2]
    rfl

/-- An item in place, in front of a boundary, is found as its token. -/
theorem exists_findingsFrom_text (admissible : isSeparator separator = true) {item : Item}
    (form : item.isWellFormed separator = true) {value : Token.Value}
    (isValue : item.value? separator = some value) {expects : Expectation}
    (inPlace : ∀ body, item = .signedLiteral body → expects = .operand) (position : Nat)
    {behind : List Char} (boundary : Pointwise.Boundary separator behind) :
    ∃ stage, Pointwise.findingsFrom separator ⟨expects, .number⟩ position
        (item.text ++ behind) =
      .token ⟨value, position, item.text.length⟩ ::
        Pointwise.findingsFrom separator ⟨.behind value, stage⟩ (position + item.text.length)
          behind := by
  cases item with
  | name text =>
    obtain rfl := Option.some.inj isValue
    exact ⟨_, findingsFrom_name admissible form expects position boundary⟩
  | operator op =>
    obtain rfl := Option.some.inj isValue
    by_cases minus : op = .subtract
    -- No digit and no separator stands behind the sign, so that it is an operator.
    · subst minus
      exact ⟨_, Pointwise.findingsFrom_minus admissible ⟨expects, .number⟩ position
        (.inr (boundary.takes_eq_false .number))⟩
    · exact ⟨_, Pointwise.findingsFrom_symbol admissible _ (.operator op) rfl
        (fun same => minus (Operator.symbol_injective same)) position behind⟩
  | leftBracket =>
    obtain rfl := Option.some.inj isValue
    exact ⟨_, Pointwise.findingsFrom_symbol admissible _ .leftBracket rfl (by decide)
      position behind⟩
  | rightBracket =>
    obtain rfl := Option.some.inj isValue
    exact ⟨_, Pointwise.findingsFrom_symbol admissible _ .rightBracket rfl (by decide)
      position behind⟩
  | literal body =>
    obtain ⟨literal, read, rfl⟩ := Option.map_eq_some_iff.mp isValue
    exact ⟨_, findingsFrom_literal false form read (by simp) position
      boundary⟩
  | signedLiteral body =>
    obtain ⟨literal, read, rfl⟩ := Option.map_eq_some_iff.mp isValue
    exact ⟨_, findingsFrom_literal true form read
      (fun _ => inPlace body rfl) position boundary⟩

/-! ## Layouts -/

theorem layout_cons (item : Item) (gap : List Char) (rest : List (Item × List Char)) :
    layout ((item, gap) :: rest) = item.text ++ (gap ++ layout rest) := by
  simp [layout]

namespace IsSpaced

variable {item : Item} {gap : List Char} {rest : List (Item × List Char)}

theorem tail (spaced : IsSpaced ((item, gap) :: rest)) : IsSpaced rest where
  blank entry member := spaced.blank entry (List.mem_cons_of_mem _ member)
  apart entry member := by
    apply spaced.apart entry
    cases rest with
    | nil => cases member
    | cons next rest => exact List.mem_cons_of_mem _ member

/-- Only the last item may lack the white space behind it. -/
theorem eq_nil_of_gap (spaced : IsSpaced ((item, gap) :: rest)) (none : gap = []) :
    rest = [] := by
  cases rest with
  | nil => rfl
  | cons next rest => exact absurd none (spaced.apart (item, gap) (List.mem_cons_self ..))

/-- An item ends at a boundary. -/
theorem boundary (admissible : isSeparator separator = true)
    (spaced : IsSpaced ((item, gap) :: rest)) :
    Pointwise.Boundary separator (gap ++ layout rest) := by
  have blank := List.all_eq_true.mp (spaced.blank (item, gap) (List.mem_cons_self ..))
  cases gap with
  | nil =>
    rw [spaced.eq_nil_of_gap rfl]
    intro c first
    cases first
  | cons c more =>
    exact Pointwise.boundary_of_isBlank admissible (blank c (List.mem_cons_self ..)) _

/-- The white space behind an item tells nothing, and leaves the expectation as it is. -/
theorem told_findingsFrom_gap (admissible : isSeparator separator = true)
    (spaced : IsSpaced ((item, gap) :: rest)) (state : ScanState) (position : Nat) :
    told (Pointwise.findingsFrom separator state position (gap ++ layout rest)) =
      told (Pointwise.findingsFrom separator ⟨state.expects, .number⟩ (position + gap.length)
        (layout rest)) := by
  by_cases none : gap = []
  -- Then the item is the last one, and nothing is left to be read.
  · rw [none, spaced.eq_nil_of_gap none]
    simp [layout]
  · exact told_findingsFrom_row admissible state position none
      (List.all_eq_true.mp (spaced.blank (item, gap) (List.mem_cons_self ..))) _

end IsSpaced

/-- Spaced items in place are found as their tokens. -/
theorem told_findingsFrom_layout (admissible : isSeparator separator = true)
    {items : List (Item × List Char)} {expects : Expectation}
    (forms : (items.map Prod.fst).all (isWellFormed separator) = true)
    (inPlace : signsInPlace expects (items.map Prod.fst) = true) (spaced : IsSpaced items)
    (position : Nat) :
    told (Pointwise.findingsFrom separator ⟨expects, .number⟩ position (layout items)) =
      (tokensFrom separator position items).map .token := by
  induction items generalizing expects position with
  | nil => simp [layout, tokensFrom, told]
  | cons entry rest ih =>
    obtain ⟨item, gap⟩ := entry
    simp only [List.map_cons, List.all_cons, Bool.and_eq_true, signsInPlace_cons] at forms inPlace
    obtain ⟨value, isValue, behind⟩ := exists_value_of_isWellFormed admissible forms.1
    obtain ⟨stage, found⟩ := exists_findingsFrom_text admissible forms.1 isValue inPlace.1
      position (spaced.boundary admissible)
    rw [← behind] at inPlace
    have later := ih forms.2 inPlace.2 spaced.tail (position + item.text.length + gap.length)
    have gone := spaced.told_findingsFrom_gap admissible ⟨.behind value, stage⟩
      (position + item.text.length)
    -- The token of the first item, then its white space, then the tokens of the others.
    have first (t : Token) (f : List Finding) : told (.token t :: f) = .token t :: told f := rfl
    rw [layout_cons, found, first, gone, later, tokensFrom, isValue]
    rfl

/-- Every well-formed item becomes one token. -/
theorem length_tokensFrom (admissible : isSeparator separator = true)
    {items : List (Item × List Char)}
    (forms : (items.map Prod.fst).all (isWellFormed separator) = true) (position : Nat) :
    (tokensFrom separator position items).length = items.length := by
  induction items generalizing position with
  | nil => rfl
  | cons entry rest ih =>
    obtain ⟨item, gap⟩ := entry
    simp only [List.map_cons, List.all_cons, Bool.and_eq_true] at forms
    obtain ⟨value, isValue, -⟩ := exists_value_of_isWellFormed admissible forms.1
    rw [tokensFrom, isValue, List.length_append, ih forms.2, List.length_cons, Nat.add_comm]
    rfl

/-- Every 64-bit integer is written by a well-formed item that stands for it. -/
theorem exists_item_of_int64 (admissible : isSeparator separator = true) (n : Int64) :
    ∃ item : Item, item.text = wholeText n.toInt ∧ item.isWellFormed separator = true ∧
      item.value? separator = some (.integer n) := by
  have form : isBody separator (Nat.toDigits 10 n.toInt.natAbs) = true := by
    rw [isBody_iff admissible]
    exact Literal.wellFormedBody_of_digits Nat.toDigits_ne_nil
      fun c member => Nat.isDigit_of_mem_toDigits (by decide) (by decide) member
  have value : Literal.ofText? separator (wholeText n.toInt) = some (.integer n) := by
    rw [Literal.ofText?, Literal.integer?_wholeText]
  by_cases negative : n.toInt < 0
  · have text : wholeText n.toInt = '-' :: Nat.toDigits 10 n.toInt.natAbs := by
      simp [wholeText, negative]
    rw [text] at value ⊢
    exact ⟨.signedLiteral _, rfl, form, congrArg (Option.map Literal.tokenValue) value⟩
  · have text : wholeText n.toInt = Nat.toDigits 10 n.toInt.natAbs := by
      simp [wholeText, negative]
    rw [text] at value ⊢
    exact ⟨.literal _, rfl, form, congrArg (Option.map Literal.tokenValue) value⟩

end Item

/-! ## The items of a scan -/

theorem symbol?_of_symbolFinding {position : Nat} {c : Char} {t : Token}
    (isToken : Pointwise.symbolFinding position c = .token t) : t.value.symbol? = some c := by
  obtain ⟨-, found⟩ | ⟨value, symbol, found⟩ | ⟨-, -, found⟩ := Pointwise.symbolFinding_cases c
  · rw [found] at isToken
    cases isToken
  · rw [found] at isToken
    cases isToken
    exact symbol
  · rw [found] at isToken
    cases isToken

namespace Item

variable {separator : Char}

/-- The text of a number is an item, signed if it begins with a minus sign. -/
theorem exists_item_of_ofText? (admissible : isSeparator separator = true) {text : List Char}
    {literal : Literal} (value : Literal.ofText? separator text = some literal) :
    ∃ item : Item, item.text = text ∧ item.value? separator = some literal.tokenValue ∧
      item.isWellFormed separator = true ∧
      ∀ body, item = .signedLiteral body → text.head? = some '-' := by
  have form := (isBody_iff admissible).mpr
    ((Literal.isSome_ofText?_iff (isDigit_of_isSeparator admissible)
      (ne_minus_of_isSeparator admissible) text).mp (by rw [value]; rfl))
  have parts := signText_append_splitSign text
  have isValue := congrArg (Option.map Literal.tokenValue) value
  -- Whether the text has a sign decides of which sort the item is.
  cases negative : (splitSign text).1 with
  | true =>
    rw [negative] at parts
    rw [← parts] at isValue ⊢
    exact ⟨.signedLiteral _, rfl, isValue, form, fun _ _ => rfl⟩
  | false =>
    rw [negative] at parts
    rw [← parts] at isValue ⊢
    exact ⟨.literal _, rfl, isValue, form, by simp⟩

/-- The character of a symbol is an item. -/
theorem exists_item_of_symbol? (separator : Char) {value : Token.Value} {c : Char}
    (symbol : value.symbol? = some c) :
    ∃ item : Item, item.text = [c] ∧ item.value? separator = some value ∧
      item.isWellFormed separator = true ∧ ∀ body, item ≠ .signedLiteral body := by
  obtain ⟨op, rfl, rfl⟩ | ⟨rfl, rfl⟩ | ⟨rfl, rfl⟩ := Token.Value.symbol?_eq_some_iff.mp symbol
  · exact ⟨.operator op, rfl, rfl, rfl, by simp⟩
  · exact ⟨.leftBracket, rfl, rfl, rfl, by simp⟩
  · exact ⟨.rightBracket, rfl, rfl, rfl, by simp⟩

/-- A reading that finds a token takes the text of an item, which is a signed literal only where an
operand is expected. -/
theorem exists_item_of_step (admissible : isSeparator separator = true) {state : ScanState}
    {position : Nat} {c : Char} {rest : List Char} {t : Token}
    (isToken : (Pointwise.step separator state position c rest).finding = .token t) :
    ∃ item : Item, item.text = (Pointwise.step separator state position c rest).text ∧
      item.value? separator = some t.value ∧ item.isWellFormed separator = true ∧
      ∀ body, item = .signedLiteral body → state.expects = .operand := by
  cases taker : Pointwise.reader separator state c with
  | number =>
    simp only [Pointwise.step, taker, Pointwise.findingOf] at isToken ⊢
    obtain ⟨literal, value, found⟩ | ⟨lone, found⟩ | ⟨-, -, found⟩ :=
      Pointwise.numberFinding_cases separator
        (c :: rest.takeWhile (Pointwise.takes separator .number))
    · obtain ⟨item, text, isValue, form, signed⟩ := exists_item_of_ofText? admissible value
      rw [found] at isToken
      cases isToken
      refine ⟨item, text, isValue, form, fun body same => ?_⟩
      -- The number reader was offered a minus sign.
      have begins := Pointwise.startsNumber_of_reader taker
      have minus : c = '-' := Option.some.inj (signed body same)
      rw [minus, Pointwise.startsNumber, Pointwise.continuesNumber_minus admissible] at begins
      simpa using begins
    · rw [found] at isToken
      cases isToken
      rw [lone]
      exact ⟨.operator .subtract, rfl, rfl, rfl, by simp⟩
    · rw [found] at isToken
      cases isToken
  | name =>
    simp only [Pointwise.step, taker, Pointwise.findingOf, nameFinding] at isToken ⊢
    cases isToken
    refine ⟨.name _, rfl, rfl, ?_, by simp⟩
    simp only [isWellFormed, isName, Pointwise.isAlpha_of_reader taker, Bool.true_and]
    exact List.all_takeWhile
  | symbol =>
    simp only [Pointwise.step, taker, Pointwise.findingOf,
      Pointwise.takeWhile_takes_symbol] at isToken ⊢
    obtain ⟨item, text, isValue, form, unsigned⟩ :=
      exists_item_of_symbol? separator (symbol?_of_symbolFinding isToken)
    exact ⟨item, text, isValue, form, fun body same => absurd same (unsigned body)⟩

/-- The tokens that are found from a position of a formula on are items in place. -/
theorem exists_items_of_findingsFrom (admissible : isSeparator separator = true)
    (formula : List Char) (state : ScanState) (position : Nat) (text : List Char)
    (fits : Pointwise.Fits separator state.stage text) (before : List Char)
    (parts : formula = before ++ text) (place : before.length = position) :
    ∃ items : List Item,
      items.map Item.text =
        ((Pointwise.findingsFrom separator state position text).filterMap
          Finding.token?).map (Token.source formula) ∧
      items.map (Item.value? separator) =
        ((Pointwise.findingsFrom separator state position text).filterMap
          Finding.token?).map (fun t => some t.value) ∧
      items.all (isWellFormed separator) = true ∧
      signsInPlace state.expects items = true := by
  induction state, position, text using Pointwise.reading_induction separator
      generalizing before with
  | nil state position =>
    rw [Pointwise.findingsFrom_nil]
    exact ⟨[], rfl, rfl, rfl, rfl⟩
  | cons state position c rest ih =>
    have whole := Pointwise.text_append_rest_step separator state position c rest
    -- The items of the readings behind this one.
    obtain ⟨items, texts, values, forms, inPlace⟩ :=
      ih (Pointwise.fits_step separator state position c rest)
        (before ++ (Pointwise.step separator state position c rest).text)
        (by rw [parts, ← whole, List.append_assoc]) (by rw [List.length_append, place])
    rw [Pointwise.findingsFrom_cons]
    rw [Pointwise.expects_step] at inPlace
    cases finding : (Pointwise.step separator state position c rest).finding with
    | token t =>
      obtain ⟨item, text, isValue, form, signed⟩ := exists_item_of_step admissible finding
      obtain ⟨value, isValue', behind⟩ := exists_value_of_isWellFormed admissible form
      obtain rfl : t.value = value := Option.some.inj (isValue.symm.trans isValue')
      -- The token covers the characters that the reading took.
      have reads := Pointwise.reads_step position fits
      rw [finding] at reads
      have source : t.source formula = item.text := by
        have start : t.start = before.length := reads.start_eq.trans place.symm
        have length : t.length = item.text.length := by
          rw [text]
          exact reads.length_eq
        rw [Token.source, start, length, parts, ← whole, text]
        simp
      rw [finding] at inPlace
      refine ⟨item :: items, ?_, ?_, ?_, ?_⟩
      · simp [Finding.token?, source, texts]
      · simp [Finding.token?, isValue, values]
      · simp [form, forms]
      · rw [signsInPlace_cons, ← behind]
        exact ⟨signed, inPlace⟩
    -- Blanks and faults leave the expectation as it is.
    | blank start length =>
      rw [finding] at inPlace
      exact ⟨items, texts, values, forms, inPlace⟩
    | fault f =>
      rw [finding] at inPlace
      exact ⟨items, texts, values, forms, inPlace⟩

/-- The tokens of a scan that succeeds, in either mode, are items that can make up a formula. -/
theorem exists_items_of_scan {settings : Settings} {formula : String} {read : List Token}
    (ok : scan settings formula = .ok read) :
    ∃ items : List Item,
      items.map Item.text = read.map (Token.source formula.toList) ∧
      items.map (Item.value? settings.separator) = read.map (fun t => some t.value) ∧
      isArranged settings.separator items = true := by
  obtain ⟨items, texts, values, forms, inPlace⟩ :=
    exists_items_of_findingsFrom settings.isSeparator_separator formula.toList .initial 0
      formula.toList (Pointwise.fits_number settings.separator formula.toList)
      [] rfl rfl
  rw [eq_pointwise_of_scan ok]
  refine ⟨items, texts, values, ?_⟩
  rw [isArranged, forms, Bool.true_and]
  exact inPlace

end Item

/-! ## Both ways -/

/-- Items that are written with white space between them, and possibly at both ends, are scanned back
in strict mode, each as one token with its value and its place. -/
theorem scan_layout (settings : Settings) {lead : List Char} {items : List (Item × List Char)}
    (nonempty : items ≠ []) (blank : lead.all Text.isBlank = true) (spaced : Item.IsSpaced items)
    (arranged : Item.isArranged settings.separator (items.map Prod.fst) = true) :
    scan (settings.withMode .strict) (String.ofList (lead ++ Item.layout items)) =
      .ok (Item.tokensFrom settings.separator lead.length items) := by
  have admissible := settings.isSeparator_separator
  rw [Item.isArranged, Bool.and_eq_true] at arranged
  have found := Item.told_findingsFrom_layout admissible arranged.1 arranged.2 spaced lead.length
  have leading : told (Pointwise.findings settings.separator (lead ++ Item.layout items)) =
      (Item.tokensFrom settings.separator lead.length items).map .token := by
    rw [← found]
    by_cases none : lead = []
    · rw [none]
      rfl
    · rw [Pointwise.findings, told_findingsFrom_row admissible _ 0 none
        (List.all_eq_true.mp blank), Nat.zero_add]
      rfl
  -- A formula without a character would have no token.
  have filled : (String.ofList (lead ++ Item.layout items)).toList ≠ [] := by
    rw [String.toList_ofList]
    intro empty
    have nothing : told (Pointwise.findings settings.separator []) = [] := by
      simp [Pointwise.findings, told]
    rw [empty, nothing] at leading
    have none := congrArg List.length leading
    rw [List.length_map, Item.length_tokensFrom admissible arranged.1] at none
    exact nonempty (List.eq_nil_of_length_eq_zero none.symm)
  rw [scan_eq_answer _ filled, String.toList_ofList, Settings.separator_withMode]
  exact answer_eq_ok_of_told _ leading

/-- Items that can make up a formula are scanned back from their layout, one token for each, with
whole numbers among them for all 64-bit integers; and the tokens of every scan that succeeds with at
least one token are such items. -/
theorem layout_scan_round_trip (settings : Settings) :
    (∀ (lead : List Char) (items : List (Item × List Char)), items ≠ [] →
        lead.all Text.isBlank = true → Item.IsSpaced items →
        Item.isArranged settings.separator (items.map Prod.fst) = true →
      scan (settings.withMode .strict) (String.ofList (lead ++ Item.layout items)) =
          .ok (Item.tokensFrom settings.separator lead.length items) ∧
        (Item.tokensFrom settings.separator lead.length items).length = items.length) ∧
    (∀ n : Int64, ∃ item : Item, item.text = wholeText n.toInt ∧
      item.isWellFormed settings.separator = true ∧
      item.value? settings.separator = some (.integer n)) ∧
    ∀ (formula : String) (read : List Token), scan settings formula = .ok read → read ≠ [] →
      ∃ items : List Item, items ≠ [] ∧
        items.map Item.text = read.map (Token.source formula.toList) ∧
        items.map (Item.value? settings.separator) = read.map (fun t => some t.value) ∧
        Item.isArranged settings.separator items = true := by
  refine ⟨?_, Item.exists_item_of_int64 settings.isSeparator_separator, ?_⟩
  · intro lead items nonempty blank spaced arranged
    have forms := arranged
    rw [Item.isArranged, Bool.and_eq_true] at forms
    exact ⟨scan_layout settings nonempty blank spaced arranged,
      Item.length_tokensFrom settings.isSeparator_separator forms.1 lead.length⟩
  · intro formula read ok nonempty
    obtain ⟨items, texts, values, arranged⟩ := Item.exists_items_of_scan ok
    refine ⟨items, ?_, texts, values, arranged⟩
    rintro rfl
    exact nonempty (List.map_eq_nil_iff.mp texts.symm)

/-- A difference of a signed literal and a name, scanned back; and a scan that leaves a character out,
behind which the minus sign is no sign. -/
theorem layout_scan_round_trip_difference :
    scan (Settings.default.withMode .strict) " -3 -\tx" =
        .ok [⟨.integer (-3), 1, 2⟩, ⟨.operator .subtract, 4, 1⟩, ⟨.identifier "x", 6, 1⟩] ∧
      scan .default "-3 #-4" =
        .ok [⟨.integer (-3), 0, 2⟩, ⟨.operator .subtract, 4, 1⟩, ⟨.integer 4, 5, 1⟩] ∧
      ∃ items : List Item, items ≠ [] ∧
        items.map Item.text = [['-', '3'], ['-'], ['4']] ∧
        items.map (Item.value? '.') =
          [some (.integer (-3)), some (.operator .subtract), some (.integer 4)] ∧
        Item.isArranged '.' items = true := by
  have there := ((layout_scan_round_trip .default).1 [' ']
    [(.signedLiteral ['3'], [' ']), (.operator .subtract, ['\t']), (.name ['x'], [])]
    (by decide) (by decide) ⟨by decide, by decide⟩ (by decide)).1
  have ok : scan .default "-3 #-4" =
      .ok [⟨.integer (-3), 0, 2⟩, ⟨.operator .subtract, 4, 1⟩, ⟨.integer 4, 5, 1⟩] := by
    rw [scan_lenient rfl (by decide)]
    exact congrArg Except.ok (by decide +kernel)
  have back := (layout_scan_round_trip .default).2.2 _ _ ok (by decide)
  refine ⟨there.trans (congrArg Except.ok ?_), ok, back⟩
  decide +kernel

end FormulaScan
