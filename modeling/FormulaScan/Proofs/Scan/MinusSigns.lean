import FormulaScan.Proofs.Scan.Agreement
import FormulaScan.Proofs.Scan.Boundary
import FormulaScan.Proofs.Scan.Tiling
import FormulaScan.Scan.Coverage
import Mathlib.Algebra.Ring.Parity

/-!
# Blocks of minus signs

Whether a minus sign belongs to the number behind it depends on the state in which it is met: an
operand must be expected, and the number reader must be offered the sign (`ScanState.takesSign`).
A minus sign that is an operator turns this around for the next one, because it leaves an operand
expected and the number reader offered, unless the number reader itself has just given it back
(`takesSign_behindMinus`). So along a block of minus signs the two readings alternate, and the
length of the block decides on the last one.

`minus_block` says this of the tokens of a lenient scan, without the state: an operand is expected
at the block unless the last token in front of it is an operand or a right bracket, or a dropped
number stops there.
-/

namespace FormulaScan

/-! ## One minus sign -/

namespace ScanState

/-- A minus sign that is met in this state is offered to the number reader. -/
def takesSign (state : ScanState) : Prop := state.expects = .operand ∧ state.stage = .number

instance (state : ScanState) : Decidable state.takesSign :=
  inferInstanceAs (Decidable (_ ∧ _))

/-- The state behind a minus sign that is an operator. -/
def behindMinus (state : ScanState) : ScanState :=
  ⟨.operand, if state.takesSign then .name else .number⟩

/-- Behind a minus sign that is an operator, the next one is read the other way. -/
theorem takesSign_behindMinus (state : ScanState) :
    state.behindMinus.takesSign ↔ ¬ state.takesSign := by
  by_cases takes : state.takesSign
  · have given : ¬ (⟨.operand, .name⟩ : ScanState).takesSign := by simp [takesSign]
    rw [behindMinus, if_pos takes]
    exact iff_of_false given (not_not_intro takes)
  · rw [behindMinus, if_neg takes]
    exact iff_of_true ⟨rfl, rfl⟩ takes

/-- Behind some minus signs that are operators, the next one is read as the first one was if they
are even in number. -/
theorem takesSign_iterate (state : ScanState) (n : Nat) :
    (behindMinus^[n] state).takesSign ↔ (state.takesSign ↔ Even n) := by
  induction n with
  | zero => simp
  | succ n ih =>
    -- One more sign turns the reading around, and so does one more in the count.
    rw [Function.iterate_succ_apply', takesSign_behindMinus, ih, Nat.even_add_one]
    by_cases takes : state.takesSign <;> simp [takes]

end ScanState

/-- A minus sign at a position, as an operator. -/
def minusAt (place : Nat) : Token := ⟨.operator .subtract, place, 1⟩

namespace Pointwise

section

variable {separator : Char} (admissible : isSeparator separator = true)

include admissible

theorem continuesNumber_minus : continuesNumber separator '-' = false := by
  simp [continuesNumber, (ne_minus_of_isSeparator admissible).symm]

/-- A minus sign goes to the number reader if the state asks for it, and is a symbol otherwise. -/
theorem reader_minus (state : ScanState) :
    reader separator state '-' = if state.takesSign then .number else .symbol := by
  obtain ⟨expects, stage⟩ := state
  have plain := continuesNumber_minus admissible
  cases expects <;> cases stage <;>
    simp [reader, startsNumber, plain, ScanState.takesSign]

theorem boundary_minus (rest : List Char) : Boundary separator ('-' :: rest) :=
  boundary_of_isSymbol admissible (by decide) rest

theorem boundary_minus_block (n : Nat) (rest : List Char) :
    Boundary separator (List.replicate n '-' ++ '-' :: rest) := by
  cases n with
  | zero => exact boundary_minus admissible rest
  | succ n => exact boundary_minus admissible _

/-- A minus sign that is met in a state that takes it begins the number of the digits and separators
behind it. -/
theorem findingsFrom_sign {state : ScanState} (takes : state.takesSign) (position : Nat)
    (rest : List Char) :
    ∃ state' position',
      findingsFrom separator state position ('-' :: rest) =
        numberFinding separator position ('-' :: rest.takeWhile (continuesNumber separator)) ::
          findingsFrom separator state' position'
            (rest.dropWhile (continuesNumber separator)) := by
  have taker : reader separator state '-' = .number := by
    rw [reader_minus admissible, if_pos takes]
  rw [findingsFrom_of_reader_number taker]
  exact ⟨_, _, rfl⟩

/-- A minus sign is an operator if the state does not take it, and also if no digit and no separator
stands behind it. -/
theorem findingsFrom_minus (state : ScanState) (position : Nat) {rest : List Char}
    (lone : ¬ state.takesSign ∨ ∀ c ∈ rest.head?, continuesNumber separator c = false) :
    findingsFrom separator state position ('-' :: rest) =
      .token (minusAt position) ::
        findingsFrom separator state.behindMinus (position + 1) rest := by
  have taker := reader_minus admissible state
  by_cases takes : state.takesSign
  · rw [if_pos takes] at taker
    -- The number reader is offered the sign, finds nothing to go on with, and gives an operator.
    have stops := lone.resolve_left (not_not_intro takes)
    have cut := takeWhile_append_of_head stops []
    simp only [List.nil_append, List.takeWhile_nil, List.dropWhile_nil] at cut
    rw [findingsFrom_of_reader_number taker]
    simp [cut, numberFinding, Literal.ofText?_minus, ScanState.next, Expectation.behind,
      ScanState.behindMinus, takes, minusAt]
  · rw [if_neg takes] at taker
    have symbol : symbolFinding position '-' = .token (minusAt position) := rfl
    rw [findingsFrom_of_reader_symbol taker, symbol]
    simp [takes, ScanState.next, Expectation.behind, ScanState.behindMinus, minusAt]

/-- The minus signs in front of another one are operators. -/
theorem findingsFrom_minus_block (state : ScanState) (position n : Nat) (rest : List Char) :
    findingsFrom separator state position (List.replicate n '-' ++ '-' :: rest) =
      (List.range n).map (fun i => .token (minusAt (position + i))) ++
        findingsFrom separator (ScanState.behindMinus^[n] state) (position + n)
          ('-' :: rest) := by
  induction n generalizing state position with
  | zero => rfl
  | succ n ih =>
    -- Behind the first sign stands another one, with which no number goes on.
    have lone : ∀ c ∈ (List.replicate n '-' ++ '-' :: rest).head?,
        continuesNumber separator c = false := by
      intro c first
      have sign : '-' = c := by cases n <;> simpa [List.replicate_succ] using first
      rw [← sign]
      exact continuesNumber_minus admissible
    rw [List.replicate_succ, List.cons_append, findingsFrom_minus admissible _ _ (.inr lone), ih,
      List.range_succ_eq_map, Function.iterate_succ_apply]
    simp [Nat.add_assoc, Nat.add_comm 1, Function.comp_def]

end

end Pointwise

/-! ## Where an operand is expected -/

/-- An operand is expected at a position if no token stops before it or there, or the last one that
does is an operator or a left bracket, and no number that was dropped stops there. -/
def ExpectsOperandAt (separator : Char) (formula : List Char) (read : List Token) (place : Nat) :
    Prop :=
  (∀ t ∈ (read.filter fun t => t.stop ≤ place).getLast?,
      t.kind = .operator ∨ t.kind = .leftBracket) ∧
    ∀ text position, .fault (.malformedNumber text position) ∈ findings separator formula →
      position + text.length ≠ place

section Expectation

variable {separator : Char} {front behind : List Char} {found found' : List Finding}

/-- The tokens that stop before a cut are those in front of it. -/
theorem filter_stop_eq (tiling : Tiling separator 0 front found)
    (tiling' : Tiling separator front.length behind found') :
    ((found ++ found').filterMap Finding.token?).filter (fun t => t.stop ≤ front.length) =
      found.filterMap Finding.token? := by
  rw [List.filterMap_append, List.filter_append]
  have all : (found.filterMap Finding.token?).filter (fun t => t.stop ≤ front.length) =
      found.filterMap Finding.token? := by
    rw [List.filter_eq_self]
    intro t member
    have bounds := tiling.bounds (Finding.mem_filterMap_token?.mp member)
    rw [Nat.zero_add] at bounds
    exact decide_eq_true bounds.2.2
  have none : (found'.filterMap Finding.token?).filter (fun t => t.stop ≤ front.length) = [] := by
    rw [List.filter_eq_nil_iff]
    intro t member stops
    have bounds := tiling'.bounds (Finding.mem_filterMap_token?.mp member)
    exact absurd (of_decide_eq_true stops)
      (Nat.not_le_of_lt (Nat.lt_of_le_of_lt bounds.1 bounds.2.1))
  rw [all, none, List.append_nil]

/-- A finding stops at a cut exactly when it is the last one in front of it. -/
theorem getLast?_eq_some_iff_stop (tiling : Tiling separator 0 front found)
    (tiling' : Tiling separator front.length behind found') {f : Finding} :
    found.getLast? = some f ↔ f ∈ found ++ found' ∧ f.stop = front.length := by
  rw [tiling.getLast?_eq_some_iff, Nat.zero_add, List.mem_append]
  constructor
  · rintro ⟨member, stops⟩
    exact ⟨.inl member, stops⟩
  · rintro ⟨member | member, stops⟩
    · exact ⟨member, stops⟩
    · have bounds := tiling'.bounds member
      omega

end Expectation

theorem symbolFinding_ne_malformed (place : Nat) (c : Char) (number : String) (position : Nat) :
    Pointwise.symbolFinding place c ≠ .fault (.malformedNumber number position) := by
  obtain ⟨-, found⟩ | ⟨value, -, found⟩ | ⟨-, -, found⟩ := Pointwise.symbolFinding_cases c
  all_goals simp [found]

/-- Behind a text that does not end with a minus sign, a minus sign is offered to the number reader
if an operand is expected and the last finding is no number that was dropped. -/
theorem takesSign_stateBehind_iff (separator : Char) {text : List Char}
    (noSign : text.getLast? ≠ some '-') :
    (Pointwise.stateBehind separator .initial 0 text).takesSign ↔
      (Pointwise.stateBehind separator .initial 0 text).expects = .operand ∧
        ∀ number position, (Pointwise.findings separator text).getLast? ≠
          some (.fault (.malformedNumber number position)) := by
  by_cases nonempty : text = []
  · subst nonempty
    simp [Pointwise.findings, ScanState.takesSign, ScanState.initial]
  obtain ⟨front, state, place, c, more, form, last, stage⟩ :=
    Pointwise.exists_last_reading separator .initial 0 nonempty
  unfold Pointwise.findings ScanState.takesSign
  rw [stage]
  cases taker : Pointwise.reader separator state c with
  | number =>
    -- A number that is a token leaves an operator expected, and one that is none is dropped.
    simp only [taker, Pointwise.findingOf] at last
    refine iff_of_false (by simp [Stage.behind]) ?_
    rintro ⟨operand, noNumber⟩
    obtain ⟨literal, -, found⟩ | ⟨lone, -⟩ | ⟨-, -, found⟩ :=
      Pointwise.numberFinding_cases separator (c :: more)
    · rw [found] at last
      rw [Pointwise.expects_of_getLast? last] at operand
      cases literal <;> cases operand
    · exact noSign (by simp [form, lone])
    · rw [found] at last
      exact noNumber _ _ last
  | name =>
    simp only [taker, Pointwise.findingOf, nameFinding] at last
    refine iff_of_false (by simp [Stage.behind]) ?_
    rintro ⟨operand, -⟩
    rw [Pointwise.expects_of_getLast? last] at operand
    cases operand
  | symbol =>
    simp only [taker, Pointwise.findingOf] at last
    rw [last]
    refine and_congr_right fun _ => iff_of_true rfl ?_
    intro number position same
    exact symbolFinding_ne_malformed _ _ _ _ (Option.some.inj same)

/-- An operand is expected in front of a boundary exactly when a minus sign is offered to the number
reader there. -/
theorem expectsOperandAt_iff {separator : Char} (admissible : isSeparator separator = true)
    {front behind : List Char} (noSign : front.getLast? ≠ some '-')
    (boundary : Pointwise.Boundary separator behind) :
    ExpectsOperandAt separator (front ++ behind)
        ((Pointwise.findings separator (front ++ behind)).filterMap Finding.token?)
        front.length ↔
      (Pointwise.stateBehind separator .initial 0 front).takesSign := by
  have tiling := tiling_findings separator front
  have tiling' := tiling_findingsFrom (Pointwise.stateBehind separator .initial 0 front)
    front.length behind (boundary.fits _)
  have parts := Pointwise.findings_append boundary front
  rw [takesSign_stateBehind_iff separator noSign, Pointwise.expects_stateBehind]
  -- The expectation is that behind the last token, and a dropped number is the last finding.
  refine and_congr ?_ (forall_congr' fun number => forall_congr' fun position => ?_)
  · rw [parts, filter_stop_eq tiling tiling']
    unfold Pointwise.findings
    cases ((Pointwise.findingsFrom separator .initial 0 front).filterMap
      Finding.token?).getLast? with
    | none => simp [ScanState.initial]
    | some t => simp [behind_eq_operand_iff, Token.kind]
  · rw [fault_mem_findings_iff admissible, parts, ne_eq, ne_eq,
      getLast?_eq_some_iff_stop tiling tiling', not_and]
    exact Iff.rfl

/-! ## The law of minus signs -/

/-- A minus sign at a position belongs to the number text behind it: they are one token, which has
the number that sign and text write, or nothing where they write none. -/
def SignJoined (separator : Char) (read : List Token) (place : Nat) (number : List Char) : Prop :=
  match Literal.ofText? separator ('-' :: number) with
  | some literal => ⟨literal.tokenValue, place, number.length + 1⟩ ∈ read
  | none => ∀ t ∈ read, ∀ i ≤ number.length, t.covers (place + i) = false

section

variable {separator : Char} {formula : List Char} {found : List Finding}

/-- What the number reader finds in a minus sign and the text of a number joins them. -/
theorem signJoined_of_numberFinding (tiling : Tiling separator 0 formula found) {place : Nat}
    {number : List Char} (nonempty : number ≠ [])
    (member : numberFinding separator place ('-' :: number) ∈ found) :
    SignJoined separator (found.filterMap Finding.token?) place number := by
  unfold SignJoined
  cases value : Literal.ofText? separator ('-' :: number) with
  | some literal =>
    simp only [numberFinding, value] at member
    exact Finding.mem_filterMap_token?.mpr member
  | none =>
    simp only [numberFinding, value] at member
    rw [if_neg (by simpa using nonempty)] at member
    -- The dropped number takes up all these positions, so that no token is left to cover them.
    intro t isToken i bound
    by_contra covered
    have inside := Token.covers_iff.mp (eq_true_of_ne_false covered)
    have dropped : (Finding.fault (.malformedNumber (String.ofList ('-' :: number)) place)).stop =
        place + (number.length + 1) := by
      show place + (String.ofList ('-' :: number)).length = _
      rw [String.length_ofList, List.length_cons]
    have same := tiling.eq_of_mem member ⟨Nat.le_add_right place i, by omega⟩
      (Finding.mem_filterMap_token?.mp isToken) inside
    cases same

/-- A minus sign that is an operator belongs to no number. -/
theorem not_signJoined_of_minusAt (tiling : Tiling separator 0 formula found) {place : Nat}
    (number : List Char) (member : minusAt place ∈ found.filterMap Finding.token?) :
    ¬ SignJoined separator (found.filterMap Finding.token?) place number := by
  unfold SignJoined
  split
  · rename_i literal value
    intro member'
    have same := tiling.eq_of_mem (Finding.mem_filterMap_token?.mp member)
      ⟨Nat.le_refl place, Nat.lt_succ_self place⟩ (Finding.mem_filterMap_token?.mp member')
      ⟨Nat.le_refl place, Nat.lt_add_of_pos_right (Nat.succ_pos _)⟩
    have value := congrArg Token.value (Finding.token.inj same)
    cases literal <;> cases value
  · intro free
    have uncovered := free _ member 0 (Nat.zero_le _)
    simp [minusAt, Token.covers, Token.stop] at uncovered

/-- What a scan of a formula finds from a block of minus signs on: operators, and then the last sign
of the block in the state that the others leave. -/
theorem findings_minus_block (admissible : isSeparator separator = true)
    (front after : List Char) (n : Nat) :
    ∃ state : ScanState,
      (state.takesSign ↔
        ((Pointwise.stateBehind separator .initial 0 front).takesSign ↔ Even n)) ∧
      Pointwise.findings separator (front ++ (List.replicate n '-' ++ '-' :: after)) =
        Pointwise.findings separator front ++
          ((List.range n).map (fun i => .token (minusAt (front.length + i))) ++
            Pointwise.findingsFrom separator state (front.length + n) ('-' :: after)) := by
  refine ⟨_, ScanState.takesSign_iterate _ n, ?_⟩
  rw [Pointwise.findings_append (Pointwise.boundary_minus_block admissible n after),
    Pointwise.findingsFrom_minus_block admissible]

end

section LastSign

variable {separator : Char} (admissible : isSeparator separator = true) {state : ScanState}
  {place : Nat} {after : List Char} {found : List Finding}
  (last : ∀ f ∈ (Pointwise.findingsFrom separator state place ('-' :: after)).head?, f ∈ found)

include admissible last

/-- A minus sign is an operator if its state does not take it, and also if no number text stands
behind it. -/
theorem minusAt_mem_tokens
    (decides : ¬ state.takesSign ∨
      after.takeWhile (Pointwise.continuesNumber separator) = []) :
    minusAt place ∈ found.filterMap Finding.token? := by
  have lone : ¬ state.takesSign ∨
      ∀ c ∈ after.head?, Pointwise.continuesNumber separator c = false := by
    refine decides.imp_right fun noNumber c first => ?_
    cases after <;> simp_all [List.takeWhile_cons]
  apply Finding.mem_filterMap_token?.mpr
  apply last
  rw [Pointwise.findingsFrom_minus admissible state place lone]
  rfl

/-- The state of a minus sign decides whether it is joined with the number text behind it. -/
theorem signJoined_iff_takesSign {formula : List Char} (tiling : Tiling separator 0 formula found)
    (nonempty : after.takeWhile (Pointwise.continuesNumber separator) ≠ []) :
    SignJoined separator (found.filterMap Finding.token?) place
        (after.takeWhile (Pointwise.continuesNumber separator)) ↔
      state.takesSign := by
  by_cases takes : state.takesSign
  · obtain ⟨state', place', first⟩ := Pointwise.findingsFrom_sign admissible takes place after
    have member := last _ (by rw [first]; rfl)
    exact iff_of_true (signJoined_of_numberFinding tiling nonempty member) takes
  · have member := minusAt_mem_tokens admissible last (.inl takes)
    exact iff_of_false (not_signJoined_of_minusAt tiling _ member) takes

end LastSign

/-- What becomes of a block of `k` minus signs between two other texts. The text of the number
behind the block consists of the digits and separators that stand there, if any. -/
structure MinusBlock (separator : Char) (formula : List Char) (read : List Token)
    (front after : List Char) (k : Nat) : Prop where
  /-- All signs but the last are operators. -/
  inner : ∀ i < k - 1, minusAt (front.length + i) ∈ read
  /-- The last sign is an operator if no number text stands behind the block. -/
  alone : after.takeWhile (Pointwise.continuesNumber separator) = [] →
    minusAt (front.length + (k - 1)) ∈ read
  /-- The last sign is joined with the number text if an operand is expected at the block and the
  signs are odd in number, or none is expected and they are even in number. -/
  joined : after.takeWhile (Pointwise.continuesNumber separator) ≠ [] →
    (SignJoined separator read (front.length + (k - 1))
        (after.takeWhile (Pointwise.continuesNumber separator)) ↔
      ExpectsOperandAt separator formula read front.length ∧ Odd k ∨
        ¬ ExpectsOperandAt separator formula read front.length ∧ Even k)
  /-- The last sign is an operator if it is not joined. -/
  apart : after.takeWhile (Pointwise.continuesNumber separator) ≠ [] →
    ¬ SignJoined separator read (front.length + (k - 1))
        (after.takeWhile (Pointwise.continuesNumber separator)) →
      minusAt (front.length + (k - 1)) ∈ read

/-- In a lenient scan the signs of a block of minus signs are read as signs and as operators by turns,
beginning with what is expected at the block. No other minus sign stands in front of the block; what
stands behind it may be anything, so that the block may be the longest one at its place. -/
theorem minus_block (settings : Settings) {formula : String} {front after : List Char} {k : Nat}
    (positive : 0 < k) (block : formula.toList = front ++ List.replicate k '-' ++ after)
    (left : front.getLast? ≠ some '-') :
    ∃ read, scan (settings.withMode .lenient) formula = .ok read ∧
      MinusBlock settings.separator formula.toList read front after k := by
  have admissible := settings.isSeparator_separator
  obtain ⟨n, rfl⟩ := Nat.exists_eq_succ_of_ne_zero (Nat.ne_of_gt positive)
  have block' : formula.toList = front ++ (List.replicate n '-' ++ '-' :: after) := by
    rw [block, List.replicate_succ']
    simp
  have ok := scan_lenient (Settings.mode_withMode settings .lenient)
    (show formula.toList ≠ [] by simp [block'])
  rw [Settings.separator_withMode, tokens_eq_pointwise admissible] at ok
  have tiling := tiling_findings settings.separator formula.toList
  have expects := expectsOperandAt_iff admissible left
    (Pointwise.boundary_minus_block admissible n after)
  obtain ⟨state, parity, parts⟩ := findings_minus_block admissible front after n
  rw [← block'] at expects parts
  -- All that matters of the last sign is what is found first from it on.
  have last : ∀ f ∈ (Pointwise.findingsFrom settings.separator state (front.length + n)
      ('-' :: after)).head?, f ∈ Pointwise.findings settings.separator formula.toList := by
    intro f first
    rw [parts]
    exact List.mem_append_right _ (List.mem_append_right _ (List.mem_of_mem_head? first))
  refine ⟨_, ok, ?_, ?_, ?_, ?_⟩
  · intro i bound
    rw [Finding.mem_filterMap_token?, parts]
    simp only [List.mem_append, List.mem_map, List.mem_range]
    exact .inr (.inl ⟨i, bound, rfl⟩)
  · intro noNumber
    exact minusAt_mem_tokens admissible last (.inr noNumber)
  · intro nonempty
    -- The state of the last sign is that of the first one if `n` is even, that is, `n + 1` odd.
    rw [Nat.succ_sub_one, signJoined_iff_takesSign admissible last tiling nonempty, parity,
      expects, Nat.odd_add_one, Nat.even_add_one, Nat.not_odd_iff_even]
    exact iff_iff_and_or_not_and_not
  · intro nonempty notJoined
    have joined := signJoined_iff_takesSign admissible last tiling nonempty
    exact minusAt_mem_tokens admissible last (.inl fun takes => notJoined (joined.mpr takes))

/-- A dropped number stands in front of the block, and the signs are even in number, so that the last
one is joined. -/
theorem minus_block_behind_dropped :
    (0 < 2 ∧ "1.2.3--.5".toList = "1.2.3".toList ++ List.replicate 2 '-' ++ ".5".toList ∧
      "1.2.3".toList.getLast? ≠ some '-') ∧
    ∃ read, scan (Settings.default.withMode .lenient) "1.2.3--.5" = .ok read ∧
      MinusBlock Settings.default.separator "1.2.3--.5".toList read "1.2.3".toList
        ".5".toList 2 :=
  ⟨by decide, minus_block Settings.default (by decide) (by decide) (by decide)⟩

end FormulaScan
