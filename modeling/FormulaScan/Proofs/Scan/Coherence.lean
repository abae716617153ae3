import FormulaScan.Proofs.Run.MaximalPartition
import FormulaScan.Proofs.Scan.Readers
import FormulaScan.Scan.Moment

/-!
# What a scan keeps in mind is true

At every moment of a scan, what it expects follows from the last token, and its stage tells what the
next run cannot be: no digits and no separator stand right behind a number, and no digits and no word
right behind a name, which is then the last token. `Moment.IsCoherent` is this invariant;
`IsCoherent.next` says that a step keeps it.

So the symbol reader is never offered digits or a word, and it is offered the separator only right
behind a name (`isCoherent_of_reached`).
-/

namespace FormulaScan

/-! ## What a reader refuses -/

namespace Run

variable {separator : Char} {state : ScanState} {run : Run}

/-- Digits and separators go on a number, and nothing else. -/
theorem continuesNumber_eq_false_iff :
    run.continuesNumber separator = false ↔ run.kind ≠ .digits ∧ run.kind ≠ .other separator := by
  unfold continuesNumber
  split <;> simp_all

/-- What begins no number goes on none. -/
theorem continuesNumber_eq_false_of_startsNumber {expects : Expectation}
    (refused : run.startsNumber separator expects = false) :
    run.continuesNumber separator = false := by
  unfold startsNumber at refused
  split at refused
  · rename_i sign
    simp [continuesNumber_eq_false_iff, sign]
  · exact refused

/-- The name reader takes words. -/
theorem kind_of_reader_name (taker : run.reader separator state = .name) : run.kind = .word := by
  unfold reader at taker
  split at taker
  · cases taker
  · split at taker
    · rename_i offered
      exact offered.2
    · cases taker

/-- What the symbol reader is offered has been refused by the readers in front of it. -/
theorem refused_of_reader_symbol (taker : run.reader separator state = .symbol) :
    (state.stage = .number → run.continuesNumber separator = false) ∧
      (state.stage ≠ .symbol → run.kind ≠ .word) := by
  unfold reader at taker
  split at taker
  · cases taker
  · rename_i noNumber
    split at taker
    · cases taker
    · rename_i noName
      constructor
      · intro offered
        have refused : run.startsNumber separator state.expects = false := by
          simpa [offered] using noNumber
        exact continuesNumber_eq_false_of_startsNumber refused
      · intro offered word
        exact noName ⟨offered, word⟩

end Run

/-! ## The invariant -/

namespace Moment

/-- Where the next run begins, or the formula ends. -/
def place (formula : List Char) (moment : Moment) : Nat :=
  (moment.rest.head?.map Run.start).getD formula.length

/-- What is true of a moment of a scan. -/
structure IsCoherent (separator : Char) (formula : List Char) (moment : Moment) : Prop where
  /-- The runs still to be read are the last ones of the formula. -/
  rest_suffix : moment.rest <:+ Run.list formula
  /-- An operand is expected at the beginning and behind operators and left brackets. -/
  expects : moment.state.expects = .operand ↔
    moment.emitted = [] ∨ ∃ last, moment.emitted.getLast? = some last ∧
      (last.kind = .operator ∨ last.kind = .leftBracket)
  /-- A number has taken in all digits and separators. -/
  behindNumber : moment.state.stage = .name →
    ∀ run ∈ moment.rest.head?, run.kind ≠ .digits ∧ run.kind ≠ .other separator
  /-- A name is the last token and stops here, and it has taken in all letters and digits. -/
  behindName : moment.state.stage = .symbol →
    (∃ last, moment.emitted.getLast? = some last ∧ last.kind = .identifier ∧
      last.stop = moment.place formula) ∧
      ∀ run ∈ moment.rest.head?, run.kind ≠ .digits ∧ run.kind ≠ .word

namespace IsCoherent

section Symbols

variable {separator : Char} {formula : List Char} {moment : Moment}
  (coherent : moment.IsCoherent separator formula) {run : Run}
  (first : moment.rest.head? = some run) (taker : run.reader separator moment.state = .symbol)

include coherent first taker

/-- The symbol reader is offered neither digits nor a word. -/
theorem kind_of_reader_symbol : run.kind ≠ .digits ∧ run.kind ≠ .word := by
  obtain ⟨noNumber, noName⟩ := Run.refused_of_reader_symbol taker
  cases stage : moment.state.stage with
  -- The number reader and the name reader have refused the run.
  | number =>
    have noDigits := Run.continuesNumber_eq_false_iff.mp (noNumber stage)
    exact ⟨noDigits.1, noName (by simp [stage])⟩
  -- A number has stopped at the run, and the name reader has refused it.
  | name =>
    have noDigits := coherent.behindNumber stage run first
    exact ⟨noDigits.1, noName (by simp [stage])⟩
  -- A name has stopped at the run.
  | symbol => exact (coherent.behindName stage).2 run first

/-- The symbol reader is offered the separator only right behind a name. -/
theorem name_of_reader_symbol (isSeparator : run.kind = .other separator) :
    ∃ last, moment.emitted.getLast? = some last ∧ last.kind = .identifier ∧
      last.stop = run.start := by
  obtain ⟨noNumber, -⟩ := Run.refused_of_reader_symbol taker
  cases stage : moment.state.stage with
  | number =>
    have refused := Run.continuesNumber_eq_false_iff.mp (noNumber stage)
    exact absurd isSeparator refused.2
  | name => exact absurd isSeparator (coherent.behindNumber stage run first).2
  | symbol =>
    obtain ⟨⟨last, isLast, name, stop⟩, -⟩ := coherent.behindName stage
    refine ⟨last, isLast, name, ?_⟩
    rw [stop, place, first]
    rfl

end Symbols

section Step

variable {separator : Char} {formula : List Char} {emitted : List Token} {state : ScanState}
  {run : Run} {rest : List Run}

/-- Before the first run a moment is coherent. -/
theorem first (separator : Char) (formula : List Char) :
    (Moment.first formula).IsCoherent separator formula := by
  constructor
  case rest_suffix => exact List.suffix_rfl
  case expects => simp [Moment.first, ScanState.initial]
  case behindNumber =>
    intro stage
    cases stage
  case behindName =>
    intro stage
    cases stage

/-- What is expected behind a step follows from its token, or from the last one before it. -/
theorem expects_next (coherent : IsCoherent separator formula ⟨emitted, state, run :: rest⟩)
    (step : ScanStep) :
    (state.next step.finding step.stage).expects = .operand ↔
      emitted ++ step.finding.token?.toList = [] ∨
        ∃ last, (emitted ++ step.finding.token?.toList).getLast? = some last ∧
          (last.kind = .operator ∨ last.kind = .leftBracket) := by
  rw [ScanState.expects_next]
  cases step.finding.token? with
  | none =>
    rw [Option.toList_none, List.append_nil]
    exact coherent.expects
  | some t =>
    show Expectation.behind t.value = .operand ↔ _
    rw [behind_eq_operand_iff]
    simp [Token.kind]

/-- The symbol reader takes the run alone and offers the next one to all readers. -/
theorem symbol_step (coherent : IsCoherent separator formula ⟨emitted, state, run :: rest⟩)
    (taker : run.reader separator state = .symbol) :
    (ScanStep.ofRun separator state run rest).stage = .number ∧
      (ScanStep.ofRun separator state run rest).rest = rest := by
  obtain ⟨noDigits, noWord⟩ := coherent.kind_of_reader_symbol rfl taker
  rw [ScanStep.ofRun, taker]
  cases kind : run.kind with
  | digits => exact absurd kind noDigits
  | word => exact absurd kind noWord
  | _ => simp [ScanStep.symbol, kind]

/-- The stage behind a step is the one behind the reader that took the run. -/
theorem stage_step (coherent : IsCoherent separator formula ⟨emitted, state, run :: rest⟩) :
    (ScanStep.ofRun separator state run rest).stage = (run.reader separator state).behind := by
  cases taker : run.reader separator state with
  | number =>
    rw [ScanStep.ofRun, taker]
    rfl
  | name =>
    rw [ScanStep.ofRun, taker]
    rfl
  | symbol => exact (coherent.symbol_step taker).1

/-- Behind a number stands neither a run of digits nor the separator. -/
theorem behindNumber_next (coherent : IsCoherent separator formula ⟨emitted, state, run :: rest⟩)
    (stage : (ScanStep.ofRun separator state run rest).stage = .name) :
    ∀ next ∈ (ScanStep.ofRun separator state run rest).rest.head?,
      next.kind ≠ .digits ∧ next.kind ≠ .other separator := by
  have taker : run.reader separator state = .number :=
    Stage.behind_injective (coherent.stage_step.symm.trans stage)
  rw [ScanStep.ofRun, taker]
  intro next isNext
  exact Run.continuesNumber_eq_false_iff.mp (takes_head_dropWhile isNext)

/-- Behind a name, which is the token of the step, stands neither a run of digits nor a word. -/
theorem behindName_next (coherent : IsCoherent separator formula ⟨emitted, state, run :: rest⟩)
    (stage : (ScanStep.ofRun separator state run rest).stage = .symbol) :
    (∃ last, (ScanStep.ofRun separator state run rest).finding = .token last ∧
        last.kind = .identifier ∧
        last.stop = ((ScanStep.ofRun separator state run rest).rest.head?.map Run.start).getD
          formula.length) ∧
      ∀ next ∈ (ScanStep.ofRun separator state run rest).rest.head?,
        next.kind ≠ .digits ∧ next.kind ≠ .word := by
  have taker : run.reader separator state = .name :=
    Stage.behind_injective (coherent.stage_step.symm.trans stage)
  rw [ScanStep.ofRun, taker]
  refine ⟨⟨_, rfl, rfl, Run.stop_of_suffix coherent.rest_suffix⟩, ?_⟩
  intro next isNext
  -- The next run would belong to the word if it were digits or a word.
  have apart := Run.mayPrecede_of_suffix coherent.rest_suffix next isNext
  rw [Run.kind_of_reader_name taker] at apart
  constructor
  · intro digits
    rw [digits] at apart
    cases apart
  · intro word
    rw [word] at apart
    cases apart

/-- A step leads from a coherent moment to a coherent one. -/
theorem next (coherent : IsCoherent separator formula ⟨emitted, state, run :: rest⟩) :
    (Moment.next ⟨emitted, state, run :: rest⟩
      (ScanStep.ofRun separator state run rest)).IsCoherent separator formula := by
  constructor
  case rest_suffix =>
    have left := ScanStep.rest_ofRun_suffix separator state run rest
    exact left.trans ((List.suffix_cons run rest).trans coherent.rest_suffix)
  case expects => exact coherent.expects_next (ScanStep.ofRun separator state run rest)
  case behindNumber =>
    intro stage
    rw [Moment.next, ScanState.stage_next] at stage
    exact coherent.behindNumber_next stage
  case behindName =>
    intro stage
    rw [Moment.next, ScanState.stage_next] at stage
    obtain ⟨⟨last, found, name, stop⟩, apart⟩ := coherent.behindName_next stage
    refine ⟨⟨last, ?_, name, stop⟩, apart⟩
    -- The name is the token that the step adds.
    show (emitted ++ (ScanStep.ofRun separator state run rest).finding.token?.toList).getLast? = _
    rw [found]
    exact List.getLast?_concat

end Step

end IsCoherent

end Moment

/-- Every moment of a scan is coherent: what is expected follows from the last token, and the stage
tells what the next run is not. So what is left to the symbol reader is neither digits nor a word, the
reader takes it alone and gives the next run to all readers, and it is the separator only right behind
a name. -/
theorem isCoherent_of_reached (settings : Settings) (formula : List Char) {moment : Moment}
    (reached : Moment.Reached settings formula moment) :
    moment.IsCoherent settings.separator formula ∧
      ∀ run rest, moment.rest = run :: rest →
        run.reader settings.separator moment.state = .symbol →
          (run.kind ≠ .digits ∧ run.kind ≠ .word) ∧
          ((ScanStep.ofRun settings.separator moment.state run rest).stage = .number ∧
            (ScanStep.ofRun settings.separator moment.state run rest).rest = rest) ∧
          (run.kind = .other settings.separator →
            ∃ last, moment.emitted.getLast? = some last ∧ last.kind = .identifier ∧
              last.stop = run.start) := by
  have coherent : moment.IsCoherent settings.separator formula := by
    induction reached with
    | first => exact .first settings.separator formula
    | next _ _ ih => exact ih.next
  refine ⟨coherent, ?_⟩
  intro run rest runs taker
  obtain ⟨emitted, state, _⟩ := moment
  obtain rfl : _ = run :: rest := runs
  exact ⟨coherent.kind_of_reader_symbol rfl taker, coherent.symbol_step taker,
    coherent.name_of_reader_symbol rfl taker⟩

/-- A strict scan reaches the moment at which a separator behind a number and a name is left to the
symbol reader. -/
theorem isCoherent_of_reached_behind_name :
    ∃ moment : Moment,
      (Moment.Reached (Settings.default.withMode .strict) "1x.5".toList moment ∧
        moment.emitted = [⟨.integer 1, 0, 1⟩, ⟨.identifier "x", 1, 1⟩] ∧
        moment.rest = [⟨.other '.', ['.'], 2⟩, ⟨.digits, ['5'], 3⟩] ∧
        Run.reader '.' moment.state ⟨.other '.', ['.'], 2⟩ = .symbol) ∧
      moment.IsCoherent '.' "1x.5".toList ∧
        ∃ last, moment.emitted.getLast? = some last ∧ last.kind = .identifier ∧ last.stop = 2 := by
  have runs : Moment.first "1x.5".toList =
      ⟨[], .initial, [⟨.digits, ['1'], 0⟩, ⟨.word, ['x'], 1⟩, ⟨.other '.', ['.'], 2⟩,
        ⟨.digits, ['5'], 3⟩]⟩ := by decide +kernel
  have start : Moment.Reached (Settings.default.withMode .strict) "1x.5".toList
      (Moment.first "1x.5".toList) := .first
  rw [runs] at start
  -- The digits are a number, and the word behind it is a name.
  have number := start.next fun _ => by decide +kernel
  have name := number.next fun _ => by decide +kernel
  obtain ⟨coherent, offered⟩ := isCoherent_of_reached _ _ name
  refine ⟨_, ⟨name, by decide +kernel, rfl, by decide +kernel⟩, coherent, ?_⟩
  have symbol := offered ⟨.other '.', ['.'], 2⟩ [⟨.digits, ['5'], 3⟩] rfl (by decide +kernel)
  exact symbol.2.2 rfl

end FormulaScan
