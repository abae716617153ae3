import FormulaScan.Proofs.Scan.Losses

/-!
# What faults say

A strict scan that fails tells where and why, and what it tells is true of the formula. A malformed
number is quoted as it stands there, up to where its digits and separators end, and it is no number
because it has no digit or more than one separator. An unexpected character stands where it is said
to stand and means nothing, or it is a separator directly behind a name. Such a separator is never
accepted (`strict_scan_evidence`).

The names of a formula are its words (`behindWord_iff_name`), so that the words tell where a
separator is directly behind a name, also where a scan fails and gives no tokens.
-/

namespace FormulaScan

/-- What a fault says is true of the formula. -/
inductive Fault.IsEvident (separator : Char) (formula : List Char) : Fault → Prop where
  | malformedNumber {text : String} {position : Nat} (negative : Bool) {row : List Char}
      (quoted : text.toList = (formula.drop position).take text.length)
      (form : text.toList = signText negative ++ row) (nonempty : row ≠ [])
      (goOn : ∀ c ∈ row, c.isDigit = true ∨ c = separator)
      (ends : ∀ c, formula[position + text.length]? = some c → c.isDigit = false ∧ c ≠ separator)
      (bad : (∀ c ∈ row, c.isDigit = false) ∨ 2 ≤ row.count separator)
      (notMinus : text ≠ "-") (noLiteral : Literal.ofText? separator text.toList = none) :
      IsEvident separator formula (.malformedNumber text position)
  | unexpectedCharacter {character : Char} {position : Nat}
      (here : formula[position]? = some character) (plain : character.isAlphanum = false)
      (visible : Text.isBlank character = false) (noSymbol : Segment.isSymbol character = false)
      (behind : character = separator → BehindWord formula position) :
      IsEvident separator formula (.unexpectedCharacter character position)

/-! ## Names and words -/

section Words

variable {formula : List Char} {place : Nat}

/-- The characters of a word are letters and digits. -/
theorem exists_alphanum_of_mem_wordsFrom {start : Nat} {text : List Char}
    (rest : formula.drop start = text) {word : Stretch} (isWord : word ∈ wordsFrom start text)
    (member : place ∈ word) : ∃ c, formula[place]? = some c ∧ c.isAlphanum = true := by
  fun_induction wordsFrom start text with
  | case1 => cases isWord
  | case2 start c behind letter stop ih =>
    rcases List.mem_cons.mp isWord with same | later
    · rw [same] at member
      exact exists_alphanum_of_drop_eq letter rest member
    -- A later word is one of what stands behind the first one.
    · refine ih ?_ later
      have parts : formula.drop start = (c :: behind.takeWhile Char.isAlphanum) ++
          behind.dropWhile Char.isAlphanum := by
        rw [rest]
        simp
      rw [← drop_behind_of_drop_eq parts, List.length_cons]
      congr 1
      omega
  | case3 start c behind noLetter ih =>
    have parts : formula.drop start = [c] ++ behind := rest
    exact ih (drop_behind_of_drop_eq parts) isWord

theorem exists_alphanum_of_mem_words {word : Stretch} (isWord : word ∈ words formula)
    (member : place ∈ word) : ∃ c, formula[place]? = some c ∧ c.isAlphanum = true := by
  have whole : formula.drop 0 = formula := rfl
  exact exists_alphanum_of_mem_wordsFrom whole isWord member

/-- Each word stops before the next ones start. -/
theorem pairwise_wordsFrom (start : Nat) (text : List Char) :
    (wordsFrom start text).Pairwise fun a b => a.stop ≤ b.start := by
  fun_induction wordsFrom start text with
  | case1 => exact .nil
  | case2 start c rest letter stop ih =>
    refine List.pairwise_cons.mpr ⟨?_, ih⟩
    intro word later
    exact (bounds_of_mem_wordsFrom later).1
  | case3 start c rest noLetter ih => exact ih

/-- No position belongs to two words. -/
theorem eq_of_mem_words {word word' : Stretch} (isWord : word ∈ words formula)
    (isWord' : word' ∈ words formula) (member : place ∈ word) (member' : place ∈ word') :
    word = word' := by
  have order := pairwise_wordsFrom 0 formula
  -- Of two different words one would have to stop before the other starts.
  refine List.Pairwise.forall_of_forall_of_flip (R := fun a b : Stretch =>
    place ∈ a → place ∈ b → a = b) ?_ ?_ ?_ isWord isWord' member member'
  · intro a _ _ _
    rfl
  · refine order.imp ?_
    intro a b apart inA inB
    have stopA := inA.2
    have startB := inB.1
    omega
  · refine order.imp ?_
    intro a b apart inB inA
    have stopA := inA.2
    have startB := inB.1
    omega

/-- A position in a stretch of one character is the position of this character. -/
theorem eq_of_inside_one {c d : Char} {start : Nat} (inside : start ≤ place ∧ place < start + 1)
    (here : formula[place]? = some c) (there : formula[start]? = some d) :
    place = start ∧ c = d := by
  obtain rfl : place = start := Nat.le_antisymm (Nat.le_of_lt_succ inside.2) inside.1
  exact ⟨rfl, Option.some.inj (here.symm.trans there)⟩

end Words

section Names

variable {separator : Char} {formula : List Char} {place : Nat}

/-- What a scan finds at a position of a word is the name that the word becomes. -/
theorem Finding.Placed.name_of_mem_word {f : Finding} (placed : f.Placed separator formula)
    (inside : f.start ≤ place ∧ place < f.stop) {word : Stretch} (isWord : word ∈ words formula)
    (member : place ∈ word) :
    ∃ t, f = .token t ∧ t.kind = .identifier ∧ t.stop = word.stop := by
  obtain ⟨c, here, known⟩ := exists_alphanum_of_mem_words isWord member
  have noSign : c ≠ '-' := by
    rintro rfl
    exact absurd known (by decide)
  cases placed with
  -- A row has no position in common with a word, and a sign is no letter and no digit.
  | number isRow good begins stop literal =>
    have inRow := isRow.inside place
      (begins.mem here noSign inside.1 (Nat.lt_of_lt_of_eq inside.2 stop))
    exact absurd ⟨word, isWord, member⟩ inRow.2.1
  | malformed bad begins stop =>
    have inRow := bad.1.inside place
      (begins.mem here noSign inside.1 (Nat.lt_of_lt_of_eq inside.2 stop))
    exact absurd ⟨word, isWord, member⟩ inRow.2.1
  | @name word' length isWord' stop alphanum name =>
    have member' : place ∈ word' := ⟨inside.1, Nat.lt_of_lt_of_eq inside.2 stop⟩
    rw [eq_of_mem_words isWord isWord' member member']
    exact ⟨_, rfl, rfl, stop⟩
  -- What stands alone is no letter and no digit.
  | @symbol value d start symbol there =>
    obtain ⟨rfl, rfl⟩ := eq_of_inside_one inside here there
    have plain := (Segment.plain_of_isSymbol (Pointwise.isSymbol_of_symbol? value symbol)).1
    rw [plain] at known
    cases known
  | @blank d start blank there =>
    obtain ⟨rfl, rfl⟩ := eq_of_inside_one inside here there
    rw [Text.isAlphanum_eq_false_of_isBlank blank] at known
    cases known
  | @unexpected d start plain visible noSymbol there behind =>
    obtain ⟨rfl, rfl⟩ := eq_of_inside_one inside here there
    rw [plain] at known
    cases known

/-- A token that is a name is a word. -/
theorem Finding.Placed.word_of_name {t : Token}
    (placed : (Finding.token t).Placed separator formula) (kind : t.kind = .identifier) :
    ∃ word ∈ words formula, word.stop = t.stop := by
  cases placed with
  | number isRow good begins stop literal => cases literal <;> cases kind
  | @name word length isWord stop alphanum name => exact ⟨word, isWord, stop.symm⟩
  | symbol symbol here =>
    obtain ⟨op, rfl, -⟩ | ⟨rfl, -⟩ | ⟨rfl, -⟩ := Token.Value.symbol?_eq_some_iff.mp symbol
    all_goals cases kind

/-- The names that a lenient scan gives stop where the words do. -/
theorem behindWord_iff_name (admissible : isSeparator separator = true) :
    BehindWord formula place ↔
      ∃ t ∈ tokens separator formula, t.kind = .identifier ∧ t.stop = place := by
  have tiling := tiling_findings separator formula
  have placed := placed_of_mem_findings admissible formula
  rw [tokens_eq_pointwise admissible]
  constructor
  · rintro ⟨word, isWord, rfl⟩
    -- The name is what is found at the first position of the word.
    have first : word.start ∈ word := ⟨Nat.le_refl _, (bounds_of_mem_wordsFrom isWord).2⟩
    obtain ⟨c, here, -⟩ := exists_alphanum_of_mem_words isWord first
    have bound := (List.getElem?_eq_some_iff.mp here).1
    obtain ⟨f, member, inside⟩ := tiling.exists_mem (Nat.zero_le word.start) (by omega)
    obtain ⟨t, rfl, kind, stop⟩ := (placed f member).name_of_mem_word inside isWord first
    exact ⟨t, Finding.mem_filterMap_token?.mpr member, kind, stop⟩
  · rintro ⟨t, isToken, kind, rfl⟩
    exact (placed _ (Finding.mem_filterMap_token?.mp isToken)).word_of_name kind

end Names

/-! ## Faults -/

section Faults

variable {separator : Char} (admissible : isSeparator separator = true) {formula : List Char}

include admissible

/-- A row of digits and separators that is no literal has no digit or more than one separator. -/
theorem bad_of_noLiteral {negative : Bool} {row : List Char}
    (goOn : ∀ c ∈ row, Pointwise.continuesNumber separator c = true)
    (noLiteral : Literal.ofText? separator (signText negative ++ row) = none) :
    (∀ c ∈ row, c.isDigit = false) ∨ 2 ≤ row.count separator := by
  have isLiteral := Pointwise.isSome_ofText?_iff_row admissible negative goOn
  rw [noLiteral, Literal.wellFormedBody_iff (isDigit_of_isSeparator admissible)] at isLiteral
  rw [or_iff_not_imp_left]
  intro hasDigit
  by_contra few
  have form : ∀ c ∈ row, c.isDigit = true ∨ c = separator := by
    intro c member
    simpa [Pointwise.continuesNumber] using goOn c member
  have digit : ∃ c ∈ row, c.isDigit = true := by
    simpa using hasDigit
  exact absurd (isLiteral.mpr ⟨form, digit, by omega⟩) (by decide)

/-- The text of a malformed number is more than a sign. -/
theorem ne_minus_of_row {negative : Bool} {row : List Char} (nonempty : row ≠ [])
    (goOn : ∀ c ∈ row, Pointwise.continuesNumber separator c = true) :
    String.ofList (signText negative ++ row) ≠ "-" := by
  intro same
  have chars := congrArg String.toList same
  rw [String.toList_ofList] at chars
  cases negative with
  | true => exact nonempty (List.cons.inj chars).2
  | false =>
    have unsigned := Pointwise.head?_ne_minus_of_continuesNumber admissible goOn
    exact unsigned (congrArg List.head? chars)

/-- What a malformed number says is true of the formula. -/
theorem isEvident_malformedNumber {text : String} {position : Nat} {part rest : List Char}
    (parts : formula.drop position = part ++ rest)
    (reads : (Finding.fault (.malformedNumber text position)).Reads separator position part rest) :
    (Fault.malformedNumber text position).IsEvident separator formula := by
  cases reads with
  | @malformed negative row _ nonempty goOn noLiteral stops =>
    have form : (String.ofList (signText negative ++ row)).toList = signText negative ++ row :=
      String.toList_ofList
    constructor
    case form => exact form
    case quoted => rw [form, parts, String.length_ofList, List.take_left]
    case nonempty => exact nonempty
    case goOn =>
      intro c member
      simpa [Pointwise.continuesNumber] using goOn c member
    case ends =>
      intro c behind
      rw [String.length_ofList, getElem?_behind_of_drop_eq parts] at behind
      simpa [Pointwise.continuesNumber] using stops c behind
    case bad => exact bad_of_noLiteral admissible goOn noLiteral
    case notMinus => exact ne_minus_of_row admissible nonempty goOn
    case noLiteral =>
      rw [form]
      exact noLiteral

/-- What is found to have no meaning is evident. -/
theorem isEvident_of_mem_findings {fault : Fault}
    (member : .fault fault ∈ Pointwise.findings separator formula) :
    fault.IsEvident separator formula := by
  cases fault with
  | malformedNumber text position =>
    obtain ⟨before, part, rest, form, start, reads⟩ :=
      (tiling_findings separator formula).exists_reads member
    have start : position = before.length := start.trans (Nat.zero_add _)
    refine isEvident_malformedNumber admissible ?_ reads
    rw [form, start, List.append_assoc, List.drop_left]
  | unexpectedCharacter character position =>
    cases placed_of_mem_findings admissible formula _ member with
    | unexpected plain visible noSymbol here behind =>
      exact .unexpectedCharacter here plain visible noSymbol behind

/-- A separator directly behind a word is an unexpected character. -/
theorem Finding.Placed.eq_unexpected_of_separator {place : Nat} {f : Finding}
    (placed : f.Placed separator formula) (inside : f.start ≤ place ∧ place < f.stop)
    (here : formula[place]? = some separator) (behind : BehindWord formula place) :
    f = .fault (.unexpectedCharacter separator place) := by
  have noSign := ne_minus_of_isSeparator admissible
  have plain := (isSeparator_iff.mp admissible).1
  cases placed with
  -- The separator would belong to a row, and it does not behind a word.
  | number isRow good begins stop literal =>
    have inRow := isRow.inside place
      (begins.mem here noSign inside.1 (Nat.lt_of_lt_of_eq inside.2 stop))
    exact absurd ⟨here, behind⟩ inRow.2.2
  | malformed bad begins stop =>
    have inRow := bad.1.inside place
      (begins.mem here noSign inside.1 (Nat.lt_of_lt_of_eq inside.2 stop))
    exact absurd ⟨here, behind⟩ inRow.2.2
  | name isWord stop alphanum name =>
    obtain ⟨d, there, known⟩ := alphanum place ⟨inside.1, Nat.lt_of_lt_of_eq inside.2 stop⟩
    obtain rfl : separator = d := Option.some.inj (here.symm.trans there)
    rw [plain] at known
    cases known
  | @symbol value d start symbol there =>
    obtain ⟨rfl, rfl⟩ := eq_of_inside_one inside here there
    have isSymbol := Pointwise.isSymbol_of_symbol? value symbol
    rw [Segment.isSymbol_of_isSeparator admissible] at isSymbol
    cases isSymbol
  | @blank d start blank there =>
    obtain ⟨rfl, rfl⟩ := eq_of_inside_one inside here there
    rw [(isSeparator_iff.mp admissible).2.1] at blank
    cases blank
  | @unexpected d start plain visible noSymbol there behind =>
    obtain ⟨rfl, rfl⟩ := eq_of_inside_one inside here there
    rfl

end Faults

/-! ## Strict scans -/

section Strict

variable {separator : Char} (admissible : isSeparator separator = true) {formula : List Char}

include admissible

/-- The first fault is one of those that are found. -/
theorem mem_findings_of_fault? {fault : Fault} (found : fault? separator formula = some fault) :
    .fault fault ∈ Pointwise.findings separator formula := by
  rw [fault?_eq_pointwise admissible] at found
  obtain ⟨f, member, isFault⟩ := List.exists_of_findSome?_eq_some found
  rw [← Finding.fault?_eq_some_iff.mp isFault]
  exact member

/-- The first fault comes before any other one. -/
theorem exists_first_fault {fault : Fault}
    (member : .fault fault ∈ Pointwise.findings separator formula) :
    ∃ first, fault? separator formula = some first ∧
      (first = fault ∨ first.position < fault.position) := by
  have tiling := tiling_findings separator formula
  have size := (tiling.bounds member).2.1
  have isLost : fault.position ∈
      lost formula ((Pointwise.findings separator formula).filterMap Finding.token?) :=
    (tiling.mem_lost_iff_fault admissible).mpr ⟨fault, member, Nat.le_refl _, size⟩
  cases found : fault? separator formula with
  | none =>
    rw [fault?_eq_pointwise admissible] at found
    cases List.findSome?_eq_none_iff.mp found _ member
  | some first =>
    refine ⟨first, rfl, ?_⟩
    have isFirst := mem_findings_of_fault? admissible found
    rw [fault?_eq_pointwise admissible] at found
    -- The first fault begins where the first character is lost.
    rcases Nat.lt_or_eq_of_le ((tiling.isLeast_lost admissible found).2 isLost) with less | same
    · exact .inr less
    · have inside : first.position ≤ fault.position ∧
          fault.position < (Finding.fault first).stop := by
        rw [← same]
        exact ⟨Nat.le_refl _, (tiling.bounds isFirst).2.1⟩
      left
      exact Finding.fault.inj
        (tiling.eq_of_mem isFirst inside member ⟨Nat.le_refl fault.position, size⟩)

/-- A separator directly behind a word is found to be an unexpected character. -/
theorem unexpected_mem_findings {place : Nat} (here : formula[place]? = some separator)
    (behind : BehindWord formula place) :
    .fault (.unexpectedCharacter separator place) ∈ Pointwise.findings separator formula := by
  have bound := (List.getElem?_eq_some_iff.mp here).1
  obtain ⟨f, member, inside⟩ :=
    (tiling_findings separator formula).exists_mem (Nat.zero_le place) (by omega)
  have placed := placed_of_mem_findings admissible formula f member
  rw [← placed.eq_unexpected_of_separator admissible inside here behind]
  exact member

end Strict

/-- What a strict scan reports is true of the formula, and a separator directly behind a name is
reported unless something in front of it is. The names are the words of the formula, as a lenient
scan gives them. -/
theorem strict_scan_evidence (settings : Settings) {formula : String} (nonempty : formula ≠ "") :
    (∀ fault, scan (settings.withMode .strict) formula = .error (.fault fault) →
        fault.IsEvident settings.separator formula.toList) ∧
      (∀ place, formula.toList[place]? = some settings.separator →
        BehindWord formula.toList place →
          ∃ fault, scan (settings.withMode .strict) formula = .error (.fault fault) ∧
            (fault = .unexpectedCharacter settings.separator place ∨ fault.position < place)) ∧
      ∃ read, scan (settings.withMode .lenient) formula = .ok read ∧
        ∀ place, BehindWord formula.toList place ↔
          ∃ t ∈ read, t.kind = .identifier ∧ t.stop = place := by
  have admissible := settings.isSeparator_separator
  have filled : formula.toList ≠ [] := by simpa using nonempty
  refine ⟨?_, ?_, ?_⟩
  · intro fault failed
    have found := (strict_scan_eq_error_iff settings).mp failed
    exact isEvident_of_mem_findings admissible (mem_findings_of_fault? admissible found)
  · intro place here behind
    obtain ⟨first, found, order⟩ :=
      exists_first_fault admissible (unexpected_mem_findings admissible here behind)
    exact ⟨first, (strict_scan_eq_error_iff settings).mpr found, order⟩
  · refine ⟨_, scan_lenient (Settings.mode_withMode settings .lenient) filled, fun place => ?_⟩
    exact behindWord_iff_name admissible

/-- A malformed number with its sign comes before a separator behind a name. -/
theorem strict_scan_evidence_malformed :
    ("-1.2.3 x.5" ≠ "" ∧
        scan (Settings.default.withMode .strict) "-1.2.3 x.5" =
          .error (.fault (.malformedNumber "-1.2.3" 0)) ∧
        "-1.2.3 x.5".toList[8]? = some '.' ∧ BehindWord "-1.2.3 x.5".toList 8) ∧
      (Fault.malformedNumber "-1.2.3" 0).IsEvident '.' "-1.2.3 x.5".toList ∧
      ∃ fault, scan (Settings.default.withMode .strict) "-1.2.3 x.5" = .error (.fault fault) ∧
        (fault = .unexpectedCharacter '.' 8 ∨ fault.position < 8) := by
  have nonempty : "-1.2.3 x.5" ≠ "" := by decide
  have failed : scan (Settings.default.withMode .strict) "-1.2.3 x.5" =
      .error (.fault (.malformedNumber "-1.2.3" 0)) :=
    (strict_scan_eq_error_iff .default).mpr (by decide +kernel)
  have here : "-1.2.3 x.5".toList[8]? = some '.' := by decide
  have behind : BehindWord "-1.2.3 x.5".toList 8 := ⟨⟨7, 8⟩, by decide +kernel, rfl⟩
  obtain ⟨evident, reported, -⟩ := strict_scan_evidence .default nonempty
  exact ⟨⟨nonempty, failed, here, behind⟩, evident _ failed, reported 8 here behind⟩

end FormulaScan
