import FormulaScan.Proofs.Scan.Modes
import FormulaScan.Proofs.Scan.Places

/-!
# What a lenient scan leaves out

A lenient scan says nothing of the characters that it leaves out. They are the blanks, the
characters that mean nothing in a formula, the separators directly behind a word, and the bad rows
of digits and separators, together with a minus sign directly in front of a bad row. Nothing else is
lost, and every row that is not bad becomes one number (`lenient_scan_losses`).

Whether a character is left out is decided by the one finding that it belongs to, so the proof is a
look at the places of findings (`Finding.Placed.token?_eq_none_iff`).
-/

namespace FormulaScan

/-- A character other than the minus sign is left out: it is a blank, or it is none of a letter, a
digit, a symbol and the separator, or it is a separator directly behind a word, or it belongs to a
bad row. -/
def IsLeftOut (separator : Char) (formula : List Char) (place : Nat) (c : Char) : Prop :=
  Text.isBlank c = true ∨
    (c.isAlphanum = false ∧ Segment.isSymbol c = false ∧ c ≠ separator) ∨
    (c = separator ∧ BehindWord formula place) ∨
    ∃ row, IsBadRow separator formula row ∧ place ∈ row

/-- What becomes of the characters of a formula in the tokens of a lenient scan. -/
structure Losses (separator : Char) (formula : List Char) (read : List Token) : Prop where
  /-- Which characters other than the minus sign no token covers. -/
  uncovered : ∀ place c, formula[place]? = some c → c ≠ '-' →
    ((∀ t ∈ read, t.covers place = false) ↔ IsLeftOut separator formula place c)
  /-- A minus sign that no token covers stands directly in front of a bad row. -/
  minus : ∀ place, formula[place]? = some '-' → (∀ t ∈ read, t.covers place = false) →
    ∃ row, IsBadRow separator formula row ∧ row.start = place + 1
  /-- Letters, symbols that are no such minus sign, and digits outside bad rows are covered. -/
  kept : ∀ place c, formula[place]? = some c →
    c.isAlpha = true ∨
        (Segment.isSymbol c = true ∧
          (c = '-' → ¬ ∃ row, IsBadRow separator formula row ∧ row.start = place + 1)) ∨
        (c.isDigit = true ∧ ¬ ∃ row, IsBadRow separator formula row ∧ place ∈ row) →
      ∃ t ∈ read, t.covers place = true
  /-- A row that is not bad becomes one number, and no other token covers any of it. -/
  number : ∀ row, IsRow separator formula row → ¬ IsBadRow separator formula row →
    ∃ t ∈ read, (t.kind = .integer ∨ t.kind = .floatingPoint) ∧
      BeginsRow formula row t.start ∧ t.stop = row.stop ∧
      ∀ t' ∈ read, ∀ place ∈ row, t'.covers place = true → t' = t

/-! ## Rows -/

section Rows

variable {separator : Char} {formula : List Char} {place : Nat} {c : Char}

/-- Two rows with a common position are the same. -/
theorem IsRow.eq_of_mem {row row' : Stretch} (isRow : IsRow separator formula row)
    (isRow' : IsRow separator formula row') (member : place ∈ row) (member' : place ∈ row') :
    row = row' := by
  obtain ⟨start, stop⟩ := row
  obtain ⟨start', stop'⟩ := row'
  simp only [Stretch.mem_iff] at member member'
  -- The neighbours of one row would belong to the other if that one reached further.
  have starts : start = start' := by
    rcases Nat.lt_trichotomy start start' with earlier | same | later
    · have outside := isRow'.left (start' - 1) (show start' - 1 + 1 = start' by omega)
      exact absurd (isRow.inside _ ⟨by simp only; omega, by simp only; omega⟩) outside
    · exact same
    · have outside := isRow.left (start - 1) (show start - 1 + 1 = start by omega)
      exact absurd (isRow'.inside _ ⟨by simp only; omega, by simp only; omega⟩) outside
  have stops : stop = stop' := by
    rcases Nat.lt_trichotomy stop stop' with earlier | same | later
    · exact absurd (isRow'.inside stop ⟨by simp only; omega, by simp only; omega⟩) isRow.right
    · exact same
    · exact absurd (isRow.inside stop' ⟨by simp only; omega, by simp only; omega⟩) isRow'.right
  rw [starts, stops]

/-- A position where a number text stands belongs to the row, if it holds no minus sign. -/
theorem BeginsRow.mem {row : Stretch} {start : Nat} (begins : BeginsRow formula row start)
    (here : formula[place]? = some c) (noSign : c ≠ '-') (lower : start ≤ place)
    (upper : place < row.stop) : place ∈ row := by
  refine ⟨?_, upper⟩
  cases begins with
  | inl same => omega
  | inr sign =>
    by_cases first : place = start
    · rw [first, sign.2] at here
      exact absurd (Option.some.inj here).symm noSign
    · omega

/-- A number text begins in front of its row or with it. -/
theorem BeginsRow.le {row : Stretch} {start : Nat} (begins : BeginsRow formula row start) :
    start ≤ row.start := by
  cases begins with
  | inl same => omega
  | inr sign => omega

/-- A character that can belong to a row is left out only with a bad row. -/
theorem isLeftOut_iff_of_inRow (admissible : isSeparator separator = true)
    (here : formula[place]? = some c) (inRow : InRow separator formula place) :
    IsLeftOut separator formula place c ↔
      ∃ row, IsBadRow separator formula row ∧ place ∈ row := by
  have goesOn := inRow_char here inRow
  constructor
  · intro leftOut
    rcases leftOut with blank | foreign | behind | bad
    · rw [Pointwise.isBlank_of_continuesNumber admissible goesOn] at blank
      cases blank
    · obtain ⟨plain, -, noSeparator⟩ := foreign
      rw [isAlphanum_eq, Bool.or_eq_false_iff] at plain
      simp [Pointwise.continuesNumber, plain.2, noSeparator] at goesOn
    · rw [behind.1] at here
      exact absurd ⟨here, behind.2⟩ inRow.2.2
    · exact bad
  · intro bad
    exact .inr (.inr (.inr bad))

/-- A letter, a digit or a symbol is left out only with a bad row. -/
theorem not_isLeftOut (admissible : isSeparator separator = true)
    (known : c.isAlphanum = true ∨ Segment.isSymbol c = true)
    (noBadRow : ¬ ∃ row, IsBadRow separator formula row ∧ place ∈ row) :
    ¬ IsLeftOut separator formula place c := by
  intro leftOut
  rcases leftOut with blank | foreign | behind | bad
  · cases known with
    | inl alphanum =>
      rw [Text.isAlphanum_eq_false_of_isBlank blank] at alphanum
      cases alphanum
    | inr symbol =>
      rw [(Segment.plain_of_isSymbol symbol).2] at blank
      cases blank
  · cases known with
    | inl alphanum =>
      rw [foreign.1] at alphanum
      cases alphanum
    | inr symbol =>
      rw [foreign.2.1] at symbol
      cases symbol
  · rw [behind.1] at known
    cases known with
    | inl alphanum =>
      rw [(isSeparator_iff.mp admissible).1] at alphanum
      cases alphanum
    | inr symbol =>
      rw [Segment.isSymbol_of_isSeparator admissible] at symbol
      cases symbol
  · exact noBadRow bad

/-- What cannot belong to a row belongs to no bad one. -/
theorem no_badRow_of_not_inRow (noRow : ¬ InRow separator formula place) :
    ¬ ∃ row, IsBadRow separator formula row ∧ place ∈ row := by
  intro inBadRow
  obtain ⟨row, bad, member⟩ := inBadRow
  exact noRow (bad.1.inside place member)

/-- A symbol does not belong to a row. -/
theorem not_inRow_of_isSymbol (admissible : isSeparator separator = true)
    (here : formula[place]? = some c) (symbol : Segment.isSymbol c = true) :
    ¬ InRow separator formula place := by
  intro inRow
  have goesOn := inRow_char here inRow
  have plain := (Segment.plain_of_isSymbol symbol).1
  rw [isAlphanum_eq, Bool.or_eq_false_iff] at plain
  rw [Pointwise.continuesNumber, plain.2, Bool.false_or, beq_iff_eq] at goesOn
  rw [goesOn, Segment.isSymbol_of_isSeparator admissible] at symbol
  cases symbol

/-- A letter does not belong to a row. -/
theorem not_inRow_of_isAlpha (admissible : isSeparator separator = true)
    (here : formula[place]? = some c) (letter : c.isAlpha = true) :
    ¬ InRow separator formula place := by
  intro inRow
  rw [isAlpha_of_continuesNumber admissible (inRow_char here inRow)] at letter
  cases letter

/-! ## The finding that a character belongs to -/

/-- A finding at a position is no token exactly when the character there is left out. -/
theorem Finding.Placed.token?_eq_none_iff (admissible : isSeparator separator = true) {f : Finding}
    (placed : f.Placed separator formula) (inside : f.start ≤ place ∧ place < f.stop)
    (here : formula[place]? = some c) (noSign : c ≠ '-') :
    f.token? = none ↔ IsLeftOut separator formula place c := by
  cases placed with
  | @number row start length isRow good begins stop literal =>
    have member : place ∈ row :=
      begins.mem here noSign inside.1 (Nat.lt_of_lt_of_eq inside.2 stop)
    rw [isLeftOut_iff_of_inRow admissible here (isRow.inside place member)]
    apply iff_of_false (by simp [Finding.token?])
    intro bad
    obtain ⟨row', bad, member'⟩ := bad
    rw [← isRow.eq_of_mem bad.1 member member'] at bad
    exact good bad
  | @malformed row text start bad begins stop =>
    have member : place ∈ row :=
      begins.mem here noSign inside.1 (Nat.lt_of_lt_of_eq inside.2 stop)
    exact iff_of_true rfl (.inr (.inr (.inr ⟨row, bad, member⟩)))
  | @name word length isWord stop alphanum name =>
    have member : place ∈ word := ⟨inside.1, Nat.lt_of_lt_of_eq inside.2 stop⟩
    obtain ⟨d, there, known⟩ := alphanum place member
    obtain rfl : c = d := Option.some.inj (here.symm.trans there)
    apply iff_of_false (by simp [Finding.token?])
    apply not_isLeftOut admissible (.inl known)
    apply no_badRow_of_not_inRow
    intro inRow
    exact inRow.2.1 ⟨word, isWord, member⟩
  | @symbol value d start symbol there =>
    obtain rfl : place = start := Nat.le_antisymm (Nat.le_of_lt_succ inside.2) inside.1
    obtain rfl : c = d := Option.some.inj (here.symm.trans there)
    have isSymbol := Pointwise.isSymbol_of_symbol? value symbol
    apply iff_of_false (by simp [Finding.token?])
    exact not_isLeftOut admissible (.inr isSymbol)
      (no_badRow_of_not_inRow (not_inRow_of_isSymbol admissible here isSymbol))
  | @blank d start blank there =>
    obtain rfl : place = start := Nat.le_antisymm (Nat.le_of_lt_succ inside.2) inside.1
    obtain rfl : c = d := Option.some.inj (here.symm.trans there)
    exact iff_of_true rfl (.inl blank)
  | @unexpected d start plain visible noSymbol there behind =>
    obtain rfl : place = start := Nat.le_antisymm (Nat.le_of_lt_succ inside.2) inside.1
    obtain rfl : c = d := Option.some.inj (here.symm.trans there)
    apply iff_of_true rfl
    by_cases same : c = separator
    · exact .inr (.inr (.inl ⟨same, behind same⟩))
    · exact .inr (.inl ⟨plain, noSymbol, same⟩)

/-- A minus sign that belongs to no token stands directly in front of a bad row. -/
theorem Finding.Placed.badRow_of_minus (admissible : isSeparator separator = true) {f : Finding}
    (placed : f.Placed separator formula) (inside : f.start ≤ place ∧ place < f.stop)
    (here : formula[place]? = some '-') (noToken : f.token? = none) :
    ∃ row, IsBadRow separator formula row ∧ row.start = place + 1 := by
  cases placed with
  | number => cases noToken
  | name => cases noToken
  | symbol => cases noToken
  | @malformed row text start bad begins stop =>
    refine ⟨row, bad, ?_⟩
    -- The sign is not in the row, so it is the one in front of it.
    have outside : ¬ place ∈ row := fun member =>
      not_inRow_of_isSymbol admissible here (by decide) (bad.1.inside place member)
    rw [Stretch.mem_iff, not_and_or] at outside
    have bounds : start ≤ place ∧ place < start + text.length := inside
    cases begins with
    | inl same => omega
    | inr sign => omega
  | @blank d start blank there =>
    obtain rfl : place = start := Nat.le_antisymm (Nat.le_of_lt_succ inside.2) inside.1
    obtain rfl : '-' = d := Option.some.inj (here.symm.trans there)
    exact absurd blank (by decide)
  | @unexpected d start plain visible noSymbol there behind =>
    obtain rfl : place = start := Nat.le_antisymm (Nat.le_of_lt_succ inside.2) inside.1
    obtain rfl : '-' = d := Option.some.inj (here.symm.trans there)
    exact absurd noSymbol (by decide)

/-- A finding at a position of a row that is not bad is the number that the row becomes. -/
theorem Finding.Placed.number_of_row (admissible : isSeparator separator = true) {f : Finding}
    (placed : f.Placed separator formula) (inside : f.start ≤ place ∧ place < f.stop)
    {row : Stretch} (isRow : IsRow separator formula row)
    (good : ¬ IsBadRow separator formula row) (member : place ∈ row) :
    ∃ t, f = .token t ∧ (t.kind = .integer ∨ t.kind = .floatingPoint) ∧
      BeginsRow formula row t.start ∧ t.stop = row.stop := by
  have inRow := isRow.inside place member
  obtain ⟨c, here, form⟩ := inRow.1
  have goesOn := inRow_char here inRow
  have noSign : c ≠ '-' := by
    intro same
    rw [same] at here
    exact not_inRow_of_isSymbol admissible here (by decide) inRow
  -- A finding that is no token would leave the character out with a bad row.
  have isToken : f.token? ≠ none := by
    intro noToken
    have leftOut := (placed.token?_eq_none_iff admissible inside here noSign).mp noToken
    obtain ⟨row', bad, member'⟩ := (isLeftOut_iff_of_inRow admissible here inRow).mp leftOut
    rw [← isRow.eq_of_mem bad.1 member member'] at bad
    exact good bad
  cases placed with
  | @number row' start length isRow' good' begins stop literal =>
    have member' : place ∈ row' :=
      begins.mem here noSign inside.1 (Nat.lt_of_lt_of_eq inside.2 stop)
    rw [isRow.eq_of_mem isRow' member member']
    refine ⟨_, rfl, ?_, begins, stop⟩
    cases literal with
    | integer n => exact .inl rfl
    | floatingPoint x => exact .inr rfl
  | @name word length isWord stop alphanum name =>
    exact absurd ⟨word, isWord, inside.1, Nat.lt_of_lt_of_eq inside.2 stop⟩ inRow.2.1
  | @symbol value d start symbol there =>
    obtain rfl : place = start := Nat.le_antisymm (Nat.le_of_lt_succ inside.2) inside.1
    exact absurd inRow
      (not_inRow_of_isSymbol admissible there (Pointwise.isSymbol_of_symbol? value symbol))
  | malformed => exact absurd rfl isToken
  | blank => exact absurd rfl isToken
  | unexpected => exact absurd rfl isToken

end Rows

/-- A token covers a position exactly when the finding that the position belongs to is a token. -/
theorem Tiling.uncovered_iff {separator : Char} {formula : List Char} {found : List Finding}
    (tiling : Tiling separator 0 formula found) {f : Finding} {place : Nat} (member : f ∈ found)
    (inside : f.start ≤ place ∧ place < f.stop) :
    (∀ t ∈ found.filterMap Finding.token?, t.covers place = false) ↔ f.token? = none := by
  constructor
  · intro free
    rw [Option.eq_none_iff_forall_ne_some]
    intro t isToken
    obtain rfl := Finding.token?_eq_some_iff.mp isToken
    have covered : t.covers place = true := Token.covers_iff.mpr inside
    rw [free t (Finding.mem_filterMap_token?.mpr member)] at covered
    cases covered
  · intro noToken t isToken
    apply Bool.eq_false_iff.mpr
    intro covered
    have same := tiling.eq_of_mem member inside (Finding.mem_filterMap_token?.mp isToken)
      (Token.covers_iff.mp covered)
    rw [same] at noToken
    cases noToken

/-! ## The tokens of a formula -/

section Tokens

variable {separator : Char} (admissible : isSeparator separator = true) {formula : List Char}
  {place : Nat} {c : Char}

include admissible

/-- Each character belongs to one finding, which is placed among the words and rows, and a token
covers the character exactly when this finding is a token. -/
theorem exists_placed_at (here : formula[place]? = some c) :
    ∃ f : Finding, f.Placed separator formula ∧ (f.start ≤ place ∧ place < f.stop) ∧
      ((∀ t ∈ tokens separator formula, t.covers place = false) ↔ f.token? = none) := by
  have tiling := tiling_findings separator formula
  have bound := (List.getElem?_eq_some_iff.mp here).1
  obtain ⟨f, member, inside⟩ := tiling.exists_mem (Nat.zero_le place) (by omega)
  refine ⟨f, placed_of_mem_findings admissible formula f member, inside, ?_⟩
  rw [tokens_eq_pointwise admissible]
  exact tiling.uncovered_iff member inside

/-- A character other than the minus sign is covered by no token exactly when it is left out. -/
theorem uncovered_iff_isLeftOut (here : formula[place]? = some c) (noSign : c ≠ '-') :
    (∀ t ∈ tokens separator formula, t.covers place = false) ↔
      IsLeftOut separator formula place c := by
  obtain ⟨f, placed, inside, uncovered⟩ := exists_placed_at admissible here
  rw [uncovered]
  exact placed.token?_eq_none_iff admissible inside here noSign

/-- A minus sign that is covered by no token stands directly in front of a bad row. -/
theorem exists_badRow_behind_minus (here : formula[place]? = some '-')
    (free : ∀ t ∈ tokens separator formula, t.covers place = false) :
    ∃ row, IsBadRow separator formula row ∧ row.start = place + 1 := by
  obtain ⟨f, placed, inside, uncovered⟩ := exists_placed_at admissible here
  exact placed.badRow_of_minus admissible inside here (uncovered.mp free)

/-- A token covers every letter, every symbol but a minus sign in front of a bad row, and every
digit outside the bad rows. -/
theorem exists_token_at (here : formula[place]? = some c)
    (known : c.isAlpha = true ∨
      (Segment.isSymbol c = true ∧
        (c = '-' → ¬ ∃ row, IsBadRow separator formula row ∧ row.start = place + 1)) ∨
      (c.isDigit = true ∧ ¬ ∃ row, IsBadRow separator formula row ∧ place ∈ row)) :
    ∃ t ∈ tokens separator formula, t.covers place = true := by
  by_contra none
  have free : ∀ t ∈ tokens separator formula, t.covers place = false := by
    intro t isToken
    apply Bool.eq_false_iff.mpr
    intro covered
    exact none ⟨t, isToken, covered⟩
  by_cases sign : c = '-'
  · rw [sign] at known here
    rcases known with letter | symbol | digit
    · exact absurd letter (by decide)
    · exact symbol.2 rfl (exists_badRow_behind_minus admissible here free)
    · exact absurd digit.1 (by decide)
  · have leftOut := (uncovered_iff_isLeftOut admissible here sign).mp free
    rcases known with letter | ⟨symbol, -⟩ | ⟨digit, noBadRow⟩
    · exact not_isLeftOut admissible (.inl (isAlphanum_of_isAlpha letter))
        (no_badRow_of_not_inRow (not_inRow_of_isAlpha admissible here letter)) leftOut
    · exact not_isLeftOut admissible (.inr symbol)
        (no_badRow_of_not_inRow (not_inRow_of_isSymbol admissible here symbol)) leftOut
    · exact not_isLeftOut admissible (.inl (isAlphanum_of_isDigit digit)) noBadRow leftOut

/-- A row that is not bad becomes one number, and no other token covers any of it. -/
theorem exists_number_of_row {row : Stretch} (isRow : IsRow separator formula row)
    (good : ¬ IsBadRow separator formula row) :
    ∃ t ∈ tokens separator formula, (t.kind = .integer ∨ t.kind = .floatingPoint) ∧
      BeginsRow formula row t.start ∧ t.stop = row.stop ∧
      ∀ t' ∈ tokens separator formula, ∀ place ∈ row, t'.covers place = true → t' = t := by
  have tiling := tiling_findings separator formula
  have first : row.start ∈ row := ⟨Nat.le_refl _, isRow.nonempty⟩
  obtain ⟨c, here, -⟩ := (isRow.inside row.start first).1
  have bound := (List.getElem?_eq_some_iff.mp here).1
  obtain ⟨f, member, inside⟩ := tiling.exists_mem (Nat.zero_le row.start) (by omega)
  -- The finding that the row begins in is the number, and it reaches to the end of the row.
  obtain ⟨t, rfl, kind, begins, stop⟩ := (placed_of_mem_findings admissible formula f member)
    |>.number_of_row admissible inside isRow good first
  rw [tokens_eq_pointwise admissible]
  refine ⟨t, Finding.mem_filterMap_token?.mpr member, kind, begins, stop, ?_⟩
  intro t' isToken place inPlace covered
  have reaches : place < t.stop := Nat.lt_of_lt_of_eq inPlace.2 stop.symm
  exact Finding.token.inj (tiling.eq_of_mem (Finding.mem_filterMap_token?.mp isToken)
    (Token.covers_iff.mp covered) member ⟨Nat.le_trans begins.le inPlace.1, reaches⟩)

end Tokens

/-- A lenient scan of a formula that is not empty leaves out the blanks, what means nothing in a
formula, the separators directly behind words and the bad rows, with a minus sign directly in front
of such a row or without one, and nothing else. -/
theorem lenient_scan_losses (settings : Settings) {formula : String} (nonempty : formula ≠ "") :
    ∃ read, scan (settings.withMode .lenient) formula = .ok read ∧
      Losses settings.separator formula.toList read := by
  have admissible := settings.isSeparator_separator
  have filled : formula.toList ≠ [] := by simpa using nonempty
  refine ⟨_, scan_lenient (Settings.mode_withMode settings .lenient) filled, ?_⟩
  constructor
  case uncovered =>
    intro place c here noSign
    exact uncovered_iff_isLeftOut admissible here noSign
  case minus =>
    intro place here free
    exact exists_badRow_behind_minus admissible here free
  case kept =>
    intro place c here known
    exact exists_token_at admissible here known
  case number =>
    intro row isRow good
    exact exists_number_of_row admissible isRow good

/-- A separator behind a name, a bad row with a minus sign in front of it, and a character that
means nothing are left out. -/
theorem lenient_scan_losses_separator_behind_name :
    "x.5 -1.2.3@" ≠ "" ∧
      ∃ read, scan (Settings.default.withMode .lenient) "x.5 -1.2.3@" = .ok read ∧
        Losses '.' "x.5 -1.2.3@".toList read := by
  have nonempty : "x.5 -1.2.3@" ≠ "" := by decide
  exact ⟨nonempty, lenient_scan_losses .default nonempty⟩

end FormulaScan
