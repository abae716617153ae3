import FormulaScan.Proofs.Scan.Modes

/-!
# How far a scan looks ahead

A scan looks one character ahead and no further. What it finds in front of a place is settled by the
characters up to that place: two formulas that begin with the same `n` characters have the same
tokens that stop before `n`, and a fault that is settled there is reported in both
(`scans_agree_up_to`).

A reader takes the same characters from both formulas if it stops before the place, because it has
then met the same character to stop at (`takeWhile_of_take_eq`). Where it goes on up to the place in
one formula it does so in the other, and from there on nothing is settled in either
(`findingsFrom_of_take_eq`).
-/

namespace FormulaScan

/-- A fault is settled by the first `n` characters of a formula: an unexpected character is one of
them, and the character behind a malformed number is. -/
def Fault.IsSettled (n : Nat) : Fault → Prop
  | .malformedNumber text position => position + text.length < n
  | .unexpectedCharacter _ position => position < n

/-- A finding is settled by the first `n` characters of a formula. -/
def Finding.IsSettled (n : Nat) : Finding → Prop
  | .token t => t.stop < n
  | .blank start _ => start < n
  | .fault f => f.IsSettled n

/-- What begins behind some characters is not settled by them. -/
theorem Finding.not_isSettled_of_le_start {n : Nat} {f : Finding} (behind : n ≤ f.start) :
    ¬ f.IsSettled n := by
  -- Tokens and malformed numbers are settled even later, where they stop.
  cases f with
  | token t => exact Nat.not_lt_of_le (Nat.le_trans behind (Nat.le_add_right ..))
  | blank start length => exact Nat.not_lt_of_le behind
  | fault f =>
    cases f with
    | malformedNumber text position =>
      exact Nat.not_lt_of_le (Nat.le_trans behind (Nat.le_add_right ..))
    | unexpectedCharacter c position => exact Nat.not_lt_of_le behind

/-! ## Texts with the same beginning -/

/-- Texts that share at least one character begin with the same one and share one less behind it. -/
theorem exists_cons_of_take_eq {c : Char} {rest text' : List Char} {n : Nat}
    (same : (c :: rest).take (n + 1) = text'.take (n + 1)) :
    ∃ rest', text' = c :: rest' ∧ rest.take n = rest'.take n := by
  cases text' with
  | nil => cases same
  | cons d rest' =>
    rw [List.take_succ_cons, List.take_succ_cons, List.cons.injEq] at same
    obtain ⟨rfl, same⟩ := same
    exact ⟨rest', rfl, same⟩

/-- If a row of a class stops within the characters that two texts share, it is the same row in
both, and the texts still share what is left of these characters. -/
theorem takeWhile_of_take_eq {p : Char → Bool} {text text' : List Char} {n : Nat}
    (same : text.take n = text'.take n) (stops : (text.takeWhile p).length < n) :
    text'.takeWhile p = text.takeWhile p ∧
      (text.dropWhile p).take (n - (text.takeWhile p).length) =
        (text'.dropWhile p).take (n - (text.takeWhile p).length) := by
  obtain ⟨n, rfl⟩ := Nat.exists_eq_succ_of_ne_zero (Nat.ne_of_gt (Nat.zero_lt_of_lt stops))
  induction text generalizing text' n with
  | nil =>
    -- Of two texts that share a character none is empty, unless both are.
    cases text' with
    | nil => exact ⟨rfl, rfl⟩
    | cons d rest' => cases same
  | cons c rest ih =>
    obtain ⟨rest', rfl, same'⟩ := exists_cons_of_take_eq same
    by_cases goesOn : p c = true
    · rw [List.takeWhile_cons_of_pos goesOn, List.length_cons, Nat.succ_lt_succ_iff] at stops
      obtain ⟨n, rfl⟩ := Nat.exists_eq_succ_of_ne_zero (Nat.ne_of_gt (Nat.zero_lt_of_lt stops))
      have behind := ih n same' stops
      simp only [List.takeWhile_cons_of_pos goesOn, List.dropWhile_cons_of_pos goesOn,
        List.length_cons, Nat.succ_sub_succ, behind.1, true_and]
      exact behind.2
    · simp only [List.takeWhile_cons_of_neg goesOn, List.dropWhile_cons_of_neg goesOn, true_and]
      exact same

namespace Pointwise

variable {separator : Char}

/-- What the number reader and the name reader find is settled behind the text that they take. -/
theorem length_lt_of_isSettled {taker : Stage} (row : taker ≠ .symbol) {position n : Nat}
    {c : Char} {more : List Char}
    (settled : (findingOf separator position c more taker).IsSettled n) :
    position + (c :: more).length < n := by
  cases taker with
  | number =>
    obtain ⟨literal, -, found⟩ | ⟨lone, found⟩ | ⟨-, -, found⟩ :=
      numberFinding_cases separator (c :: more)
    all_goals rw [findingOf, found] at settled
    · exact settled
    · rw [lone]
      exact settled
    · rw [← String.length_ofList (l := c :: more)]
      exact settled
  | name => exact settled
  | symbol => exact absurd rfl row

/-- Nothing is settled by the characters in front of a text. -/
theorem not_isSettled_of_le {state : ScanState} {position n : Nat} {text : List Char}
    (fits : Fits separator state.stage text) (behind : n ≤ position) :
    ∀ f ∈ findingsFrom separator state position text, ¬ f.IsSettled n := by
  intro f member
  have bounds := (tiling_findingsFrom state position text fits).bounds member
  exact Finding.not_isSettled_of_le_start (Nat.le_trans behind bounds.1)

/-- Where a number or a name goes on up to a place, nothing is settled there from its beginning
on. -/
theorem not_isSettled_of_row {state : ScanState} {c : Char}
    (row : reader separator state c ≠ .symbol) {position n : Nat} {rest : List Char}
    (goesOn : n ≤ (rest.takeWhile (takes separator (reader separator state c))).length) :
    ∀ f ∈ findingsFrom separator state position (c :: rest),
      ¬ f.IsSettled (position + (n + 1)) := by
  intro f member
  rw [findingsFrom_cons] at member
  rcases List.mem_cons.mp member with rfl | later
  · intro settled
    have stop := length_lt_of_isSettled row settled
    rw [List.length_cons] at stop
    omega
  · refine not_isSettled_of_le (fits_step separator state position c rest) ?_ f later
    have size : (step separator state position c rest).text.length =
        (rest.takeWhile (takes separator (reader separator state c))).length + 1 := rfl
    omega

/-- Where a reader stops within the characters that two texts share, or takes one character only, it
reads the same in both, and they share what is left of these characters. -/
theorem step_of_take_eq (state : ScanState) (position : Nat) {c : Char} {n : Nat}
    {rest rest' : List Char} (same : rest.take n = rest'.take n)
    (stops : reader separator state c = .symbol ∨
      (rest.takeWhile (takes separator (reader separator state c))).length < n) :
    ∃ left, step separator state position c rest' =
        { step separator state position c rest with rest := left } ∧
      (step separator state position c rest).text.length ≤ n + 1 ∧
      (step separator state position c rest).rest.take
          (n + 1 - (step separator state position c rest).text.length) =
        left.take (n + 1 - (step separator state position c rest).text.length) := by
  rcases stops with symbol | stops
  · simp only [step, symbol, takeWhile_takes_symbol, dropWhile_takes_symbol, List.length_singleton,
      Nat.add_sub_cancel]
    exact ⟨rest', rfl, Nat.le_add_left 1 n, same⟩
  · obtain ⟨taken, left⟩ := takeWhile_of_take_eq same stops
    simp only [step, taken, List.length_cons, Nat.add_sub_add_right]
    exact ⟨_, rfl, Nat.succ_le_succ (Nat.le_of_lt stops), left⟩

/-- Two scans that begin in the same state at the same place, with texts that share `n` characters,
find the same things up to some point, from which on nothing is settled by these characters. -/
theorem findingsFrom_of_take_eq (state : ScanState) (position : Nat) {text text' : List Char}
    (n : Nat) (fits : Fits separator state.stage text) (fits' : Fits separator state.stage text')
    (same : text.take n = text'.take n) :
    ∃ front behind behind', findingsFrom separator state position text = front ++ behind ∧
      findingsFrom separator state position text' = front ++ behind' ∧
      (∀ f ∈ behind, ¬ f.IsSettled (position + n)) ∧
      ∀ f ∈ behind', ¬ f.IsSettled (position + n) := by
  induction state, position, text using reading_induction separator generalizing text' n with
  | nil state position =>
    refine ⟨[], [], _, findingsFrom_nil .., rfl, fun f member => absurd member (by simp), ?_⟩
    -- The other text is empty too, unless nothing is shared.
    cases n with
    | zero => exact not_isSettled_of_le fits' (Nat.le_refl _)
    | succ n =>
      cases text' with
      | nil => simp
      | cons d rest' => cases same
  | cons state position c rest ih =>
    cases n with
    | zero =>
      exact ⟨[], _, _, rfl, rfl, not_isSettled_of_le fits (Nat.le_refl _),
        not_isSettled_of_le fits' (Nat.le_refl _)⟩
    | succ n =>
      obtain ⟨rest', rfl, same'⟩ := exists_cons_of_take_eq same
      by_cases stops : reader separator state c = .symbol ∨
          (rest.takeWhile (takes separator (reader separator state c))).length < n
      · obtain ⟨left, step', short, shared⟩ := step_of_take_eq state position same' stops
        have fitsLeft := fits_step separator state position c rest'
        rw [step'] at fitsLeft
        obtain ⟨front, behind, behind', found, found', settled⟩ :=
          ih _ (fits_step separator state position c rest) fitsLeft shared
        rw [findingsFrom_cons, findingsFrom_cons, step', found, found']
        refine ⟨_ :: front, behind, behind', rfl, rfl, ?_⟩
        rw [Nat.add_assoc, Nat.add_sub_cancel' short] at settled
        exact settled
      · -- The reader goes on up to the place in both texts.
        obtain ⟨row, long⟩ := not_or.mp stops
        have long' : ¬ (rest'.takeWhile (takes separator (reader separator state c))).length < n :=
          fun stops' => long ((takeWhile_of_take_eq same'.symm stops').1 ▸ stops')
        exact ⟨[], _, _, rfl, rfl, not_isSettled_of_row row (Nat.le_of_not_lt long),
          not_isSettled_of_row row (Nat.le_of_not_lt long')⟩

end Pointwise

/-! ## What two scans have in common -/

section Settled

variable {n : Nat} {front behind : List Finding} (unsettled : ∀ f ∈ behind, ¬ f.IsSettled n)

include unsettled

/-- The settled tokens are among the findings in front. -/
theorem filter_stop_append :
    ((front ++ behind).filterMap Finding.token?).filter (fun t => t.stop < n) =
      (front.filterMap Finding.token?).filter (fun t => t.stop < n) := by
  have none : (behind.filterMap Finding.token?).filter (fun t => t.stop < n) = [] := by
    rw [List.filter_eq_nil_iff]
    intro t isToken stops
    have settled : t.stop < n := of_decide_eq_true stops
    exact unsettled _ (Finding.mem_filterMap_token?.mp isToken) settled
  rw [List.filterMap_append, List.filter_append, none, List.append_nil]

/-- A settled fault that comes first is among the findings in front. -/
theorem findSome?_fault?_of_append {fault : Fault} (settled : fault.IsSettled n)
    (first : (front ++ behind).findSome? Finding.fault? = some fault) :
    front.findSome? Finding.fault? = some fault := by
  rw [List.findSome?_append] at first
  cases found : front.findSome? Finding.fault? with
  | some fault' =>
    rw [found] at first
    exact first
  | none =>
    rw [found, Option.none_or] at first
    obtain ⟨f, member, isFault⟩ := List.exists_of_findSome?_eq_some first
    obtain rfl := Finding.fault?_eq_some_iff.mp isFault
    exact absurd settled (unsettled _ member)

end Settled

/-- Formulas with the same first `n` characters have the same tokens that stop before `n`, and the
same first fault if it is settled by these characters. -/
theorem tokens_and_fault_of_take_eq {separator : Char} (admissible : isSeparator separator = true)
    {formula formula' : List Char} {n : Nat} (same : formula.take n = formula'.take n) :
    (tokens separator formula).filter (fun t => t.stop < n) =
        (tokens separator formula').filter (fun t => t.stop < n) ∧
      ∀ fault, fault? separator formula = some fault → fault.IsSettled n →
        fault? separator formula' = some fault := by
  obtain ⟨front, behind, behind', found, found', unsettled, unsettled'⟩ :=
    Pointwise.findingsFrom_of_take_eq .initial 0 n (Pointwise.fits_number separator formula)
      (Pointwise.fits_number separator formula') same
  rw [Nat.zero_add] at unsettled unsettled'
  simp only [tokens_eq_pointwise admissible, fault?_eq_pointwise admissible, Pointwise.findings,
    found, found']
  constructor
  · rw [filter_stop_append unsettled, filter_stop_append unsettled']
  · intro fault first settled
    rw [List.findSome?_append, findSome?_fault?_of_append unsettled settled first, Option.some_or]

/-- Scans of two formulas with the same first `n` characters: the lenient ones give the same tokens
that stop before `n`, and if a strict one fails with a fault that these characters settle, so does
the other. -/
theorem scans_agree_up_to (settings : Settings) {formula formula' : String}
    (nonempty : formula ≠ "") (nonempty' : formula' ≠ "") {n : Nat}
    (same : formula.toList.take n = formula'.toList.take n) :
    (∃ read read', scan (settings.withMode .lenient) formula = .ok read ∧
        scan (settings.withMode .lenient) formula' = .ok read' ∧
        read.filter (fun t => t.stop < n) = read'.filter (fun t => t.stop < n)) ∧
      ∀ fault, scan (settings.withMode .strict) formula = .error (.fault fault) →
        fault.IsSettled n →
          scan (settings.withMode .strict) formula' = .error (.fault fault) := by
  have filled : formula.toList ≠ [] := by simpa using nonempty
  have filled' : formula'.toList ≠ [] := by simpa using nonempty'
  obtain ⟨common, settles⟩ :=
    tokens_and_fault_of_take_eq settings.isSeparator_separator same
  constructor
  · exact ⟨_, _, scan_lenient (Settings.mode_withMode settings .lenient) filled,
      scan_lenient (Settings.mode_withMode settings .lenient) filled', common⟩
  · intro fault failed settled
    rw [strict_scan_eq_error_iff] at failed ⊢
    exact settles fault failed settled

/-- The last shared character is the unexpected one, and what stands behind it does not matter. -/
theorem scans_agree_up_to_unexpected :
    ("2+3@" ≠ "" ∧ "2+3@45" ≠ "" ∧ "2+3@".toList.take 4 = "2+3@45".toList.take 4 ∧
        scan (Settings.default.withMode .strict) "2+3@" =
          .error (.fault (.unexpectedCharacter '@' 3)) ∧
        (Fault.unexpectedCharacter '@' 3).IsSettled 4) ∧
      (∃ read read', scan (Settings.default.withMode .lenient) "2+3@" = .ok read ∧
        scan (Settings.default.withMode .lenient) "2+3@45" = .ok read' ∧
        read.filter (fun t => t.stop < 4) = read'.filter (fun t => t.stop < 4)) ∧
      scan (Settings.default.withMode .strict) "2+3@45" =
        .error (.fault (.unexpectedCharacter '@' 3)) := by
  have failed : scan (Settings.default.withMode .strict) "2+3@" =
      .error (.fault (.unexpectedCharacter '@' 3)) :=
    (strict_scan_eq_error_iff .default).mpr (by decide +kernel)
  have same : "2+3@".toList.take 4 = "2+3@45".toList.take 4 := by decide
  have settled : (Fault.unexpectedCharacter '@' 3).IsSettled 4 := Nat.lt_succ_self 3
  obtain ⟨common, settles⟩ :=
    scans_agree_up_to .default (by decide : "2+3@" ≠ "") (by decide : "2+3@45" ≠ "") same
  exact ⟨⟨by decide, by decide, same, failed, settled⟩, common, settles _ failed settled⟩

end FormulaScan
