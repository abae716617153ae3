import FormulaScan.Proofs.Run.Kinds
import FormulaScan.Run.Lexer

/-!
# The runs are the only maximal partition

Every text has exactly one maximal partition, and cutting it from left to right finds it
(`partition_iff_eq_listFrom`). A lexer that takes the longest match finds it as well, because the
first character of a text settles which form a match can have and how far it reaches; so such a
lexer never takes anything without a kind (`lexer_runs_eq_iff`).

A run of a formula stops where the next one begins (`stop_of_suffix`) and takes in all that it can
(`mayPrecede_of_suffix`). An admissible separator is a run of its own wherever it stands
(`mem_list_separator`).
-/

namespace FormulaScan.Run

/-! ## The form of a run -/

namespace Kind

/-- A text has the form of a kind when its first character is of the kind and the others go on as
the kind asks. -/
theorem admits_cons_iff {kind : Kind} {c : Char} {more : List Char} :
    kind.admits (c :: more) = true ↔
      ofFirst c = kind ∧ ∀ d ∈ more, kind.continues d = true := by
  rw [ofFirst_eq_iff]
  cases kind with
  | digits => simp [admits, continues]
  | word => simp [admits, continues]
  | blank => simp [admits, continues]
  -- The other kinds take in nothing more.
  | operator op => simp [admits, continues, List.eq_nil_iff_forall_not_mem]
  | leftBracket => simp [admits, continues, List.eq_nil_iff_forall_not_mem]
  | rightBracket => simp [admits, continues, List.eq_nil_iff_forall_not_mem]
  | other d =>
    have alone : (∀ e ∈ more, (other d).continues e = true) ↔ more = [] := by
      simp [continues, List.eq_nil_iff_forall_not_mem]
    rw [alone]
    simp only [admits, Bool.and_eq_true, beq_iff_eq, List.cons.injEq, and_true]
    constructor
    · intro form
      obtain ⟨⟨⟨⟨⟨⟨same, nothing⟩, plain⟩, visible⟩, noOperator⟩, left⟩, right⟩ := form
      exact ⟨⟨⟨⟨⟨⟨same, plain⟩, visible⟩, noOperator⟩, left⟩, right⟩, nothing⟩
    · intro form
      obtain ⟨⟨⟨⟨⟨⟨same, plain⟩, visible⟩, noOperator⟩, left⟩, right⟩, nothing⟩ := form
      exact ⟨⟨⟨⟨⟨⟨same, nothing⟩, plain⟩, visible⟩, noOperator⟩, left⟩, right⟩

/-- No kind has the form of the empty text. -/
theorem exists_cons_of_admits {kind : Kind} {text : List Char}
    (form : kind.admits text = true) : ∃ c more, text = c :: more := by
  cases text with
  | nil => cases kind <;> simp [admits] at form
  | cons c more => exact ⟨c, more, rfl⟩

/-- A kind may precede the run that begins with a character exactly when it does not take the
character in. -/
theorem mayPrecede_ofFirst_iff {kind : Kind} {c : Char} :
    kind.mayPrecede (ofFirst c) = true ↔ kind.continues c = false := by
  cases kind with
  | digits =>
    have same := @ofFirst_eq_digits_iff c
    cases next : ofFirst c <;> simp_all [mayPrecede, continues]
  | word =>
    have letter := @ofFirst_eq_word_iff c
    have digit := @ofFirst_eq_digits_iff c
    cases next : ofFirst c <;> simp_all [mayPrecede, continues, isAlphanum_eq]
  | blank =>
    have same := @ofFirst_eq_blank_iff c
    cases next : ofFirst c <;> simp_all [mayPrecede, continues]
  | operator op => simp [mayPrecede, continues]
  | leftBracket => simp [mayPrecede, continues]
  | rightBracket => simp [mayPrecede, continues]
  | other d => simp [mayPrecede, continues]

end Kind

/-! ## Existence and uniqueness -/

/-- The first run of a maximal partition is of the kind of the first character of the text. -/
theorem Partition.kind_of_head? {start : Nat} {text : List Char} {runs : List Run}
    (partition : Partition start text runs) :
    text.head?.map Kind.ofFirst = runs.head?.map Run.kind := by
  cases partition with
  | nil => rfl
  | @cons start run rest runs start_eq form maximal tail =>
    obtain ⟨c, more, text⟩ := Kind.exists_cons_of_admits form
    rw [text] at form ⊢
    have kind := (Kind.admits_cons_iff.mp form).1
    simp [kind]

/-- Nothing of the next run goes on the first one exactly when the first one may precede it. -/
theorem Partition.continues_head_eq_false {start : Nat} {text : List Char} {runs : List Run}
    (partition : Partition start text runs) {kind : Kind} :
    (∀ next ∈ runs.head?, kind.mayPrecede next.kind = true) ↔
      ∀ c ∈ text.head?, kind.continues c = false := by
  have kinds := partition.kind_of_head?
  cases text with
  | nil =>
    cases runs with
    | nil => simp
    | cons next runs => simp at kinds
  | cons c rest =>
    cases runs with
    | nil => simp at kinds
    | cons next runs =>
      have same : Kind.ofFirst c = next.kind := by simpa using kinds
      simp [← same, Kind.mayPrecede_ofFirst_iff]

/-- Cutting a text from left to right gives a maximal partition. -/
theorem partition_listFrom (start : Nat) (text : List Char) :
    Partition start text (listFrom start text) := by
  fun_induction listFrom start text with
  | case1 => exact .nil
  | case2 start c rest kind more ih =>
    have goOn : ∀ d ∈ more, kind.continues d = true := List.all_eq_true.mp List.all_takeWhile
    have form : kind.admits (c :: more) = true := Kind.admits_cons_iff.mpr ⟨rfl, goOn⟩
    have stops : ∀ d ∈ (rest.dropWhile kind.continues).head?, kind.continues d = false :=
      fun d first => takes_head_dropWhile first
    have parts : c :: rest = (c :: more) ++ rest.dropWhile kind.continues := by simp [more]
    have place : start + 1 + more.length = start + (c :: more).length := by
      rw [List.length_cons]
      omega
    have run_start : Run.start ⟨kind, c :: more, start⟩ = start := rfl
    rw [place] at ih ⊢
    rw [parts]
    exact .cons run_start form (ih.continues_head_eq_false.mpr stops) ih

/-- A maximal partition is what cutting from left to right gives. -/
theorem Partition.eq_listFrom {start : Nat} {text : List Char} {runs : List Run}
    (partition : Partition start text runs) : runs = listFrom start text := by
  induction partition with
  | nil => simp
  | @cons start run rest runs start_eq form maximal tail ih =>
    obtain ⟨kind, text, place⟩ := run
    obtain ⟨c, more, rfl⟩ := Kind.exists_cons_of_admits form
    obtain ⟨rfl, goOn⟩ := Kind.admits_cons_iff.mp form
    have stops := tail.continues_head_eq_false.mp maximal
    -- The first run takes all that goes on it, and the rest is cut in the same way.
    obtain ⟨taken, left⟩ := span_of_head goOn stops
    have size : start + Run.length ⟨Kind.ofFirst c, c :: more, place⟩ =
        start + 1 + more.length := by
      show start + (c :: more).length = _
      rw [List.length_cons]
      omega
    rw [List.cons_append, listFrom_cons, taken, left, ← size, ← ih, ← start_eq]

/-- Every text has one maximal partition, which is what cutting from left to right gives. -/
theorem partition_iff_eq_listFrom {start : Nat} {text : List Char} {runs : List Run} :
    Partition start text runs ↔ runs = listFrom start text := by
  constructor
  · intro partition
    exact partition.eq_listFrom
  · intro same
    rw [same]
    exact partition_listFrom start text

/-! ## The properties of a maximal partition -/

namespace IsMaximalPartition

variable {start : Nat} {run : Run} {runs : List Run}

/-- The runs behind the first one are a maximal partition of the text behind it. -/
theorem tail {text : List Char} (partition : IsMaximalPartition start text (run :: runs)) :
    IsMaximalPartition (start + run.length) (runs.flatMap Run.text) runs := by
  constructor
  case flatMap_text => rfl
  case nonempty =>
    intro other member
    exact partition.nonempty other (List.mem_cons_of_mem run member)
  case form =>
    intro other member
    exact partition.form other (List.mem_cons_of_mem run member)
  case start_eq =>
    intro front other behind same
    have place := partition.start_eq (run :: front) other behind (by rw [same]; rfl)
    rw [place, List.flatMap_cons, List.length_append, Nat.add_assoc]
    rfl
  case maximal =>
    intro front other next behind same
    exact partition.maximal (run :: front) other next behind (by rw [same]; rfl)

/-- A run in front of a maximal partition makes another one, if it has the form of its kind and may
precede the first run behind it. -/
theorem cons {rest : List Char} (start_eq : run.start = start)
    (form : run.kind.admits run.text = true)
    (maximal : ∀ next ∈ runs.head?, run.kind.mayPrecede next.kind = true)
    (partition : IsMaximalPartition (start + run.length) rest runs) :
    IsMaximalPartition start (run.text ++ rest) (run :: runs) := by
  constructor
  case flatMap_text => rw [List.flatMap_cons, partition.flatMap_text]
  case nonempty =>
    have filled : run.text ≠ [] := by
      obtain ⟨c, more, text⟩ := Kind.exists_cons_of_admits form
      rw [text]
      exact List.cons_ne_nil c more
    exact List.forall_mem_cons.mpr ⟨filled, partition.nonempty⟩
  case form => exact List.forall_mem_cons.mpr ⟨form, partition.form⟩
  case start_eq =>
    intro front other behind same
    cases front with
    | nil =>
      obtain ⟨rfl, rfl⟩ := List.cons.inj same
      exact start_eq
    | cons run' front =>
      obtain ⟨rfl, later⟩ := List.cons.inj same
      rw [partition.start_eq front other behind later, List.flatMap_cons, List.length_append,
        Nat.add_assoc]
      rfl
  case maximal =>
    intro front other next behind same
    cases front with
    | nil =>
      obtain ⟨rfl, rfl⟩ := List.cons.inj same
      exact maximal next rfl
    | cons run' front =>
      obtain ⟨rfl, later⟩ := List.cons.inj same
      exact partition.maximal front other next behind later

end IsMaximalPartition

/-- A path of runs along the text is a maximal partition, and there is such a path for every one. -/
theorem partition_iff {start : Nat} {text : List Char} {runs : List Run} :
    Partition start text runs ↔ IsMaximalPartition start text runs := by
  induction runs generalizing start text with
  | nil =>
    constructor
    · intro partition
      cases partition
      constructor <;> simp
    · intro partition
      have empty := partition.flatMap_text
      rw [List.flatMap_nil] at empty
      rw [← empty]
      exact .nil
  | cons run runs ih =>
    constructor
    · intro partition
      cases partition with
      | cons start_eq form maximal tail => exact .cons start_eq form maximal (ih.mp tail)
    · intro partition
      have first := partition.start_eq [] run runs rfl
      have form := partition.form run (List.mem_cons_self ..)
      have maximal : ∀ next ∈ runs.head?, run.kind.mayPrecede next.kind = true := by
        intro next isNext
        obtain ⟨behind, same⟩ := List.head?_eq_some_iff.mp isNext
        exact partition.maximal [] run next behind (by rw [same]; rfl)
      rw [← partition.flatMap_text, List.flatMap_cons]
      exact .cons first form maximal (ih.mpr partition.tail)

/-! ## Lexers that take the longest match -/

namespace Lexer

/-- Cutting off the first character with those of a class behind it. -/
theorem cut_first (p : Char → Bool) (c : Char) (rest : List Char) :
    (c :: rest).take (c :: rest.takeWhile p).length = c :: rest.takeWhile p ∧
      (c :: rest).drop (c :: rest.takeWhile p).length = rest.dropWhile p := by
  have parts : c :: rest = (c :: rest.takeWhile p) ++ rest.dropWhile p := by simp
  constructor
  · rw [parts, List.take_left]
  · rw [parts, List.drop_left]

/-- The first character of a text settles what a lexer takes: the kind is the one of the character,
and all characters that go on as this kind asks are taken. -/
theorem TakesLongest.front_eq {lexer : Lexer} (longest : lexer.TakesLongest) (c : Char)
    (rest : List Char) (nonempty : c :: rest ≠ []) :
    (lexer.front (c :: rest) nonempty).kind? = some (Kind.ofFirst c) ∧
      (lexer.front (c :: rest) nonempty).size =
        (c :: rest.takeWhile (Kind.ofFirst c).continues).length := by
  have goOn : ∀ d ∈ rest.takeWhile (Kind.ofFirst c).continues,
      (Kind.ofFirst c).continues d = true := List.all_eq_true.mp List.all_takeWhile
  -- The characters that go on have the form of the kind, so the lexer takes at least these.
  have form : (Kind.ofFirst c).admits
      ((c :: rest).take (c :: rest.takeWhile (Kind.ofFirst c).continues).length) = true := by
    rw [(cut_first _ c rest).1]
    exact Kind.admits_cons_iff.mpr ⟨rfl, goOn⟩
  obtain ⟨known, atLeast⟩ := longest.longest nonempty (Nat.succ_pos _)
    (Nat.succ_le_succ (List.takeWhile_sublist _).length_le) form
  obtain ⟨kind, isKind⟩ := Option.isSome_iff_exists.mp known
  -- What it takes has the form of its kind, so it is of this kind and takes no more.
  have bound := (lexer.front (c :: rest) nonempty).size_le
  obtain ⟨n, size⟩ := Nat.exists_eq_succ_of_ne_zero
    (Nat.ne_of_gt (lexer.front (c :: rest) nonempty).size_pos)
  have taken := longest.form nonempty isKind
  rw [size, List.take_succ_cons] at taken
  obtain ⟨same, goOn'⟩ := Kind.admits_cons_iff.mp taken
  rw [size] at bound atLeast
  rw [← same] at goOn'
  have atMost := length_le_takeWhile (Nat.le_of_succ_le_succ bound) goOn'
  constructor
  · rw [isKind, same]
  · rw [size, List.length_cons]
    omega

/-- A lexer that takes the longest match makes the runs of a text. -/
theorem TakesLongest.runsFrom_eq {lexer : Lexer} (longest : lexer.TakesLongest) (start : Nat)
    (text : List Char) : lexer.runsFrom start text = listFrom start text := by
  fun_induction listFrom start text with
  | case1 => simp
  | case2 start c rest kind more ih =>
    obtain ⟨isKind, size⟩ := longest.front_eq c rest (List.cons_ne_nil c rest)
    have cut := cut_first kind.continues c rest
    have run : (lexer.front (c :: rest) (List.cons_ne_nil c rest)).run start =
        ⟨kind, c :: more, start⟩ := by
      simp only [Match.run, isKind, size, Option.getD_some]
      rw [cut.1]
    have place : start + Run.length ⟨kind, c :: more, start⟩ = start + 1 + more.length := by
      show start + (c :: more).length = _
      rw [List.length_cons]
      omega
    rw [runsFrom]
    simp only [run, size, place]
    rw [cut.2, ih]

/-- Going by the first character is taking the longest match. -/
theorem takesLongest_ofFirst : ofFirst.TakesLongest where
  form := by
    intro text nonempty kind isKind
    cases text with
    | nil => exact absurd rfl nonempty
    | cons c rest =>
      have same : Kind.ofFirst c = kind := Option.some.inj isKind
      show kind.admits ((c :: rest).take (c :: rest.takeWhile _).length) = true
      rw [(cut_first _ c rest).1, ← same]
      exact Kind.admits_cons_iff.mpr ⟨rfl, List.all_eq_true.mp List.all_takeWhile⟩
  longest := by
    intro text nonempty kind size positive bound form
    cases text with
    | nil => exact absurd rfl nonempty
    | cons c rest =>
      refine ⟨rfl, ?_⟩
      obtain ⟨n, rfl⟩ := Nat.exists_eq_succ_of_ne_zero (Nat.ne_of_gt positive)
      rw [List.take_succ_cons] at form
      obtain ⟨same, goOn⟩ := Kind.admits_cons_iff.mp form
      show n + 1 ≤ (c :: rest.takeWhile (Kind.ofFirst c).continues).length
      rw [← same] at goOn
      exact Nat.succ_le_succ (length_le_takeWhile (Nat.le_of_succ_le_succ bound) goOn)

end Lexer

/-- The runs that a lexer makes of a text, if it takes the longest match, are the runs of the text.
They are a maximal partition of the text, and there is no other. No text that is not empty leaves
the lexer without a kind. -/
theorem lexer_runs_eq_iff (lexer : Lexer) (longest : lexer.TakesLongest) (text : List Char) :
    lexer.runs text = list text ∧
      (∀ runs, runs = lexer.runs text ↔ IsMaximalPartition 0 text runs) ∧
      ∀ part (nonempty : part ≠ []), (lexer.front part nonempty).kind?.isSome = true := by
  have same : lexer.runs text = list text := longest.runsFrom_eq 0 text
  refine ⟨same, ?_, ?_⟩
  · intro runs
    rw [same, ← partition_iff]
    exact partition_iff_eq_listFrom.symm
  · intro part nonempty
    cases part with
    | nil => exact absurd rfl nonempty
    | cons c rest =>
      rw [(longest.front_eq c rest nonempty).1]
      rfl

/-- Going by the first character, a word takes digits in, digits take no letters in, and a digit of
another script stands alone. -/
theorem lexer_runs_eq_iff_ofFirst :
    Lexer.ofFirst.TakesLongest ∧
      Lexer.ofFirst.runs "x1 2a٣-".toList = list "x1 2a٣-".toList ∧
      (∀ runs, runs = Lexer.ofFirst.runs "x1 2a٣-".toList ↔
        IsMaximalPartition 0 "x1 2a٣-".toList runs) ∧
      ∀ part (nonempty : part ≠ []), (Lexer.ofFirst.front part nonempty).kind?.isSome = true :=
  ⟨Lexer.takesLongest_ofFirst, lexer_runs_eq_iff Lexer.ofFirst Lexer.takesLongest_ofFirst _⟩

/-! ## Runs side by side -/

section Neighbours

variable {formula : List Char} {run : Run} {rest : List Run}

/-- A run of a formula begins behind the characters of the runs in front of it. -/
theorem start_of_list_eq {front : List Run} (runs : front ++ run :: rest = list formula) :
    run.start = (front.flatMap Run.text).length := by
  have partition := partition_iff.mp (partition_listFrom 0 formula)
  rw [partition.start_eq front run rest runs.symm, Nat.zero_add]

/-- A run of a formula stops where the next one begins, and the last one where the formula ends. -/
theorem stop_of_suffix (runs : run :: rest <:+ list formula) :
    run.stop = (rest.head?.map Run.start).getD formula.length := by
  obtain ⟨front, same⟩ := runs
  cases rest with
  | nil =>
    have chars := congrArg List.length (flatMap_text_list formula)
    rw [← same, List.flatMap_append, List.flatMap_singleton, List.length_append] at chars
    show run.start + run.text.length = formula.length
    rw [start_of_list_eq same, chars]
  | cons next rest =>
    have behind : (front ++ [run]) ++ next :: rest = list formula := by
      rw [List.append_assoc]
      exact same
    show run.start + run.text.length = next.start
    rw [start_of_list_eq same, start_of_list_eq behind, List.flatMap_append,
      List.flatMap_singleton, List.length_append]

/-- A run of a formula may precede the one behind it. -/
theorem mayPrecede_of_suffix (runs : run :: rest <:+ list formula) :
    ∀ next ∈ rest.head?, run.kind.mayPrecede next.kind = true := by
  intro next isNext
  obtain ⟨front, same⟩ := runs
  obtain ⟨behind, rfl⟩ := List.head?_eq_some_iff.mp isNext
  exact (partition_iff.mp (partition_listFrom 0 formula)).maximal front run next behind same.symm

end Neighbours

/-! ## Where a separator stands -/

/-- A run that an admissible separator belongs to consists of it alone. -/
theorem Kind.eq_of_admits_separator {s : Char} (admissible : isSeparator s = true) {kind : Kind}
    {text : List Char} (form : kind.admits text = true) (member : s ∈ text) :
    kind = .other s ∧ text = [s] := by
  obtain ⟨plain, visible, -⟩ := isSeparator_iff.mp admissible
  obtain ⟨c, more, rfl⟩ := exists_cons_of_admits form
  obtain ⟨same, goOn⟩ := admits_cons_iff.mp form
  rcases List.mem_cons.mp member with rfl | later
  · -- The kind of the separator takes in nothing more.
    rw [ofFirst_separator admissible] at same
    rw [← same] at goOn ⊢
    refine ⟨rfl, ?_⟩
    rw [List.eq_nil_iff_forall_not_mem.mpr fun d inMore => absurd (goOn d inMore) (by
      simp [continues])]
  · -- No kind takes the separator in.
    have taken := goOn s later
    have noDigit := isDigit_of_isSeparator admissible
    cases kind <;> simp [continues, plain, visible, noDigit] at taken

/-- Every character of a text belongs to a run of a maximal partition. -/
theorem Partition.exists_run_at {start : Nat} {text : List Char} {runs : List Run}
    (partition : Partition start text runs) {front behind : List Char} {c : Char}
    (place : text = front ++ c :: behind) :
    ∃ run ∈ runs, ∃ i, run.start + i = start + front.length ∧ run.text[i]? = some c := by
  induction partition generalizing front with
  | nil => cases front <;> cases place
  | @cons start run rest runs start_eq form maximal tail ih =>
    by_cases inside : front.length < run.text.length
    · refine ⟨run, List.mem_cons_self .., front.length, by rw [start_eq], ?_⟩
      have here : (run.text ++ rest)[front.length]? = some c := by
        rw [place]
        simp
      rwa [List.getElem?_append_left inside] at here
    · -- The first run stands in front of the character.
      have split := congrArg (List.drop run.text.length) place
      rw [List.drop_left, List.drop_append_of_le_length (by omega)] at split
      obtain ⟨other, member, i, at_place, here⟩ := ih split
      refine ⟨other, List.mem_cons_of_mem run member, i, ?_, here⟩
      rw [at_place, List.length_drop, Run.length]
      omega

/-- The runs of a text have the forms of their kinds. -/
theorem admits_of_mem_list {text : List Char} {run : Run} (member : run ∈ list text) :
    run.kind.admits run.text = true :=
  (partition_iff.mp (partition_listFrom 0 text)).form run member

/-- Wherever an admissible separator stands, it is a run of its own. -/
theorem mem_list_separator {s : Char} (admissible : isSeparator s = true)
    (front behind : List Char) :
    ⟨.other s, [s], front.length⟩ ∈ list (front ++ s :: behind) := by
  obtain ⟨run, member, i, place, here⟩ := (partition_listFrom 0 _).exists_run_at
    (rfl : front ++ s :: behind = front ++ s :: behind)
  have form := admits_of_mem_list member
  obtain ⟨kind, text⟩ := Kind.eq_of_admits_separator admissible form (List.mem_of_getElem? here)
  have first : i = 0 := by
    rw [text] at here
    have bound := (List.getElem?_eq_some_iff.mp here).1
    simpa using bound
  have start : run.start = front.length := by omega
  rw [← kind, ← text, ← start]
  exact member

end FormulaScan.Run
