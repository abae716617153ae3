/-!
# Words and rows of a formula

Where the words of a formula and its rows of digits and separators stand, said without a scan. Words
are found from left to right: at a letter, all letters and digits that follow are taken. A row is a
longest stretch of digits and separators in which no character belongs to a word and no separator
stands directly behind one. A row is bad when it has no digit or more than one separator, so that it
writes no number.
-/

namespace FormulaScan

/-- The positions from `start` up to `stop`. -/
structure Stretch where
  start : Nat
  stop : Nat
  deriving DecidableEq, Repr

namespace Stretch

/-- The characters of a formula in a stretch. -/
def text (formula : List Char) (stretch : Stretch) : List Char :=
  (formula.drop stretch.start).take (stretch.stop - stretch.start)

instance : Membership Nat Stretch where
  mem stretch place := stretch.start ≤ place ∧ place < stretch.stop

instance (place : Nat) (stretch : Stretch) : Decidable (place ∈ stretch) :=
  inferInstanceAs (Decidable (_ ∧ _))

theorem mem_iff {place : Nat} {stretch : Stretch} :
    place ∈ stretch ↔ stretch.start ≤ place ∧ place < stretch.stop := Iff.rfl

end Stretch

/-! ## Words -/

/-- The words of a text whose first character has a given position. -/
def wordsFrom (start : Nat) : List Char → List Stretch
  | [] => []
  | c :: rest =>
    if c.isAlpha then
      let stop := start + 1 + (rest.takeWhile Char.isAlphanum).length
      ⟨start, stop⟩ :: wordsFrom stop (rest.dropWhile Char.isAlphanum)
    else wordsFrom (start + 1) rest
termination_by text => text.length
decreasing_by
  · exact Nat.lt_succ_of_le (List.dropWhile_sublist _).length_le
  · exact Nat.lt_succ_self _

/-- The words of a formula. -/
def words (formula : List Char) : List Stretch := wordsFrom 0 formula

/-- The character at a position belongs to a word. -/
def InWord (formula : List Char) (place : Nat) : Prop := ∃ word ∈ words formula, place ∈ word

/-- A position is directly behind a word. -/
def BehindWord (formula : List Char) (place : Nat) : Prop :=
  ∃ word ∈ words formula, word.stop = place

/-! ## Rows -/

/-- The character at a position can belong to a row: it is a digit or a separator, belongs to no
word, and is no separator directly behind a word. -/
def InRow (separator : Char) (formula : List Char) (place : Nat) : Prop :=
  (∃ c, formula[place]? = some c ∧ (c.isDigit = true ∨ c = separator)) ∧
    ¬ InWord formula place ∧ ¬ (formula[place]? = some separator ∧ BehindWord formula place)

/-- A stretch is a row: all of it can belong to one, and neither neighbour can. -/
structure IsRow (separator : Char) (formula : List Char) (row : Stretch) : Prop where
  nonempty : row.start < row.stop
  inside : ∀ place ∈ row, InRow separator formula place
  left : ∀ place, place + 1 = row.start → ¬ InRow separator formula place
  right : ¬ InRow separator formula row.stop

/-- A row is bad: it has no digit or more than one separator. -/
def IsBadRow (separator : Char) (formula : List Char) (row : Stretch) : Prop :=
  IsRow separator formula row ∧
    ((∀ c ∈ row.text formula, c.isDigit = false) ∨ 1 < (row.text formula).count separator)

/-- A letter begins a word with all letters and digits behind it. -/
theorem wordsFrom_of_isAlpha (start : Nat) {c : Char} (letter : c.isAlpha = true)
    (rest : List Char) :
    wordsFrom start (c :: rest) =
      ⟨start, start + 1 + (rest.takeWhile Char.isAlphanum).length⟩ ::
        wordsFrom (start + 1 + (rest.takeWhile Char.isAlphanum).length)
          (rest.dropWhile Char.isAlphanum) := by
  rw [wordsFrom, if_pos letter]

/-- Characters that are no letters begin no word. -/
theorem wordsFrom_append (start : Nat) {row : List Char} (noLetter : ∀ c ∈ row, c.isAlpha = false)
    (rest : List Char) :
    wordsFrom start (row ++ rest) = wordsFrom (start + row.length) rest := by
  induction row generalizing start with
  | nil => rfl
  | cons c row ih =>
    have first : ¬ c.isAlpha = true := by
      rw [noLetter c (List.mem_cons_self ..)]
      decide
    rw [List.cons_append, wordsFrom, if_neg first,
      ih (start + 1) fun d member => noLetter d (List.mem_cons_of_mem c member),
      List.length_cons, Nat.add_assoc, Nat.add_comm 1]

/-- A word of a text is not empty and does not begin before the text. -/
theorem bounds_of_mem_wordsFrom {start : Nat} {text : List Char} {word : Stretch}
    (member : word ∈ wordsFrom start text) : start ≤ word.start ∧ word.start < word.stop := by
  fun_induction wordsFrom start text with
  | case1 => cases member
  | case2 start c rest letter stop ih =>
    rcases List.mem_cons.mp member with same | later
    · rw [same]
      exact ⟨Nat.le_refl start, Nat.lt_of_lt_of_le (Nat.lt_succ_self start) (Nat.le_add_right ..)⟩
    · have bounds := ih later
      omega
  | case3 start c rest noLetter ih =>
    have bounds := ih member
    omega

/-- A word takes digits in, and digits take no letters in. -/
example : words "2ab1 c.5".toList = [⟨1, 4⟩, ⟨5, 6⟩] := by
  decide +kernel

end FormulaScan
