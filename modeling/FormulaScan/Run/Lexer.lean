import FormulaScan.Run.Partition

/-!
# Runs from a lexer

A lexer is asked for what stands at the front of a text, takes it off, and is asked again. This
gives the runs of a text with nothing said about how the lexer finds them; all that is asked of it
is that it takes the longest match (`Lexer.TakesLongest`). A lexer may know of no form for what it
takes, and then the run is one of another single character.
-/

namespace FormulaScan.Run

/-- What a lexer takes off the front of a text: at least one character, and no more than there are.
There is a kind if the characters have the form of one. -/
structure Lexer.Match (text : List Char) where
  kind? : Option Kind
  size : Nat
  size_pos : 0 < size
  size_le : size ≤ text.length

/-- A lexer takes something off the front of every text that is not empty. -/
structure Lexer where
  front : (text : List Char) → text ≠ [] → Lexer.Match text

namespace Lexer

/-- A lexer takes the longest match: what it takes with a kind has the form of the kind, and
wherever characters at the front have the form of some kind, it takes with a kind at least as many.
-/
structure TakesLongest (lexer : Lexer) : Prop where
  form : ∀ {text} (nonempty : text ≠ []) {kind},
    (lexer.front text nonempty).kind? = some kind →
      kind.admits (text.take (lexer.front text nonempty).size) = true
  longest : ∀ {text} (nonempty : text ≠ []) {kind : Kind} {size},
    0 < size → size ≤ text.length → kind.admits (text.take size) = true →
      (lexer.front text nonempty).kind?.isSome = true ∧
        size ≤ (lexer.front text nonempty).size

/-- The run that a match makes: its kind, or else another character, the first one of its text. -/
def Match.run {text : List Char} (found : Match text) (start : Nat) : Run :=
  let taken := text.take found.size
  ⟨found.kind?.getD (.other (taken.head?.getD '\ufffd')), taken, start⟩

/-- The runs that a lexer makes of a text whose first character has a given position. -/
def runsFrom (lexer : Lexer) (start : Nat) : List Char → List Run
  | [] => []
  | c :: rest =>
    let found := lexer.front (c :: rest) (List.cons_ne_nil c rest)
    let run := found.run start
    run :: runsFrom lexer (start + run.length) ((c :: rest).drop found.size)
termination_by text => text.length
decreasing_by
  rw [List.length_drop]
  exact Nat.sub_lt (Nat.succ_pos _) found.size_pos

/-- The runs that a lexer makes of a formula. -/
def runs (lexer : Lexer) (formula : List Char) : List Run := lexer.runsFrom 0 formula

@[simp] theorem runsFrom_nil (lexer : Lexer) (start : Nat) : lexer.runsFrom start [] = [] := by
  rw [runsFrom]

/-- The lexer that goes by the first character: it settles the kind, and all characters that a run
of this kind takes in are taken. -/
def ofFirst : Lexer where
  front
    | [], nonempty => absurd rfl nonempty
    | c :: rest, _ =>
      { kind? := some (Kind.ofFirst c)
        size := (c :: rest.takeWhile (Kind.ofFirst c).continues).length
        size_pos := Nat.succ_pos _
        size_le := Nat.succ_le_succ (List.takeWhile_sublist _).length_le }

end Lexer

end FormulaScan.Run
