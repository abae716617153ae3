import FormulaScan.Scan

/-!
# Spaces in the place of faults

`withoutFaults` writes a formula with a space in the place of every character that has no meaning:
every unexpected character, and every character of a malformed number with its sign. Nothing else
changes, and every other character stays where it is.
-/

namespace FormulaScan

/-- Tells whether a fault takes in the character at a position. -/
def Fault.covers (fault : Fault) (place : Nat) : Bool :=
  fault.position ≤ place && place < fault.position + fault.length

/-- What a lenient scan of a formula leaves out and does not take for white space. -/
def faults (separator : Char) (formula : List Char) : List Fault :=
  (findings separator formula).filterMap Finding.fault?

/-- A text with spaces in the place of some faults. The first character of the text has the given
position. -/
def blankOut (gone : List Fault) (position : Nat) (text : List Char) : List Char :=
  text.mapIdx fun i c => if gone.any (·.covers (position + i)) then ' ' else c

/-- A formula with spaces in the place of its faults. -/
def withoutFaults (separator : Char) (formula : String) : String :=
  String.ofList (blankOut (faults separator formula.toList) 0 formula.toList)

/-- A fault takes in the positions from its own up to where it stops. -/
theorem Fault.covers_iff {fault : Fault} {place : Nat} :
    fault.covers place = true ↔
      fault.position ≤ place ∧ place < fault.position + fault.length := by
  simp only [Fault.covers, Bool.and_eq_true, decide_eq_true_eq]

/-! ## Texts in parts -/

@[simp] theorem blankOut_nil (gone : List Fault) (position : Nat) :
    blankOut gone position [] = [] := rfl

@[simp] theorem length_blankOut (gone : List Fault) (position : Nat) (text : List Char) :
    (blankOut gone position text).length = text.length :=
  List.length_mapIdx

theorem getElem?_blankOut (gone : List Fault) (position : Nat) (text : List Char) (i : Nat) :
    (blankOut gone position text)[i]? =
      text[i]?.map fun c => if gone.any (·.covers (position + i)) then ' ' else c :=
  List.getElem?_mapIdx

theorem blankOut_append (gone : List Fault) (position : Nat) (front behind : List Char) :
    blankOut gone position (front ++ behind) =
      blankOut gone position front ++ blankOut gone (position + front.length) behind := by
  simp only [blankOut, List.mapIdx_append, Nat.add_assoc, Nat.add_comm front.length]

/-- A text begins as before, unless it now begins with a space. -/
theorem head?_blankOut {gone : List Fault} {position : Nat} {text : List Char} {c : Char}
    (first : c ∈ (blankOut gone position text).head?) : c = ' ' ∨ c ∈ text.head? := by
  cases text with
  | nil => cases first
  | cons d rest =>
    rw [blankOut, List.mapIdx_cons] at first
    obtain rfl := Option.some.inj first
    split
    · exact .inl rfl
    · exact .inr rfl

/-- Faults that take in the same characters of a text leave the same text. -/
theorem blankOut_congr {gone gone' : List Fault} {position : Nat} {text : List Char}
    (same : ∀ i, i < text.length →
      gone.any (·.covers (position + i)) = gone'.any (·.covers (position + i))) :
    blankOut gone position text = blankOut gone' position text := by
  apply List.mapIdx_eq_mapIdx_iff.mpr
  intro i bound
  rw [same i bound]

/-- A text that no fault takes in stays as it is. -/
theorem blankOut_eq_self {gone : List Fault} {position : Nat} {text : List Char}
    (free : ∀ i, i < text.length → gone.any (·.covers (position + i)) = false) :
    blankOut gone position text = text := by
  calc blankOut gone position text
    _ = blankOut [] position text := blankOut_congr free
    _ = text := List.ext_getElem? fun i => by simp [getElem?_blankOut]

/-- A text that faults take in all over becomes a row of spaces. -/
theorem blankOut_eq_replicate {gone : List Fault} {position : Nat} {text : List Char}
    (covered : ∀ i, i < text.length → gone.any (·.covers (position + i)) = true) :
    blankOut gone position text = List.replicate text.length ' ' := by
  apply List.mapIdx_eq_replicate_iff.mpr
  intro i bound
  rw [covered i bound, if_pos rfl]

/-- Of a malformed number not even the sign is left, and a separator behind a name goes as well. -/
example : withoutFaults '.' "x.5 + -1.2.3 @ 4" = "x 5 +          4" := by
  decide +kernel

end FormulaScan
