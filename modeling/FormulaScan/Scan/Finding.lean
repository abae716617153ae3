import FormulaScan.Text.Quoted
import FormulaScan.Token

/-!
# Findings

What a scan makes of the stretches of a formula, one after the other: a token, blanks, or a *fault*,
which is text without a meaning. Every character of the formula belongs to one finding.
-/

namespace FormulaScan

/-- A stretch of a formula that has no meaning. -/
inductive Fault where
  | malformedNumber (text : String) (position : Nat)
  | unexpectedCharacter (character : Char) (position : Nat)
  deriving DecidableEq, Repr

namespace Fault

/-- The position of the first character without a meaning. -/
def position : Fault → Nat
  | .malformedNumber _ position => position
  | .unexpectedCharacter _ position => position

/-- The number of characters without a meaning. -/
def length : Fault → Nat
  | .malformedNumber text _ => text.length
  | .unexpectedCharacter _ _ => 1

/-- What there is to say about a fault. -/
def description : Fault → String
  | .malformedNumber text _ => "Malformed number '" ++ text ++ "'."
  | .unexpectedCharacter character _ => "Unexpected character " ++ Text.quoted character ++ "."

/-- The message that reports a fault. -/
def message (fault : Fault) : String :=
  "Error at position " ++ toString fault.position ++ ": " ++ fault.description

end Fault

/-- What a scan makes of one stretch of a formula. -/
inductive Finding where
  | token (token : Token)
  | blank (start length : Nat)
  | fault (fault : Fault)
  deriving DecidableEq, Repr

namespace Finding

/-- The position of the first character of a finding. -/
def start : Finding → Nat
  | .token t => t.start
  | .blank start _ => start
  | .fault f => f.position

/-- The number of characters of a finding. -/
def length : Finding → Nat
  | .token t => t.length
  | .blank _ length => length
  | .fault f => f.length

/-- The token of a finding that is one. -/
def token? : Finding → Option Token
  | .token t => some t
  | .blank _ _ | .fault _ => none

/-- The fault of a finding that is one. -/
def fault? : Finding → Option Fault
  | .fault f => some f
  | .token _ | .blank _ _ => none

theorem token?_eq_some_iff {f : Finding} {t : Token} : f.token? = some t ↔ f = .token t := by
  cases f <;> simp [token?]

theorem fault?_eq_some_iff {f : Finding} {fault : Fault} :
    f.fault? = some fault ↔ f = .fault fault := by
  cases f <;> simp [fault?]

/-- The tokens among some findings are the findings that are tokens. -/
theorem mem_filterMap_token? {found : List Finding} {t : Token} :
    t ∈ found.filterMap token? ↔ .token t ∈ found := by
  simp only [List.mem_filterMap, token?_eq_some_iff, exists_eq_right]

/-- The faults among some findings are the findings that are faults. -/
theorem mem_filterMap_fault? {found : List Finding} {fault : Fault} :
    fault ∈ found.filterMap fault? ↔ .fault fault ∈ found := by
  simp only [List.mem_filterMap, fault?_eq_some_iff, exists_eq_right]

end Finding

end FormulaScan
