import FormulaScan.Text.DefaultIgnorable
import FormulaScan.Text.ExtendingMark
import FormulaScan.Text.Unprintable

/-!
# Quoted characters

How a message shows a single character: between single quotes, with a short escape for the
characters that have one, and by its code point when it could not be seen. That is so when it would
merge with the quote before it, when it has no visible form, and when a display ignores it.
-/

namespace FormulaScan.Text

/-- The letter that stands for a character after a backslash, for those that have one. -/
def shortEscape? : Char → Option Char
  | '\x00' => some '0'
  | '\t' => some 't'
  | '\r' => some 'r'
  | '\n' => some 'n'
  | '\'' => some '\''
  | '\\' => some '\\'
  | _ => none

/-- A code point in lower-case hexadecimal without leading zeros, between braces. -/
def codePointEscape (c : Char) : List Char :=
  ['\\', 'u', '\x7b'] ++ Nat.toDigits 16 c.toNat ++ ['\x7d']

/-- Tells whether a character would not be seen between two quotes. -/
def isUnseen (c : Char) : Bool :=
  isExtendingMark c || isUnprintable c || isDefaultIgnorable c

/-- The visible form of a character: its short escape, its code point, or itself. -/
def visible (c : Char) : List Char :=
  match shortEscape? c with
  | some letter => ['\\', letter]
  | none => if isUnseen c then codePointEscape c else [c]

/-- A character between single quotes, in its visible form. -/
def quoted (c : Char) : String :=
  String.ofList ('\'' :: visible c ++ ['\''])

/-- A line break, a quote, a combining accent, a no-break space, a filler and a letter, quoted. -/
example :
    quoted '\n' = "'\\n'" ∧ quoted '\'' = "'\\''" ∧ quoted '\u0301' = "'\\u\x7b301\x7d'" ∧
      quoted '\u00a0' = "'\\u\x7ba0\x7d'" ∧ quoted '\u3164' = "'\\u\x7b3164\x7d'" ∧
      quoted 'é' = "'é'" := by
  decide +kernel

end FormulaScan.Text
