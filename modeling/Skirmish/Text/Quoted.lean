import Skirmish.Text.Extending
import Skirmish.Text.Unprintable

/-!
# Quoted text

A text is written between double quotes. Characters with a short form, and both kinds of quotes, are
written with a backslash; what cannot be seen by itself is written by its number; all else stands as
it is.
-/

namespace Skirmish.Text

/-- The character that follows a backslash in the short form of a character. -/
def shortForm? : Char → Option Char
  | '\x00' => some '0'
  | '\t' => some 't'
  | '\n' => some 'n'
  | '\r' => some 'r'
  | '"' => some '"'
  | '\'' => some '\''
  | '\\' => some '\\'
  | _ => none

/-- A character by its number, in the least number of hexadecimal digits. -/
def numbered (c : Char) : List Char := ['\\', 'u', '\x7b'] ++ Nat.toDigits 16 c.toNat ++ ['\x7d']

/-- A character as it is written between quotes. -/
def escape (c : Char) : List Char :=
  match shortForm? c with
  | some s => ['\\', s]
  | none => if isExtending c || isUnprintable c then numbered c else [c]

/-- A text between quotes. -/
def quoted (s : String) : String := String.ofList (['"'] ++ s.toList.flatMap escape ++ ['"'])

end Skirmish.Text
