import Tint.Unicode.Class

/-!
# Quoted text

Messages show text between double quotes.  Characters that would be unclear there are written as
escapes: the quote and the backslash, controls, and all that is not visible by itself.
-/

namespace Tint.Quoted

open Tint.Unicode

/-- The escape of a character by its number, in hexadecimal digits. -/
def escapeByNumber (c : Char) : List Char :=
  '\\' :: 'u' :: '\x7B' :: (Nat.toDigits 16 c.toNat ++ ['\x7D'])

/-- The written form of a character between quotes. -/
def escapeChar : Char → List Char
  | '\x00' => ['\\', '0']
  | '\t' => ['\\', 't']
  | '\r' => ['\\', 'r']
  | '\n' => ['\\', 'n']
  | '"' => ['\\', '"']
  | '\\' => ['\\', '\\']
  | c => if isGraphemeExtend c || !isPrintable c then escapeByNumber c else [c]

/-- The text between quotes. -/
def encode (text : String) : String :=
  "\"" ++ String.ofList (text.toList.flatMap escapeChar) ++ "\""

end Tint.Quoted
