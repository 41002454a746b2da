import Subscription.Text.GraphemeExtend
import Subscription.Text.Unprintable

/-! Quoted text, which shows every character on one line and between two double quotes. -/

namespace Subscription.Text

/-- Lowercase hexadecimal digits, without leading zeros. -/
def hexDigits (n : Nat) : List Char :=
  Nat.toDigits 16 n

/-- A character is written by its escape letter, by its code point, or as itself. -/
def quotedChar (c : Char) : List Char :=
  match c with
  | '\x00' => ['\\', '0']
  | '\t' => ['\\', 't']
  | '\n' => ['\\', 'n']
  | '\r' => ['\\', 'r']
  | '"' => ['\\', '"']
  | '\\' => ['\\', '\\']
  | c =>
    -- Printable ASCII is in neither table, so the tables are left for the rest.
    if ' ' ≤ c ∧ c ≤ '~' then [c]
    else if isGraphemeExtend c || isUnprintable c then
      ['\\', 'u', '\x7b'] ++ hexDigits c.toNat ++ ['\x7d']
    else [c]

/-- The characters in order, each in its quoted form, between double quotes. -/
def quoted (s : String) : String :=
  String.ofList ('"' :: s.toList.flatMap quotedChar ++ ['"'])

end Subscription.Text
