import TreeSift.Text.CharClass

/-!
# TreeSift.Text.Quoted

Two ways to show characters that would be hard to see.

1. `Quoted.plain` shows one character inside a message: printable ASCII as itself, anything else as
   an escape.
2. `Quoted.text` shows a whole text between double quotes: printable characters of any script as
   themselves, except those that attach to the character before them.
-/

namespace TreeSift

namespace Quoted

/-- The escape of any character by its code point, in lower case hexadecimal. -/
def byCode (c : Char) : List Char :=
  ['\\', 'u', '\x7b'] ++ Nat.toDigits 16 c.toNat ++ ['\x7d']

/-- A character of a message, ASCII only. -/
def plain (c : Char) : List Char :=
  match c with
  | '\t' => ['\\', 't']
  | '\r' => ['\\', 'r']
  | '\n' => ['\\', 'n']
  | '\'' => ['\\', '\'']
  | '"' => ['\\', '"']
  | '\\' => ['\\', '\\']
  | c => if 0x20 ≤ c.toNat ∧ c.toNat < 0x7F then [c] else byCode c

/-- A character of a quoted text. -/
def inText (c : Char) : List Char :=
  match c with
  | '\t' => ['\\', 't']
  | '\r' => ['\\', 'r']
  | '\n' => ['\\', 'n']
  | '"' => ['\\', '"']
  | '\\' => ['\\', '\\']
  | c =>
    if c.toNat = 0 then ['\\', '0']
    else if CharClass.isGraphemeExtend c || !CharClass.isPrintable c then byCode c
    else [c]

/-- A text between double quotes. -/
def text (s : String) : List Char := '"' :: (s.toList.flatMap inText ++ ['"'])

end Quoted

end TreeSift
