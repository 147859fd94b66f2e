/-
# Quoted text

A text in double quotes, on one line and without invisible characters. Five
characters have a short escape of their own, every other hidden character is
written by its code point in hexadecimal, and single quotes stay as they are.
-/

import Carousel.Text.Hidden

namespace Carousel

namespace Text

/-- The escape by code point, such as `\u{200b}`. -/
def codeEscape (c : Char) : List Char :=
  ['\\', 'u', '\x7b'] ++ Nat.toDigits 16 c.toNat ++ ['\x7d']

/-- The written form of one character between double quotes. -/
def quoteChar (c : Char) : List Char :=
  match c with
  | '\x00' => ['\\', '0']
  | '\t' => ['\\', 't']
  | '\n' => ['\\', 'n']
  | '\r' => ['\\', 'r']
  | '"' => ['\\', '"']
  | '\\' => ['\\', '\\']
  | _ => if hidden c then codeEscape c else [c]

/-- The written form of a text, quotes included. -/
def quote (text : String) : String :=
  String.ofList ('"' :: text.toList.flatMap quoteChar ++ ['"'])

end Text

end Carousel
