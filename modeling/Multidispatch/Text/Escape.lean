import Multidispatch.Text.Hidden

/-!
# Quoted text

A quoted text stands between double quotes.  Inside, the quote, the backslash, the line feed, the
carriage return, the tab and the null character are written as a backslash and a letter; any other
character that does not show is written by its number in braces; all others stand for themselves.

## Main definitions

* `shortEscape?` — the letter of a character that has one
* `escapeChar` — the written form of a character
* `quote` — the written form of a text
-/

namespace Multidispatch.Text

/-- The letter that stands behind the backslash, for the characters that have one. -/
def shortEscape? : Char → Option Char
  | '\x00' => some '0'
  | '\t' => some 't'
  | '\r' => some 'r'
  | '\n' => some 'n'
  | '"' => some '"'
  | '\\' => some '\\'
  | _ => none

/-- The written form of a character. -/
def escapeChar (c : Char) : List Char :=
  match shortEscape? c with
  | some letter => ['\\', letter]
  | none =>
    if isHidden c then
      ['\\', 'u', '\x7b'] ++ Nat.toDigits 16 c.toNat ++ ['\x7d']
    else
      [c]

/-- The written form of a text, with its quotes. -/
def quote (s : String) : String :=
  String.ofList ('"' :: s.toList.flatMap escapeChar ++ ['"'])

end Multidispatch.Text
