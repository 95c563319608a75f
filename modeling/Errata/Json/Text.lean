import Errata.Json.Basic
import Errata.Text.Quoted

/-!
# JSON texts

Two written forms of a document. The compact form has no space and leaves every character above the
control characters as it is; response bodies have it. The indented form puts every item on a line of
its own and is plain ASCII.
-/

namespace Errata.Json

/-- The escape of a UTF-16 unit. -/
def escapeUnit (n : Nat) : List Char := '\\' :: 'u' :: Text.hexDigits 4 n

/-- The short escape of a character, where there is one. -/
def shortEscape? (c : Char) : Option Char :=
  if c = '"' then some '"'
  else if c = '\\' then some '\\'
  else if c = '\n' then some 'n'
  else if c = '\r' then some 'r'
  else if c = '\t' then some 't'
  else if c = '\x08' then some 'b'
  else if c = '\x0c' then some 'f'
  else none

/-- A character of a text: quote, backslash and control characters are escaped. -/
def escapeChar (c : Char) : List Char :=
  match shortEscape? c with
  | some e => ['\\', e]
  | none => if c.toNat < 0x20 then escapeUnit c.toNat else [c]

/-- The escapes of the UTF-16 units of a character. -/
def escapeUnits (n : Nat) : List Char :=
  if n < 0x10000 then escapeUnit n
  else
    let m := n - 0x10000
    escapeUnit (0xD800 + m / 0x400) ++ escapeUnit (0xDC00 + m % 0x400)

/-- A code point of an ASCII text: whatever is no printable ASCII is escaped. -/
def escapePoint (n : Nat) : List Char :=
  match shortEscape? (Char.ofNat n) with
  | some e => ['\\', e]
  | none => if 0x20 ≤ n && n < 0x7F then [Char.ofNat n] else escapeUnits n

/-- A string between double quotes. -/
def quote (s : String) : List Char := '"' :: s.toList.flatMap escapeChar ++ ['"']

/-- A string between double quotes in an ASCII text. -/
def quoteAscii (s : String) : List Char := '"' :: (Text.codePoints s.toList).flatMap escapePoint ++ ['"']

/-- The text of a whole number. -/
def intChars (n : Int) : List Char := (toString n).toList

/-- The text of a truth value. -/
def boolChars (b : Bool) : List Char := if b then "true".toList else "false".toList

mutual

/-- The characters of the compact form. -/
def compactChars : Json → List Char
  | null => "null".toList
  | bool b => boolChars b
  | int n => intChars n
  | real d => d.chars
  | str s => quote s
  | arr items => '[' :: (compactItems items ++ [']'])
  | obj members => '{' :: (compactMembers members ++ ['}'])

/-- Items with a comma between two of them. -/
def compactItems : List Json → List Char
  | [] => []
  | [j] => compactChars j
  | j :: js => compactChars j ++ ',' :: compactItems js

/-- Members with a comma between two of them. -/
def compactMembers : List (String × Json) → List Char
  | [] => []
  | [(k, j)] => quote k ++ ':' :: compactChars j
  | (k, j) :: ms => quote k ++ ':' :: (compactChars j ++ ',' :: compactMembers ms)

end

/-- The compact form. -/
def compact (j : Json) : String := String.ofList j.compactChars

/-- A new line with the indentation of a depth. -/
def newline (indent depth : Nat) : List Char := '\n' :: List.replicate (indent * depth) ' '

mutual

/-- The characters of the indented form of a document that stands at a depth. -/
def indentedChars (indent depth : Nat) : Json → List Char
  | null => "null".toList
  | bool b => boolChars b
  | int n => intChars n
  | real d => d.chars
  | str s => quoteAscii s
  | arr [] => "[]".toList
  | arr items => '[' :: (indentedItems indent (depth + 1) items ++ newline indent depth ++ [']'])
  | obj [] => ['{', '}']
  | obj members =>
    '{' :: (indentedMembers indent (depth + 1) members ++ newline indent depth ++ ['}'])

/-- Items on a line of their own each. -/
def indentedItems (indent depth : Nat) : List Json → List Char
  | [] => []
  | [j] => newline indent depth ++ indentedChars indent depth j
  | j :: js =>
    newline indent depth ++ indentedChars indent depth j ++ ',' :: indentedItems indent depth js

/-- Members on a line of their own each. -/
def indentedMembers (indent depth : Nat) : List (String × Json) → List Char
  | [] => []
  | [(k, j)] => newline indent depth ++ quoteAscii k ++ ':' :: ' ' :: indentedChars indent depth j
  | (k, j) :: ms =>
    newline indent depth ++ quoteAscii k ++ ':' :: ' ' :: indentedChars indent depth j ++
      ',' :: indentedMembers indent depth ms

end

/-- The indented form; a depth adds the given number of spaces. -/
def indented (indent : Nat) (j : Json) : String := String.ofList (j.indentedChars indent 0)

end Errata.Json
