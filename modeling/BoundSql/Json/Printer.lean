import BoundSql.Json.Basic
import BoundSql.Binary.Spelling
import BoundSql.Text.Hex

/-!
# JSON texts, written

A value is written without spaces. In a string only the quote, the backslash
and the control characters below the space are escaped.
-/

namespace BoundSql

open BoundSql.Text

/-- The text of a number. -/
def JsonNumber.toText : JsonNumber → String
  | .integer n => integerText n.value
  | .float x => Binary.Spelling.json.write x.double

namespace Json

/-- The written form of one character of a string. -/
def escapeChar (c : Char) : List Char :=
  match c with
  | '"' => ['\\', '"']
  | '\\' => ['\\', '\\']
  | '\x08' => ['\\', 'b']
  | '\x0c' => ['\\', 'f']
  | '\n' => ['\\', 'n']
  | '\r' => ['\\', 'r']
  | '\t' => ['\\', 't']
  | c => if c.toNat < 0x20 then '\\' :: 'u' :: hexPadded 4 c.toNat else [c]

/-- A string with its quotes. -/
def stringChars (s : String) : List Char :=
  '"' :: s.toList.flatMap escapeChar ++ ['"']

mutual

/-- The written form of a value. -/
def chars : Json → List Char
  | .null => ['n', 'u', 'l', 'l']
  | .bool true => ['t', 'r', 'u', 'e']
  | .bool false => ['f', 'a', 'l', 's', 'e']
  | .number n => n.toText.toList
  | .string s => stringChars s
  | .array items => '[' :: itemChars items ++ [']']
  | .object fields => '\x7b' :: fieldChars fields ++ ['\x7d']

/-- The written forms of items, with commas between them. -/
def itemChars : List Json → List Char
  | [] => []
  | [v] => v.chars
  | v :: w :: r => v.chars ++ ',' :: itemChars (w :: r)

/-- The written forms of fields, with commas between them. -/
def fieldChars : List (String × Json) → List Char
  | [] => []
  | [(k, v)] => stringChars k ++ ':' :: v.chars
  | (k, v) :: w :: r => stringChars k ++ ':' :: v.chars ++ ',' :: fieldChars (w :: r)

end

/-- The text of a value. -/
def toText (v : Json) : String :=
  String.ofList v.chars

end Json

end BoundSql
