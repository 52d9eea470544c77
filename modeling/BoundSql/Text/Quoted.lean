import BoundSql.Text.Printable

/-!
# Quoted texts

A message shows a text between double quotes and a single character between
single quotes. The delimiter and the backslash are written with a backslash,
the usual control characters by their letters, and every other character
that does not print on its own by its code point in braces.
-/

namespace BoundSql.Text

/-- The escape by code point: a backslash, the letter u and the hexadecimal code in braces. -/
def codePointEscape (c : Char) : List Char :=
  '\\' :: 'u' :: '\x7b' :: Nat.toDigits 16 c.toNat ++ ['\x7d']

/-- The written form of one character between the given delimiters. -/
def escapeChar (delimiter c : Char) : List Char :=
  match c with
  | '\\' => ['\\', '\\']
  | '\n' => ['\\', 'n']
  | '\r' => ['\\', 'r']
  | '\t' => ['\\', 't']
  | '\x00' => ['\\', '0']
  | c =>
    if c = delimiter then ['\\', c]
    else if isPrintable c then [c]
    else codePointEscape c

/-- A text between double quotes. -/
def quoted (s : String) : String :=
  String.ofList ('"' :: s.toList.flatMap (escapeChar '"') ++ ['"'])

/-- A character between single quotes. -/
def quotedChar (c : Char) : String :=
  String.ofList ('\'' :: escapeChar '\'' c ++ ['\''])

end BoundSql.Text
