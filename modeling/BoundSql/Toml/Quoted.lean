import BoundSql.Json.Reader

/-!
# Quoted texts of a document

A text stands between quotes on one line, or between triple quotes on
several. Within double quotes a backslash opens an escape, and at the end of
a line it takes the line break and the blanks behind it away. Single quotes
know no escapes. Control characters but the tab are refused.
-/

namespace BoundSql.Toml

open BoundSql.Text

/-- Whether a character may stand in a text as it is. -/
def isTextChar (c : Char) : Bool :=
  c = '\t' || (' ' ≤ c && c != '\x7f')

/-- The character that a letter stands for behind a backslash. -/
def unescape? : Char → Option Char
  | 'b' => some '\x08'
  | 't' => some '\t'
  | 'n' => some '\n'
  | 'f' => some '\x0c'
  | 'r' => some '\r'
  | 'e' => some '\x1b'
  | '"' => some '"'
  | '\\' => some '\\'
  | _ => none

/-- The character of a code point in hexadecimal digits. -/
def codePoint? (ds : List Char) : Option Char :=
  (hexValue? ds).bind Json.Reader.scalar?

/-- A character put in front of the text that was read, if there is one. -/
def pushed? (c : Option Char) (read : Option (List Char × List Char)) :
    Option (List Char × List Char) :=
  match c, read with
  | some c, some (cs, rest) => some (c :: cs, rest)
  | _, _ => none

/-- A text in double quotes whose opening quote is gone, and what follows its closing one. -/
def basicBody : List Char → Option (List Char × List Char)
  | [] => none
  | '"' :: r => some ([], r)
  | '\\' :: 'x' :: a :: b :: r => pushed? (codePoint? [a, b]) (basicBody r)
  | '\\' :: 'u' :: a :: b :: c :: d :: r => pushed? (codePoint? [a, b, c, d]) (basicBody r)
  | '\\' :: 'U' :: a :: b :: c :: d :: e :: f :: g :: h :: r =>
    pushed? (codePoint? [a, b, c, d, e, f, g, h]) (basicBody r)
  | '\\' :: c :: r => pushed? (unescape? c) (basicBody r)
  | c :: r => pushed? (if isTextChar c && c != '\\' then some c else none) (basicBody r)

/-- A text in single quotes whose opening quote is gone, and what follows its closing one. -/
def literalBody : List Char → Option (List Char × List Char)
  | [] => none
  | '\'' :: r => some ([], r)
  | c :: r => pushed? (if isTextChar c then some c else none) (literalBody r)

/-- Where a text stands with regard to a backslash at the end of a line: at none, between the
backslash and the line break, or among the blanks behind the line break. -/
inductive Joint where
  | none
  | before
  | behind
  deriving DecidableEq, Repr

/-- A text in triple double quotes, read from behind the opening ones. Up to two quotes may stand in
front of the closing ones. A line break is a single character, however it is written. -/
def basicLines : Joint → List Char → Option (List Char × List Char)
  | _, [] => .none
  | .before, '\r' :: '\n' :: r => basicLines .behind r
  | .before, c :: r =>
    if c = '\n' then basicLines .behind r
    else if c = ' ' || c = '\t' then basicLines .before r
    else .none
  | .behind, '\r' :: '\n' :: r => basicLines .behind r
  | .none, '\r' :: '\n' :: r => pushed? '\n' (basicLines .none r)
  | _, '"' :: '"' :: '"' :: '"' :: '"' :: r => some (['"', '"'], r)
  | _, '"' :: '"' :: '"' :: '"' :: r => some (['"'], r)
  | _, '"' :: '"' :: '"' :: r => some ([], r)
  | _, '\\' :: 'x' :: a :: b :: r => pushed? (codePoint? [a, b]) (basicLines .none r)
  | _, '\\' :: 'u' :: a :: b :: c :: d :: r =>
    pushed? (codePoint? [a, b, c, d]) (basicLines .none r)
  | _, '\\' :: 'U' :: a :: b :: c :: d :: e :: f :: g :: h :: r =>
    pushed? (codePoint? [a, b, c, d, e, f, g, h]) (basicLines .none r)
  | _, '\\' :: c :: r =>
    if c = '\n' then basicLines .behind r
    else if c = ' ' || c = '\t' || c = '\r' then basicLines .before (c :: r)
    else pushed? (unescape? c) (basicLines .none r)
  | joint, c :: r =>
    if joint = .behind && (c = ' ' || c = '\t' || c = '\n') then basicLines .behind r
    else pushed? (if c = '\n' || (isTextChar c && c != '\\') then some c else .none)
      (basicLines .none r)

/-- A text in triple single quotes, read from behind the opening ones. -/
def literalLines : List Char → Option (List Char × List Char)
  | [] => none
  | '\r' :: '\n' :: r => pushed? '\n' (literalLines r)
  | '\'' :: '\'' :: '\'' :: '\'' :: '\'' :: r => some (['\'', '\''], r)
  | '\'' :: '\'' :: '\'' :: '\'' :: r => some (['\''], r)
  | '\'' :: '\'' :: '\'' :: r => some ([], r)
  | c :: r => pushed? (if c = '\n' || isTextChar c then some c else none) (literalLines r)

/-- A text without a line break at its head. -/
def dropBreak : List Char → List Char
  | '\n' :: r => r
  | '\r' :: '\n' :: r => r
  | cs => cs

/-- A quoted text at the head of a text, and what follows it. -/
def quoted? : List Char → Option (List Char × List Char)
  | '"' :: '"' :: '"' :: r => basicLines .none (dropBreak r)
  | '\'' :: '\'' :: '\'' :: r => literalLines (dropBreak r)
  | '"' :: r => basicBody r
  | '\'' :: r => literalBody r
  | _ => none

end BoundSql.Toml
