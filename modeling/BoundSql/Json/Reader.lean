import BoundSql.Json.Basic
import BoundSql.Text.Digits
import BoundSql.Text.Hex

/-!
# JSON texts, read

A text is read strictly: nothing may follow the value, containers may stand
in one another up to 127 deep, and a number beyond the doubles, a control
character in a string and half of a surrogate pair are refused. An integer of
at most 64 bits stays one, minus zero apart; every other number is a double.
-/

namespace BoundSql.Json.Reader

open BoundSql.Text

/-- Whether a character may stand between the parts of a text. -/
def isSpace (c : Char) : Bool :=
  c = ' ' || c = '\n' || c = '\t' || c = '\r'

/-- The text from its first part on. -/
def skip (cs : List Char) : List Char :=
  cs.dropWhile isSpace

/-- The code unit of four hexadecimal digits. -/
def codeUnit? (a b c d : Char) : Option Nat :=
  hexValue? [a, b, c, d]

/-- The character of a code point that is no half of a surrogate pair. -/
def scalar? (n : Nat) : Option Char :=
  if h : n.isValidChar then some (Char.ofNatAux n h) else none

/-- The character that a letter stands for behind a backslash. -/
def unescape? : Char → Option Char
  | '"' => some '"'
  | '\\' => some '\\'
  | '/' => some '/'
  | 'b' => some '\x08'
  | 'f' => some '\x0c'
  | 'n' => some '\n'
  | 'r' => some '\r'
  | 't' => some '\t'
  | _ => none

/-- The character of two code units, the halves of a surrogate pair. -/
def paired? (high low : Nat) : Option Char :=
  if 0xDC00 ≤ low ∧ low < 0xE000 then
    scalar? (0x10000 + (high - 0xD800) * 0x400 + (low - 0xDC00))
  else none

/-- The characters of a string whose opening quote is gone, and the text behind its closing one. -/
def stringBody : List Char → Option (List Char × List Char)
  | '"' :: r => some ([], r)
  | '\\' :: 'u' :: a :: b :: c :: d :: '\\' :: 'u' :: e :: f :: g :: h :: r =>
    match codeUnit? a b c d with
    | none => none
    | some n =>
      if 0xD800 ≤ n ∧ n < 0xDC00 then
        match (codeUnit? e f g h).bind (paired? n), stringBody r with
        | some x, some (xs, rest) => some (x :: xs, rest)
        | _, _ => none
      else
        match scalar? n, stringBody ('\\' :: 'u' :: e :: f :: g :: h :: r) with
        | some x, some (xs, rest) => some (x :: xs, rest)
        | _, _ => none
  | '\\' :: 'u' :: a :: b :: c :: d :: r =>
    match (codeUnit? a b c d).bind scalar?, stringBody r with
    | some x, some (xs, rest) => some (x :: xs, rest)
    | _, _ => none
  | '\\' :: c :: r =>
    match unescape? c, stringBody r with
    | some x, some (xs, rest) => some (x :: xs, rest)
    | _, _ => none
  | c :: r =>
    if c.toNat < 0x20 ∨ c = '\\' then none
    else (stringBody r).map fun (xs, rest) => (c :: xs, rest)
  | [] => none

/-- The digits of a whole number, which has no leading zero, and what follows them. -/
def wholeDigits? : List Char → Option (List Char × List Char)
  | '0' :: r => if (r.head?.any Char.isDigit) then none else some (['0'], r)
  | cs =>
    let ds := cs.takeWhile Char.isDigit
    if ds = [] then none else some (ds, cs.dropWhile Char.isDigit)

/-- The digits of a fraction, if a point opens one. -/
def fractionDigits? : List Char → Option (List Char × List Char)
  | '.' :: r =>
    let ds := r.takeWhile Char.isDigit
    if ds = [] then none else some (ds, r.dropWhile Char.isDigit)
  | cs => some ([], cs)

/-- The exponent, if a letter opens one. -/
def exponent? (cs : List Char) : Option (Option Int × List Char) :=
  match cs with
  | c :: r =>
    if c = 'e' ∨ c = 'E' then
      let (negative, r) := match r with
        | '-' :: r => (true, r)
        | '+' :: r => (false, r)
        | _ => (false, r)
      let ds := r.takeWhile Char.isDigit
      if ds = [] then none
      else
        let n : Int := digitsValue ds
        some (some (if negative then -n else n), r.dropWhile Char.isDigit)
    else some (none, cs)
  | [] => some (none, [])

/-- The number of its parts. -/
def numberOf? (negative : Bool) (whole fraction : List Char) (exponent : Option Int) :
    Option JsonNumber :=
  let n : Int := digitsValue whole
  let signed := if negative then -n else n
  let double := JsonNumber.ofDouble?
    (Double.ofDecimal negative (digitsValue (whole ++ fraction))
      (exponent.getD 0 - fraction.length))
  if fraction = [] ∧ exponent = none ∧ ¬(negative ∧ n = 0) then
    match WordInt.ofInt? signed with
    | some w => some (.integer w)
    | none => double
  else double

/-- The number at the head of a text, and what follows it. -/
def number? (cs : List Char) : Option (JsonNumber × List Char) := do
  let (negative, r) := match cs with
    | '-' :: r => (true, r)
    | _ => (false, cs)
  let (whole, r) ← wholeDigits? r
  let (fraction, r) ← fractionDigits? r
  let (exponent, r) ← exponent? r
  let n ← numberOf? negative whole fraction exponent
  pure (n, r)

/-- What follows a fixed word at the head of a text. -/
def word? : List Char → List Char → Option (List Char)
  | [], cs => some cs
  | w :: ws, c :: cs => if w = c then word? ws cs else none
  | _ :: _, [] => none

/-- Items up to a closing bracket, with commas between them; the first argument bounds their
number. -/
def items {α : Type} (item : List Char → Option (α × List Char)) (close : Char) :
    Nat → List Char → Option (List α × List Char)
  | 0, _ => none
  | fuel + 1, cs =>
    match item (skip cs) with
    | none => none
    | some (v, r) =>
      match skip r with
      | ',' :: r => (items item close fuel r).map fun (vs, rest) => (v :: vs, rest)
      | c :: r => if c = close then some ([v], r) else none
      | [] => none

/-- The items of a container whose opening bracket is gone, which may have none. -/
def container {α : Type} (item : List Char → Option (α × List Char)) (close : Char)
    (cs : List Char) : Option (List α × List Char) :=
  match skip cs with
  | [] => none
  | c :: r => if c = close then some ([], r) else items item close cs.length (c :: r)

/-- A key, a colon and a value. -/
def field {α : Type} (value : List Char → Option (α × List Char)) :
    List Char → Option ((String × α) × List Char)
  | '"' :: r =>
    match stringBody r with
    | none => none
    | some (key, r) =>
      match skip r with
      | ':' :: r => (value (skip r)).map fun (v, rest) => ((String.ofList key, v), rest)
      | _ => none
  | _ => none

/-- A value that holds no other. -/
def scalar (cs : List Char) : Option (Json × List Char) :=
  match cs with
  | 'n' :: _ => (word? ['n', 'u', 'l', 'l'] cs).map (.null, ·)
  | 't' :: _ => (word? ['t', 'r', 'u', 'e'] cs).map (.bool true, ·)
  | 'f' :: _ => (word? ['f', 'a', 'l', 's', 'e'] cs).map (.bool false, ·)
  | '"' :: r => (stringBody r).map fun (xs, rest) => (.string (String.ofList xs), rest)
  | _ => (number? cs).map fun (n, rest) => (.number n, rest)

/-- The value at the head of a text, in which containers stand in one another up to `depth` deep,
and what follows it. -/
def value : (depth : Nat) → List Char → Option (Json × List Char)
  | 0, cs => scalar cs
  | depth + 1, cs =>
    match cs with
    | '[' :: r => (container (value depth) ']' r).map fun (vs, rest) => (.array vs, rest)
    | '\x7b' :: r =>
      (container (field (value depth)) '\x7d' r).map fun (fs, rest) => (.ofFields fs, rest)
    | _ => scalar cs

end BoundSql.Json.Reader

namespace BoundSql.Json

/-- How deep containers may stand in one another. -/
def maxDepth : Nat := 127

/-- The value that a text denotes. -/
def ofText? (s : String) : Option Json :=
  match Reader.value maxDepth (Reader.skip s.toList) with
  | some (v, r) => if Reader.skip r = [] then some v else none
  | none => none

end BoundSql.Json
