/-!
# Decimal digits

A natural number is written with its decimal digits, most significant first,
and read back as the value of a string of digits. Fixed columns are filled
with zeros on the left.
-/

namespace BoundSql.Text

/-- The decimal digits of a number, without leading zeros. -/
def digits (n : Nat) : List Char :=
  Nat.toDigits 10 n

/-- The number that a string of decimal digits stands for. -/
def digitsValue (cs : List Char) : Nat :=
  Nat.ofDigitChars 10 cs 0

/-- A number as a text of decimal digits. -/
def decimalText (n : Nat) : String :=
  String.ofList (digits n)

/-- An integer as a text: a minus sign for a negative one, then its decimal digits. -/
def integerText (n : Int) : String :=
  if n < 0 then String.ofList ('-' :: digits n.natAbs) else decimalText n.natAbs

/-- A number in a column of at least the given width, filled with zeros on the left. -/
def padded (width n : Nat) : List Char :=
  List.replicate (width - (digits n).length) '0' ++ digits n

/-- The longest run of digits at the head of a text, no longer than the limit, and what follows. -/
def takeDigits (limit : Nat) : List Char → List Char × List Char
  | [] => ([], [])
  | c :: r =>
    match limit with
    | 0 => ([], c :: r)
    | limit + 1 =>
      if c.isDigit then
        let (ds, rest) := takeDigits limit r
        (c :: ds, rest)
      else ([], c :: r)

@[simp]
theorem digitsValue_digits (n : Nat) :
  digitsValue (digits n) = n
  := Nat.ofDigitChars_toDigits (by decide) (by decide)

theorem digitsValue_padded (width n : Nat) :
  digitsValue (padded width n) = n
  := by
  simp [digitsValue, padded, Nat.ofDigitChars_append, Nat.ofDigitChars_replicate_zero, digits]

theorem isDigit_of_mem_digits {n : Nat} {c : Char} (h : c ∈ digits n) :
  c.isDigit = true
  := Nat.isDigit_of_mem_toDigits (by decide) (by decide) h

theorem digits_ne_nil (n : Nat) :
  digits n ≠ []
  := Nat.toDigits_ne_nil

theorem takeDigits_append (limit : Nat) (cs : List Char) :
  (takeDigits limit cs).1 ++ (takeDigits limit cs).2 = cs
  := by
  induction cs generalizing limit with
  | nil => simp [takeDigits]
  | cons c r ih =>
      cases limit with
      | zero => simp [takeDigits]
      | succ limit =>
          simp only [takeDigits]
          split
          · simp [ih]
          · simp

end BoundSql.Text
