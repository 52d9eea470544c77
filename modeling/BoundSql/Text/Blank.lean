import BoundSql.Text.Runs

/-!
# Blank characters

A character is blank when Unicode gives it the White_Space property. A text
is blank when all its characters are, the empty text included; trimming
takes the blank characters off both ends.
-/

namespace BoundSql.Text

/-- The runs of the White_Space property. -/
def blankRuns : List (Nat × Nat) :=
  [(0x9, 0xD), (0x20, 0x20), (0x85, 0x85), (0xA0, 0xA0), (0x1680, 0x1680), (0x2000, 0x200A),
   (0x2028, 0x2029), (0x202F, 0x202F), (0x205F, 0x205F), (0x3000, 0x3000)]

/-- Whether a character is white space. -/
def isBlankChar (c : Char) : Bool :=
  inRuns blankRuns c.toNat

/-- The characters from the first one that is not blank. -/
def dropBlanks (cs : List Char) : List Char :=
  cs.dropWhile isBlankChar

/-- The characters up to the last one that is not blank. -/
def dropBlanksEnd (cs : List Char) : List Char :=
  (cs.reverse.dropWhile isBlankChar).reverse

/-- The characters between the outermost blanks. -/
def trimChars (cs : List Char) : List Char :=
  dropBlanksEnd (dropBlanks cs)

/-- A text without the blanks at its ends. -/
def trim (s : String) : String :=
  String.ofList (trimChars s.toList)

/-- Whether a text has no character but blanks. -/
def isBlank (s : String) : Bool :=
  s.toList.all isBlankChar

theorem dropBlanks_length_le (cs : List Char) :
  (dropBlanks cs).length ≤ cs.length
  := (List.dropWhile_suffix isBlankChar).length_le

end BoundSql.Text
