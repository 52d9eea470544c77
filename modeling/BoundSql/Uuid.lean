import BoundSql.Text.Hex

/-!
# Universally unique identifiers

An identifier is a word of 128 bits. Its text has 32 hexadecimal digits in
five groups joined by hyphens; it is also read without hyphens, in braces and
as a name of the uuid namespace.
-/

namespace BoundSql

open BoundSql.Text

/-- A word of 128 bits. -/
structure Uuid where
  bits : BitVec 128
  deriving DecidableEq, Repr

namespace Uuid

/-- The identifier of 32 hexadecimal digits. -/
def ofDigits? (cs : List Char) : Option Uuid :=
  if cs.length = 32 then (hexValue? cs).map fun n => ⟨BitVec.ofNat 128 n⟩ else none

/-- The identifier of five groups of digits with hyphens between them. -/
def ofHyphenated? (cs : List Char) : Option Uuid :=
  if cs.length = 36 ∧ cs[8]? = some '-' ∧ cs[13]? = some '-' ∧ cs[18]? = some '-'
      ∧ cs[23]? = some '-' then
    ofDigits? (cs.take 8 ++ (cs.drop 9).take 4 ++ (cs.drop 14).take 4 ++ (cs.drop 19).take 4
      ++ cs.drop 24)
  else none

/-- The letters in front of an identifier that is written as a name. -/
def urn : List Char := "urn:uuid:".toList

/-- The identifier that a text denotes. -/
def ofChars? (cs : List Char) : Option Uuid :=
  if cs.length = 32 then ofDigits? cs
  else if cs.length = 36 then ofHyphenated? cs
  else if cs.length = 38 ∧ cs.head? = some '\x7b' ∧ cs.getLast? = some '\x7d' then
    ofHyphenated? (cs.drop 1).dropLast
  else if cs.length = 45 ∧ urn <+: cs then ofHyphenated? (cs.drop 9)
  else none

/-- The text of an identifier. -/
def toText (u : Uuid) : String :=
  let ds := hexPadded 32 u.bits.toNat
  String.ofList (ds.take 8 ++ '-' :: (ds.drop 8).take 4 ++ '-' :: (ds.drop 12).take 4
    ++ '-' :: (ds.drop 16).take 4 ++ '-' :: ds.drop 20)

end Uuid

end BoundSql
