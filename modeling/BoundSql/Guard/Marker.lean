import BoundSql.Text.Digits
import BoundSql.Text.LetterCase

/-!
# Markers

A predicate names its parameters by markers, an at sign and a name. A text is
cut into lexemes, each of them a marker, the sign of a numbered placeholder or
plain text; literals, quoted names and comments are plain text as a whole.
Joined again, the lexemes are the text.
-/

namespace BoundSql

open BoundSql.Text

/-- A part of a predicate. -/
inductive Lexeme where
  | plain (chars : List Char)
  | placeholder
  | marker (name : List Char)
  deriving DecidableEq, Repr

namespace Lexeme

/-- The characters of a lexeme. -/
def chars : Lexeme → List Char
  | .plain cs => cs
  | .placeholder => ['$']
  | .marker name => '@' :: name

end Lexeme

namespace Marker

/-- Whether a name may start with the character. -/
def isNameStart (c : Char) : Bool :=
  c.isAlpha || c == '_'

/-- Whether a name may go on with the character. -/
def isNameChar (c : Char) : Bool :=
  c.isAlphanum || c == '_'

/-- The first characters put back onto the first half of a division. -/
def onto (front : List Char) (halves : List Char × List Char) : List Char × List Char :=
  (front ++ halves.1, halves.2)

/-- A text behind an opening quote, divided behind the quote that closes it. A quote that is written
twice closes nothing. -/
def splitQuoted (quote : Char) : List Char → List Char × List Char
  | [] => ([], [])
  | [c] => ([c], [])
  | c :: d :: r =>
    if c = quote then
      if d = quote then onto [c, d] (splitQuoted quote r) else ([c], d :: r)
    else onto [c] (splitQuoted quote (d :: r))

/-- A text divided behind the end of its first line. -/
def splitLine : List Char → List Char × List Char
  | [] => ([], [])
  | c :: r => if c = '\n' then ([c], r) else onto [c] (splitLine r)

/-- A text inside a comment, which lies in `depth` others, divided behind the end of the outermost
one. -/
def splitComment : (depth : Nat) → List Char → List Char × List Char
  | _, [] => ([], [])
  | depth, '/' :: '*' :: r => onto ['/', '*'] (splitComment (depth + 1) r)
  | 0, '*' :: '/' :: r => (['*', '/'], r)
  | depth + 1, '*' :: '/' :: r => onto ['*', '/'] (splitComment depth r)
  | depth, c :: r => onto [c] (splitComment depth r)

/-- A text divided behind the first occurrence of a tag. -/
def splitThrough (tag : List Char) : List Char → List Char × List Char
  | [] => ([], [])
  | c :: r =>
    if tag.isPrefixOf (c :: r) then (tag, (c :: r).drop tag.length)
    else onto [c] (splitThrough tag r)

/-- A text behind a dollar sign: if a tag of letters and a second dollar sign open a literal there,
the text is divided behind the literal. -/
def splitDollar (cs : List Char) : List Char × List Char :=
  let tag := cs.takeWhile isNameStart
  match cs.dropWhile isNameStart with
  | '$' :: r => onto (tag ++ ['$']) (splitThrough ('$' :: tag ++ ['$']) r)
  | _ => ([], cs)

/-- A plain lexeme of the given characters and the first half of a division, and the second half. -/
def plainThen (front : List Char) (halves : List Char × List Char) : Lexeme × List Char :=
  (.plain (front ++ halves.1), halves.2)

/-- The first lexeme of a text, which is given by its first character and the others, and what
follows it. A doubled at sign belongs to a name of the server. -/
def first (c : Char) (r : List Char) : Lexeme × List Char :=
  match c, r with
  | '\'', r => plainThen [c] (splitQuoted c r)
  | '"', r => plainThen [c] (splitQuoted c r)
  | '-', '-' :: r => plainThen ['-', '-'] (splitLine r)
  | '/', '*' :: r => plainThen ['/', '*'] (splitComment 0 r)
  | '$', d :: r =>
    if d.isDigit then (.placeholder, d :: r) else plainThen ['$'] (splitDollar (d :: r))
  | '@', '@' :: r => plainThen ['@', '@'] (r.takeWhile isNameChar, r.dropWhile isNameChar)
  | '@', d :: r =>
    if isNameStart d then
      (.marker ((d :: r).takeWhile isNameChar), (d :: r).dropWhile isNameChar)
    else (.plain ['@'], d :: r)
  | c, r => (.plain [c], r)

/-- A division loses nothing. -/
def Divides (halves : List Char × List Char) (cs : List Char) : Prop :=
  halves.1 ++ halves.2 = cs

theorem Divides.onto {halves : List Char × List Char} {cs : List Char} (h : Divides halves cs)
    (front : List Char) :
  Divides (Marker.onto front halves) (front ++ cs)
  := by
  simp only [Divides, Marker.onto, List.append_assoc] at *
  rw [h]

theorem divides_splitQuoted (quote : Char) (cs : List Char) :
  Divides (splitQuoted quote cs) cs
  := by
  fun_induction splitQuoted quote cs with
  | case1 => rfl
  | case2 => rfl
  | case3 r ih => apply ih.onto [quote, quote]
  | case4 => rfl
  | case5 c d r _ ih => apply ih.onto [c]

theorem divides_splitLine (cs : List Char) :
  Divides (splitLine cs) cs
  := by
  fun_induction splitLine cs with
  | case1 => rfl
  | case2 => rfl
  | case3 c r _ ih => apply ih.onto [c]

theorem divides_splitComment (depth : Nat) (cs : List Char) :
  Divides (splitComment depth cs) cs
  := by
  fun_induction splitComment depth cs with
  | case1 => rfl
  | case2 depth r ih => apply ih.onto ['/', '*']
  | case3 => rfl
  | case4 depth r ih => apply ih.onto ['*', '/']
  | case5 depth c r _ _ _ ih => apply ih.onto [c]

theorem divides_splitThrough (tag cs : List Char) :
  Divides (splitThrough tag cs) cs
  := by
  fun_induction splitThrough tag cs with
  | case1 => rfl
  | case2 c r h => apply List.prefix_iff_eq_append.mp (List.isPrefixOf_iff_prefix.mp h)
  | case3 c r _ ih => apply ih.onto [c]

theorem divides_splitDollar (cs : List Char) :
  Divides (splitDollar cs) cs
  := by
  simp only [splitDollar]
  split
  · next r h =>
      have hr := (divides_splitThrough ('$' :: cs.takeWhile isNameStart ++ ['$']) r).onto
        (cs.takeWhile isNameStart ++ ['$'])
      rw [List.append_assoc, List.singleton_append, ← h, List.takeWhile_append_dropWhile] at hr
      apply hr
  · rfl

theorem chars_plainThen {front cs : List Char} {halves : List Char × List Char}
    (h : Divides halves cs) :
  (plainThen front halves).1.chars ++ (plainThen front halves).2 = front ++ cs
  := by
  simp only [plainThen, Lexeme.chars, List.append_assoc]
  rw [h]

/-- The first lexeme and what follows it are the text. -/
theorem chars_first (c : Char) (r : List Char) :
  (first c r).1.chars ++ (first c r).2 = c :: r
  := by
  unfold first
  split
  · apply chars_plainThen (divides_splitQuoted _ _)
  · apply chars_plainThen (divides_splitQuoted _ _)
  · apply chars_plainThen (divides_splitLine _)
  · apply chars_plainThen (divides_splitComment _ _)
  · split
    · rfl
    · apply chars_plainThen (divides_splitDollar _)
  · apply chars_plainThen
    apply List.takeWhile_append_dropWhile
  · split
    · simp only [Lexeme.chars, List.cons_append, List.takeWhile_append_dropWhile]
    · rfl
  · rfl

theorem chars_first_ne_nil (c : Char) (r : List Char) :
  (first c r).1.chars ≠ []
  := by
  unfold first
  split
  · simp [plainThen, Lexeme.chars]
  · simp [plainThen, Lexeme.chars]
  · simp [plainThen, Lexeme.chars]
  · simp [plainThen, Lexeme.chars]
  · split
    · simp [Lexeme.chars]
    · simp [plainThen, Lexeme.chars]
  · simp [plainThen, Lexeme.chars]
  · split
    · simp [Lexeme.chars]
    · simp [Lexeme.chars]
  · simp [Lexeme.chars]

theorem length_first_lt (c : Char) (r : List Char) :
  (first c r).2.length < (c :: r).length
  := by
  have hlength := congrArg List.length (chars_first c r)
  have hpos := List.length_pos_iff.mpr (chars_first_ne_nil c r)
  rw [List.length_append] at hlength
  omega

/-- The lexemes of a text. -/
def lexemes : List Char → List Lexeme
  | [] => []
  | c :: r => (first c r).1 :: lexemes (first c r).2
termination_by cs => cs.length
decreasing_by apply length_first_lt

/-- Joined again, the lexemes are the text. -/
theorem flatMap_chars_lexemes (cs : List Char) :
  (lexemes cs).flatMap Lexeme.chars = cs
  := by
  fun_induction lexemes cs with
  | case1 => rfl
  | case2 c r ih => rw [List.flatMap_cons, ih, chars_first]

/-- Names with those added that are not among them but for letter case. -/
def addName (names : List String) (name : String) : List String :=
  if names.any (sameName · name) then names else names ++ [name]

/-- The name of a marker. -/
def name? : Lexeme → Option String
  | .marker name => some (String.ofList name)
  | _ => none

/-- The names of the markers of a text, in order of first appearance; letter case does not tell
names apart. -/
def names (sql : String) : List String :=
  ((lexemes sql.toList).filterMap name?).foldl addName []

/-- Whether a text has numbered placeholders. -/
def hasPlaceholders (sql : String) : Bool :=
  (lexemes sql.toList).contains .placeholder

/-- A lexeme with a marker replaced by the placeholder of its name's number. A marker without a
number stays as it is. -/
def numbered (names : List String) : Lexeme → List Char
  | .marker name =>
    match names.findIdx? (sameName · (String.ofList name)) with
    | some i => '$' :: digits (i + 1)
    | none => '@' :: name
  | l => l.chars

/-- A text with its markers replaced by numbered placeholders. -/
def withPlaceholders (names : List String) (sql : String) : String :=
  String.ofList ((lexemes sql.toList).flatMap (numbered names))

end Marker

end BoundSql
