import BoundSql.Toml.Quoted
import BoundSql.Toml.Scalar

/-!
# Documents, read

A document is a sequence of lines: assignments, headers, comments and blank
lines. Arrays and tables that are written out as values may go over several
lines and may end with a comma.
-/

namespace BoundSql.Toml

/-- Whether a character is a blank within a line. -/
def isInnerBlank (c : Char) : Bool :=
  c = ' ' || c = '\t'

/-- A text from its first character on that is no blank within the line. -/
def skipBlanks (cs : List Char) : List Char :=
  cs.dropWhile isInnerBlank

/-- A text behind blanks, line breaks and comments. -/
def skipGap? : (inComment : Bool) → List Char → Option (List Char)
  | _, [] => some []
  | _, '\r' :: '\n' :: r => skipGap? false r
  | inComment, c :: r =>
    if c = '\n' then skipGap? false r
    else if inComment then if isTextChar c then skipGap? true r else none
    else if isInnerBlank c then skipGap? false r
    else if c = '#' then skipGap? true r
    else some (c :: r)

/-- The next line, when nothing but blanks and a comment is left of this one. -/
def nextLine? : (inComment : Bool) → List Char → Option (List Char)
  | _, [] => some []
  | _, '\r' :: '\n' :: r => some r
  | inComment, c :: r =>
    if c = '\n' then some r
    else if inComment then if isTextChar c then nextLine? true r else none
    else if isInnerBlank c then nextLine? false r
    else if c = '#' then nextLine? true r
    else none

/-- Whether a key may hold the character without quotes. -/
def isKeyChar (c : Char) : Bool :=
  c.isAlphanum || c = '_' || c = '-'

/-- A key without dots, and what follows it. A quoted key stays on its line. -/
def simpleKey? (cs : List Char) : Option (String × List Char) :=
  match cs with
  | '"' :: r => (basicBody r).map fun (key, rest) => (String.ofList key, rest)
  | '\'' :: r => (literalBody r).map fun (key, rest) => (String.ofList key, rest)
  | _ =>
    let key := cs.takeWhile isKeyChar
    if key = [] then none else some (String.ofList key, cs.dropWhile isKeyChar)

/-- A dotted key of at most so many parts, and what follows it and the blanks behind it. -/
def keyParts? : (limit : Nat) → List Char → Option (List String × List Char)
  | 0, _ => none
  | limit + 1, cs => do
    let (key, r) ← simpleKey? cs
    match skipBlanks r with
    | '.' :: r =>
      let (keys, rest) ← keyParts? limit (skipBlanks r)
      pure (key :: keys, rest)
    | rest => pure ([key], rest)

/-- A dotted key, and what follows it and the blanks behind it. -/
def key? (cs : List Char) : Option (List String × List Char) :=
  keyParts? (cs.length + 1) cs

/-- A dotted key, an equals sign and a value. -/
def assignment? (value : List Char → Option (Toml × List Char)) (cs : List Char) :
    Option (Assignment × List Char) := do
  let (path, r) ← key? cs
  match r with
  | '=' :: r =>
    let (v, rest) ← value (skipBlanks r)
    pure (⟨path, v⟩, rest)
  | _ => none

/-- Items up to a closing bracket, with commas between them and perhaps one behind them; the first
argument bounds their number. -/
def items? {α : Type} (item : List Char → Option (α × List Char)) (close : Char) :
    (limit : Nat) → List Char → Option (List α × List Char)
  | 0, _ => none
  | limit + 1, cs => do
    match ← skipGap? false cs with
    | [] => none
    | c :: r =>
      if c = close then pure ([], r)
      else
        let (v, r) ← item (c :: r)
        match ← skipGap? false r with
        | ',' :: r =>
          let (vs, rest) ← items? item close limit r
          pure (v :: vs, rest)
        | c :: r => if c = close then pure ([v], r) else none
        | [] => none

/-- Whether a word may hold the character. -/
def isWordPart (c : Char) : Bool :=
  c.isAlphanum || c = '+' || c = '-' || c = '_' || c = '.' || c = ':'

/-- The word at the head of a text, and what follows it. A date goes on behind a blank when a digit
follows there. -/
def splitWord (cs : List Char) : List Char × List Char :=
  let w := cs.takeWhile isWordPart
  match cs.dropWhile isWordPart with
  | ' ' :: d :: r =>
    if d.isDigit ∧ afterDate? w = some [] then
      (w ++ ' ' :: (d :: r).takeWhile isWordPart, (d :: r).dropWhile isWordPart)
    else (w, ' ' :: d :: r)
  | rest => (w, rest)

/-- A value that is no array and no table. -/
def scalar? (cs : List Char) : Option (Toml × List Char) :=
  match cs with
  | '"' :: _ => (quoted? cs).map fun (s, rest) => (.text (String.ofList s), rest)
  | '\'' :: _ => (quoted? cs).map fun (s, rest) => (.text (String.ofList s), rest)
  | _ =>
    let (w, rest) := splitWord cs
    (ofWord? w).map (·, rest)

/-- The value at the head of a text, in which arrays and tables stand in one another up to `depth`
deep, and what follows it. -/
def value? : (depth : Nat) → List Char → Option (Toml × List Char)
  | 0, cs => scalar? cs
  | depth + 1, cs =>
    match cs with
    | '[' :: r =>
      (items? (value? depth) ']' (r.length + 1) r).map fun (vs, rest) => (.array false vs, rest)
    | '\x7b' :: r => do
      let (assignments, rest) ← items? (assignment? (value? depth)) '\x7d' (r.length + 1) r
      let fields ← assignAll? assignments []
      pure (.table .inline fields, rest)
    | _ => scalar? cs

/-- How deep arrays and tables may stand in one another. -/
def maxDepth : Nat := 79

/-- A header whose opening brackets are gone, and the line behind it. -/
def header? (isItem : Bool) (cs : List Char) : Option (List String × List Char) := do
  let (path, r) ← key? (skipBlanks cs)
  match isItem, r with
  | true, ']' :: ']' :: r => pure (path, ← nextLine? false r)
  | false, ']' :: r => pure (path, ← nextLine? false r)
  | _, _ => none

/-- The assignments in front of the first header and the sections from there on; the first argument
bounds the number of lines. -/
def lines? : (limit : Nat) → List Char → Option (List Assignment × List Section)
  | 0, _ => none
  | limit + 1, cs => do
    let headed (isItem : Bool) (r : List Char) : Option (List Assignment × List Section) := do
      let (path, r) ← header? isItem r
      let (assignments, sections) ← lines? limit r
      pure ([], ⟨path, isItem, assignments⟩ :: sections)
    match ← skipGap? false cs with
    | [] => pure ([], [])
    | '[' :: '[' :: r => headed true r
    | '[' :: r => headed false r
    | cs =>
      let (e, r) ← assignment? (value? maxDepth) cs
      let (assignments, sections) ← lines? limit (← nextLine? false r)
      pure (e :: assignments, sections)

/-- The table of a document. A byte order mark in front of it does not count. -/
def ofText? (s : String) : Option Fields := do
  let cs := match s.toList with
    | '\uFEFF' :: r => r
    | cs => cs
  let (assignments, sections) ← lines? (cs.length + 1) cs
  assemble? assignments sections

end BoundSql.Toml
