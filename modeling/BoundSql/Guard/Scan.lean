import BoundSql.Guard.Marker
import BoundSql.Wire.Bytes

/-!
# Scans

A scan goes over a text byte by byte. It cuts the text into tokens: markers, the
signs of numbered placeholders, and slices of the text between them. A literal, a
quoted name or a comment is skipped as a whole, up to the end of the text if it
lacks its own. A scan fails where it would slice the text within a character or
beyond its end, and where it would leave a comment that it did not enter.
-/

namespace BoundSql.Marker

/-- A part of a text as a scan finds it. The dollar sign of a placeholder is a part of the text
behind it. -/
inductive Token where
  | text (s : String)
  | placeholder
  | marker (name : String)
  deriving DecidableEq, Repr

/-- The characters of a token. -/
def Token.chars : Token → List Char
  | .text s => s.toList
  | .placeholder => []
  | .marker name => '@' :: name.toList

/-- The bytes of a text, each as the character of its number. -/
def octets (sql : String) : List Char :=
  (Wire.textBytes sql).map Char.ofUInt8

/-- The part of a text between two offsets, if both lie between its characters and the second is not
before the first. -/
def slice? (sql : String) (start stop : Nat) : Option String :=
  if h : (String.Pos.Raw.mk start).IsValid sql ∧ (String.Pos.Raw.mk stop).IsValid sql
      ∧ start ≤ stop then
    some (String.extract (⟨⟨start⟩, h.left⟩ : sql.Pos) ⟨⟨stop⟩, h.right.left⟩)
  else none

/-- How many bytes of a text are in front of the first occurrence of a pattern. -/
def offset? (pattern : List Char) : List Char → Option Nat
  | [] => none
  | c :: r =>
    if pattern.isPrefixOf (c :: r) then some 0 else (offset? pattern r).map (c.utf8Size + ·)

/-! ### What is skipped -/

/-- The index behind the quote that closes a literal or a quoted name, whose text goes on at an
index. A quote that is written twice closes nothing. -/
def quotedEnd (bs : List Char) (quote : Char) (i : Nat) : Nat :=
  match _h : bs[i]? with
  | none => bs.length
  | some b =>
    if b = quote then
      if bs[i + 1]? = some quote then quotedEnd bs quote (i + 2) else i + 1
    else quotedEnd bs quote (i + 1)
termination_by bs.length - i
decreasing_by
  all_goals
    obtain ⟨hlt, -⟩ := List.getElem?_eq_some_iff.mp _h
    omega

/-- The index behind the end of a comment whose text goes on at an index, when it is inside `depth`
comments. -/
def commentEnd? (bs : List Char) (depth i : Nat) : Option Nat :=
  match _h : bs[i]?, bs[i + 1]? with
  | some '/', some '*' => commentEnd? bs (depth + 1) (i + 2)
  | some '*', some '/' =>
    match depth with
    | 0 => none
    | 1 => some (i + 2)
    | depth + 2 => commentEnd? bs (depth + 1) (i + 2)
  | some _, some _ => commentEnd? bs depth (i + 1)
  | _, _ => some bs.length
termination_by bs.length - i
decreasing_by
  all_goals
    obtain ⟨hlt, -⟩ := List.getElem?_eq_some_iff.mp _h
    omega

/-- The index of the first byte from an index on that is not of a kind. -/
def runEnd (kind : Char → Bool) (bs : List Char) (i : Nat) : Nat :=
  i + ((bs.drop i).takeWhile kind).length

/-- The index behind the first line of the text from an index on. -/
def lineEnd? (sql : String) (i : Nat) : Option Nat := do
  let line ← slice? sql i (octets sql).length
  pure ((offset? ['\n'] line.toList).elim (octets sql).length (i + · + 1))

/-- The index behind the literal that a dollar sign at an index opens, or behind the dollar sign. -/
def dollarEnd? (sql : String) (i : Nat) : Option Nat :=
  let tagEnd := runEnd (fun c => isNameChar c && !c.isDigit) (octets sql) (i + 1)
  if (octets sql)[tagEnd]? = some '$' then do
    let tag ← slice? sql i (tagEnd + 1)
    let body ← slice? sql (tagEnd + 1) (octets sql).length
    pure ((offset? tag.toList body.toList).elim (octets sql).length
      (tagEnd + 1 + · + tag.utf8ByteSize))
  else some (i + 1)

/-! ### Steps -/

/-- How far a scan has come: the index that it stands at, the index behind its last token, and its
tokens. -/
structure Scan where
  index : Nat
  textStart : Nat
  tokens : List Token
  deriving DecidableEq, Repr

namespace Scan

/-- A scan that stands at another index. -/
def moved (s : Scan) (i : Nat) : Scan :=
  { s with index := i }

/-- The tokens of a scan and the text behind the last of them up to an index, if there is some. -/
def tokensThrough? (sql : String) (s : Scan) (i : Nat) : Option (List Token) :=
  if s.textStart < i then do
    let text ← slice? sql s.textStart i
    pure (s.tokens ++ [.text text])
  else some s.tokens

/-- A scan stands at a byte: the scan behind what begins there. -/
def step? (sql : String) (s : Scan) (b : Char) : Option Scan :=
  let bs := octets sql
  let next := bs[s.index + 1]?
  if b = '\'' ∨ b = '"' then some (s.moved (quotedEnd bs b (s.index + 1)))
  else if b = '-' ∧ next = some '-' then (lineEnd? sql s.index).map s.moved
  else if b = '/' ∧ next = some '*' then (commentEnd? bs 0 s.index).map s.moved
  else if b = '$' ∧ next.any Char.isDigit then do
    let text ← slice? sql s.textStart s.index
    pure ⟨s.index + 1, s.index, s.tokens ++ [.text text, .placeholder]⟩
  else if b = '$' then (dollarEnd? sql s.index).map s.moved
  else if b = '@' ∧ next = some '@' then some (s.moved (runEnd isNameChar bs (s.index + 2)))
  else if b = '@' ∧ next.any isNameStart then do
    let stop := runEnd isNameChar bs (s.index + 1)
    let tokens ← s.tokensThrough? sql s.index
    let name ← slice? sql (s.index + 1) stop
    pure ⟨stop, stop, tokens ++ [.marker name]⟩
  else some (s.moved (s.index + 1))

end Scan

theorem lt_of_getElem? {bs : List Char} {i : Nat} {b : Char} (h : bs[i]? = some b) :
  i < bs.length
  := by
  obtain ⟨hlt, -⟩ := List.getElem?_eq_some_iff.mp h
  apply hlt

theorem le_quotedEnd {bs : List Char} (quote : Char) {i : Nat} (h : i ≤ bs.length) :
  i ≤ quotedEnd bs quote i
  := by
  fun_induction quotedEnd bs quote i with
  | case1 => apply h
  | case2 _ hnext _ ih =>
      have hle := ih (lt_of_getElem? hnext)
      omega
  | case3 => omega
  | case4 _ _ hb _ ih =>
      have hle := ih (lt_of_getElem? hb)
      omega

theorem le_commentEnd? {bs : List Char} {depth i stop : Nat} (h : i ≤ bs.length)
    (hstop : commentEnd? bs depth i = some stop) :
  i ≤ stop
  := by
  fun_induction commentEnd? bs depth i with
  | case1 _ _ _ hnext ih =>
      have hle := ih (lt_of_getElem? hnext) hstop
      omega
  | case2 => cases hstop
  | case3 =>
      cases hstop
      omega
  | case4 _ _ hnext _ ih =>
      have hle := ih (lt_of_getElem? hnext) hstop
      omega
  | case5 _ _ _ _ _ _ hb _ ih =>
      have hle := ih (lt_of_getElem? hb) hstop
      omega
  | case6 =>
      cases hstop
      apply h

theorem le_runEnd (kind : Char → Bool) (bs : List Char) (i : Nat) :
  i ≤ runEnd kind bs i
  := Nat.le_add_right ..

theorem lt_lineEnd? {sql : String} {i stop : Nat} (h : i < (octets sql).length)
    (hstop : lineEnd? sql i = some stop) :
  i < stop
  := by
  obtain ⟨line, -, hstop⟩ := Option.bind_eq_some_iff.mp hstop
  cases hstop
  cases offset? ['\n'] line.toList with
  | none => apply h
  | some n =>
      simp only [Option.elim_some]
      omega

theorem lt_dollarEnd? {sql : String} {i stop : Nat} (h : i < (octets sql).length)
    (hstop : dollarEnd? sql i = some stop) :
  i < stop
  := by
  have hle := le_runEnd (fun c => isNameChar c && !c.isDigit) (octets sql) (i + 1)
  simp only [dollarEnd?] at hstop
  split at hstop
  · obtain ⟨tag, -, hstop⟩ := Option.bind_eq_some_iff.mp hstop
    obtain ⟨body, -, hstop⟩ := Option.bind_eq_some_iff.mp hstop
    cases hstop
    cases offset? tag.toList body.toList with
    | none => apply h
    | some n =>
        simp only [Option.elim_some]
        omega
  · cases hstop
    omega

namespace Scan

/-- Every step moves a scan on. -/
theorem index_lt_of_step? {sql : String} {s t : Scan} {b : Char}
    (hb : (octets sql)[s.index]? = some b) (h : s.step? sql b = some t) :
  s.index < t.index
  := by
  have hlt := lt_of_getElem? hb
  simp only [step?] at h
  split at h
  · cases h
    apply le_quotedEnd b hlt
  split at h
  · obtain ⟨stop, hstop, rfl⟩ := Option.map_eq_some_iff.mp h
    apply lt_lineEnd? hlt hstop
  split at h
  · next hcomment =>
      obtain ⟨stop, hstop, rfl⟩ := Option.map_eq_some_iff.mp h
      obtain ⟨rfl, hnext⟩ := hcomment
      -- the comment's first step passes its opening, inside no comment as yet
      rw [commentEnd?, hb, hnext] at hstop
      have hle := le_commentEnd? (lt_of_getElem? hnext) hstop
      simp only [moved]
      omega
  split at h
  · obtain ⟨text, -, h⟩ := Option.bind_eq_some_iff.mp h
    cases h
    apply Nat.lt_succ_self
  split at h
  · obtain ⟨stop, hstop, rfl⟩ := Option.map_eq_some_iff.mp h
    apply lt_dollarEnd? hlt hstop
  split at h
  · cases h
    have hle := le_runEnd isNameChar (octets sql) (s.index + 2)
    simp only [moved]
    omega
  split at h
  · obtain ⟨tokens, -, h⟩ := Option.bind_eq_some_iff.mp h
    obtain ⟨name, -, h⟩ := Option.bind_eq_some_iff.mp h
    cases h
    apply le_runEnd isNameChar (octets sql) (s.index + 1)
  · cases h
    apply Nat.lt_succ_self

/-- The tokens of a text that a scan has come into. -/
def run? (sql : String) (s : Scan) : Option (List Token) :=
  match _hb : (octets sql)[s.index]? with
  | none => s.tokensThrough? sql (octets sql).length
  | some b =>
    match _h : s.step? sql b with
    | none => none
    | some t => t.run? sql
termination_by (octets sql).length - s.index
decreasing_by
  have hlt := lt_of_getElem? _hb
  have hstep := index_lt_of_step? _hb _h
  omega

end Scan

/-- The tokens of a text. -/
def tokens? (sql : String) : Option (List Token) :=
  Scan.run? sql ⟨0, 0, []⟩

end BoundSql.Marker
