import BoundSql.Proofs.Guard.Boundary
import BoundSql.Proofs.Guard.Octet

/-!
# Scans and lexemes

A scan of a text succeeds, and its tokens are the lexemes of the text with plain
lexemes in a row put together. Between lexemes the scan stands between characters,
with the text of the plain lexemes in front of it between its two indices.
-/

namespace BoundSql.Marker

/-! ### Where regions end -/

section

variable {α : Type} (front : List Char)

/-- What is the same at the index behind each byte of some is the same behind all of them. -/
theorem eq_behind (F : Nat → α) (block : List Char)
    (h : ∀ before b after, block = before ++ b :: after →
      F (front ++ before).length = F ((front ++ before).length + 1)) :
  F front.length = F (front ++ block).length
  := by
  induction block generalizing front with
  | nil => rw [List.append_nil]
  | cons b block ih =>
      have hfirst := h [] b block rfl
      rw [List.append_nil] at hfirst
      have hrest : F (front ++ [b]).length = F (front ++ [b] ++ block).length := by
        apply ih
        intro before b' after hblock
        have hstep := h (b :: before) b' after (by rw [hblock, List.cons_append])
        simpa using hstep
      rw [hfirst]
      simpa using hrest

theorem getElem?_next (b : Char) (bs : List Char) :
  (front ++ b :: bs)[front.length + 1]? = bs.head?
  := by
  have h := getElem?_append_length (front ++ [b]) bs
  simpa using h

theorem getElem?_first (b : Char) (bs : List Char) :
  (front ++ b :: bs)[front.length]? = some b
  := getElem?_append_length front (b :: bs)

theorem getElem?_second (b c : Char) (bs : List Char) :
  (front ++ b :: c :: bs)[front.length + 1]? = some c
  := getElem?_next front b (c :: bs)

theorem getElem?_of_block {before after : List Char} {b : Char} (rest : List Char) :
  (front ++ (before ++ b :: after) ++ rest)[(front ++ before).length]? = some b
  := by
  simp

end

section

variable {bs : List Char} {quote b : Char} {i : Nat}

theorem quotedEnd_of_none (h : bs[i]? = none) :
  quotedEnd bs quote i = bs.length
  := by
  rw [quotedEnd]
  split
  · rfl
  · simp_all

theorem quotedEnd_of_ne (h : bs[i]? = some b) (hb : b ≠ quote) :
  quotedEnd bs quote i = quotedEnd bs quote (i + 1)
  := by
  rw [quotedEnd]
  split
  · simp_all
  · next c hc =>
      obtain rfl := Option.some.inj (h.symm.trans hc)
      rw [if_neg hb]

theorem quotedEnd_of_twice (h : bs[i]? = some quote) (hnext : bs[i + 1]? = some quote) :
  quotedEnd bs quote i = quotedEnd bs quote (i + 2)
  := by
  rw [quotedEnd]
  split
  · simp_all
  · next c hc =>
      obtain rfl := Option.some.inj (h.symm.trans hc)
      rw [if_pos rfl, if_pos hnext]

theorem quotedEnd_of_once (h : bs[i]? = some quote) (hnext : bs[i + 1]? ≠ some quote) :
  quotedEnd bs quote i = i + 1
  := by
  rw [quotedEnd]
  split
  · simp_all
  · next c hc =>
      obtain rfl := Option.some.inj (h.symm.trans hc)
      rw [if_pos rfl, if_neg hnext]

end

/-- A character that is not the quote is passed byte by byte. -/
theorem quotedEnd_cons {quote c : Char} (hquote : quote.toNat < 128) (hc : c ≠ quote)
    (front rest : List Char) :
  quotedEnd (front ++ spelling [c] ++ rest) quote front.length
    = quotedEnd (front ++ spelling [c] ++ rest) quote (front ++ spelling [c]).length
  := by
  apply eq_behind front (quotedEnd _ quote)
  intro before b after hblock
  have hmem : b ∈ spelling [c] := by
    rw [hblock]
    simp
  apply quotedEnd_of_ne
  · rw [hblock]
    apply getElem?_of_block
  · rintro rfl
    apply hc
    rw [(eq_of_mem_spelling hmem hquote).1]

/-- Quoted text ends in the bytes where it ends in the characters. -/
theorem quotedEnd_spelling {quote : Char} (hquote : quote.toNat < 128) (front cs : List Char) :
  quotedEnd (front ++ spelling cs) quote front.length
    = (front ++ spelling (splitQuoted quote cs).1).length
  := by
  fun_induction splitQuoted quote cs generalizing front with
  | case1 =>
      rw [spelling_nil, List.append_nil]
      apply quotedEnd_of_none
      simp
  | case2 c =>
      by_cases hc : c = quote
      · subst hc
        rw [spelling_of_lt hquote, List.length_append]
        apply quotedEnd_of_once
        · apply getElem?_first
        · rw [getElem?_next]
          simp
      · have h := quotedEnd_cons hquote hc front []
        rw [List.append_nil] at h
        rw [h]
        apply quotedEnd_of_none
        simp
  | case3 r ih =>
      have hrest := ih (front ++ [quote, quote])
      rw [spelling_cons_of_lt hquote, spelling_cons_of_lt hquote, quotedEnd_of_twice]
      · simpa [onto, spelling_cons_of_lt hquote] using hrest
      · apply getElem?_first
      · apply getElem?_second
  | case4 d r hd =>
      rw [spelling_cons_of_lt hquote, spelling_of_lt hquote, List.length_append]
      apply quotedEnd_of_once
      · apply getElem?_first
      · rw [getElem?_next, Ne, head?_spelling_eq_iff hquote]
        simpa using hd
  | case5 c d r hc ih =>
      have hrest := ih (front ++ spelling [c])
      rw [spelling_cons, ← List.append_assoc, quotedEnd_cons hquote hc, hrest, onto,
        spelling_append, List.append_assoc]

section

variable {bs : List Char} {depth i : Nat} {b : Char}

theorem commentEnd?_of_enter (h : bs[i]? = some '/') (hnext : bs[i + 1]? = some '*') :
  commentEnd? bs depth i = commentEnd? bs (depth + 1) (i + 2)
  := by
  rw [commentEnd?.eq_def]
  split <;> simp_all

theorem commentEnd?_of_leave (h : bs[i]? = some '*') (hnext : bs[i + 1]? = some '/') :
  commentEnd? bs (depth + 2) i = commentEnd? bs (depth + 1) (i + 2)
  := by
  rw [commentEnd?.eq_def]
  split <;> simp_all

theorem commentEnd?_of_close (h : bs[i]? = some '*') (hnext : bs[i + 1]? = some '/') :
  commentEnd? bs 1 i = some (i + 2)
  := by
  rw [commentEnd?.eq_def]
  split <;> simp_all

theorem commentEnd?_of_none (h : bs[i + 1]? = none) :
  commentEnd? bs depth i = some bs.length
  := by
  rw [commentEnd?.eq_def]
  split <;> simp_all

theorem commentEnd?_of_other (h : bs[i]? = some b) (henter : b = '/' → bs[i + 1]? ≠ some '*')
    (hleave : b = '*' → bs[i + 1]? ≠ some '/') :
  commentEnd? bs depth i = commentEnd? bs depth (i + 1)
  := by
  by_cases hnone : bs[i + 1]? = none
  · have hlast : bs[i + 1 + 1]? = none := by
      rw [List.getElem?_eq_none_iff] at hnone ⊢
      omega
    rw [commentEnd?_of_none hnone, commentEnd?_of_none hlast]
  · rw [commentEnd?.eq_def]
    split
    · next hb hnext =>
        exfalso
        apply henter (Option.some.inj (h.symm.trans hb)) hnext
    · next hb hnext =>
        exfalso
        apply hleave (Option.some.inj (h.symm.trans hb)) hnext
    · rfl
    · next hother =>
        obtain ⟨c, hc⟩ := Option.ne_none_iff_exists'.mp hnone
        exfalso
        apply hother b c h hc

end

/-- A character that begins no mark with the next one is passed byte by byte. -/
theorem commentEnd?_cons {c : Char} {r : List Char} (henter : c = '/' → r.head? ≠ some '*')
    (hleave : c = '*' → r.head? ≠ some '/') (depth : Nat) (front : List Char) :
  commentEnd? (front ++ spelling [c] ++ spelling r) depth front.length
    = commentEnd? (front ++ spelling [c] ++ spelling r) depth (front ++ spelling [c]).length
  := by
  by_cases hc : c.toNat < 128
  · rw [spelling_of_lt hc, List.append_assoc, List.singleton_append, List.length_append]
    have hnext := getElem?_next front c (spelling r)
    apply commentEnd?_of_other
    · apply getElem?_append_length
    · intro hslash
      rw [hnext, Ne, head?_spelling_eq_iff (by decide)]
      apply henter hslash
    · intro hasterisk
      rw [hnext, Ne, head?_spelling_eq_iff (by decide)]
      apply hleave hasterisk
  · apply eq_behind front (commentEnd? _ depth)
    intro before b after hblock
    have hmem : b ∈ spelling [c] := by
      rw [hblock]
      simp
    have hbyte := le_of_mem_spelling (Nat.not_lt.mp hc) b hmem
    have hmark : ∀ d : Char, d.toNat < 128 → b ≠ d := by
      rintro d hd rfl
      omega
    apply commentEnd?_of_other (b := b)
    · rw [hblock]
      apply getElem?_of_block
    · intro h
      exfalso
      apply hmark '/' (by decide) h
    · intro h
      exfalso
      apply hmark '*' (by decide) h

/-- A comment ends in the bytes where it ends in the characters, and the depth never falls below
zero on the way. -/
theorem commentEnd?_spelling (depth : Nat) (front cs : List Char) :
  commentEnd? (front ++ spelling cs) (depth + 1) front.length
    = some (front ++ spelling (splitComment depth cs).1).length
  := by
  fun_induction splitComment depth cs generalizing front with
  | case1 =>
      rw [spelling_nil, List.append_nil]
      apply commentEnd?_of_none
      simp
  | case2 depth r ih =>
      have hrest := ih (front ++ ['/', '*'])
      rw [spelling_cons_of_lt (by decide), spelling_cons_of_lt (by decide), commentEnd?_of_enter]
      · simpa [onto, spelling_cons_of_lt] using hrest
      · apply getElem?_first
      · apply getElem?_second
  | case3 r =>
      rw [spelling_cons_of_lt (by decide), spelling_cons_of_lt (by decide), commentEnd?_of_close]
      · simp [spelling_cons_of_lt, spelling_nil]
      · apply getElem?_first
      · apply getElem?_second
  | case4 depth r ih =>
      have hrest := ih (front ++ ['*', '/'])
      rw [spelling_cons_of_lt (by decide), spelling_cons_of_lt (by decide), commentEnd?_of_leave]
      · simpa [onto, spelling_cons_of_lt] using hrest
      · apply getElem?_first
      · apply getElem?_second
  | case5 depth c r hopen hclose hleave ih =>
      have hrest := ih (front ++ spelling [c])
      rw [spelling_cons, ← List.append_assoc, commentEnd?_cons, hrest, onto, spelling_append,
        List.append_assoc]
      · rintro rfl hhead
        obtain ⟨r, rfl⟩ := List.head?_eq_some_iff.mp hhead
        apply hopen r rfl rfl
      · rintro rfl hhead
        obtain ⟨r, rfl⟩ := List.head?_eq_some_iff.mp hhead
        cases depth with
        | zero => apply hclose r rfl rfl rfl
        | succ depth => apply hleave depth r rfl rfl rfl

/-- A text is divided behind the first occurrence of a tag where its bytes are. -/
theorem through_spelling (tag cs front : List Char) :
  (offset? tag cs).elim (front ++ spelling cs).length (front.length + · + (spelling tag).length)
    = (front ++ spelling (splitThrough tag cs).1).length
  := by
  fun_induction splitThrough tag cs generalizing front with
  | case1 => simp [offset?]
  | case2 c r h => simp [offset?, h]
  | case3 c r h ih =>
      have hrest := ih (front ++ spelling [c])
      rw [offset?, if_neg h, onto, spelling_append, ← List.append_assoc, ← hrest]
      cases offset? tag r with
      | none => simp [spelling_cons c r]
      | some n =>
          simp only [Option.map_some, Option.elim_some, List.length_append, length_spelling]
          omega

theorem splitLine_eq_splitThrough (cs : List Char) :
  splitLine cs = splitThrough ['\n'] cs
  := by
  induction cs with
  | nil => rfl
  | cons c cs ih =>
      rw [splitLine, splitThrough, ih]
      by_cases hc : c = '\n'
      · simp [hc]
      · simp [hc, Ne.symm hc]

theorem length_spelling_concat {c : Char} (h : c.toNat < 128) (front : List Char) :
  (spelling (front ++ [c])).length = (spelling front).length + 1
  := by
  rw [spelling_append, spelling_of_lt h, List.length_append]
  rfl

/-- The byte behind a front is a character of ASCII exactly when the character there is. -/
theorem octets_getElem?_eq_iff {sql : String} {front rest : List Char}
    (h : sql.toList = front ++ rest) {d : Char} (hd : d.toNat < 128) :
  (octets sql)[(spelling front).length]? = some d ↔ rest.head? = some d
  := by
  rw [octets_eq_spelling, h, spelling_append, getElem?_append_length, head?_spelling_eq_iff hd]

/-- The byte behind a front is of a kind of ASCII exactly when the character there is. -/
theorem any_octets_getElem? {kind : Char → Bool} (hkind : IsAsciiKind kind) {sql : String}
    {front rest : List Char} (h : sql.toList = front ++ rest) :
  (octets sql)[(spelling front).length]?.any kind = rest.head?.any kind
  := by
  rw [octets_eq_spelling, h, spelling_append, getElem?_append_length, any_head?_spelling hkind]

/-- A run ends in the bytes where it ends in the characters. -/
theorem runEnd_of_append {kind : Char → Bool} (hkind : IsAsciiKind kind) {sql : String}
    {front rest : List Char} (h : sql.toList = front ++ rest) :
  runEnd kind (octets sql) (spelling front).length
    = (spelling (front ++ rest.takeWhile kind)).length
  := by
  rw [octets_eq_spelling, h, spelling_append, runEnd_spelling hkind, ← spelling_append]

/-- All of a text behind a front is a slice. -/
theorem slice?_rest {sql : String} {front rest : List Char} (h : sql.toList = front ++ rest) :
  slice? sql (spelling front).length (octets sql).length = some (String.ofList rest)
  := by
  have htext : sql.toList = front ++ rest ++ [] := by
    rw [h, List.append_nil]
  rw [octets_eq_spelling, h, slice?_of_append htext]

/-- A literal or a quoted name ends in the bytes where it ends in the characters. -/
theorem quotedEnd_of_append {quote : Char} (hquote : quote.toNat < 128) {sql : String}
    {front r : List Char} (h : sql.toList = front ++ quote :: r) :
  quotedEnd (octets sql) quote ((spelling front).length + 1)
    = (spelling (front ++ quote :: (splitQuoted quote r).1)).length
  := by
  have hend := quotedEnd_spelling hquote (spelling (front ++ [quote])) r
  rw [← length_spelling_concat hquote, octets_eq_spelling, h]
  simpa [← spelling_append] using hend

/-- A comment ends in the bytes where it ends in the characters. -/
theorem commentEnd?_of_append {sql : String} {front r : List Char}
    (h : sql.toList = front ++ '/' :: '*' :: r) :
  commentEnd? (octets sql) 0 (spelling front).length
    = some (spelling (front ++ '/' :: '*' :: (splitComment 0 r).1)).length
  := by
  have hend := commentEnd?_spelling 0 (spelling (front ++ ['/', '*'])) r
  have henter : commentEnd? (octets sql) 0 (spelling front).length
      = commentEnd? (octets sql) 1 ((spelling front).length + 2) := by
    apply commentEnd?_of_enter
    · rw [octets_getElem?_eq_iff h (by decide)]
      rfl
    · have hsign : sql.toList = front ++ ['/'] ++ '*' :: r := by
        rw [h, List.append_assoc]
        rfl
      rw [← length_spelling_concat (c := '/') (by decide),
        octets_getElem?_eq_iff hsign (by decide)]
      rfl
  have htwo : (spelling (front ++ ['/', '*'])).length = (spelling front).length + 2 := by
    rw [List.append_cons, length_spelling_concat (by decide), length_spelling_concat (by decide)]
  rw [henter, ← htwo, octets_eq_spelling, h]
  simpa [← spelling_append] using hend

/-- A line comment ends in the bytes where it ends in the characters. -/
theorem lineEnd?_of_append {sql : String} {front r : List Char}
    (h : sql.toList = front ++ '-' :: '-' :: r) :
  lineEnd? sql (spelling front).length
    = some (spelling (front ++ '-' :: '-' :: (splitLine r).1)).length
  := by
  have hline : '-' :: '-' :: (splitLine r).1 = (splitThrough ['\n'] ('-' :: '-' :: r)).1 := by
    rw [← splitLine_eq_splitThrough]
    rfl
  have hthrough := through_spelling ['\n'] ('-' :: '-' :: r) (spelling front)
  rw [lineEnd?, slice?_rest h, hline, spelling_append, ← hthrough, octets_eq_spelling, h,
    spelling_append]
  show some _ = some _
  rw [String.toList_ofList]
  rfl

theorem isNameStart_eq (c : Char) :
  (isNameChar c && !c.isDigit) = isNameStart c
  := by
  rw [Bool.eq_iff_iff, Bool.and_eq_true, Bool.not_eq_true']
  constructor
  · rintro ⟨hname, hdigit⟩
    rw [isNameChar, Char.isAlphanum, hdigit, Bool.or_false] at hname
    apply hname
  · intro h
    use isNameChar_of_isNameStart h, isDigit_of_isNameStart h

/-- What a dollar sign opens ends in the bytes where it ends in the characters. -/
theorem dollarEnd?_of_append {sql : String} {front r : List Char}
    (h : sql.toList = front ++ '$' :: r) :
  dollarEnd? sql (spelling front).length
    = some (spelling (front ++ '$' :: (splitDollar r).1)).length
  := by
  have hsign : sql.toList = front ++ ['$'] ++ r := by
    rw [h, List.append_assoc]
    rfl
  have hrun := runEnd_of_append isAsciiKind_isNameStart hsign
  rw [length_spelling_concat (by decide)] at hrun
  rw [dollarEnd?, funext isNameStart_eq, hrun, splitDollar]
  have hr := List.takeWhile_append_dropWhile (p := isNameStart) (l := r)
  generalize r.takeWhile isNameStart = tag at *
  generalize r.dropWhile isNameStart = rest at *
  subst hr
  rw [← List.append_assoc] at hsign
  have hnext : (octets sql)[(spelling (front ++ ['$'] ++ tag)).length]? = some '$'
      ↔ rest.head? = some '$' := octets_getElem?_eq_iff hsign (by decide)
  by_cases hhead : rest.head? = some '$'
  · rw [if_pos (hnext.mpr hhead)]
    obtain ⟨body, rfl⟩ := List.head?_eq_some_iff.mp hhead
    have hdelimiter : front ++ ['$'] ++ tag ++ ['$'] = front ++ delimiter tag := by
      simp [delimiter]
    have hbody : sql.toList = front ++ delimiter tag ++ body := by
      rw [hsign, ← hdelimiter, List.append_assoc _ ['$'] body]
      rfl
    have htagEnd : (spelling (front ++ ['$'] ++ tag)).length + 1
        = (spelling (front ++ delimiter tag)).length := by
      rw [← hdelimiter, length_spelling_concat (by decide)]
    have hthrough := through_spelling (delimiter tag) body (spelling (front ++ delimiter tag))
    have hlength : (octets sql).length
        = (spelling (front ++ delimiter tag) ++ spelling body).length := by
      rw [octets_eq_spelling, hbody, spelling_append]
    rw [htagEnd, slice?_of_append hbody, slice?_rest hbody, hlength, Option.bind_eq_bind,
      Option.bind_some, Option.bind_some, String.toList_ofList, String.toList_ofList,
      utf8ByteSize_ofList, hthrough, ← spelling_append]
    simp [onto, delimiter]
  · rw [if_neg (hnext.not.mpr hhead)]
    split
    · contradiction
    · rw [length_spelling_concat (by decide)]

end BoundSql.Marker
