import BoundSql.Proofs.Guard.Scan

/-!
# Tokens

A scan goes through every text. Between lexemes it stands between characters, with
the text of the plain lexemes since its last token between its two indices; a step
leads it behind the next lexeme, and behind each byte of a character beyond ASCII.
So its tokens are the lexemes of the text with plain ones in a row put together,
and nothing is lost.
-/

namespace BoundSql.Marker

/-! ### Steps -/

namespace Scan

section

variable {sql : String} {front r : List Char} {c : Char} (hc : c.toNat < 128)
  (h : sql.toList = front ++ c :: r)

include hc h

/-- Behind the byte of a character of ASCII stands the one of the character behind it. -/
theorem next_eq_iff {d : Char} (hd : d.toNat < 128) :
  (octets sql)[(spelling front).length + 1]? = some d ↔ r.head? = some d
  := by
  rw [← List.singleton_append, ← List.append_assoc] at h
  rw [← length_spelling_concat hc, octets_getElem?_eq_iff h hd]

theorem any_next {kind : Char → Bool} (hkind : IsAsciiKind kind) :
  (octets sql)[(spelling front).length + 1]?.any kind = r.head?.any kind
  := by
  rw [← List.singleton_append, ← List.append_assoc] at h
  rw [← length_spelling_concat hc, any_octets_getElem? hkind h]

end

section

variable {sql : String} {front r : List Char} {s : Scan} (hs : s.index = (spelling front).length)

include hs

theorem step?_quoted {quote : Char} (hquote : isQuote quote = true)
    (h : sql.toList = front ++ quote :: r) :
  s.step? sql quote = some (s.moved (spelling (front ++ quote :: (splitQuoted quote r).1)).length)
  := by
  simp only [isQuote, Bool.or_eq_true, beq_iff_eq] at hquote
  have hascii : quote.toNat < 128 := by
    rcases hquote with rfl | rfl
    · decide
    · decide
  simp only [step?, hquote, if_true]
  rw [hs, quotedEnd_of_append hascii h]

theorem step?_line (h : sql.toList = front ++ '-' :: '-' :: r) :
  s.step? sql '-' = some (s.moved (spelling (front ++ '-' :: '-' :: (splitLine r).1)).length)
  := by
  have hnext := (next_eq_iff (by decide) h (d := '-') (by decide)).mpr rfl
  simp [step?, hs, hnext, lineEnd?_of_append h]

theorem step?_comment (h : sql.toList = front ++ '/' :: '*' :: r) :
  s.step? sql '/' = some (s.moved (spelling (front ++ '/' :: '*' :: (splitComment 0 r).1)).length)
  := by
  have hnext := (next_eq_iff (by decide) h (d := '*') (by decide)).mpr rfl
  simp [step?, hs, hnext, commentEnd?_of_append h]

theorem step?_dollar (h : sql.toList = front ++ '$' :: r)
    (hdigit : r.head?.any Char.isDigit = false) :
  s.step? sql '$' = some (s.moved (spelling (front ++ '$' :: (splitDollar r).1)).length)
  := by
  have hnext := any_next (by decide) h isAsciiKind_isDigit
  rw [hdigit] at hnext
  simp [step?, hs, hnext, dollarEnd?_of_append h]

theorem step?_serverName (h : sql.toList = front ++ '@' :: '@' :: r) :
  s.step? sql '@'
    = some (s.moved (spelling (front ++ '@' :: '@' :: r.takeWhile isNameChar)).length)
  := by
  have hnext := (next_eq_iff (by decide) h (d := '@') (by decide)).mpr rfl
  have hname : sql.toList = front ++ ['@'] ++ ['@'] ++ r := by
    simpa using h
  have hrun := runEnd_of_append isAsciiKind_isNameChar hname
  rw [length_spelling_concat (by decide), length_spelling_concat (by decide)] at hrun
  simp [step?, hs, hnext, hrun]

end

variable {sql : String} {front text r : List Char}

/-- A byte that begins nothing with the one behind it is passed. -/
theorem step?_single (s : Scan) {b : Char} (hquote : isQuote b = false) (hdollar : b ≠ '$')
    (hnext : (octets sql)[s.index + 1]?.any (begins b) = false) :
  s.step? sql b = some (s.moved (s.index + 1))
  := by
  simp only [isQuote, Bool.or_eq_false_iff, beq_eq_false_iff_ne] at hquote
  simp only [Option.any_eq_false, begins, Bool.or_eq_false_iff, Bool.and_eq_false_imp,
    beq_iff_eq, beq_eq_false_iff_ne] at hnext
  have hline : ¬ (b = '-' ∧ (octets sql)[s.index + 1]? = some '-') := by
    rintro ⟨rfl, hd⟩
    apply (hnext _ hd).1.1 rfl rfl
  have hcomment : ¬ (b = '/' ∧ (octets sql)[s.index + 1]? = some '*') := by
    rintro ⟨rfl, hd⟩
    apply (hnext _ hd).1.2 rfl rfl
  have hserver : ¬ (b = '@' ∧ (octets sql)[s.index + 1]? = some '@') := by
    rintro ⟨rfl, hd⟩
    apply ((hnext _ hd).2 rfl).1 rfl
  have hmarker : ¬ (b = '@' ∧ (octets sql)[s.index + 1]?.any isNameStart = true) := by
    rintro ⟨rfl, hany⟩
    obtain ⟨d, hd, hstart⟩ := (Option.any_eq_true _ _).mp hany
    rw [((hnext d hd).2 rfl).2] at hstart
    contradiction
  simp only [step?, hquote, hline, hcomment, hdollar, hserver, hmarker, or_self, false_and,
    if_false]

/-! ### Scans between lexemes -/

/-- The scan that stands behind a text, whose last token ends behind the front of the text. -/
def standing (front text : List Char) (tokens : List Token) : Scan :=
  ⟨(spelling (front ++ text)).length, (spelling front).length, tokens⟩

end Scan

/-- The token of a text, if it is one. -/
def flushed (text : List Char) : List Token :=
  if text = [] then [] else [.text (String.ofList text)]

namespace Scan

theorem tokensThrough?_standing (h : sql.toList = front ++ text ++ r) (tokens : List Token) :
  (standing front text tokens).tokensThrough? sql (spelling (front ++ text)).length
    = some (tokens ++ flushed text)
  := by
  rw [tokensThrough?, standing, slice?_of_append h, flushed]
  by_cases htext : text = []
  · simp [htext]
  · have hpos := List.length_pos_iff.mpr ((spelling_eq_nil_iff text).not.mpr htext)
    have hlt : (spelling front).length < (spelling (front ++ text)).length := by
      rw [spelling_append, List.length_append]
      omega
    rw [if_pos hlt, if_neg htext]
    rfl

theorem step?_placeholder (h : sql.toList = front ++ text ++ '$' :: r)
    (hdigit : r.head?.any Char.isDigit = true) (tokens : List Token) :
  (standing front text tokens).step? sql '$'
    = some (standing (front ++ text) ['$']
      (tokens ++ [.text (String.ofList text), .placeholder]))
  := by
  have hnext := any_next (by decide) h isAsciiKind_isDigit
  rw [hdigit] at hnext
  have hsign : (spelling (front ++ text ++ ['$'])).length = (spelling (front ++ text)).length + 1 :=
    length_spelling_concat (by decide) _
  simp [step?, standing, hnext, slice?_of_append h, -List.append_assoc, hsign]

theorem step?_marker (h : sql.toList = front ++ text ++ '@' :: r)
    (hstart : r.head?.any isNameStart = true) (tokens : List Token) :
  (standing front text tokens).step? sql '@'
    = some (standing (front ++ text ++ '@' :: r.takeWhile isNameChar) []
      (tokens ++ flushed text ++ [.marker (String.ofList (r.takeWhile isNameChar))]))
  := by
  have hstart' := any_next (by decide) h isAsciiKind_isNameStart
  rw [hstart] at hstart'
  have hat : (octets sql)[(spelling (front ++ text)).length + 1]? ≠ some '@' := by
    intro hat
    rw [hat] at hstart'
    contradiction
  have hname : sql.toList = front ++ text ++ ['@'] ++ r := by
    rw [h, List.append_assoc _ ['@']]
    rfl
  have hrun := runEnd_of_append isAsciiKind_isNameChar hname
  have hparts : sql.toList
      = front ++ text ++ ['@'] ++ r.takeWhile isNameChar ++ r.dropWhile isNameChar := by
    rw [hname, List.append_assoc _ (r.takeWhile isNameChar), List.takeWhile_append_dropWhile]
  have hslice := slice?_of_append hparts
  have hfront : front ++ text ++ '@' :: r.takeWhile isNameChar
      = front ++ text ++ ['@'] ++ r.takeWhile isNameChar := by
    rw [List.append_assoc _ ['@']]
    rfl
  rw [length_spelling_concat (by decide)] at hrun hslice
  have htokens := tokensThrough?_standing h tokens
  have hindex : (standing front text tokens).index = (spelling (front ++ text)).length := rfl
  have hnone : ∀ front tokens, standing front [] tokens
      = ⟨(spelling front).length, (spelling front).length, tokens⟩ := by
    simp [standing]
  rw [hfront, hnone]
  simp [step?, hindex, hstart', hat, hrun, htokens, hslice, -List.append_assoc]

theorem run?_of_step {s t : Scan} {b : Char} (hb : (octets sql)[s.index]? = some b)
    (h : s.step? sql b = some t) :
  s.run? sql = t.run? sql
  := by
  rw [run?]
  split
  · simp_all
  · next b' hb' =>
      obtain rfl := Option.some.inj (hb.symm.trans hb')
      split <;> simp_all

theorem isAsciiKind_begins (c : Char) :
  IsAsciiKind (begins c)
  := by
  intro d h
  simp only [begins, Bool.or_eq_true, Bool.and_eq_true, beq_iff_eq] at h
  rcases h with (⟨-, rfl⟩ | ⟨-, rfl⟩) | ⟨-, rfl | hstart⟩
  · decide
  · decide
  · decide
  · apply isAsciiKind_isNameStart d hstart

/-- A character that begins nothing with the one behind it is passed byte by byte. -/
theorem run?_single {s : Scan} {c : Char} (h : sql.toList = front ++ c :: r)
    (hs : s.index = (spelling front).length) (hquote : isQuote c = false) (hdollar : c ≠ '$')
    (hnext : r.head?.any (begins c) = false) :
  s.run? sql = (s.moved (spelling (front ++ [c])).length).run? sql
  := by
  have hbytes : octets sql = spelling front ++ spelling [c] ++ spelling r := by
    rw [octets_eq_spelling, h, spelling_append, spelling_cons, List.append_assoc]
  have hpass := eq_behind (spelling front) (fun i => (s.moved i).run? sql) (spelling [c])
  rw [← spelling_append, ← hs] at hpass
  apply hpass
  intro before b after hblock
  have hb : (octets sql)[(spelling front ++ before).length]? = some b := by
    rw [hbytes, hblock]
    apply getElem?_of_block
  apply run?_of_step hb
  by_cases hc : c.toNat < 128
  · -- a character of ASCII is one byte, and the next byte is as the next character
    rw [spelling_of_lt hc, List.singleton_eq_append_iff] at hblock
    obtain ⟨rfl, hcons⟩ : before = [] ∧ b :: after = [c] := by
      simpa using hblock
    obtain ⟨rfl, -⟩ := List.cons.inj hcons
    rw [List.append_nil]
    apply step?_single _ hquote hdollar
    show (octets sql)[(spelling front).length + 1]?.any (begins b) = false
    rw [any_next hc h (isAsciiKind_begins b), hnext]
  · -- bytes beyond ASCII are no signs
    have hmem : b ∈ spelling [c] := by
      rw [hblock]
      simp
    have hbyte := le_of_mem_spelling (Nat.not_lt.mp hc) b hmem
    have hsign : b ∉ signs := by
      apply not_mem_signs_of (p := fun d => decide (128 ≤ d.toNat)) (by decide)
      rw [decide_eq_true_iff]
      apply hbyte
    apply step?_single _ (isQuote_of_not_mem_signs hsign)
    · rintro rfl
      apply hsign
      decide
    · rw [Option.any_eq_false]
      intro d _
      rw [begins_of_not_mem_signs hsign]

/-- A scan goes on behind the plain lexeme that it stands in front of. -/
theorem run?_plain {s : Scan} {c : Char} {cs : List Char} (h : sql.toList = front ++ c :: r)
    (hs : s.index = (spelling front).length) (hfirst : (first c r).1 = .plain cs) :
  s.run? sql = (s.moved (spelling (front ++ cs)).length).run? sql
  := by
  have hbyte : c.toNat < 128 → (octets sql)[s.index]? = some c := by
    intro hc
    rw [hs, octets_getElem?_eq_iff h hc]
    rfl
  unfold first at hfirst
  split at hfirst
  · obtain rfl := Lexeme.plain.inj hfirst
    apply run?_of_step (hbyte (by decide)) (step?_quoted hs (by decide) h)
  · obtain rfl := Lexeme.plain.inj hfirst
    apply run?_of_step (hbyte (by decide)) (step?_quoted hs (by decide) h)
  · obtain rfl := Lexeme.plain.inj hfirst
    apply run?_of_step (hbyte (by decide)) (step?_line hs h)
  · obtain rfl := Lexeme.plain.inj hfirst
    apply run?_of_step (hbyte (by decide)) (step?_comment hs h)
  · next d r =>
      split at hfirst
      · contradiction
      · next hdigit =>
          obtain rfl := Lexeme.plain.inj hfirst
          apply run?_of_step (hbyte (by decide)) (step?_dollar hs h _)
          simpa using hdigit
  · obtain rfl := Lexeme.plain.inj hfirst
    apply run?_of_step (hbyte (by decide)) (step?_serverName hs h)
  · next d r hat =>
      split at hfirst
      · contradiction
      · next hstart =>
          obtain rfl := Lexeme.plain.inj hfirst
          apply run?_single h hs (by decide) (by decide)
          have hd : d ≠ '@' := hat
          simp [begins, hd, hstart]
  · next hquote hname hline hcomment hdollar hserver hat =>
      obtain rfl := Lexeme.plain.inj hfirst
      by_cases hc : c = '$'
      · subst hc
        cases r with
        | nil => apply run?_of_step (hbyte (by decide)) (step?_dollar hs h rfl)
        | cons d r =>
            exfalso
            apply hdollar d r rfl rfl
      · apply run?_single h hs _ hc
        · rw [Option.any_eq_false]
          intro d hd
          rw [begins_eq_false hline hcomment hat d hd]
        · simp only [isQuote, Bool.or_eq_false_iff, beq_eq_false_iff_ne]
          apply And.intro hquote hname

/-- A first lexeme that is not plain has its end. -/
theorem leads_of_not_isPlain {c : Char} {r : List Char} (h : isPlain (first c r).1 = false) :
  Leads (first c r).1 (first c r).2
  := by
  apply (leads_first c r).resolve_right
  rintro ⟨-, hcut⟩
  rw [hcut.isPlain] at h
  contradiction

/-- A scan goes on behind the sign of the placeholder that it stands in front of. -/
theorem run?_placeholder {c : Char} (h : sql.toList = front ++ text ++ c :: r)
    (hfirst : (first c r).1 = .placeholder) (tokens : List Token) :
  (standing front text tokens).run? sql
    = (standing (front ++ text) ['$']
      (tokens ++ [.text (String.ofList text), .placeholder])).run? sql
  := by
  have htext := chars_first c r
  have hleads := leads_of_not_isPlain (c := c) (r := r) (by rw [hfirst]; rfl)
  rw [hfirst] at htext hleads
  change '$' :: (first c r).2 = c :: r at htext
  obtain ⟨rfl, hr⟩ := List.cons.inj htext
  rw [hr] at hleads
  apply run?_of_step _ (step?_placeholder h _ tokens)
  · rw [standing, octets_getElem?_eq_iff h (by decide)]
    rfl
  · cases hleads with
    | placeholder hdigit => apply hdigit

/-- A scan goes on behind the marker that it stands in front of. -/
theorem run?_marker {c : Char} {name : List Char} (h : sql.toList = front ++ text ++ c :: r)
    (hfirst : (first c r).1 = .marker name) (tokens : List Token) :
  (standing front text tokens).run? sql
    = (standing (front ++ text ++ '@' :: name) []
      (tokens ++ flushed text ++ [.marker (String.ofList name)])).run? sql
  := by
  have htext := chars_first c r
  have hleads := leads_of_not_isPlain (c := c) (r := r) (by rw [hfirst]; rfl)
  rw [hfirst] at htext hleads
  change '@' :: (name ++ (first c r).2) = c :: r at htext
  obtain ⟨rfl, hr⟩ := List.cons.inj htext
  generalize (first '@' r).2 = t at hleads hr
  subst hr
  cases hleads with
  | @marker d name t hd hname ht =>
      have hall : ∀ d' ∈ d :: name, isNameChar d' = true :=
        List.forall_mem_cons.mpr ⟨isNameChar_of_isNameStart hd, hname⟩
      have hstep := step?_marker h hd tokens
      rw [(takeWhile_name hall ht).1] at hstep
      apply run?_of_step _ hstep
      rw [standing, octets_getElem?_eq_iff h (by decide)]
      rfl

end Scan

/-! ### Runs -/

/-- The tokens of a text in front of lexemes: plain ones in a row are put together, and the dollar
sign of a placeholder with what follows it. -/
def grouped : (text : List Char) → List Lexeme → List Token
  | text, [] => flushed text
  | text, .plain cs :: ls => grouped (text ++ cs) ls
  | text, .placeholder :: ls => .text (String.ofList text) :: .placeholder :: grouped ['$'] ls
  | text, .marker name :: ls => flushed text ++ .marker (String.ofList name) :: grouped [] ls

theorem flatMap_chars_flushed (text : List Char) :
  (flushed text).flatMap Token.chars = text
  := by
  rw [flushed]
  split
  · next htext => rw [htext, List.flatMap_nil]
  · simp [Token.chars]

/-- Lexemes lose nothing when they are put together. -/
theorem flatMap_chars_grouped (text : List Char) (ls : List Lexeme) :
  (grouped text ls).flatMap Token.chars = text ++ joinedChars ls
  := by
  fun_induction grouped text ls with
  | case1 text => simp [flatMap_chars_flushed, joinedChars]
  | case2 text cs ls ih => simp [ih, joinedChars, Lexeme.chars]
  | case3 text ls ih => simp [ih, joinedChars, Lexeme.chars, Token.chars]
  | case4 text name ls ih =>
      simp [ih, flatMap_chars_flushed, joinedChars, Lexeme.chars, Token.chars]

namespace Scan

theorem run?_end {s : Scan} (hs : s.index = (octets sql).length) :
  s.run? sql = s.tokensThrough? sql (octets sql).length
  := by
  rw [run?]
  split
  · rfl
  · simp_all

/-- A scan in front of a text succeeds with the tokens of its lexemes. -/
theorem run?_standing {cs : List Char} (h : sql.toList = front ++ text ++ cs)
    (tokens : List Token) :
  (standing front text tokens).run? sql = some (tokens ++ grouped text (lexemes cs))
  := by
  fun_induction lexemes cs generalizing front text tokens with
  | case1 =>
      have hend : (octets sql).length = (spelling (front ++ text)).length := by
        rw [octets_eq_spelling, h, List.append_nil]
      rw [run?_end hend.symm, hend, tokensThrough?_standing h, grouped]
  | case2 c r ih =>
      have htext := chars_first c r
      cases hfirst : (first c r).1 with
      | plain cs =>
          have hmoved : (standing front text tokens).moved (spelling (front ++ text ++ cs)).length
              = standing front (text ++ cs) tokens := by
            simp [standing, moved]
          rw [run?_plain h rfl hfirst, hmoved, grouped, ih]
          rw [h, ← htext, hfirst]
          simp [Lexeme.chars]
      | placeholder =>
          rw [run?_placeholder h hfirst, grouped, ih, List.append_assoc]
          · rfl
          · rw [h, ← htext, hfirst]
            simp [Lexeme.chars]
      | marker name =>
          rw [run?_marker h hfirst, grouped, ih]
          · simp
          · rw [h, ← htext, hfirst]
            simp [Lexeme.chars]

end Scan

/-! ### Texts that lack the end of a region -/

/-- A text begins a literal, a quoted name or a comment that has no end in it: where one would end,
its quote is written twice. -/
def Endless (cs : List Char) : Prop :=
  (∃ opening, Opening opening ∧ opening <+: cs)
    ∧ ∀ region t, cs = region ++ t → Closed region →
      ∃ quote ∈ region.head?, isQuote quote = true ∧ quote ∈ t.head?

section

variable {c : Char} {r : List Char}

/-- A first lexeme that lacks its end is all of the text. -/
theorem first_of_isCut (h : IsCut (first c r).1) :
  first c r = (.plain (c :: r), [])
  := by
  have hrest : (first c r).2 = [] := by
    rcases leads_first c r with hleads | ⟨hrest, -⟩
    · exfalso
      apply hleads.not_isCut h
    · apply hrest
  have htext := chars_first c r
  obtain ⟨cs, hcs⟩ := exists_of_isPlain h.isPlain
  rw [hrest, hcs, List.append_nil] at htext
  apply Prod.ext
  · rw [hcs]
    congr
  · apply hrest

/-- A text begins a region without an end exactly when its first lexeme lacks its end. -/
theorem endless_iff_isCut :
  Endless (c :: r) ↔ IsCut (first c r).1
  := by
  constructor
  · rintro ⟨⟨opening, hopening, hstarts⟩, hclosed⟩
    rcases leads_first c r with hleads | ⟨-, hcut⟩
    · exfalso
      have htext := chars_first c r
      rw [← htext] at hstarts
      obtain ⟨region, hregion, hregionClosed, hhead⟩ := hleads.closed_of_opening hopening hstarts
      rw [hregion] at htext
      obtain ⟨quote, hquote, hisQuote, htwice⟩ := hclosed region _ htext.symm hregionClosed
      apply hhead quote hquote hisQuote htwice
    · apply hcut
  · intro hcut
    have hfirst := first_of_isCut hcut
    obtain ⟨hopening, hclosed⟩ := hcut
    rw [hfirst] at hopening hclosed
    use hopening
    intro region t htext hregion
    by_contra hnone
    have hleads : Leads (.plain region) t := by
      apply Leads.region hregion
      intro quote hquote hisQuote ht
      apply hnone ⟨quote, hquote, hisQuote, ht⟩
    have hlexemes := hleads.lexemes_append
    rw [Lexeme.chars, ← htext, lexemes, hfirst] at hlexemes
    obtain ⟨hplain, -⟩ := List.cons.inj hlexemes
    apply hclosed
    rw [hplain]
    apply hregion

/-- A step into a region without an end leads to the end of the text. -/
theorem Scan.step?_of_isCut {sql : String} {front : List Char} {s : Scan}
    (h : sql.toList = front ++ c :: r) (hs : s.index = (spelling front).length)
    (hcut : IsCut (first c r).1) :
  s.step? sql c = some (s.moved (octets sql).length)
  := by
  have hfirst := first_of_isCut hcut
  have hend : (octets sql).length = (spelling (front ++ c :: r)).length := by
    rw [octets_eq_spelling, h]
  have hchars : ∀ {opening : List Char} {halves : List Char × List Char},
      first c r = plainThen opening halves → opening ++ halves.1 = c :: r := by
    intro opening halves hhalves
    apply Lexeme.plain.inj
    apply congrArg Prod.fst (hhalves.symm.trans hfirst)
  obtain ⟨⟨opening, hopening, hstarts⟩, -⟩ := hcut
  rw [hfirst] at hstarts
  rw [hend]
  rcases opening_cases hopening hstarts with hquote | ⟨rfl, hnext⟩ | ⟨rfl, hnext⟩ | ⟨rfl, hopens⟩
  · rw [step?_quoted hs hquote h, ← hchars (first_of_isQuote hquote r)]
    rfl
  · obtain ⟨r, rfl⟩ := List.head?_eq_some_iff.mp hnext
    rw [step?_line hs h, ← hchars rfl]
    rfl
  · obtain ⟨r, rfl⟩ := List.head?_eq_some_iff.mp hnext
    rw [step?_comment hs h, ← hchars rfl]
    rfl
  · obtain ⟨tag, rest, htag, rfl⟩ := hopens
    have hdigit := isDigit_head?_tag htag rest
    have hany : (tag ++ '$' :: rest).head?.any Char.isDigit = false := by
      rw [Option.any_eq_false]
      intro d hd
      rw [hdigit d hd]
    rw [step?_dollar hs h hany, ← hchars (first_dollar hdigit)]
    rfl

end

/-- A scan goes through every text without slicing it within a character or beyond its end, and
without leaving a comment that it did not enter. Its tokens are the lexemes of the text, put
together, and joined again they are the text; a region without an end takes all that follows. -/
theorem tokens?_total (sql : String) :
  ∃ tokens, tokens? sql = some tokens ∧ tokens = grouped [] (lexemes sql.toList)
    ∧ tokens.flatMap Token.chars = sql.toList
    ∧ ∀ front c r, sql.toList = front ++ c :: r → Endless (c :: r) →
      ∀ s : Scan, s.index = (spelling front).length →
        s.step? sql c = some (s.moved (octets sql).length)
  := by
  use grouped [] (lexemes sql.toList)
  refine ⟨?_, rfl, ?_, ?_⟩
  · have htext : sql.toList = [] ++ [] ++ sql.toList := rfl
    apply Scan.run?_standing htext []
  · rw [flatMap_chars_grouped, joinedChars_lexemes, List.nil_append]
  · intro front c r h hendless s hs
    apply Scan.step?_of_isCut h hs (endless_iff_isCut.mp hendless)

/-- A quote that is not closed, behind characters beyond ASCII and in front of one. -/
theorem tokens?_total_unclosed :
  tokens? "é = @a AND b = 'ü" = some [.text "é = ", .marker "a", .text " AND b = 'ü"]
    ∧ Scan.step? "é = @a AND b = 'ü" ⟨16, 7, [.text "é = ", .marker "a"]⟩ '\''
      = some ⟨19, 7, [.text "é = ", .marker "a"]⟩
  := by
  obtain ⟨tokens, hrun, hgrouped, -, hendless⟩ := tokens?_total "é = @a AND b = 'ü"
  constructor
  · rw [hrun, hgrouped]
    decide +kernel
  · have hcut : IsCut (first '\'' ['ü']).1 := by
      use ⟨['\''], .quoted (by decide), by decide⟩
      intro hclosed
      obtain ⟨e, he, hlast⟩ := hclosed.getLast?
      obtain rfl := Option.some.inj hlast
      contradiction
    apply hendless "é = @a AND b = ".toList '\'' ['ü'] (by decide) (endless_iff_isCut.mpr hcut)
    decide +kernel

end BoundSql.Marker
