import BoundSql.Proofs.Guard.Lexeme
import BoundSql.Proofs.Text.Trim
import Mathlib.Data.List.Basic

/-!
# Blanks between lexemes

Behind a blank, and in front of one, the lexemes of a text are those that it has
on its own, provided that the text before the blank ends outside literals, quoted
names and comments. A text that does not end there takes in what follows it, up
to a character that ends a region.
-/

namespace BoundSql.Marker

open BoundSql.Text

/-! ### Blanks and signs -/

theorem isBlankChar_of_isAlpha {c : Char} (h : c.isAlpha = true) :
  isBlankChar c = false
  := by
  rw [isAlpha_iff] at h
  apply isBlankChar_of_letter
  · omega
  · omega

theorem isBlankChar_of_isNameChar {c : Char} (h : isNameChar c = true) :
  isBlankChar c = false
  := by
  simp only [isNameChar, Char.isAlphanum, Bool.or_eq_true, beq_iff_eq] at h
  rcases h with (halpha | hdigit) | rfl
  · apply isBlankChar_of_isAlpha halpha
  · apply isBlankChar_of_isDigit hdigit
  · decide

theorem isNameChar_of_isBlankChar {c : Char} (h : isBlankChar c = true) :
  isNameChar c = false
  := by
  rw [Bool.eq_false_iff]
  intro hname
  rw [isBlankChar_of_isNameChar hname] at h
  contradiction

theorem isDigit_of_isBlankChar {c : Char} (h : isBlankChar c = true) :
  c.isDigit = false
  := by
  rw [Bool.eq_false_iff]
  intro hdigit
  rw [isBlankChar_of_isDigit hdigit] at h
  contradiction

/-- The characters that may begin a lexeme together with others. -/
def signs : List Char :=
  ['\'', '"', '-', '/', '$', '@']

/-- A character of a class without signs is no sign. -/
theorem not_mem_signs_of {p : Char → Bool} (hp : signs.any p = false) {c : Char}
    (h : p c = true) :
  c ∉ signs
  := by
  intro hc
  rw [List.any_eq_false] at hp
  apply hp c hc h

theorem not_mem_signs_of_isBlankChar {c : Char} (h : isBlankChar c = true) :
  c ∉ signs
  := by
  apply not_mem_signs_of _ h
  decide

theorem isQuote_of_not_mem_signs {c : Char} (h : c ∉ signs) :
  isQuote c = false
  := by
  simp only [signs, List.mem_cons, not_or] at h
  simp [isQuote, h]

theorem begins_of_not_mem_signs {c : Char} (h : c ∉ signs) (d : Char) :
  begins c d = false
  := by
  simp only [signs, List.mem_cons, not_or] at h
  simp [begins, h]

/-- A character that is no sign leads whatever follows it. -/
theorem leads_of_not_mem_signs {c : Char} (h : c ∉ signs) (t : List Char) :
  Leads (.plain [c]) t
  := by
  apply Leads.single (isQuote_of_not_mem_signs h)
  · rintro rfl
    apply h
    decide
  · intro d _
    apply begins_of_not_mem_signs h

/-- Nothing begins with a sign and a blank. -/
theorem begins_of_isBlankChar {d : Char} (h : isBlankChar d = true) (c : Char) :
  begins c d = false
  := by
  have hsign := not_mem_signs_of_isBlankChar h
  have hname : isNameStart d = false := by
    rw [Bool.eq_false_iff]
    intro hstart
    rw [isBlankChar_of_isNameChar (isNameChar_of_isNameStart hstart)] at h
    contradiction
  simp only [signs, List.mem_cons, not_or] at hsign
  have hstar : d ≠ '*' := by
    rintro rfl
    contradiction
  simp [begins, hsign, hname, hstar]

/-- Characters as lexemes of their own. -/
def singles (cs : List Char) : List Lexeme :=
  cs.map fun c => .plain [c]

theorem joinedChars_singles (cs : List Char) :
  joinedChars (singles cs) = cs
  := by
  rw [joinedChars, singles, List.flatMap_map]
  apply List.flatMap_singleton'

/-- Characters that are no signs lead whatever follows them. -/
theorem leadAll_singles {cs : List Char} (h : ∀ c ∈ cs, c ∉ signs) (t : List Char) :
  LeadAll (singles cs) t
  := by
  induction cs with
  | nil => apply LeadAll.nil
  | cons c cs ih =>
      rw [List.forall_mem_cons] at h
      apply LeadAll.cons (leads_of_not_mem_signs h.1 _) (ih h.2)

/-- The last character of a text is a blank. -/
def EndsBlank (cs : List Char) : Prop :=
  ∃ c ∈ cs.getLast?, isBlankChar c = true

/-- The first character of a text is a blank. -/
def StartsBlank (cs : List Char) : Prop :=
  ∃ c ∈ cs.head?, isBlankChar c = true

/-- A blank ends a text or begins the one that follows it. -/
def Apart (cs ds : List Char) : Prop :=
  EndsBlank cs ∨ StartsBlank ds

theorem Apart.of_append {cs ds es : List Char} (h : Apart (cs ++ ds) es) (hne : ds ≠ []) :
  Apart ds es
  := by
  rw [Apart, EndsBlank, List.getLast?_append_of_ne_nil _ hne] at h
  apply h

/-- What holds of the head of a text holds of it behind a blank or with a blank as its head. -/
theorem Apart.forall_mem_head? (p : Char → Prop) {cs t s : List Char} (h : Apart (cs ++ t) s)
    (ht : ∀ d ∈ t.head?, p d) (hblank : ∀ d, isBlankChar d = true → p d)
    (hcs : ∀ c ∈ cs.getLast?, isBlankChar c = true → ∀ d, p d) :
  ∀ d ∈ (t ++ s).head?, p d
  := by
  cases t with
  | cons c t => apply ht
  | nil =>
      intro d hd
      rw [List.append_nil] at h
      rcases h with ⟨c, hc, hblankC⟩ | ⟨d', hd', hblankD⟩
      · apply hcs c hc hblankC
      · obtain rfl := Option.mem_unique hd hd'
        apply hblank d hblankD

/-- A closed region that begins with a quote ends with it. -/
theorem getLast?_of_closed {cs : List Char} (h : Closed cs) {quote : Char}
    (hhead : quote ∈ cs.head?) (hquote : isQuote quote = true) :
  cs.getLast? = some quote
  := by
  cases h with
  | quoted _ _ =>
      obtain rfl := Option.some.inj hhead
      rw [← List.cons_append, List.getLast?_concat]
  | _ =>
      obtain rfl := Option.some.inj hhead
      contradiction

/-- A text in which no literal is opened opens none before a blank either. -/
theorem Apart.not_opensLiteral {t s : List Char} (h : Apart ('$' :: t) s) (ht : ¬ OpensLiteral t) :
  ¬ OpensLiteral (t ++ s)
  := by
  rintro ⟨tag, r, htag, hr⟩
  have hfree : ∀ c ∈ '$' :: tag, isBlankChar c = false := by
    rw [List.forall_mem_cons]
    use by decide
    intro c hc
    apply isBlankChar_of_isNameChar (isNameChar_of_isNameStart (htag c hc))
  -- the tag of a literal ends behind the text, since the text opens none
  obtain ⟨rest, htag', hs⟩ : ∃ rest, tag = t ++ rest ∧ s = rest ++ '$' :: r := by
    rcases List.append_eq_append_iff.mp hr with h' | ⟨cs, rfl, hcs⟩
    · apply h'
    · cases cs with
      | nil => exact ⟨[], by simp, by simpa using hcs.symm⟩
      | cons c cs =>
          obtain ⟨rfl, -⟩ := List.cons.inj hcs
          exfalso
          apply ht ⟨tag, cs, htag, rfl⟩
  rcases h with ⟨c, hc, hblank⟩ | ⟨d, hd, hblank⟩
  · have hmem : c ∈ '$' :: tag := by
      have hc' := List.mem_of_getLast? hc
      rw [htag', ← List.cons_append]
      apply List.mem_append_left _ hc'
    rw [hfree c hmem] at hblank
    contradiction
  · have hmem : d ∈ '$' :: tag := by
      rw [hs] at hd
      cases rest with
      | nil =>
          obtain rfl := Option.some.inj hd
          apply List.mem_cons_self
      | cons c rest =>
          obtain rfl := Option.some.inj hd
          simp [htag']
    rw [hfree d hmem] at hblank
    contradiction

/-- No blank stands among signs at and the characters of names. -/
theorem isBlankChar_of_mem_name {name : List Char} (h : ∀ c ∈ name, isNameChar c = true) :
  ∀ c ∈ '@' :: name, isBlankChar c = false
  := by
  rw [List.forall_mem_cons]
  use by decide
  intro c hc
  apply isBlankChar_of_isNameChar (h c hc)

/-- A name that ends in front of a text ends in front of one more when a blank stands between. -/
theorem Apart.isNameChar_head? (front : List Char) {name t s : List Char}
    (hs : Apart (front ++ '@' :: name ++ t) s) (h : ∀ c ∈ name, isNameChar c = true)
    (ht : ∀ c ∈ t.head?, isNameChar c = false) :
  ∀ c ∈ (t ++ s).head?, isNameChar c = false
  := by
  apply hs.forall_mem_head? (isNameChar · = false) ht (fun _ => isNameChar_of_isBlankChar)
  intro c hc hblank
  rw [List.getLast?_append_of_ne_nil _ (List.cons_ne_nil _ _)] at hc
  rw [isBlankChar_of_mem_name h c (List.mem_of_getLast? hc)] at hblank
  contradiction

/-- A lexeme that leads a text leads it before another as well when a blank stands between. -/
theorem Leads.append {l : Lexeme} {t s : List Char} (h : Leads l t) (hs : Apart (l.chars ++ t) s) :
  Leads l (t ++ s)
  := by
  cases h with
  | @region cs t h ht =>
      apply Leads.region h
      intro quote hhead hquote
      have hblank : ∀ c, isBlankChar c = true → c ≠ quote := by
        rintro c hblank rfl
        rw [isQuote_of_not_mem_signs (not_mem_signs_of_isBlankChar hblank)] at hquote
        contradiction
      suffices hother : ∀ d ∈ (t ++ s).head?, d ≠ quote by
        intro hd
        apply hother quote hd rfl
      apply hs.forall_mem_head? (· ≠ quote) _ hblank
      · intro c hc hblankC
        have hend := getLast?_of_closed h hhead hquote
        obtain rfl := Option.some.inj (hend.symm.trans hc)
        exfalso
        apply hblank _ hblankC rfl
      · rintro d hd rfl
        apply ht d hhead hquote hd
  | @serverName name t h ht =>
      apply Leads.serverName h
      apply hs.isNameChar_head? ['@'] h ht
  | @marker c name t hc h ht =>
      apply Leads.marker hc h
      have hname : ∀ d ∈ c :: name, isNameChar d = true :=
        List.forall_mem_cons.mpr ⟨isNameChar_of_isNameStart hc, h⟩
      apply hs.isNameChar_head? [] hname ht
  | placeholder hd => apply Leads.placeholder hd
  | @dollar t hdigit ht =>
      apply Leads.dollar _ (hs.not_opensLiteral ht)
      apply hs.forall_mem_head? (Char.isDigit · = false) hdigit
      · intro d hblank
        apply isDigit_of_isBlankChar hblank
      · rintro c ⟨⟩ hblank
        contradiction
  | @single c t hquote hdollar ht =>
      apply Leads.single hquote hdollar
      apply hs.forall_mem_head? (begins c · = false) ht
      · intro d hblank
        apply begins_of_isBlankChar hblank
      · rintro d ⟨⟩ hblank
        apply begins_of_not_mem_signs (not_mem_signs_of_isBlankChar hblank)

/-- Lexemes in front of a text are in front of it before another as well when a blank stands
between. -/
theorem LeadAll.before {ls : List Lexeme} {t s : List Char} (h : LeadAll ls t)
    (hs : Apart (joinedChars ls ++ t) s) :
  LeadAll ls (t ++ s)
  := by
  induction h with
  | nil t => apply LeadAll.nil
  | @cons l ls t hl hall ih =>
      rw [joinedChars, List.flatMap_cons, ← joinedChars, List.append_assoc] at hs
      have hleads := hl.append hs
      rw [List.append_assoc] at hleads
      apply LeadAll.cons hleads
      by_cases hne : joinedChars ls ++ t = []
      · rw [List.append_eq_nil_iff] at hne
        cases hall with
        | nil => apply LeadAll.nil
        | cons hl' _ =>
            exfalso
            apply hl'.chars_ne_nil
            rw [joinedChars, List.flatMap_cons] at hne
            apply (List.append_eq_nil_iff.mp hne.1).1
      · apply ih (hs.of_append hne)

/-- A text ends outside literals, quoted names and comments. -/
def EndsPlain (cs : List Char) : Prop :=
  ∀ l ∈ (lexemes cs).getLast?, ¬ IsCut l

theorem EndsPlain.leadAll {cs : List Char} (h : EndsPlain cs) :
  LeadAll (lexemes cs) []
  := by
  obtain ⟨ls, rest, hcs, hlexemes, hall, rfl | ⟨l, hl, hcut⟩⟩ := exists_leadAll cs
  · rw [hlexemes, lexemes_nil, List.append_nil]
    apply hall
  · exfalso
    apply h l _ hcut
    rw [hlexemes, hl, List.getLast?_concat]
    rfl

/-- Behind a blank, the lexemes of a text are those that it has on its own. -/
theorem EndsPlain.lexemes_append {cs ds : List Char} (h : EndsPlain cs) (hblank : Apart cs ds) :
  lexemes (cs ++ ds) = lexemes cs ++ lexemes ds
  := by
  have hall := h.leadAll.before (s := ds) (by rwa [joinedChars_lexemes, List.append_nil])
  have hlexemes := hall.lexemes_append
  rwa [joinedChars_lexemes] at hlexemes

/-! ### Texts that lack the end of a region -/

/-- A region begins with a quote or with two characters that open it together. -/
theorem opening_cases {opening r : List Char} {c : Char} (h : Opening opening)
    (hstarts : opening <+: c :: r) :
  isQuote c = true ∨ c = '-' ∧ '-' ∈ r.head? ∨ c = '/' ∧ '*' ∈ r.head? ∨ c = '$' ∧ OpensLiteral r
  := by
  obtain ⟨rest, hrest⟩ := hstarts
  cases h with
  | quoted hquote =>
      left
      obtain ⟨rfl, -⟩ := List.cons.inj hrest
      apply hquote
  | line =>
      right; left
      obtain ⟨rfl, rfl⟩ := List.cons.inj hrest
      apply And.intro rfl rfl
  | comment =>
      right; right; left
      obtain ⟨rfl, rfl⟩ := List.cons.inj hrest
      apply And.intro rfl rfl
  | @dollar tag htag =>
      right; right; right
      obtain ⟨rfl, rfl⟩ := List.cons.inj hrest
      use rfl, tag, rest, htag
      apply List.append_assoc

/-- Whether a lexeme is neither a marker nor the sign of a placeholder. -/
def isPlain : Lexeme → Bool
  | .plain _ => true
  | _ => false

theorem exists_of_isPlain {l : Lexeme} (h : isPlain l = true) :
  ∃ cs, l = .plain cs
  := by
  cases l with
  | plain cs => use cs
  | _ => contradiction

theorem isPlain_singles (cs : List Char) :
  ∀ l ∈ singles cs, isPlain l = true
  := by
  intro l hl
  obtain ⟨c, -, rfl⟩ := List.mem_map.mp hl
  rfl

/-- A lexeme that lacks its end is plain. -/
theorem IsCut.isPlain {l : Lexeme} (h : IsCut l) :
  isPlain l = true
  := by
  obtain ⟨⟨opening, hopening, hstarts⟩, -⟩ := h
  cases l with
  | plain cs => rfl
  | _ =>
      have hcases := opening_cases hopening hstarts
      simp [isQuote, OpensLiteral] at hcases

/-- A lexeme that leads a text and begins like a region has its end. -/
theorem Leads.closed_of_opening {l : Lexeme} {t opening : List Char} (h : Leads l t)
    (hopening : Opening opening) (hstarts : opening <+: l.chars ++ t) :
  ∃ cs, l = .plain cs ∧ Closed cs ∧ ∀ quote ∈ cs.head?, isQuote quote = true → quote ∉ t.head?
  := by
  cases h with
  | @region cs t h ht => use cs, rfl, h
  | serverName h ht =>
      have hcases := opening_cases hopening hstarts
      simp [isQuote] at hcases
  | marker hc h ht =>
      have hcases := opening_cases hopening hstarts
      simp [isQuote] at hcases
  | @placeholder d t hd =>
      rcases opening_cases hopening hstarts with h | ⟨h, -⟩ | ⟨h, -⟩ | ⟨-, tag, r, htag, htext⟩
      · contradiction
      · contradiction
      · contradiction
      · have hdigit := isDigit_head?_tag htag r d (htext ▸ rfl)
        rw [hd] at hdigit
        contradiction
  | dollar hdigit ht =>
      rcases opening_cases hopening hstarts with h | ⟨h, -⟩ | ⟨h, -⟩ | ⟨-, h⟩
      · contradiction
      · contradiction
      · contradiction
      · exfalso
        apply ht h
  | single hquote hdollar ht =>
      exfalso
      rcases opening_cases hopening hstarts with h | ⟨rfl, h⟩ | ⟨rfl, h⟩ | ⟨rfl, -⟩
      · rw [hquote] at h
        contradiction
      · have hbegins := ht _ h
        contradiction
      · have hbegins := ht _ h
        contradiction
      · apply hdollar rfl

/-- A lexeme that leads a text has its end. -/
theorem Leads.not_isCut {l : Lexeme} {t : List Char} (h : Leads l t) :
  ¬ IsCut l
  := by
  rintro ⟨⟨opening, hopening, hstarts⟩, hclosed⟩
  obtain ⟨cs, rfl, hcs, -⟩ := h.closed_of_opening hopening (hstarts.trans (List.prefix_append _ t))
  apply hclosed hcs

theorem LeadAll.not_isCut {ls : List Lexeme} {t : List Char} (h : LeadAll ls t) :
  ∀ l ∈ ls, ¬ IsCut l
  := by
  induction h with
  | nil => simp
  | cons h hs ih =>
      rw [List.forall_mem_cons]
      apply And.intro h.not_isCut ih

/-- Lexemes that lead nothing are those of a text that ends plain. -/
theorem LeadAll.endsPlain {ls : List Lexeme} (h : LeadAll ls []) :
  EndsPlain (joinedChars ls)
  := by
  intro l hl
  have hlexemes := h.lexemes_append
  rw [List.append_nil, lexemes_nil, List.append_nil] at hlexemes
  rw [hlexemes] at hl
  apply h.not_isCut l (List.mem_of_getLast? hl)

theorem endsPlain_of_not_mem_signs {cs : List Char} (h : ∀ c ∈ cs, c ∉ signs) :
  EndsPlain cs
  := by
  have hends := (leadAll_singles h []).endsPlain
  rwa [joinedChars_singles] at hends

/-- The characters that end regions. -/
def endings : List Char :=
  ['\'', '"', '\n', '/', '$']

theorem Comment.getLast? {depth : Nat} {cs : List Char} (h : Comment depth cs) :
  cs.getLast? = some '/'
  := by
  have hcons : ∀ {c : Char} {cs : List Char}, cs.getLast? = some '/' →
      (c :: cs).getLast? = some '/' := by
    intro c cs h
    rw [List.getLast?_cons, h]
    rfl
  induction h with
  | close => rfl
  | enter _ ih => apply hcons (hcons ih)
  | leave _ ih => apply hcons (hcons ih)
  | cons _ _ _ ih => apply hcons ih

/-- A closed region ends with one of the endings. -/
theorem Closed.getLast? {cs : List Char} (h : Closed cs) :
  ∃ c ∈ endings, cs.getLast? = some c
  := by
  cases h with
  | @quoted quote inner hquote h =>
      simp only [isQuote, Bool.or_eq_true, beq_iff_eq] at hquote
      use quote
      rw [← List.cons_append, List.getLast?_concat]
      rcases hquote with rfl | rfl
      · decide
      · decide
  | @line inner h =>
      use '\n', by decide
      rw [← List.cons_append, ← List.cons_append, List.getLast?_concat]
  | @comment inner h =>
      use '/', by decide
      rw [List.getLast?_cons, List.getLast?_cons, h.getLast?]
      rfl
  | @dollar tag inner htag h =>
      obtain ⟨body, rfl⟩ := h.1
      use '$', by decide
      rw [delimiter, ← List.append_assoc, ← List.append_assoc, List.getLast?_concat]

/-- A text that is no region is none either with characters behind it that end none. -/
theorem not_closed_append {cs s : List Char} (hcs : ¬ Closed cs) (hs : ∀ c ∈ s, c ∉ endings) :
  ¬ Closed (cs ++ s)
  := by
  intro h
  cases s with
  | nil =>
      rw [List.append_nil] at h
      apply hcs h
  | cons d s =>
      obtain ⟨e, he, hlast⟩ := h.getLast?
      rw [List.getLast?_append_of_ne_nil _ (List.cons_ne_nil d s)] at hlast
      apply hs e (List.mem_of_getLast? hlast) he

/-- A text that lacks the end of a region takes another text into the region when that one has none
of the endings. -/
theorem IsCut.swallows {cs : List Char} {l : Lexeme} (hcut : IsCut l) (hcs : lexemes cs = [l])
    {s : List Char} (hs : ∀ c ∈ s, c ∉ endings) :
  ∃ l', lexemes (cs ++ s) = [l'] ∧ IsCut l'
  := by
  have hchars : l.chars = cs := by
    have hjoined := joinedChars_lexemes cs
    rw [hcs] at hjoined
    simpa [joinedChars] using hjoined
  obtain ⟨⟨opening, hopening, hstarts⟩, hclosed⟩ := hcut
  rw [hchars] at hstarts hclosed
  obtain ⟨c, r, rfl⟩ : ∃ c r, cs = c :: r := by
    apply List.exists_cons_of_ne_nil
    rintro rfl
    rw [lexemes_nil] at hcs
    contradiction
  rcases leads_first c (r ++ s) with hleads | ⟨hrest, hcut'⟩
  · exfalso
    have htext := chars_first c (r ++ s)
    rw [← List.cons_append] at htext
    have hstarts' : opening <+: (first c (r ++ s)).1.chars ++ (first c (r ++ s)).2 := by
      rw [htext]
      apply hstarts.trans (List.prefix_append _ s)
    obtain ⟨region, hregion, hregionClosed, hhead⟩ := hleads.closed_of_opening hopening hstarts'
    rw [hregion] at htext
    rcases List.append_eq_append_iff.mp htext with ⟨m, hm, hrest⟩ | ⟨m, hm, hsm⟩
    · -- the region would be a lexeme of the text, and its only one
      have hleads' : Leads (.plain region) m := by
        apply Leads.region hregionClosed
        intro quote hquote hisQuote hm'
        apply hhead quote hquote hisQuote
        rw [hrest, List.head?_append, hm']
        rfl
      have hlexemes := hleads'.lexemes_append
      rw [← hm, hcs] at hlexemes
      obtain ⟨rfl, hnil⟩ := List.cons.inj hlexemes
      apply hclosed
      rw [← hchars]
      apply hregionClosed
    · -- the region would end with what is taken into it
      change region = c :: r ++ m at hm
      rw [hm] at hregionClosed
      apply not_closed_append hclosed _ hregionClosed
      intro d hd
      apply hs d
      rw [hsm]
      apply List.mem_append_left _ hd
  · use (first c (r ++ s)).1
    rw [List.cons_append, lexemes, hrest, lexemes_nil]
    apply And.intro rfl hcut'

end BoundSql.Marker
