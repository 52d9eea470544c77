import BoundSql.Proofs.Guard.Boundary

/-!
# Sealed regions

A region between blanks is sealed when it shows no marks of its own, hides none
of those around it, and is kept letter for letter when the markers are replaced.
Literals, quoted names and comments are sealed, and so are dollar-quoted literals
whose tags are made of letters and underscores. Any other tag is plain text, and
the literal is sealed exactly when what begins with its second dollar sign shows
no marks and opens no region that it does not close.
-/

namespace BoundSql.Marker

open BoundSql.Text

/-! ### Dollar-quoted literals -/

/-- A text up to its first dollar sign. -/
theorem tag_unique {tag tag' t t' : List Char} (htag : '$' ∉ tag) (htag' : '$' ∉ tag')
    (h : tag ++ '$' :: t = tag' ++ '$' :: t') :
  tag = tag' ∧ t = t'
  := by
  have htake : ∀ {cs : List Char} (r : List Char), '$' ∉ cs →
      (cs ++ '$' :: r).takeWhile (· != '$') = cs := by
    intro cs r hcs
    rw [List.takeWhile_append_of_pos]
    · simp
    · rintro c hc
      rw [bne_iff_ne]
      rintro rfl
      apply hcs hc
  have heq := congrArg (List.takeWhile (· != '$')) h
  rw [htake t htag, htake t' htag'] at heq
  subst heq
  use rfl
  apply (List.cons.inj (List.append_cancel_left h)).2

/-- A delimiter that begins in a text without it ends with the delimiter that follows the text, or
shares one dollar sign with it. -/
theorem delimiter_overlap {tag body front back : List Char} (htag : '$' ∉ tag)
    (hbody : ¬ delimiter tag <:+: body)
    (h : front ++ (delimiter tag ++ back) = body ++ delimiter tag) (hback : back ≠ []) :
  body = front ++ '$' :: tag
  := by
  have hpos := List.length_pos_iff.mpr hback
  rcases List.append_eq_append_iff.mp h with ⟨m, rfl, hm⟩ | ⟨m, -, hm⟩
  · rcases List.append_eq_append_iff.mp hm with ⟨a, rfl, -⟩ | ⟨n, hn, hn'⟩
    · exfalso
      apply hbody
      use front, a
      rw [List.append_assoc]
    · have hlength := congrArg List.length (hn.symm.trans hn')
      simp only [List.length_append] at hlength
      cases m with
      | nil =>
          rw [List.length_nil] at hlength
          omega
      | cons c m =>
          cases n with
          | nil =>
              rw [List.append_nil] at hn
              exfalso
              apply hbody
              rw [hn]
              apply List.IsSuffix.isInfix (List.suffix_append front _)
          | cons d n =>
              obtain ⟨rfl, htail⟩ := List.cons.inj hn
              obtain ⟨rfl, -⟩ := List.cons.inj hn'
              obtain ⟨rfl, -⟩ :=
                (List.append_cons_inj_of_notMem htag List.not_mem_nil).mp htail
              rfl
  · have hlength := congrArg List.length hm
    simp only [List.length_append] at hlength
    omega

/-- The first delimiter behind a text without it is the one that follows the text, or one that
shares a dollar sign with it. -/
theorem endsFirst_delimiter {tag body : List Char} (htag : '$' ∉ tag)
    (hbody : ¬ delimiter tag <:+: body) :
  EndsFirst (delimiter tag) (body ++ delimiter tag)
    ∨ EndsFirst (delimiter tag) (body ++ ['$'])
  := by
  by_cases hfirst : EndsFirst (delimiter tag) (body ++ delimiter tag)
  · left
    apply hfirst
  · right
    simp only [EndsFirst, List.suffix_append, true_and, not_forall] at hfirst
    obtain ⟨front, back, h, hback⟩ := hfirst
    rw [List.append_assoc] at h
    obtain rfl := delimiter_overlap htag hbody h hback
    constructor
    · use front
      simp [delimiter]
    · intro front' back' h'
      rcases List.eq_nil_or_concat back' with hnil | ⟨rest, d, rfl⟩
      · apply hnil
      · exfalso
        apply hbody
        rw [List.concat_eq_append, ← List.append_assoc] at h'
        use front', rest
        apply (List.append_inj' h' rfl).1

/-- Whether a tag may start with the character. -/
def isTagStart (c : Char) : Bool :=
  isNameStart c || decide (128 ≤ c.toNat)

/-- Whether a tag may go on with the character. -/
def isTagChar (c : Char) : Bool :=
  isNameChar c || decide (128 ≤ c.toNat)

/-- A tag is empty or made like a name; letters beyond ASCII are letters. -/
inductive IsTag : List Char → Prop where
  | nil : IsTag []
  | cons {c : Char} {cs : List Char} (hc : isTagStart c = true)
      (h : ∀ d ∈ cs, isTagChar d = true) : IsTag (c :: cs)

theorem isTagChar_of_isTagStart {c : Char} (h : isTagStart c = true) :
  isTagChar c = true
  := by
  simp only [isTagStart, isTagChar, Bool.or_eq_true] at *
  rcases h with h | h
  · left
    apply isNameChar_of_isNameStart h
  · right
    apply h

/-- The characters of tags are no signs. -/
theorem not_mem_signs_of_isTagChar {c : Char} (h : isTagChar c = true) :
  c ∉ signs
  := by
  apply not_mem_signs_of _ h
  decide

theorem IsTag.not_mem_signs {tag : List Char} (h : IsTag tag) :
  ∀ c ∈ tag, c ∉ signs
  := by
  cases h with
  | nil => simp
  | cons hc h =>
      rw [List.forall_mem_cons]
      use not_mem_signs_of_isTagChar (isTagChar_of_isTagStart hc)
      intro d hd
      apply not_mem_signs_of_isTagChar (h d hd)

theorem IsTag.not_mem_dollar {tag : List Char} (h : IsTag tag) :
  '$' ∉ tag
  := by
  intro hdollar
  apply h.not_mem_signs '$' hdollar
  decide

/-- The dollar sign in front of a tag with a digit, or with a letter beyond ASCII, opens nothing. -/
theorem IsTag.leads {tag : List Char} (h : IsTag tag) (hname : ¬ ∀ c ∈ tag, isNameStart c = true)
    (t : List Char) :
  Leads (.plain ['$']) (tag ++ '$' :: t)
  := by
  apply Leads.dollar
  · cases h with
    | nil => simp
    | @cons c cs hc h =>
        rintro _ ⟨⟩
        rw [isTagStart, Bool.or_eq_true, decide_eq_true_iff] at hc
        rcases hc with hc | hc
        · apply isDigit_of_isNameStart hc
        · rw [Bool.eq_false_iff]
          intro hdigit
          rw [isDigit_iff] at hdigit
          omega
  · rintro ⟨tag', r, htag', htext⟩
    apply hname
    have hdollar : '$' ∉ tag' := by
      intro hmem
      have hstart := htag' '$' hmem
      contradiction
    obtain ⟨rfl, -⟩ := tag_unique h.not_mem_dollar hdollar htext
    apply htag'

/-! ### Regions between blanks -/

/-- A literal, a quoted name or a comment, as the server reads them. -/
inductive Region : List Char → Prop where
  | quoted {quote : Char} {cs : List Char} (hquote : isQuote quote = true) (h : Inside quote cs) :
      Region (quote :: (cs ++ [quote]))
  | line {cs : List Char} (h : '\n' ∉ cs) : Region ('-' :: '-' :: (cs ++ ['\n']))
  | comment {cs : List Char} (h : Comment 0 cs) : Region ('/' :: '*' :: cs)
  | dollar {tag body : List Char} (htag : IsTag tag) (hbody : ¬ delimiter tag <:+: body) :
      Region (delimiter tag ++ body ++ delimiter tag)

/-- The markers and the signs of placeholders of a text, in order. -/
def marks (sql : String) : List Lexeme :=
  (lexemes sql.toList).filter fun l => !isPlain l

/-- A region between two texts shows no marks and hides none, and it is kept when the markers are
replaced. -/
structure Sealed (before region after : String) : Prop where
  marks : marks (before ++ region ++ after) = marks before ++ marks after
  kept : ∀ names, withPlaceholders names (before ++ region ++ after)
    = withPlaceholders names before ++ region ++ withPlaceholders names after

theorem filter_of_isPlain {ls : List Lexeme} (h : ∀ l ∈ ls, isPlain l = true) :
  (ls.filter fun l => !isPlain l) = []
  := by
  rw [List.filter_eq_nil_iff]
  intro l hl
  simp [h l hl]

theorem flatMap_numbered_of_isPlain {ls : List Lexeme} (h : ∀ l ∈ ls, isPlain l = true)
    (names : List String) :
  ls.flatMap (numbered names) = joinedChars ls
  := by
  apply List.flatMap_congr
  intro l hl
  obtain ⟨cs, rfl⟩ := exists_of_isPlain (h l hl)
  rfl

/-- A region is sealed when its lexemes are plain and stand between those of the texts. -/
theorem sealed_of_lexemes {before region after : String} {ls : List Lexeme}
    (hregion : region.toList = joinedChars ls) (hplain : ∀ l ∈ ls, isPlain l = true)
    (h : lexemes (before.toList ++ (region.toList ++ after.toList))
      = lexemes before.toList ++ (ls ++ lexemes after.toList)) :
  Sealed before region after
  := by
  have htext : lexemes (before ++ region ++ after).toList
      = lexemes before.toList ++ (ls ++ lexemes after.toList) := by
    rw [String.toList_append, String.toList_append, List.append_assoc, h]
  constructor
  · rw [marks, htext, List.filter_append, List.filter_append, filter_of_isPlain hplain,
      List.nil_append]
    rfl
  · intro names
    apply String.toList_injective
    rw [String.toList_append, String.toList_append, withPlaceholders, String.toList_ofList, htext,
      List.flatMap_append, List.flatMap_append, flatMap_numbered_of_isPlain hplain, hregion]
    simp [withPlaceholders]

/-- A dollar sign in front of a blank stands alone. -/
theorem leads_dollar_of_startsBlank {t : List Char} (ht : StartsBlank t) :
  Leads (.plain ['$']) t
  := by
  obtain ⟨c, hc, hblank⟩ := ht
  obtain ⟨t, rfl⟩ := List.head?_eq_some_iff.mp hc
  apply Leads.dollar
  · rintro _ ⟨⟩
    apply isDigit_of_isBlankChar hblank
  · rintro ⟨tag, r, htag, htext⟩
    cases tag with
    | nil =>
        obtain ⟨rfl, -⟩ := List.cons.inj htext
        apply absurd hblank
        decide
    | cons d tag =>
        obtain ⟨rfl, -⟩ := List.cons.inj htext
        have hname := isNameChar_of_isNameStart (htag c List.mem_cons_self)
        rw [isBlankChar_of_isNameChar hname] at hblank
        contradiction

/-- A dollar-quoted literal leads whatever follows it. -/
theorem leads_dollarQuoted {tag cs : List Char} (htag : ∀ c ∈ tag, isNameStart c = true)
    (h : EndsFirst (delimiter tag) cs) (t : List Char) :
  Leads (.plain (delimiter tag ++ cs)) t
  := by
  apply Leads.region (.dollar htag h)
  rintro quote ⟨⟩ hquote
  contradiction

/-- A dollar-quoted literal with a tag of letters is one lexeme, or it is one up to the dollar sign
that the delimiter at its end shares with an earlier one. -/
theorem exists_leadAll_of_letters {tag body t : List Char} (htag : IsTag tag)
    (hletters : ∀ c ∈ tag, isNameStart c = true) (hbody : ¬ delimiter tag <:+: body)
    (ht : StartsBlank t) :
  ∃ ls, delimiter tag ++ body ++ delimiter tag = joinedChars ls ∧ (∀ l ∈ ls, isPlain l = true)
    ∧ LeadAll ls t
  := by
  rcases endsFirst_delimiter htag.not_mem_dollar hbody with hfirst | hfirst
  · use [.plain (delimiter tag ++ (body ++ delimiter tag))]
    refine ⟨?_, by simp [isPlain], ?_⟩
    · simp [joinedChars, Lexeme.chars]
    · apply LeadAll.cons (leads_dollarQuoted hletters hfirst _) (.nil t)
  · use .plain (delimiter tag ++ (body ++ ['$'])) :: (singles tag ++ [.plain ['$']])
    refine ⟨?_, ?_, ?_⟩
    · rw [joinedChars, List.flatMap_cons, ← joinedChars, joinedChars_append, joinedChars_singles]
      simp [joinedChars, Lexeme.chars, delimiter]
    · simp only [List.forall_mem_cons, List.forall_mem_append]
      use rfl, isPlain_singles tag, rfl
      simp
    · apply LeadAll.cons (leads_dollarQuoted hletters hfirst _)
      apply LeadAll.append (leadAll_singles htag.not_mem_signs _)
      apply LeadAll.cons _ (.nil t)
      apply leads_dollar_of_startsBlank ht

/-- The lexemes of a dollar-quoted literal up to its second dollar sign, when its tag is not made of
letters. -/
theorem leadAll_tag {tag : List Char} (htag : IsTag tag)
    (hletters : ¬ ∀ c ∈ tag, isNameStart c = true) (t : List Char) :
  LeadAll (.plain ['$'] :: singles tag) ('$' :: t)
  := by
  apply LeadAll.cons
  · rw [joinedChars_singles]
    apply htag.leads hletters
  · apply leadAll_singles htag.not_mem_signs

theorem joinedChars_tag (tag : List Char) :
  joinedChars (.plain ['$'] :: singles tag) = '$' :: tag
  := by
  rw [joinedChars, List.flatMap_cons, ← joinedChars, joinedChars_singles]
  rfl

theorem sealed_of_leadAll {before region after : String} {ls : List Lexeme}
    (hbefore : EndsPlain before.toList) (hblank : EndsBlank before.toList)
    (hregion : region.toList = joinedChars ls) (hplain : ∀ l ∈ ls, isPlain l = true)
    (hls : LeadAll ls after.toList) :
  Sealed before region after
  := by
  apply sealed_of_lexemes hregion hplain
  rw [hbefore.lexemes_append (Or.inl hblank), hregion, hls.lexemes_append]

/-- A closed region is a plain lexeme in front of a blank. -/
theorem Closed.leadAll {cs t : List Char} (h : Closed cs) (ht : StartsBlank t) :
  LeadAll [.plain cs] t
  := by
  apply LeadAll.cons _ (.nil t)
  apply Leads.region h
  rintro quote - hquote hhead
  obtain ⟨c, hc, hblank⟩ := ht
  obtain rfl := Option.mem_unique hhead hc
  rw [isQuote_of_not_mem_signs (not_mem_signs_of_isBlankChar hblank)] at hquote
  contradiction

/-- A text shows no marks and ends outside literals, quoted names and comments. -/
def ShowsNothing (cs : List Char) : Prop :=
  (∀ l ∈ lexemes cs, isPlain l = true) ∧ EndsPlain cs

/-- The lexemes of a region in front of a blank are plain, when those of a literal with a tag that
is not made of letters are from its second dollar sign on. -/
theorem Region.exists_leadAll {region t : List Char} (h : Region region) (ht : StartsBlank t)
    (htail : ∀ tag body, IsTag tag → region = delimiter tag ++ body ++ delimiter tag →
      (∀ c ∈ tag, isNameStart c = true) ∨ ShowsNothing ('$' :: (body ++ delimiter tag))) :
  ∃ ls, region = joinedChars ls ∧ (∀ l ∈ ls, isPlain l = true) ∧ LeadAll ls t
  := by
  have hclosed : Closed region →
      ∃ ls, region = joinedChars ls ∧ (∀ l ∈ ls, isPlain l = true) ∧ LeadAll ls t := by
    intro hclosed
    use [.plain region], by simp [joinedChars, Lexeme.chars], by simp [isPlain], hclosed.leadAll ht
  cases h with
  | quoted hquote h => apply hclosed (.quoted hquote h)
  | line h => apply hclosed (.line h)
  | comment h => apply hclosed (.comment h)
  | @dollar tag body htag hbody =>
      by_cases hletters : ∀ c ∈ tag, isNameStart c = true
      · apply exists_leadAll_of_letters htag hletters hbody ht
      · obtain ⟨hplain, hends⟩ := (htail tag body htag rfl).resolve_left hletters
        use (.plain ['$'] :: singles tag) ++ lexemes ('$' :: (body ++ delimiter tag))
        refine ⟨?_, ?_, ?_⟩
        · rw [joinedChars_append, joinedChars_tag, joinedChars_lexemes]
          simp [delimiter]
        · simp only [List.forall_mem_append, List.forall_mem_cons]
          use ⟨rfl, isPlain_singles tag⟩
        · apply LeadAll.append
          · rw [joinedChars_lexemes]
            apply leadAll_tag htag hletters
          · have hall := hends.leadAll.before (s := t)
            rw [List.append_nil, joinedChars_lexemes] at hall
            apply hall (Or.inr ht)

/-- Plain lexemes in front of a text add no marks. -/
theorem marks_of_lexemes {sql : String} {ls : List Lexeme} {rest : List Char}
    (h : lexemes sql.toList = ls ++ lexemes rest) (hplain : ∀ l ∈ ls, isPlain l = true) :
  marks sql = marks (String.ofList rest)
  := by
  rw [marks, h, List.filter_append, filter_of_isPlain hplain, List.nil_append, marks,
    String.toList_ofList]

/-- Behind a blank, the marks of a literal with a tag that is not made of letters, and of what
follows it, are those from its second dollar sign on. -/
theorem marks_of_tag {region : String} {tag body : List Char} (htag : IsTag tag)
    (hletters : ¬ ∀ c ∈ tag, isNameStart c = true)
    (hregion : region.toList = delimiter tag ++ body ++ delimiter tag) (after : String) :
  marks (" " ++ region ++ after) = marks (String.ofList ('$' :: (body ++ delimiter tag)) ++ after)
  := by
  have hspace : EndsPlain " ".toList := endsPlain_of_not_mem_signs (by simp [signs])
  have hblank : EndsBlank " ".toList := ⟨' ', rfl, by decide⟩
  have hlexemes : lexemes (" " ++ region ++ after).toList
      = lexemes " ".toList ++ (.plain ['$'] :: singles tag)
        ++ lexemes ('$' :: (body ++ delimiter tag) ++ after.toList) := by
    have hall := (leadAll_tag htag hletters
      (body ++ delimiter tag ++ after.toList)).lexemes_append
    rw [joinedChars_tag] at hall
    rw [String.toList_append, String.toList_append, List.append_assoc,
      hspace.lexemes_append (Or.inl hblank), List.append_assoc, hregion]
    simpa [delimiter] using hall
  have hspaces : ∀ l ∈ lexemes " ".toList, isPlain l = true := by decide +kernel
  rw [marks_of_lexemes hlexemes, String.ofList_append, String.ofList_toList]
  simp only [List.forall_mem_append, List.forall_mem_cons]
  use hspaces, rfl, isPlain_singles tag

/-- A text that adds no marks to those of any text behind a blank, and hides none of them, shows
nothing. -/
theorem showsNothing_of_marks {cs : List Char}
    (h : ∀ after : String, StartsBlank after.toList →
      marks (String.ofList cs ++ after) = marks after) :
  ShowsNothing cs
  := by
  obtain ⟨ls, rest, rfl, hlexemes, hall, hend⟩ := exists_leadAll cs
  have hafter : ∀ after : String, StartsBlank after.toList →
      ((ls ++ lexemes (rest ++ after.toList)).filter fun l => !isPlain l) = marks after := by
    intro after hblank
    rw [← h after hblank, marks, String.toList_append, String.toList_ofList, List.append_assoc,
      (hall.before (Or.inr hblank)).lexemes_append]
  have hplain : ∀ l ∈ ls, isPlain l = true := by
    have hspace := hafter " " ⟨' ', rfl, by decide⟩
    have hnone : marks " " = [] := by decide +kernel
    rw [hnone, List.filter_append, List.append_eq_nil_iff, List.filter_eq_nil_iff] at hspace
    intro l hl
    have hmark := hspace.1 l hl
    simpa using hmark
  rcases hend with rfl | ⟨l, hl, hcut⟩
  · rw [List.append_nil]
    constructor
    · rw [lexemes_nil, List.append_nil, List.append_nil] at hlexemes
      rw [hlexemes]
      apply hplain
    · apply hall.endsPlain
  · -- the region without end takes in a marker
    exfalso
    have hmarker := hafter " @a" ⟨' ', rfl, by decide⟩
    have hone : marks " @a" = [.marker ['a']] := by decide +kernel
    obtain ⟨l', hl', hcut'⟩ := hcut.swallows hl (s := " @a".toList) (by simp [endings])
    rw [hone, hl'] at hmarker
    have hmem : Lexeme.marker ['a'] ∈ (ls ++ [l']).filter fun l => !isPlain l := by
      rw [hmarker]
      apply List.mem_singleton_self
    rw [List.mem_filter, List.mem_append, List.mem_singleton] at hmem
    rcases hmem.1 with hmem | rfl
    · have hplain' := hplain _ hmem
      contradiction
    · have hplain' := hcut'.isPlain
      contradiction

/-- A literal, a quoted name or a comment is sealed between all texts that put blanks around it,
unless it is dollar-quoted with a tag that is not made of letters and from its second dollar sign on
shows marks or opens a region that it does not close. -/
theorem Region.sealed_iff {region : String} (h : Region region.toList) :
  (∀ before after : String, EndsPlain before.toList → EndsBlank before.toList →
      StartsBlank after.toList → Sealed before region after)
    ↔ ∀ tag body, IsTag tag → region.toList = delimiter tag ++ body ++ delimiter tag →
      (∀ c ∈ tag, isNameStart c = true) ∨ ShowsNothing ('$' :: (body ++ delimiter tag))
  := by
  constructor
  · intro hsealed tag body htag hregion
    by_cases hletters : ∀ c ∈ tag, isNameStart c = true
    · left
      apply hletters
    · right
      apply showsNothing_of_marks
      intro after hafter
      have hmarks := (hsealed " " after (endsPlain_of_not_mem_signs (by simp [signs]))
        ⟨' ', rfl, by decide⟩ hafter).marks
      have hnone : marks " " = [] := by decide +kernel
      rw [hnone, List.nil_append, marks_of_tag htag hletters hregion] at hmarks
      apply hmarks
  · intro htail before after hbefore hblank hafter
    obtain ⟨ls, hls, hplain, hall⟩ := h.exists_leadAll hafter htail
    apply sealed_of_leadAll hbefore hblank hls hplain hall

/-- A literal with a tag of letters is sealed whatever is in it. -/
theorem Region.sealed_iff_letters :
  Region "$a$ @x $a$".toList
    ∧ ∀ before after : String, EndsPlain before.toList → EndsBlank before.toList →
      StartsBlank after.toList → Sealed before "$a$ @x $a$" after
  := by
  have hregion : Region "$a$ @x $a$".toList := by
    show Region (delimiter ['a'] ++ " @x ".toList ++ delimiter ['a'])
    apply Region.dollar
    · apply IsTag.cons (by decide) (by simp)
    · decide
  use hregion
  apply (Region.sealed_iff hregion).mpr
  intro tag body htag h
  left
  have hdelimiter : delimiter tag ++ body ++ delimiter tag
      = '$' :: (tag ++ '$' :: (body ++ delimiter tag)) := by
    simp [delimiter]
  have htag' : ['a'] ++ '$' :: " @x $a$".toList = tag ++ '$' :: (body ++ delimiter tag) :=
    (List.cons.inj (h.trans hdelimiter)).2
  obtain ⟨rfl, -⟩ := tag_unique (by decide) htag.not_mem_dollar htag'
  rw [List.forall_mem_singleton]
  decide

/-- A literal with a digit in its tag shows the marker that is in it. -/
theorem not_sealed_region :
  ∃ before region after : String, EndsPlain before.toList ∧ EndsBlank before.toList
    ∧ Region region.toList ∧ StartsBlank after.toList ∧ ¬ Sealed before region after
  := by
  use "SELECT ", "$t1$ @x $t1$", " AS a"
  refine ⟨?_, ?_, ?_, ?_, ?_⟩
  · apply endsPlain_of_not_mem_signs
    simp [signs]
  · use ' ', by decide
    decide
  · show Region (delimiter ['t', '1'] ++ " @x ".toList ++ delimiter ['t', '1'])
    apply Region.dollar
    · apply IsTag.cons (by decide)
      rw [List.forall_mem_singleton]
      decide
    · decide
  · use ' ', by decide
    decide
  · intro h
    have hmarks := h.marks
    have hnone : marks "SELECT " = [] ∧ marks " AS a" = [] := by decide +kernel
    have hmarker : marks ("SELECT " ++ "$t1$ @x $t1$" ++ " AS a") = [.marker ['x']] := by
      decide +kernel
    rw [hnone.1, hnone.2, hmarker] at hmarks
    contradiction

end BoundSql.Marker
