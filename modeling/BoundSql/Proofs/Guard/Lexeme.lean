import BoundSql.Guard.Marker
import BoundSql.Proofs.Text.Numeral
import Mathlib.Data.List.TakeWhile
import Mathlib.Tactic.Use

/-!
# Where lexemes end

A region is a literal, a quoted name or a comment with its end. A lexeme leads a
text when it is the first one in front of it: a region, a name, or a character
that begins neither with what follows it. Lexemes that lead one another are the
lexemes of their text, whatever follows, and those of every text lead one
another, but for a last one that lacks its end.
-/

namespace BoundSql.Marker

open BoundSql.Text

/-! ### Regions -/

/-- Whether a character opens and closes a literal or a quoted name. -/
def isQuote (c : Char) : Bool :=
  c == '\'' || c == '"'

/-- What may stand between quotes: the quote is written twice. -/
inductive Inside (quote : Char) : List Char → Prop where
  | nil : Inside quote []
  | twice {cs : List Char} (h : Inside quote cs) : Inside quote (quote :: quote :: cs)
  | cons {c : Char} {cs : List Char} (hc : c ≠ quote) (h : Inside quote cs) : Inside quote (c :: cs)

/-- What follows the opening of a comment that lies in `depth` others, through the end of the
outermost one. Marks are taken from left to right. -/
inductive Comment : (depth : Nat) → List Char → Prop where
  | close : Comment 0 ['*', '/']
  | enter {depth : Nat} {cs : List Char} (h : Comment (depth + 1) cs) :
      Comment depth ('/' :: '*' :: cs)
  | leave {depth : Nat} {cs : List Char} (h : Comment depth cs) :
      Comment (depth + 1) ('*' :: '/' :: cs)
  | cons {depth : Nat} {c : Char} {cs : List Char} (hopen : c = '/' → cs.head? ≠ some '*')
      (hclose : c = '*' → cs.head? ≠ some '/') (h : Comment depth cs) : Comment depth (c :: cs)

/-- What stands at both ends of a dollar-quoted literal. -/
def delimiter (tag : List Char) : List Char :=
  '$' :: tag ++ ['$']

/-- A text ends with another, which does not occur in it before. -/
def EndsFirst (t cs : List Char) : Prop :=
  t <:+ cs ∧ ∀ front back, front ++ t ++ back = cs → back = []

/-- A literal, a quoted name or a comment, each with its end. -/
inductive Closed : List Char → Prop where
  | quoted {quote : Char} {cs : List Char} (hquote : isQuote quote = true) (h : Inside quote cs) :
      Closed (quote :: (cs ++ [quote]))
  | line {cs : List Char} (h : '\n' ∉ cs) : Closed ('-' :: '-' :: (cs ++ ['\n']))
  | comment {cs : List Char} (h : Comment 0 cs) : Closed ('/' :: '*' :: cs)
  | dollar {tag cs : List Char} (htag : ∀ c ∈ tag, isNameStart c = true)
      (h : EndsFirst (delimiter tag) cs) : Closed (delimiter tag ++ cs)

/-- The beginnings of literals, quoted names and comments. -/
inductive Opening : List Char → Prop where
  | quoted {quote : Char} (hquote : isQuote quote = true) : Opening [quote]
  | line : Opening ['-', '-']
  | comment : Opening ['/', '*']
  | dollar {tag : List Char} (htag : ∀ c ∈ tag, isNameStart c = true) : Opening (delimiter tag)

/-- A lexeme begins like a literal, a quoted name or a comment and lacks its end. -/
def IsCut (l : Lexeme) : Prop :=
  (∃ opening, Opening opening ∧ opening <+: l.chars) ∧ ¬ Closed l.chars

/-! ### The ends of regions -/

theorem splitQuoted_append {quote : Char} {cs : List Char} (h : Inside quote cs) {t : List Char}
    (ht : t.head? ≠ some quote) :
  splitQuoted quote (cs ++ quote :: t) = (cs ++ [quote], t)
  := by
  induction h with
  | nil =>
      cases t with
      | nil => rfl
      | cons d t =>
          have hd : d ≠ quote := by simpa using ht
          simp [splitQuoted, hd]
  | twice _ ih => simp [splitQuoted, ih, onto]
  | @cons c cs hc _ ih =>
      rw [List.cons_append]
      cases hcs : cs ++ quote :: t with
      | nil => simp at hcs
      | cons d r =>
          rw [splitQuoted, if_neg hc, ← hcs, ih]
          rfl

/-- A quoted text is divided behind the quote that closes it, or lacks its end. -/
theorem splitQuoted_cases (quote : Char) (cs : List Char) :
  (splitQuoted quote cs).2 = []
    ∨ ∃ inner, Inside quote inner ∧ (splitQuoted quote cs).1 = inner ++ [quote]
      ∧ (splitQuoted quote cs).2.head? ≠ some quote
  := by
  fun_induction splitQuoted quote cs with
  | case1 => left; rfl
  | case2 => left; rfl
  | case3 r ih =>
      rcases ih with h | ⟨inner, hinner, hfront, hrest⟩
      · left
        apply h
      · right
        use quote :: quote :: inner, .twice hinner
        simp [onto, hfront, hrest]
  | case4 d r hd =>
      right
      use [], .nil
      simp [hd]
  | case5 c d r hc ih =>
      rcases ih with h | ⟨inner, hinner, hfront, hrest⟩
      · left
        apply h
      · right
        use c :: inner, .cons hc hinner
        simp [onto, hfront, hrest]

theorem splitLine_append {cs : List Char} (h : '\n' ∉ cs) (t : List Char) :
  splitLine (cs ++ '\n' :: t) = (cs ++ ['\n'], t)
  := by
  induction cs with
  | nil => rfl
  | cons c cs ih =>
      rw [List.mem_cons, not_or] at h
      simp [splitLine, Ne.symm h.1, ih h.2, onto]

theorem splitLine_cases (cs : List Char) :
  (splitLine cs).2 = [] ∨ ∃ inner, '\n' ∉ inner ∧ (splitLine cs).1 = inner ++ ['\n']
  := by
  induction cs with
  | nil => left; rfl
  | cons c cs ih =>
      rw [splitLine]
      split
      · right
        use []
        simp_all
      · next hc =>
          rcases ih with h | ⟨inner, hinner, hfront⟩
          · left
            apply h
          · right
            use c :: inner
            simp [onto, hfront, hinner, Ne.symm hc]

theorem splitComment_append {depth : Nat} {cs : List Char} (h : Comment depth cs) (t : List Char) :
  splitComment depth (cs ++ t) = (cs, t)
  := by
  induction h with
  | close => simp [splitComment]
  | enter _ ih => simp [splitComment, ih, onto]
  | leave _ ih => simp [splitComment, ih, onto]
  | @cons depth c cs hopen hclose h ih =>
      have hne : cs ≠ [] := by
        rintro rfl
        cases h
      obtain ⟨d, cs, rfl⟩ := List.exists_cons_of_ne_nil hne
      rw [List.cons_append, splitComment]
      · rw [ih]
        rfl
      · rintro r rfl hr
        obtain ⟨rfl, -⟩ := List.cons.inj hr
        apply hopen rfl rfl
      · rintro r - rfl hr
        obtain ⟨rfl, -⟩ := List.cons.inj hr
        apply hclose rfl rfl
      · rintro _ r - rfl hr
        obtain ⟨rfl, -⟩ := List.cons.inj hr
        apply hclose rfl rfl

theorem splitComment_cases (depth : Nat) (cs : List Char) :
  (splitComment depth cs).2 = [] ∨ Comment depth (splitComment depth cs).1
  := by
  fun_induction splitComment depth cs with
  | case1 => left; rfl
  | case2 depth r ih =>
      rcases ih with h | h
      · left
        apply h
      · right
        apply h.enter
  | case3 r => right; apply Comment.close
  | case4 depth r ih =>
      rcases ih with h | h
      · left
        apply h
      · right
        apply h.leave
  | case5 depth c r hopen hclose hleave ih =>
      rcases ih with h | h
      · left
        apply h
      · right
        -- the marks that the text does not begin with are none of the comment either
        have hmark : ∀ d, (splitComment depth r).1.head? = some d → ∃ r', r = d :: r' := by
          intro d hd
          obtain ⟨front, hfront⟩ := List.head?_eq_some_iff.mp hd
          have hdivides := divides_splitComment depth r
          rw [Divides, hfront] at hdivides
          use front ++ (splitComment depth r).2, hdivides.symm
        apply Comment.cons
        · rintro rfl hhead
          obtain ⟨r', hr⟩ := hmark _ hhead
          apply hopen r' rfl hr
        · rintro rfl hhead
          obtain ⟨r', hr⟩ := hmark _ hhead
          cases depth with
          | zero => apply hclose r' rfl rfl hr
          | succ depth => apply hleave depth r' rfl rfl hr
        · apply h

theorem endsFirst_self (t : List Char) :
  EndsFirst t t
  := by
  use List.suffix_refl t
  intro front back h
  have hlength := congrArg List.length h
  simp only [List.length_append] at hlength
  rw [← List.length_eq_zero_iff]
  omega

theorem splitThrough_append {t cs : List Char} (ht : t ≠ []) (h : EndsFirst t cs) (r : List Char) :
  splitThrough t (cs ++ r) = (cs, r)
  := by
  obtain ⟨⟨body, rfl⟩, hfirst⟩ := h
  induction body with
  | nil =>
      obtain ⟨c, t, rfl⟩ := List.exists_cons_of_ne_nil ht
      simp [splitThrough, List.isPrefixOf_iff_prefix]
  | cons c body ih =>
      have hstarts : ¬ t <+: c :: (body ++ t ++ r) := by
        intro hstarts
        have hshort : t <+: c :: (body ++ t) := by
          apply List.prefix_of_prefix_length_le hstarts (List.prefix_append _ r)
          simp only [List.length_cons, List.length_append]
          omega
        obtain ⟨back, hback⟩ := hshort
        obtain rfl := hfirst [] back (by simpa using hback)
        have hlength := congrArg List.length hback
        simp only [List.append_nil, List.length_cons, List.length_append] at hlength
        omega
      have hrest : ∀ front back, front ++ t ++ back = body ++ t → back = [] := by
        intro front back h
        apply hfirst (c :: front) back
        simp [← h]
      rw [← List.isPrefixOf_iff_prefix] at hstarts
      rw [List.cons_append, List.cons_append, splitThrough, if_neg hstarts, ih hrest]
      rfl

theorem splitThrough_cases (t cs : List Char) :
  (splitThrough t cs).2 = [] ∨ EndsFirst t (splitThrough t cs).1
  := by
  fun_induction splitThrough t cs with
  | case1 => left; rfl
  | case2 c r h =>
      right
      apply endsFirst_self
  | case3 c r hstarts ih =>
      rcases ih with h | ⟨hsuffix, hfirst⟩
      · left
        apply h
      · right
        rw [List.isPrefixOf_iff_prefix] at hstarts
        use hsuffix.trans (List.suffix_cons c _)
        intro front back h
        cases front with
        | nil =>
            exfalso
            apply hstarts
            rw [← divides_splitThrough t r, ← List.cons_append]
            apply List.IsPrefix.trans ⟨back, h⟩ (List.prefix_append _ _)
        | cons d front =>
            apply hfirst front back (List.cons.inj h).2

/-- Behind a dollar sign, a tag and a second one open a literal. -/
def OpensLiteral (t : List Char) : Prop :=
  ∃ tag r, (∀ c ∈ tag, isNameStart c = true) ∧ t = tag ++ '$' :: r

theorem takeWhile_tag {tag : List Char} (htag : ∀ c ∈ tag, isNameStart c = true) (r : List Char) :
  (tag ++ '$' :: r).takeWhile isNameStart = tag ∧ (tag ++ '$' :: r).dropWhile isNameStart = '$' :: r
  := by
  rw [List.takeWhile_append_of_pos htag, List.dropWhile_append_of_pos htag]
  simp [isNameStart]

theorem splitDollar_append {tag cs : List Char} (htag : ∀ c ∈ tag, isNameStart c = true)
    (h : EndsFirst (delimiter tag) cs) (r : List Char) :
  splitDollar (tag ++ '$' :: (cs ++ r)) = (tag ++ '$' :: cs, r)
  := by
  obtain ⟨htake, hdrop⟩ := takeWhile_tag htag (cs ++ r)
  have hthrough : splitThrough ('$' :: tag ++ ['$']) (cs ++ r) = (cs, r) :=
    splitThrough_append (List.cons_ne_nil _ _) h r
  simp only [splitDollar, htake, hdrop, hthrough]
  simp [onto]

/-- A dollar sign stands alone or opens a literal, which ends first with the delimiter or lacks
its end. -/
theorem splitDollar_cases (cs : List Char) :
  ¬ OpensLiteral cs ∧ splitDollar cs = ([], cs)
    ∨ ∃ tag r, (∀ c ∈ tag, isNameStart c = true) ∧ cs = tag ++ '$' :: r
      ∧ ((splitDollar cs).2 = [] ∨ ∃ inner, EndsFirst (delimiter tag) inner
        ∧ (splitDollar cs).1 = tag ++ '$' :: inner)
  := by
  by_cases hopens : OpensLiteral cs
  · right
    obtain ⟨tag, r, htag, rfl⟩ := hopens
    obtain ⟨htake, hdrop⟩ := takeWhile_tag htag r
    have hsplit : splitDollar (tag ++ '$' :: r)
        = onto (tag ++ ['$']) (splitThrough (delimiter tag) r) := by
      simp [splitDollar, htake, hdrop, delimiter]
    use tag, r, htag, rfl
    rw [hsplit]
    rcases splitThrough_cases (delimiter tag) r with h | h
    · left
      apply h
    · right
      use (splitThrough (delimiter tag) r).1, h
      simp [onto]
  · left
    use hopens
    rw [splitDollar]
    split
    · next r hr =>
        exfalso
        apply hopens
        use cs.takeWhile isNameStart, r
        constructor
        · intro c hc
          apply List.mem_takeWhile_imp hc
        · rw [← hr, List.takeWhile_append_dropWhile]
    · rfl

/-! ### Lexemes in front of a text -/

/-- Whether a character and the one behind it begin a comment or a name. -/
def begins (c d : Char) : Bool :=
  c == '-' && d == '-' || c == '/' && d == '*' || c == '@' && (d == '@' || isNameStart d)

/-- A lexeme with its end is the first one in front of a text. -/
inductive Leads : Lexeme → List Char → Prop where
  | region {cs t : List Char} (h : Closed cs)
      (ht : ∀ quote ∈ cs.head?, isQuote quote = true → quote ∉ t.head?) : Leads (.plain cs) t
  | serverName {name t : List Char} (h : ∀ c ∈ name, isNameChar c = true)
      (ht : ∀ c ∈ t.head?, isNameChar c = false) : Leads (.plain ('@' :: '@' :: name)) t
  | marker {c : Char} {name t : List Char} (hc : isNameStart c = true)
      (h : ∀ c ∈ name, isNameChar c = true) (ht : ∀ c ∈ t.head?, isNameChar c = false) :
      Leads (.marker (c :: name)) t
  | placeholder {d : Char} {t : List Char} (hd : d.isDigit = true) : Leads .placeholder (d :: t)
  | dollar {t : List Char} (hdigit : ∀ d ∈ t.head?, d.isDigit = false) (ht : ¬ OpensLiteral t) :
      Leads (.plain ['$']) t
  | single {c : Char} {t : List Char} (hquote : isQuote c = false) (hdollar : c ≠ '$')
      (ht : ∀ d ∈ t.head?, begins c d = false) : Leads (.plain [c]) t

theorem isNameChar_of_isNameStart {c : Char} (h : isNameStart c = true) :
  isNameChar c = true
  := by
  simp only [isNameStart, isNameChar, Char.isAlphanum, Bool.or_eq_true] at *
  rcases h with h | h
  · left; left; apply h
  · right; apply h

theorem isDigit_of_isNameStart {c : Char} (h : isNameStart c = true) :
  c.isDigit = false
  := by
  simp only [isNameStart, Bool.or_eq_true, beq_iff_eq] at h
  rcases h with h | rfl
  · rw [Bool.eq_false_iff, Ne, isDigit_iff]
    rw [isAlpha_iff] at h
    omega
  · decide

theorem first_of_isQuote {c : Char} (h : isQuote c = true) (r : List Char) :
  first c r = plainThen [c] (splitQuoted c r)
  := by
  simp only [isQuote, Bool.or_eq_true, beq_iff_eq] at h
  rcases h with rfl | rfl
  · rfl
  · rfl

theorem first_dollar {t : List Char} (h : ∀ d ∈ t.head?, d.isDigit = false) :
  first '$' t = plainThen ['$'] (splitDollar t)
  := by
  cases t with
  | nil => rfl
  | cons d r =>
      show (if d.isDigit then _ else _) = _
      rw [h d rfl, if_neg Bool.false_ne_true]

theorem first_at {d : Char} (hd : isNameStart d = true) (r : List Char) :
  first '@' (d :: r)
    = (.marker ((d :: r).takeWhile isNameChar), (d :: r).dropWhile isNameChar)
  := by
  have hat : d ≠ '@' := by
    rintro rfl
    contradiction
  unfold first
  split <;> simp_all

/-- A character that begins neither a region nor a name is a lexeme of its own. -/
theorem first_single {c : Char} (hquote : isQuote c = false) (hdollar : c ≠ '$') {t : List Char}
    (ht : ∀ d ∈ t.head?, begins c d = false) :
  first c t = (.plain [c], t)
  := by
  unfold first
  split <;> simp_all [isQuote, begins]

/-- The run of the characters of a name ends in front of a character that is none. -/
theorem takeWhile_name {name t : List Char} (h : ∀ c ∈ name, isNameChar c = true)
    (ht : ∀ c ∈ t.head?, isNameChar c = false) :
  (name ++ t).takeWhile isNameChar = name ∧ (name ++ t).dropWhile isNameChar = t
  := by
  rw [List.takeWhile_append_of_pos h, List.dropWhile_append_of_pos h]
  cases t with
  | nil => simp
  | cons c t => simp [ht c rfl]

theorem head?_dropWhile_name (cs : List Char) :
  ∀ c ∈ (cs.dropWhile isNameChar).head?, isNameChar c = false
  := by
  intro c hc
  have h := List.head?_dropWhile_not isNameChar cs
  rw [Option.mem_def.mp hc] at h
  simpa using h

/-- A text behind a dollar sign with a tag begins with no digit. -/
theorem isDigit_head?_tag {tag : List Char} (htag : ∀ c ∈ tag, isNameStart c = true)
    (r : List Char) :
  ∀ d ∈ (tag ++ '$' :: r).head?, d.isDigit = false
  := by
  cases tag with
  | nil => simp
  | cons c tag =>
      intro d hd
      obtain rfl := Option.some.inj hd
      apply isDigit_of_isNameStart (htag c List.mem_cons_self)

theorem first_of_closed {cs t r : List Char} {c : Char} (h : Closed cs)
    (ht : ∀ quote ∈ cs.head?, isQuote quote = true → quote ∉ t.head?) (hcs : cs = c :: r) :
  first c (r ++ t) = (.plain cs, t)
  := by
  cases h with
  | @quoted quote inner hquote h =>
      obtain ⟨rfl, rfl⟩ := List.cons.inj hcs
      rw [first_of_isQuote hquote, List.append_assoc, List.singleton_append,
        splitQuoted_append h (ht quote rfl hquote)]
      rfl
  | @line inner h =>
      obtain ⟨rfl, rfl⟩ := List.cons.inj hcs
      show plainThen ['-', '-'] (splitLine (inner ++ ['\n'] ++ t)) = _
      rw [List.append_assoc, List.singleton_append, splitLine_append h]
      rfl
  | @comment inner h =>
      obtain ⟨rfl, rfl⟩ := List.cons.inj hcs
      show plainThen ['/', '*'] (splitComment 0 (inner ++ t)) = _
      rw [splitComment_append h]
      rfl
  | @dollar tag inner htag h =>
      obtain ⟨rfl, hr⟩ := List.cons.inj hcs
      have htext : r ++ t = tag ++ '$' :: (inner ++ t) := by
        simp [← hr]
      rw [htext, first_dollar (isDigit_head?_tag htag _), splitDollar_append htag h]
      simp [plainThen, delimiter]

/-- A lexeme that leads a text is the first one in front of it. -/
theorem Leads.first_eq {l : Lexeme} {t r : List Char} {c : Char} (h : Leads l t)
    (hl : l.chars = c :: r) :
  first c (r ++ t) = (l, t)
  := by
  cases h with
  | region h ht => apply first_of_closed h ht hl
  | @serverName name t h ht =>
      obtain ⟨rfl, rfl⟩ := List.cons.inj hl
      obtain ⟨htake, hdrop⟩ := takeWhile_name h ht
      show plainThen ['@', '@'] ((name ++ t).takeWhile isNameChar, (name ++ t).dropWhile isNameChar)
        = _
      rw [htake, hdrop]
      rfl
  | @marker d name t hd h ht =>
      obtain ⟨rfl, rfl⟩ := List.cons.inj hl
      have hname : ∀ c ∈ d :: name, isNameChar c = true :=
        List.forall_mem_cons.mpr ⟨isNameChar_of_isNameStart hd, h⟩
      obtain ⟨htake, hdrop⟩ := takeWhile_name hname ht
      rw [List.cons_append, first_at hd, ← List.cons_append, htake, hdrop]
  | placeholder hd =>
      obtain ⟨rfl, rfl⟩ := List.cons.inj hl
      show (if _ then _ else _) = _
      rw [if_pos hd]
  | dollar hdigit ht =>
      obtain ⟨rfl, rfl⟩ := List.cons.inj hl
      rw [List.nil_append, first_dollar hdigit]
      rcases splitDollar_cases t with ⟨-, hsplit⟩ | ⟨tag, r, htag, hr, -⟩
      · rw [hsplit]
        rfl
      · exfalso
        apply ht ⟨tag, r, htag, hr⟩
  | single hquote hdollar ht =>
      obtain ⟨rfl, rfl⟩ := List.cons.inj hl
      apply first_single hquote hdollar ht

/-- A lexeme that begins like a region and takes all of a text leads nothing, or lacks its end. -/
theorem leads_or_isCut {opening cs : List Char} (h : Opening opening) (hcs : opening <+: cs) :
  Leads (.plain cs) [] ∨ IsCut (.plain cs)
  := by
  by_cases hclosed : Closed cs
  · left
    apply Leads.region hclosed
    rintro - - - ⟨⟩
  · right
    use ⟨opening, h, hcs⟩
    apply hclosed

/-- What is divided behind the end of a region leads the rest, or lacks its end. -/
theorem leads_plainThen {opening front : List Char} {halves : List Char × List Char}
    (hopening : Opening opening) (hfront : opening <+: front ++ halves.1)
    (h : halves.2 = [] ∨ Closed (front ++ halves.1)
      ∧ ∀ quote ∈ front.head?, isQuote quote = true → quote ∉ halves.2.head?) (hne : front ≠ []) :
  Leads (plainThen front halves).1 (plainThen front halves).2
    ∨ (plainThen front halves).2 = [] ∧ IsCut (plainThen front halves).1
  := by
  rcases h with h | ⟨hclosed, hrest⟩
  · rw [plainThen, h]
    rcases leads_or_isCut hopening hfront with hleads | hcut
    · left
      apply hleads
    · right
      apply And.intro rfl hcut
  · left
    apply Leads.region hclosed
    obtain ⟨c, front, rfl⟩ := List.exists_cons_of_ne_nil hne
    apply hrest

theorem leads_quoted {quote : Char} (hquote : isQuote quote = true) (r : List Char) :
  Leads (plainThen [quote] (splitQuoted quote r)).1 (plainThen [quote] (splitQuoted quote r)).2
    ∨ (plainThen [quote] (splitQuoted quote r)).2 = []
      ∧ IsCut (plainThen [quote] (splitQuoted quote r)).1
  := by
  apply leads_plainThen (.quoted hquote) (List.prefix_append _ _) _ (List.cons_ne_nil _ _)
  rcases splitQuoted_cases quote r with h | ⟨inner, hinner, hfront, hrest⟩
  · left
    apply h
  · right
    rw [hfront]
    use .quoted hquote hinner
    rintro quote ⟨⟩ -
    apply hrest

theorem leads_dollar {t : List Char} (h : ∀ d ∈ t.head?, d.isDigit = false) :
  Leads (plainThen ['$'] (splitDollar t)).1 (plainThen ['$'] (splitDollar t)).2
    ∨ (plainThen ['$'] (splitDollar t)).2 = [] ∧ IsCut (plainThen ['$'] (splitDollar t)).1
  := by
  have hquote : ∀ quote ∈ ['$'].head?, isQuote quote = true → quote ∉ (splitDollar t).2.head? := by
    rintro quote ⟨⟩ hquote
    contradiction
  rcases splitDollar_cases t with ⟨hopens, hsplit⟩ | ⟨tag, r, htag, ht, hcases⟩
  · left
    rw [hsplit]
    apply Leads.dollar h hopens
  · have hdivides := divides_splitDollar t
    rcases hcases with hrest | ⟨inner, hinner, hfront⟩
    · apply leads_plainThen (.dollar htag) _ (Or.inl hrest) (List.cons_ne_nil _ _)
      rw [Divides, hrest, List.append_nil] at hdivides
      rw [hdivides, ht]
      use r
      simp [delimiter]
    · have hdelimiter : ['$'] ++ (splitDollar t).1 = delimiter tag ++ inner := by
        simp [hfront, delimiter]
      apply leads_plainThen (.dollar htag) _ _ (List.cons_ne_nil _ _)
      · rw [hdelimiter]
        apply List.prefix_append
      · right
        rw [hdelimiter]
        use .dollar htag hinner

/-- A character that begins nothing with the one behind it is a lexeme that leads. -/
theorem leads_single {c : Char} {t : List Char} (hquote : isQuote c = false)
    (hdollar : c = '$' → t = []) (ht : ∀ d ∈ t.head?, begins c d = false) :
  Leads (.plain [c]) t
  := by
  by_cases hc : c = '$'
  · obtain rfl := hdollar hc
    subst hc
    apply Leads.dollar
    · simp
    · rintro ⟨tag, r, -, hnil⟩
      simp at hnil
  · apply Leads.single hquote hc ht

/-- A character in front of a text begins nothing unless it is the sign of a comment or a name. -/
theorem begins_eq_false {c : Char} {r : List Char} (hline : ∀ r', c = '-' → r ≠ '-' :: r')
    (hcomment : ∀ r', c = '/' → r ≠ '*' :: r') (hat : ∀ d r', c = '@' → r ≠ d :: r') :
  ∀ d ∈ r.head?, begins c d = false
  := by
  intro d hd
  obtain ⟨r, rfl⟩ := List.head?_eq_some_iff.mp hd
  rw [Bool.eq_false_iff]
  intro hbegins
  simp only [begins, Bool.or_eq_true, Bool.and_eq_true, beq_iff_eq] at hbegins
  rcases hbegins with (⟨rfl, rfl⟩ | ⟨rfl, rfl⟩) | ⟨rfl, -⟩
  · apply hline r rfl rfl
  · apply hcomment r rfl rfl
  · apply hat d r rfl rfl

/-- The first lexeme of a text leads what follows it, or lacks its end. -/
theorem leads_first (c : Char) (r : List Char) :
  Leads (first c r).1 (first c r).2 ∨ (first c r).2 = [] ∧ IsCut (first c r).1
  := by
  unfold first
  split
  · apply leads_quoted (by decide)
  · apply leads_quoted (by decide)
  · next r =>
      apply leads_plainThen .line (List.prefix_append _ _) _ (List.cons_ne_nil _ _)
      rcases splitLine_cases r with h | ⟨inner, hinner, hfront⟩
      · left
        apply h
      · right
        rw [hfront]
        use .line hinner
        rintro quote ⟨⟩ hquote
        contradiction
  · next r =>
      apply leads_plainThen .comment (List.prefix_append _ _) _ (List.cons_ne_nil _ _)
      rcases splitComment_cases 0 r with h | h
      · left
        apply h
      · right
        use .comment h
        rintro quote ⟨⟩ hquote
        contradiction
  · next d r =>
      split
      · next hd =>
          left
          apply Leads.placeholder hd
      · next hd =>
          apply leads_dollar
          simpa using hd
  · next r =>
      left
      apply Leads.serverName
      · intro c hc
        apply List.mem_takeWhile_imp hc
      · apply head?_dropWhile_name
  · next d r hat =>
      split
      · next hd =>
          left
          rw [List.takeWhile_cons_of_pos (isNameChar_of_isNameStart hd)]
          apply Leads.marker hd
          · intro c hc
            apply List.mem_takeWhile_imp hc
          · apply head?_dropWhile_name
      · next hd =>
          left
          apply Leads.single (by decide) (by decide)
          rintro _ ⟨⟩
          have hd' : d ≠ '@' := hat
          simpa [begins, hd'] using hd
  · next hquote hname hline hcomment hdollar hserver hat =>
      left
      apply leads_single
      · simp only [isQuote, Bool.or_eq_false_iff, beq_eq_false_iff_ne]
        apply And.intro hquote hname
      · rintro rfl
        cases r with
        | nil => rfl
        | cons d r =>
            exfalso
            apply hdollar d r rfl rfl
      · apply begins_eq_false hline hcomment hat

/-! ### Lexemes in a row -/

/-- The characters of lexemes in a row. -/
def joinedChars (ls : List Lexeme) : List Char :=
  ls.flatMap Lexeme.chars

/-- Each of some lexemes leads those behind it and a text that follows them. -/
inductive LeadAll : List Lexeme → List Char → Prop where
  | nil (t : List Char) : LeadAll [] t
  | cons {l : Lexeme} {ls : List Lexeme} {t : List Char} (h : Leads l (joinedChars ls ++ t))
      (hs : LeadAll ls t) : LeadAll (l :: ls) t

theorem Leads.chars_ne_nil {l : Lexeme} {t : List Char} (h : Leads l t) :
  l.chars ≠ []
  := by
  cases h with
  | region h _ =>
      cases h with
      | _ => simp [Lexeme.chars, delimiter]
  | _ => simp [Lexeme.chars]

theorem lexemes_nil :
  lexemes [] = []
  := by
  rw [lexemes]

theorem joinedChars_lexemes (cs : List Char) :
  joinedChars (lexemes cs) = cs
  := flatMap_chars_lexemes cs

theorem joinedChars_append (ls ls' : List Lexeme) :
  joinedChars (ls ++ ls') = joinedChars ls ++ joinedChars ls'
  := List.flatMap_append

/-- A lexeme that leads a text comes first, and those of the text follow. -/
theorem Leads.lexemes_append {l : Lexeme} {t : List Char} (h : Leads l t) :
  lexemes (l.chars ++ t) = l :: lexemes t
  := by
  obtain ⟨c, r, hl⟩ := List.exists_cons_of_ne_nil h.chars_ne_nil
  rw [hl, List.cons_append, lexemes, h.first_eq hl]

/-- Lexemes in front of a text come first, and those of the text follow. -/
theorem LeadAll.lexemes_append {ls : List Lexeme} {t : List Char} (h : LeadAll ls t) :
  lexemes (joinedChars ls ++ t) = ls ++ lexemes t
  := by
  induction h with
  | nil t => rfl
  | cons h hs ih =>
      rw [joinedChars, List.flatMap_cons, ← joinedChars, List.append_assoc, h.lexemes_append, ih]
      rfl

theorem LeadAll.append {ls ls' : List Lexeme} {t : List Char}
    (h : LeadAll ls (joinedChars ls' ++ t)) (h' : LeadAll ls' t) :
  LeadAll (ls ++ ls') t
  := by
  induction ls with
  | nil => apply h'
  | cons l ls ih =>
      cases h with
      | cons hl hs =>
          apply LeadAll.cons _ (ih hs)
          rw [joinedChars_append, List.append_assoc]
          apply hl

/-- The lexemes of a text lead one another, up to a last one that lacks its end. -/
theorem exists_leadAll (cs : List Char) :
  ∃ ls rest, cs = joinedChars ls ++ rest ∧ lexemes cs = ls ++ lexemes rest ∧ LeadAll ls rest
    ∧ (rest = [] ∨ ∃ l, lexemes rest = [l] ∧ IsCut l)
  := by
  fun_induction lexemes cs with
  | case1 => exact ⟨[], [], rfl, lexemes_nil.symm, .nil [], Or.inl rfl⟩
  | case2 c r ih =>
      rcases leads_first c r with hleads | ⟨hrest, hcut⟩
      · obtain ⟨ls, rest, htext, hlexemes, hall, hend⟩ := ih
        refine ⟨(first c r).1 :: ls, rest, ?_, ?_, ?_, hend⟩
        · rw [joinedChars, List.flatMap_cons, ← joinedChars, List.append_assoc, ← htext,
            chars_first]
        · rw [hlexemes, List.cons_append]
        · apply LeadAll.cons _ hall
          rw [← htext]
          apply hleads
      · refine ⟨[], c :: r, rfl, ?_, .nil _, Or.inr ⟨(first c r).1, ?_, hcut⟩⟩
        · rw [lexemes, List.nil_append]
        · rw [lexemes, hrest, lexemes_nil]

end BoundSql.Marker
