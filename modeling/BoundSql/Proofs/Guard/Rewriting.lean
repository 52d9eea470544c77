import BoundSql.Proofs.Guard.Boundary
import BoundSql.Proofs.Guard.Marker
import BoundSql.Proofs.Guard.StatementStart

/-!
# Placeholders in place of markers

An accepted predicate with placeholders in place of its markers reads back when
the scanner finds every placeholder where it was written, with its number, and
takes the rest for what it was before. It does so unless a marker is glued to a
dollar sign, with nothing but letters and underscores between them: there, the
dollar sign of the placeholder is the second one, and the two open a literal.
-/

namespace BoundSql.Marker

open BoundSql.Text

/-! ### Placeholders among lexemes -/

/-- The lexemes that stand for a lexeme when the markers are replaced. -/
def replaced (number : String → Nat) : Lexeme → List Lexeme
  | .marker name => .placeholder :: singles (digits (number (String.ofList name)))
  | l => [l]

theorem joinedChars_replaced (number : String → Nat) (l : Lexeme) :
  joinedChars (replaced number l) = substituted number l
  := by
  cases l with
  | marker name =>
      rw [replaced, joinedChars, List.flatMap_cons, ← joinedChars, joinedChars_singles]
      rfl
  | _ => apply List.append_nil

theorem joinedChars_flatMap_replaced (number : String → Nat) (ls : List Lexeme) :
  joinedChars (ls.flatMap (replaced number)) = ls.flatMap (substituted number)
  := by
  rw [joinedChars, List.flatMap_assoc]
  apply List.flatMap_congr
  intro l _
  apply joinedChars_replaced

/-- The numbers behind the signs of placeholders. -/
def placed : List Lexeme → List Nat
  | [] => []
  | .placeholder :: ls => digitsValue ((joinedChars ls).takeWhile Char.isDigit) :: placed ls
  | _ :: ls => placed ls

/-- A marker stands behind a dollar sign, with a tag of letters or with nothing between. -/
def Glued (ls : List Lexeme) : Prop :=
  ∃ front tag name back, ls = front ++ .plain ['$'] :: (singles tag ++ .marker name :: back)
    ∧ ∀ c ∈ tag, isNameStart c = true

theorem Glued.append {ls : List Lexeme} (h : Glued ls) (ls' : List Lexeme) :
  Glued (ls ++ ls')
  := by
  obtain ⟨front, tag, name, back, rfl, htag⟩ := h
  use front, tag, name, back ++ ls'
  simpa using htag

theorem Glued.cons {ls : List Lexeme} (h : Glued ls) (l : Lexeme) :
  Glued (l :: ls)
  := by
  obtain ⟨front, tag, name, back, rfl, htag⟩ := h
  use l :: front, tag, name, back, rfl

/-- The scanner finds the placeholders of the markers of a text, each with its number, and finds the
rest of the text as it was. -/
structure ReadsBack (sql : String) : Prop where
  unmarked : occurring (withPlaceholders (names sql) sql) = []
  numbers : placed (lexemes (withPlaceholders (names sql) sql).toList)
    = (occurring sql).map (number (names sql))
  lexemes : lexemes (withPlaceholders (names sql) sql).toList
    = (lexemes sql.toList).flatMap (replaced (number (names sql)))

/-! ### Placeholders that read back -/

/-- What follows a lexeme begins as before when the markers are replaced, but for a dollar sign in
place of a sign at. -/
theorem head?_substituted (number : String → Nat) (ls : List Lexeme) (rest : List Char) :
  (ls.flatMap (substituted number) ++ rest).head? = (joinedChars ls ++ rest).head?
    ∨ (ls.flatMap (substituted number) ++ rest).head? = some '$'
      ∧ (joinedChars ls ++ rest).head? = some '@'
  := by
  induction ls with
  | nil => left; rfl
  | cons l ls ih =>
      rw [joinedChars, List.flatMap_cons, List.flatMap_cons, ← joinedChars, List.append_assoc,
        List.append_assoc]
      cases l with
      | marker name =>
          right
          apply And.intro rfl rfl
      | placeholder =>
          left
          rfl
      | plain cs =>
          cases cs with
          | nil => apply ih
          | cons c cs => left; rfl

/-- What holds of the head of what follows a lexeme, and of a dollar sign, holds when the markers
are replaced. -/
theorem forall_mem_head?_substituted (p : Char → Prop) (number : String → Nat) {ls : List Lexeme}
    {rest : List Char} (h : ∀ c ∈ (joinedChars ls ++ rest).head?, p c) (hdollar : p '$') :
  ∀ c ∈ (ls.flatMap (substituted number) ++ rest).head?, p c
  := by
  intro c hc
  rcases head?_substituted number ls rest with heq | ⟨heq, -⟩
  · apply h
    rw [← heq]
    apply hc
  · rw [heq] at hc
    obtain rfl := Option.some.inj hc
    apply hdollar

/-- A lexeme that leads a text and begins with a letter is that letter. -/
theorem Leads.eq_single {l : Lexeme} {t : List Char} (h : Leads l t) {c : Char} {cs : List Char}
    (hchars : l.chars = c :: cs) (hc : isNameStart c = true) :
  l = .plain [c]
  := by
  cases h with
  | region h ht =>
      exfalso
      cases h with
      | quoted hquote _ =>
          obtain ⟨rfl, -⟩ := List.cons.inj hchars
          simp only [isQuote, Bool.or_eq_true, beq_iff_eq] at hquote
          rcases hquote with rfl | rfl
          · contradiction
          · contradiction
      | _ =>
          obtain ⟨rfl, -⟩ := List.cons.inj hchars
          contradiction
  | single hquote hdollar ht =>
      obtain ⟨rfl, -⟩ := List.cons.inj hchars
      rfl
  | _ =>
      obtain ⟨rfl, -⟩ := List.cons.inj hchars
      contradiction

theorem substituted_eq_chars (number : String → Nat) {l : Lexeme} (h : ∀ name, l ≠ .marker name) :
  substituted number l = l.chars
  := by
  cases l with
  | marker name =>
      exfalso
      apply h name rfl
  | _ => rfl

/-- A second dollar sign behind a tag was one before the markers were replaced, or belongs to a
placeholder. -/
theorem opensLiteral_or_marker (number : String → Nat) {ls : List Lexeme} {rest tag r : List Char}
    (h : LeadAll ls rest) (htag : ∀ c ∈ tag, isNameStart c = true)
    (htext : ls.flatMap (substituted number) ++ rest = tag ++ '$' :: r) :
  OpensLiteral (joinedChars ls ++ rest) ∨ ∃ name back, ls = singles tag ++ .marker name :: back
  := by
  induction tag generalizing ls with
  | nil =>
      cases h with
      | nil => left; use [], r, htag, htext
      | @cons l ls _ hl hs =>
          by_cases hmarker : ∃ name, l = .marker name
          · right
            obtain ⟨name, rfl⟩ := hmarker
            use name, ls
            rfl
          · left
            rw [not_exists] at hmarker
            rw [List.flatMap_cons, substituted_eq_chars number hmarker] at htext
            obtain ⟨c, cs, hchars⟩ := List.exists_cons_of_ne_nil hl.chars_ne_nil
            rw [hchars] at htext
            obtain ⟨rfl, -⟩ := List.cons.inj htext
            use [], cs ++ joinedChars ls ++ rest, htag
            rw [joinedChars, List.flatMap_cons, hchars]
            rfl
  | cons c tag ih =>
      rw [List.forall_mem_cons] at htag
      cases h with
      | nil => left; use c :: tag, r, List.forall_mem_cons.mpr htag, htext
      | @cons l ls _ hl hs =>
          have hmarker : ∀ name, l ≠ .marker name := by
            rintro name rfl
            obtain ⟨rfl, -⟩ := List.cons.inj htext
            have hstart := htag.1
            contradiction
          rw [List.flatMap_cons, substituted_eq_chars number hmarker] at htext
          obtain ⟨d, cs, hchars⟩ := List.exists_cons_of_ne_nil hl.chars_ne_nil
          have hhead := htext
          rw [hchars] at hhead
          obtain ⟨rfl, -⟩ := List.cons.inj hhead
          obtain rfl := hl.eq_single hchars htag.1
          rcases ih hs htag.2 (List.cons.inj htext).2 with ⟨tag', r', htag', ht⟩ | ⟨name, back, rfl⟩
          · left
            use d :: tag', r', List.forall_mem_cons.mpr ⟨htag.1, htag'⟩
            rw [joinedChars, List.flatMap_cons, ← joinedChars, List.append_assoc, ht]
            rfl
          · right
            use name, back
            rfl

theorem not_mem_signs_of_isDigit {c : Char} (h : c.isDigit = true) :
  c ∉ signs
  := by
  apply not_mem_signs_of _ h
  decide

/-- A placeholder leads whatever follows it. -/
theorem leadAll_placeholder (n : Nat) (t : List Char) :
  LeadAll (.placeholder :: singles (digits n)) t
  := by
  apply LeadAll.cons
  · rw [joinedChars_singles]
    obtain ⟨d, ds, hdigits⟩ := List.exists_cons_of_ne_nil (digits_ne_nil n)
    rw [hdigits]
    apply Leads.placeholder
    apply isDigit_of_mem_digits (n := n)
    rw [hdigits]
    apply List.mem_cons_self
  · apply leadAll_singles
    intro c hc
    apply not_mem_signs_of_isDigit (isDigit_of_mem_digits hc)

/-- The lexemes for a lexeme lead what follows it with the markers replaced, unless a marker is
glued to a dollar sign. -/
theorem leadAll_replaced (number : String → Nat) {l : Lexeme} {ls : List Lexeme} {rest : List Char}
    (h : Leads l (joinedChars ls ++ rest)) (hs : LeadAll ls rest) (hglued : ¬ Glued (l :: ls)) :
  LeadAll (replaced number l) (ls.flatMap (substituted number) ++ rest)
  := by
  have hsingle : ∀ {l t}, Leads l t → LeadAll [l] t := by
    intro l t h
    apply LeadAll.cons h (.nil t)
  generalize hprevious : joinedChars ls ++ rest = previous at h
  cases h with
  | @region cs t h ht =>
      apply hsingle
      apply Leads.region h
      intro quote hhead hquote hmem
      refine forall_mem_head?_substituted (· ≠ quote) number ?_ ?_ quote hmem rfl
      · rintro d hd rfl
        rw [hprevious] at hd
        apply ht d hhead hquote hd
      · rintro rfl
        contradiction
  | @serverName name t h ht =>
      apply hsingle
      apply Leads.serverName h
      rw [← hprevious] at ht
      apply forall_mem_head?_substituted (isNameChar · = false) number ht (by decide)
  | @marker c name t hc h ht => apply leadAll_placeholder
  | @placeholder d t hd =>
      apply hsingle
      rcases head?_substituted number ls rest with heq | ⟨-, hat⟩
      · rw [hprevious] at heq
        obtain ⟨t', ht'⟩ := List.head?_eq_some_iff.mp heq
        rw [ht']
        apply Leads.placeholder hd
      · rw [hprevious] at hat
        obtain rfl := Option.some.inj hat
        contradiction
  | @dollar t hdigit ht =>
      apply hsingle
      rw [← hprevious] at hdigit ht
      apply Leads.dollar
      · apply forall_mem_head?_substituted (Char.isDigit · = false) number hdigit (by decide)
      · rintro ⟨tag, r, htag, htext⟩
        rcases opensLiteral_or_marker number hs htag htext with h | ⟨name, back, rfl⟩
        · apply ht h
        · apply hglued
          use [], tag, name, back
          apply And.intro rfl htag
  | @single c t hquote hdollar ht =>
      apply hsingle
      apply Leads.single hquote hdollar
      rw [← hprevious] at ht
      apply forall_mem_head?_substituted (begins c · = false) number ht
      simp [begins, isNameStart]

/-- Lexemes among which no marker is glued are replaced by lexemes that lead one another. -/
theorem leadAll_flatMap_replaced (number : String → Nat) {ls : List Lexeme} {rest : List Char}
    (h : LeadAll ls rest) (hglued : ¬ Glued ls) :
  LeadAll (ls.flatMap (replaced number)) rest
  := by
  induction h with
  | nil => apply LeadAll.nil
  | @cons l ls rest hl hs ih =>
      have htail : ¬ Glued ls := by
        intro h
        apply hglued (h.cons l)
      rw [List.flatMap_cons]
      apply LeadAll.append _ (ih htail)
      rw [joinedChars_flatMap_replaced]
      apply leadAll_replaced number hl hs hglued

theorem placed_singles_append (cs : List Char) (ls : List Lexeme) :
  placed (singles cs ++ ls) = placed ls
  := by
  induction cs with
  | nil => rfl
  | cons c cs ih => apply ih

/-- The digits of a number are read up to a character that is none. -/
theorem digitsValue_takeWhile (n : Nat) {t : List Char} (h : ∀ c ∈ t.head?, c.isDigit = false) :
  digitsValue ((digits n ++ t).takeWhile Char.isDigit) = n
  := by
  have hdigits : ∀ c ∈ digits n, c.isDigit = true := by
    intro c hc
    apply isDigit_of_mem_digits hc
  have hstop : t.takeWhile Char.isDigit = [] := by
    cases t with
    | nil => rfl
    | cons c t => simp [h c rfl]
  rw [List.takeWhile_append_of_pos hdigits, hstop, List.append_nil, digitsValue_digits]

theorem isDigit_of_isNameChar_eq_false {c : Char} (h : isNameChar c = false) :
  c.isDigit = false
  := by
  simp only [isNameChar, Char.isAlphanum, Bool.or_eq_false_iff] at h
  apply h.1.2

/-- The numbers that are read are those of the markers. -/
theorem placed_flatMap_replaced (number : String → Nat) {ls ls' : List Lexeme}
    (h : LeadAll ls (joinedChars ls')) (hnone : .placeholder ∉ ls) :
  placed (ls.flatMap (replaced number) ++ ls')
    = (ls.filterMap name?).map number ++ placed ls'
  := by
  induction ls with
  | nil => rfl
  | cons l ls ih =>
      rw [List.mem_cons, not_or] at hnone
      cases h with
      | cons hl hs =>
          have htail := ih hs hnone.2
          cases l with
          | plain cs => apply htail
          | placeholder =>
              exfalso
              apply hnone.1 rfl
          | marker name =>
              cases hl with
              | @marker c name _ hc h ht =>
                  have hstops := forall_mem_head?_substituted (isNameChar · = false) number ht
                    (by decide)
                  rw [List.flatMap_cons, replaced, List.append_assoc, List.cons_append, placed,
                    placed_singles_append, htail, joinedChars_append, joinedChars_singles,
                    joinedChars_append, joinedChars_flatMap_replaced, digitsValue_takeWhile]
                  · rfl
                  · intro d hd
                    apply isDigit_of_isNameChar_eq_false (hstops d hd)

/-! ### Glued markers -/

/-- What follows some lexemes of a text has the others as its own. -/
theorem lexemes_joinedChars {cs : List Char} {ls ls' : List Lexeme} (h : lexemes cs = ls ++ ls') :
  lexemes (joinedChars ls') = ls'
  := by
  induction ls generalizing cs with
  | nil =>
      rw [List.nil_append] at h
      rw [← h, joinedChars_lexemes]
  | cons l ls ih =>
      cases cs with
      | nil =>
          rw [lexemes_nil] at h
          contradiction
      | cons c r =>
          rw [lexemes] at h
          apply ih (List.cons.inj h).2

theorem not_closed_dollar :
  ¬ Closed ['$']
  := by
  intro h
  generalize hcs : ['$'] = cs at h
  cases h with
  | quoted hquote _ =>
      obtain ⟨rfl, -⟩ := List.cons.inj hcs
      contradiction
  | dollar htag h => simp [delimiter] at hcs
  | _ =>
      obtain ⟨h', -⟩ := List.cons.inj hcs
      contradiction

/-- A dollar sign with a tag and a second one behind it is no lexeme of its own. -/
theorem first_dollar_ne {tag : List Char} (htag : ∀ c ∈ tag, isNameStart c = true) (r : List Char) :
  (first '$' (tag ++ '$' :: r)).1 ≠ .plain ['$']
  := by
  intro h
  have htext := chars_first '$' (tag ++ '$' :: r)
  rcases leads_first '$' (tag ++ '$' :: r) with hleads | ⟨hrest, -⟩
  · have hstarts : delimiter tag <+: (first '$' (tag ++ '$' :: r)).1.chars
        ++ (first '$' (tag ++ '$' :: r)).2 := by
      rw [htext]
      use r
      simp [delimiter]
    obtain ⟨cs, hcs, hclosed, -⟩ := hleads.closed_of_opening (.dollar htag) hstarts
    rw [h] at hcs
    obtain rfl := Lexeme.plain.inj hcs
    apply not_closed_dollar hclosed
  · rw [h, hrest] at htext
    simp [Lexeme.chars] at htext

/-- No text has lexemes among which the sign of a placeholder stands behind a dollar sign and a
tag. -/
theorem lexemes_ne_of_sign {tag : List Char} (htag : ∀ c ∈ tag, isNameStart c = true)
    (cs : List Char) (front back : List Lexeme) :
  lexemes cs ≠ front ++ .plain ['$'] :: (singles tag ++ .placeholder :: back)
  := by
  intro hcs
  have hrest := lexemes_joinedChars hcs
  have htext : joinedChars (.plain ['$'] :: (singles tag ++ .placeholder :: back))
      = '$' :: (tag ++ '$' :: joinedChars back) := by
    rw [joinedChars, List.flatMap_cons, ← joinedChars, joinedChars_append, joinedChars_singles]
    rfl
  rw [htext, lexemes] at hrest
  apply first_dollar_ne htag (joinedChars back) (List.cons.inj hrest).1

/-- Plain lexemes stand for themselves. -/
theorem flatMap_replaced_of_isPlain (number : String → Nat) {ls : List Lexeme}
    (h : ∀ l ∈ ls, isPlain l = true) :
  ls.flatMap (replaced number) = ls
  := by
  have hself : ls.flatMap (replaced number) = ls.flatMap ([·]) := by
    apply List.flatMap_congr
    intro l hl
    obtain ⟨cs, rfl⟩ := exists_of_isPlain (h l hl)
    rfl
  rw [hself, List.flatMap_singleton']

/-- Where a marker is glued, the lexemes of no text are those that stand for the lexemes. -/
theorem Glued.lexemes_ne (number : String → Nat) {ls : List Lexeme} (h : Glued ls)
    (cs : List Char) :
  lexemes cs ≠ ls.flatMap (replaced number)
  := by
  obtain ⟨front, tag, name, back, rfl, htag⟩ := h
  rw [List.flatMap_append, List.flatMap_cons, List.flatMap_append,
    flatMap_replaced_of_isPlain number (isPlain_singles tag)]
  apply lexemes_ne_of_sign htag

/-! ### Accepted predicates -/

theorem not_mem_placeholder {sql : String} (h : Predicate.fault? sql = none) :
  .placeholder ∉ lexemes sql.toList
  := by
  obtain ⟨-, -, -, -, hnone⟩ := (Predicate.fault?_eq_none_iff sql).mp h
  simpa [hasPlaceholders] using hnone

theorem filterMap_name?_of_isPlain {ls : List Lexeme} (h : ∀ l ∈ ls, isPlain l = true) :
  ls.filterMap name? = []
  := by
  rw [List.filterMap_eq_nil_iff]
  intro l hl
  obtain ⟨cs, rfl⟩ := exists_of_isPlain (h l hl)
  rfl

/-- What stands for a lexeme is no marker. -/
theorem name?_of_mem_replaced (number : String → Nat) {l l' : Lexeme}
    (h : l' ∈ replaced number l) :
  name? l' = none
  := by
  cases l with
  | marker name =>
      rw [replaced, List.mem_cons] at h
      rcases h with rfl | h
      · rfl
      · obtain ⟨c, -, rfl⟩ := List.mem_map.mp h
        rfl
  | _ =>
      obtain rfl := List.mem_singleton.mp h
      rfl

theorem placed_of_isPlain {ls : List Lexeme} (h : ∀ l ∈ ls, isPlain l = true) :
  placed ls = []
  := by
  induction ls with
  | nil => rfl
  | cons l ls ih =>
      rw [List.forall_mem_cons] at h
      obtain ⟨cs, rfl⟩ := exists_of_isPlain h.1
      apply ih h.2

/-- Lexemes in front of a plain rest, among which no marker is glued, read back. -/
theorem readsBack_of_leadAll {sql : String} {ls : List Lexeme} {rest : List Char}
    (hlexemes : lexemes sql.toList = ls ++ lexemes rest) (h : LeadAll ls rest)
    (hplain : ∀ l ∈ lexemes rest, isPlain l = true) (hnone : .placeholder ∉ ls)
    (hglued : ¬ Glued ls) :
  ReadsBack sql
  := by
  have hreplaced := flatMap_replaced_of_isPlain (number (names sql)) hplain
  have hread : lexemes (withPlaceholders (names sql) sql).toList
      = ls.flatMap (replaced (number (names sql))) ++ lexemes rest := by
    rw [← (leadAll_flatMap_replaced _ h hglued).lexemes_append, toList_withPlaceholders,
      ← joinedChars_flatMap_replaced, hlexemes, List.flatMap_append, joinedChars_append, hreplaced,
      joinedChars_lexemes]
  have hkept : lexemes (withPlaceholders (names sql) sql).toList
      = (lexemes sql.toList).flatMap (replaced (number (names sql))) := by
    rw [hread, hlexemes, List.flatMap_append, hreplaced]
  constructor
  · rw [occurring, hkept, List.filterMap_eq_nil_iff]
    intro l hl
    obtain ⟨l', -, hl'⟩ := List.mem_flatMap.mp hl
    apply name?_of_mem_replaced _ hl'
  · rw [hread, placed_flatMap_replaced _ _ hnone, occurring, hlexemes, List.filterMap_append,
      filterMap_name?_of_isPlain hplain, placed_of_isPlain hplain, List.append_nil, List.append_nil]
    rw [joinedChars_lexemes]
    apply h
  · apply hkept

/-- An accepted predicate reads back with placeholders in place of its markers exactly when no
marker is glued to a dollar sign. -/
theorem readsBack_iff {sql : String} (h : Predicate.fault? sql = none) :
  ReadsBack sql ↔ ¬ Glued (lexemes sql.toList)
  := by
  constructor
  · intro hreads hglued
    apply hglued.lexemes_ne _ _ hreads.lexemes
  · intro hglued
    obtain ⟨ls, rest, -, hlexemes, hall, hend⟩ := exists_leadAll sql.toList
    have hnone := not_mem_placeholder h
    rw [hlexemes] at hglued hnone
    apply readsBack_of_leadAll hlexemes hall
    · rcases hend with rfl | ⟨l, hl, hcut⟩
      · simp [lexemes_nil]
      · simp [hl, hcut.isPlain]
    · intro hmem
      apply hnone (List.mem_append_left _ hmem)
    · intro hls
      apply hglued (hls.append _)

/-- Markers that follow one another, or a blank behind a dollar sign, are not glued. -/
theorem readsBack_iff_adjacent :
  Predicate.fault? "SELECT a$b @x@y" = none ∧ ReadsBack "SELECT a$b @x@y"
    ∧ ¬ Glued (lexemes "SELECT a$b @x@y".toList)
  := by
  have haccepted : Predicate.fault? "SELECT a$b @x@y" = none := by
    decide +kernel
  have hreads : ReadsBack "SELECT a$b @x@y" := by
    constructor
    · decide +kernel
    · decide +kernel
    · decide +kernel
  use haccepted, hreads
  apply (readsBack_iff haccepted).mp hreads

/-- The placeholder of a marker that is glued to a dollar sign is not found. -/
theorem not_readsBack :
  Predicate.fault? "SELECT $a@x" = none ∧ ¬ ReadsBack "SELECT $a@x"
  := by
  constructor
  · decide +kernel
  · intro h
    have hnumbers := h.numbers
    have hnone : placed (lexemes (withPlaceholders (names "SELECT $a@x") "SELECT $a@x").toList)
        = [] := by
      decide +kernel
    have hone : (occurring "SELECT $a@x").map (number (names "SELECT $a@x")) = [1] := by
      decide +kernel
    rw [hnone, hone] at hnumbers
    contradiction

end BoundSql.Marker
