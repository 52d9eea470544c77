import BoundSql.Proofs.Clause.Text
import BoundSql.Proofs.Entity.Columns
import BoundSql.Proofs.Entity.Requirement
import BoundSql.Proofs.Filter.Survival
import Mathlib.Data.List.Infix

/-!
# Searches

A column is like a pattern in which a percent sign stands for any characters and an
underscore for any one character, while a backslash takes away the meaning of the
character behind it. A search for a text puts the text between percent signs as it
is. So it finds exactly the texts that contain the text when none of the three
characters is in it, and else it also finds a text that does not contain it.
-/

namespace BoundSql

open BoundSql.Text

/-! ### Texts that are like a pattern -/

namespace Pattern

/-- Whether a text is like a pattern, by their characters. A backslash at the end of a pattern has
nothing to stand for. -/
def isLike : List Char → List Char → Bool
  | [], text => text.isEmpty
  | '%' :: pattern, text => text.tails.any (isLike pattern)
  | '_' :: _, [] => false
  | '_' :: pattern, _ :: text => isLike pattern text
  | ['\\'], _ => false
  | '\\' :: _ :: _, [] => false
  | '\\' :: c :: pattern, d :: text => c == d && isLike pattern text
  | _ :: _, [] => false
  | c :: pattern, d :: text => c == d && isLike pattern text

example : isLike "a_%\\%".toList "abcd%".toList = true := by decide +kernel

/-- Whether a character means something else in a pattern than itself. -/
def isSpecial (c : Char) : Bool :=
  c == '%' || c == '_' || c == '\\'

variable {c : Char} {s pattern text : List Char}

/-- A percent sign stands for any characters. -/
theorem isLike_percent_iff :
  isLike ('%' :: pattern) text = true
    ↔ ∃ skipped left, text = skipped ++ left ∧ isLike pattern left = true
  := by
  rw [isLike, List.any_eq_true]
  constructor
  · rintro ⟨left, hleft, hlike⟩
    rw [List.mem_tails] at hleft
    obtain ⟨skipped, rfl⟩ := hleft
    use skipped, left
  · rintro ⟨skipped, left, rfl, hlike⟩
    use left
    rw [List.mem_tails]
    use List.suffix_append skipped left

theorem isLike_percent (text : List Char) :
  isLike ['%'] text = true
  := by
  rw [isLike_percent_iff]
  use text, []
  simp [isLike]

/-- A character without another meaning stands for itself. -/
theorem isLike_cons_iff (hc : isSpecial c = false) :
  isLike (c :: pattern) text = true ↔ ∃ left, text = c :: left ∧ isLike pattern left = true
  := by
  simp only [isSpecial, Bool.or_eq_false_iff, beq_eq_false_iff_ne] at hc
  obtain ⟨⟨hpercent, hunderscore⟩, hbackslash⟩ := hc
  cases text with
  | nil => simp [isLike, *]
  | cons d text =>
      have hplain : isLike (c :: pattern) (d :: text) = (c == d && isLike pattern text) := by
        simp [isLike, *]
      rw [hplain, Bool.and_eq_true, beq_iff_eq]
      constructor
      · rintro ⟨rfl, hlike⟩
        use text, rfl
      · rintro ⟨left, htext, hlike⟩
        obtain ⟨rfl, rfl⟩ := List.cons.inj htext
        use rfl

/-- Characters without another meaning stand for themselves. -/
theorem isLike_append_iff (hs : ∀ c ∈ s, isSpecial c = false) :
  isLike (s ++ pattern) text = true ↔ ∃ left, text = s ++ left ∧ isLike pattern left = true
  := by
  induction s generalizing text with
  | nil => simp
  | cons c s ih =>
      obtain ⟨hc, hs⟩ := List.forall_mem_cons.mp hs
      rw [List.cons_append, isLike_cons_iff hc]
      constructor
      · rintro ⟨left, rfl, hlike⟩
        obtain ⟨left, rfl, hlike⟩ := (ih hs).mp hlike
        use left, rfl
      · rintro ⟨left, rfl, hlike⟩
        use s ++ left, rfl
        rw [ih hs]
        use left

/-- Characters without another meaning are found exactly where they stand in a row. -/
theorem isLike_between_iff (hs : ∀ c ∈ s, isSpecial c = false) :
  isLike ('%' :: (s ++ ['%'])) text = true ↔ s <:+: text
  := by
  rw [isLike_percent_iff]
  simp only [isLike_append_iff hs, isLike_percent, and_true]
  constructor
  · rintro ⟨skipped, _, rfl, left, rfl⟩
    use skipped, left
    simp
  · rintro ⟨skipped, left, rfl⟩
    use skipped, s ++ left
    simp

/-! ### What else is found -/

/-- A text that a pattern in front of a percent sign asks for, with nothing for each percent sign. A
backslash at the end makes that percent sign stand for itself. -/
def sample : List Char → List Char
  | [] => []
  | '%' :: pattern => sample pattern
  | '_' :: pattern => 'x' :: sample pattern
  | ['\\'] => ['%']
  | '\\' :: c :: pattern => c :: sample pattern
  | c :: pattern => c :: sample pattern

theorem isSpecial_of_sample (hpercent : c ≠ '%') (hunderscore : c ≠ '_')
    (hlast : c = '\\' → pattern = [] → False)
    (hbackslash : ∀ d rest, c = '\\' → pattern = d :: rest → False) :
  isSpecial c = false
  := by
  simp only [isSpecial, Bool.or_eq_false_iff, beq_eq_false_iff_ne]
  refine ⟨⟨hpercent, hunderscore⟩, ?_⟩
  intro hc
  cases pattern with
  | nil => apply hlast hc rfl
  | cons d rest => apply hbackslash d rest hc rfl

theorem isLike_sample (pattern : List Char) :
  isLike (pattern ++ ['%']) (sample pattern) = true
  := by
  fun_induction sample pattern with
  | case1 => rfl
  | case2 pattern ih =>
      rw [List.cons_append, isLike_percent_iff]
      use [], sample pattern, rfl
  | case3 pattern ih => apply ih
  | case4 => rfl
  | case5 c pattern ih => simpa [isLike] using ih
  | case6 c pattern hpercent hunderscore hlast hbackslash ih =>
      have hc : isSpecial c = false := isSpecial_of_sample hpercent hunderscore hlast hbackslash
      rw [List.cons_append, isLike_cons_iff hc]
      use sample pattern, rfl

theorem length_sample_le (pattern : List Char) :
  (sample pattern).length ≤ pattern.length
  := by
  fun_induction sample pattern with
  | case1 => simp
  | case2 pattern ih =>
      rw [List.length_cons]
      omega
  | case4 => simp
  | case5 c pattern ih =>
      simp only [List.length_cons]
      omega
  | case3 pattern ih =>
      simp only [List.length_cons]
      omega
  | case6 c pattern hpercent hunderscore hlast hbackslash ih =>
      simp only [List.length_cons]
      omega

/-- Only characters without another meaning ask for themselves. -/
theorem isSpecial_of_sample_eq (h : sample s = s) :
  ∀ c ∈ s, isSpecial c = false
  := by
  fun_induction sample s with
  | case1 => simp
  | case2 pattern ih =>
      -- what is asked for would be longer than the pattern
      have hlength := length_sample_le pattern
      rw [h, List.length_cons] at hlength
      omega
  | case3 pattern ih => simp at h
  | case4 => simp at h
  | case5 c pattern ih =>
      have hlength := length_sample_le pattern
      have hsame := congrArg List.length h
      simp only [List.length_cons] at hsame
      omega
  | case6 c pattern hpercent hunderscore hlast hbackslash ih =>
      obtain ⟨_, hrest⟩ := List.cons.inj h
      rw [List.forall_mem_cons]
      use isSpecial_of_sample hpercent hunderscore hlast hbackslash, ih hrest

/-- The sample of a pattern contains the pattern only if no character has another meaning. -/
theorem isSpecial_of_infix_sample (h : s <:+: sample s) :
  ∀ c ∈ s, isSpecial c = false
  := by
  apply isSpecial_of_sample_eq
  symm
  apply h.eq_of_length_le (length_sample_le s)

end Pattern

/-! ### Searches for a text -/

namespace Clause

open Pattern Fragment

/-- Whether a search for a text finds another one. -/
def finds (s text : String) : Bool :=
  isLike (containing s).toList text.toList

theorem toList_containing (s : String) :
  (containing s).toList = '%' :: (s.toList ++ ['%'])
  := by
  rw [containing, String.toList_append, String.toList_append]
  rfl

theorem finds_iff {s : String} (hs : ∀ c ∈ s.toList, isSpecial c = false) (text : String) :
  finds s text = true ↔ s.toList <:+: text.toList
  := by
  rw [finds, toList_containing, isLike_between_iff hs]

/-- What a search asks for is found. -/
theorem finds_sample (s : String) :
  finds s (String.ofList (sample s.toList)) = true
  := by
  rw [finds, toList_containing, String.toList_ofList, isLike_percent_iff]
  use [], sample s.toList, rfl, isLike_sample s.toList

/-- The condition on a text column that asks for a text is a search for it. -/
theorem clause_of_search {s : String} (hs : isBlank s = false) {scope : Scope} {c : Condition}
    {column : Ident} (hoperator : c.operator = .like) (hvalue : c.value = some (.string s))
    (hplaced : c.placed? scope = some (column, .text)) :
  c.clause scope = .ok (some (.like column false (containing s)))
  := by
  have hsearch : Condition.searchText? c.value = some s := by
    rw [hvalue, Condition.searchText?, if_neg (by simp [hs])]
  rw [Condition.clause_of_placed hplaced, Condition.clauseOn, hoperator]
  dsimp only
  rw [hsearch]
  rfl

/-- A search on a field is a search on its column. -/
theorem like_of_field {b : WhereBuilder} {e : Entity} {name : String} {f : Field} (s : String)
    (hentity : b.entity = .ok e) (hfield : e.field? name = some f) :
  b.like name s
    = { b with requirements := b.requirements ++ [⟨f.column, .like ("%" ++ s ++ "%")⟩] }
  := by
  rw [WhereBuilder.like, WhereBuilder.field, hentity]
  dsimp only
  rw [hfield]
  rfl

/-- A search is written with a placeholder for the text between percent signs. -/
theorem build_like (column : Ident) (s : String) :
  (Clause.like column false (containing s)).fragment.build
    = ⟨column.text ++ " LIKE $1", [.text ("%" ++ s ++ "%")]⟩
  := by
  have hsql : (Clause.like column false (containing s)).fragment.sql
      = column.text ++ " LIKE $1" := by
    have hfirst : placeholder 1 = ['$', '1'] := by decide
    rw [← String.toList_inj, toList_sql, write_fragment, written, hfirst]
    simp
  rw [build, hsql, params_fragment]
  rfl

/-- A search for a text finds exactly the texts that contain it when none of its characters has a
meaning of its own in patterns, and only then. A condition on a text column and a restriction on a
field both search in this way, with the text between percent signs as the value that they bind. -/
theorem finds_iff_infix_iff {s : String} (hs : isBlank s = false) :
  ((∀ text, finds s text = true ↔ s.toList <:+: text.toList)
      ↔ ∀ c ∈ s.toList, isSpecial c = false)
    ∧ (∀ (b : WhereBuilder) (e : Entity) (name : String) (f : Field), b.entity = .ok e →
      e.field? name = some f →
      b.like name s
        = { b with requirements := b.requirements ++ [⟨f.column, .like ("%" ++ s ++ "%")⟩] })
    ∧ (∀ (scope : Scope) (c : Condition) (column : Ident), c.operator = .like →
      c.value = some (.string s) → c.placed? scope = some (column, .text) →
      c.clause scope = .ok (some (.like column false (containing s))))
    ∧ ∀ column : Ident, (Clause.like column false (containing s)).fragment.build
        = ⟨column.text ++ " LIKE $1", [.text ("%" ++ s ++ "%")]⟩
      ∧ (Requirement.mk column (.like ("%" ++ s ++ "%"))).fragment.build
        = ⟨column.text ++ " LIKE $1", [.text ("%" ++ s ++ "%")]⟩
  := by
  refine ⟨?_, ?_, ?_, ?_⟩
  · constructor
    · intro h
      apply isSpecial_of_infix_sample
      have hsample := (h _).mp (finds_sample s)
      rwa [String.toList_ofList] at hsample
    · apply finds_iff
  · intro b e name f hentity hfield
    apply like_of_field s hentity hfield
  · intro scope c column hoperator hvalue hplaced
    apply clause_of_search hs hoperator hvalue hplaced
  · intro column
    use build_like column s
    rw [Requirement.fragment_eq]
    apply build_like

/-- A search for a share of fifty percent also finds other texts that begin with the same digits; a
search for a name of letters and digits finds the texts that contain it. A restriction and a
condition on labels both search for the share. -/
theorem finds_iff_infix_iff_fifty :
  isBlank "50%" = false ∧ (¬ ∀ text, finds "50%" text = true ↔ "50%".toList <:+: text.toList)
    ∧ isBlank "A1" = false ∧ (∀ text, finds "A1" text = true ↔ "A1".toList <:+: text.toList)
    ∧ (WhereBuilder.start (.ok lot)).like "label" "50%"
      = ⟨.ok lot, [⟨lotLabel.column, .like "%50%%"⟩], none⟩
    ∧ ({ column := "label", operator := .like, value := some (.string "50%") } : Condition).clause
        .any
      = .ok (some (.like lotLabel.column false (containing "50%")))
  := by
  have hfifty : isBlank "50%" = false := by decide +kernel
  have hname : isBlank "A1" = false := by decide +kernel
  obtain ⟨hshare, hfield, hclause, -⟩ := finds_iff_infix_iff hfifty
  refine ⟨hfifty, ?_, hname, ?_, ?_, ?_⟩
  · rw [hshare]
    intro hplain
    apply absurd (hplain '%' (by decide +kernel))
    decide +kernel
  · have hplain : "A1".toList.all (!isSpecial ·) = true := by decide +kernel
    rw [(finds_iff_infix_iff hname).1]
    intro c hc
    simpa using List.all_eq_true.mp hplain c hc
  · have hlabel : lot.field? "label" = some lotLabel := by rfl
    apply hfield _ lot _ lotLabel rfl hlabel
  · apply hclause
    · rfl
    · rfl
    · rfl

/-- A search does not only find texts that contain what is searched for. -/
theorem not_finds_iff_infix :
  ¬ ∀ s text : String, isBlank s = false → (finds s text = true ↔ s.toList <:+: text.toList)
  := by
  intro h
  have hinfix := (h "50%" "500" (by decide +kernel)).mp (by decide +kernel)
  revert hinfix
  decide +kernel

end Clause

end BoundSql
