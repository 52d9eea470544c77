import BoundSql.ColumnType
import BoundSql.Proofs.Text.Trim

/-!
# Declared names with a modifier

The family of a declared name depends on the lower case of the name up to the first
parenthesis, without the blanks at its ends. A modifier at the end of a name says
nothing about the family. One inside a name hides the words behind it:
`timestamp with time zone` with a modifier is a name of a local timestamp.
-/

namespace BoundSql.ColumnType

open BoundSql.Text

/-! ### What a family depends on -/

/-- The characters of a text in front of the first parenthesis. -/
def cut (s : String) : String :=
  String.ofList (s.toList.takeWhile (· != '('))

theorem cut_append_paren (s rest : String) :
  cut (s ++ "(" ++ rest) = cut s
  := by
  have hlist : (s ++ "(" ++ rest).toList = s.toList ++ '(' :: rest.toList := by simp
  rw [cut, hlist, List.takeWhile_append]
  split
  · next hall =>
      rw [cut, (List.takeWhile_prefix _).eq_of_length hall, List.takeWhile_cons_of_neg (by decide),
        List.append_nil]
  · rfl

/-- A declared name is read from the text in front of its first parenthesis, in lower case and
without blanks around it. -/
theorem baseName_eq (s : String) :
  baseName s = trim (cut (lower s))
  := by
  have hblank : ∀ c, isBlankChar c = true → (c != '(') = true := by
    intro c hc
    rw [bne_iff_ne]
    rintro rfl
    contradiction
  rw [baseName, ← trimChars_map isBlankChar_toLower, dropBlanksEnd_takeWhile_trimChars hblank]
  simp [trim, cut, lower]

theorem ofDeclared_congr {s t : String} (h : baseName s = baseName t) :
  ofDeclared s = ofDeclared t
  := by
  rw [ofDeclared, h, ofDeclared]

/-- Letter case does not count. -/
theorem ofDeclared_congr_lower {s t : String} (h : lower s = lower t) :
  ofDeclared s = ofDeclared t
  := by
  apply ofDeclared_congr
  rw [baseName_eq, h, baseName_eq]

/-- Blanks around a declared name do not count. -/
theorem ofDeclared_surrounded {before after : String} (hbefore : isBlank before = true)
    (hafter : isBlank after = true) (s : String) :
  ofDeclared (before ++ s ++ after) = ofDeclared s
  := by
  apply ofDeclared_congr
  rw [isBlank, List.all_eq_true] at hbefore hafter
  rw [baseName, String.toList_append, String.toList_append,
    trimChars_surrounded hbefore hafter, baseName]

/-- What follows a parenthesis does not count, whether the name in front of it is a declared
one or not. -/
theorem ofDeclared_append_paren (s rest : String) :
  ofDeclared (s ++ "(" ++ rest) = ofDeclared s
  := by
  apply ofDeclared_congr
  have hcut : cut (lower (s ++ "(" ++ rest)) = cut (lower s) := by
    rw [lower_append, lower_append]
    apply cut_append_paren
  rw [baseName_eq, hcut, baseName_eq]

/-- No declared name has a parenthesis, or blanks at its ends. -/
theorem cut_declared :
  ∀ entry ∈ declaredNames, ∀ name ∈ entry.2,
    trimChars (name.toList.takeWhile (· != '(')) = name.toList
  := by
  decide +kernel

/-- No two families have a name in common. -/
theorem find_declared :
  ∀ entry ∈ declaredNames, ∀ name ∈ entry.2,
    declaredNames.find? (·.2.contains name) = some entry
  := by
  decide +kernel

/-- A declared name in any letter case selects its family. -/
theorem ofDeclared_of_lower {name : String} {entry : ColumnType × List String}
    (hentry : entry ∈ declaredNames) (hname : lower name ∈ entry.2) :
  ofDeclared name = entry.1
  := by
  have hbase : trim (cut (lower name)) = lower name := by
    rw [trim, cut, String.toList_ofList, cut_declared entry hentry _ hname, String.ofList_toList]
  rw [ofDeclared, baseName_eq, hbase, find_declared entry hentry _ hname]

/-! ### Modifiers -/

/-- The names that have their modifier behind the first word. -/
def zonedNames : List String :=
  ["timestamp with time zone", "timestamp without time zone"]

/-- The characters in front of the first blank. -/
def firstWord (name : String) : String :=
  String.ofList (name.toList.takeWhile (!isBlankChar ·))

/-- The characters from the first blank. -/
def laterWords (name : String) : String :=
  String.ofList (name.toList.dropWhile (!isBlankChar ·))

/-- A name with a modifier where it is written: behind the first word of a name that says
something of a time zone, and behind every other name. -/
def withModifier (name body : String) : String :=
  if lower name ∈ zonedNames then
    firstWord name ++ "(" ++ body ++ ")" ++ laterWords name
  else
    name ++ "(" ++ body ++ ")"

theorem lower_firstWord (name : String) :
  lower (firstWord name) = firstWord (lower name)
  := by
  have hcomp : (fun c => !isBlankChar c) ∘ Char.toLower = fun c => !isBlankChar c := by
    funext c
    simp
  rw [lower, firstWord, String.toList_ofList, firstWord, lower, String.toList_ofList,
    List.takeWhile_map, hcomp]

/-- A modifier behind the first word leaves a local timestamp, whatever the words behind it
say of the time zone. -/
theorem ofDeclared_withModifier_zoned {name : String} (h : lower name ∈ zonedNames)
    (body : String) :
  ofDeclared (withModifier name body) = .timestamp
  := by
  have hword : ∀ n ∈ zonedNames, firstWord n = lower "timestamp" := by decide
  have hlower : lower (firstWord name) = lower "timestamp" := by
    rw [lower_firstWord, hword _ h]
  rw [withModifier, if_pos h, String.append_assoc, String.append_assoc, ofDeclared_append_paren,
    ofDeclared_congr_lower hlower]
  decide +kernel

/-- A modifier at the end of a name does not count. -/
theorem ofDeclared_withModifier_plain {name : String} (h : lower name ∉ zonedNames)
    (body : String) :
  ofDeclared (withModifier name body) = ofDeclared name
  := by
  rw [withModifier, if_neg h, String.append_assoc, ofDeclared_append_paren]

/-- In any letter case and with blanks around it, a declared name selects its family; with a
modifier it selects the same one, as any other name does, except `timestamp with time zone`,
which selects that of the local timestamps. -/
theorem ofDeclared_withModifier_iff {before after : String} (hbefore : isBlank before = true)
    (hafter : isBlank after = true) (name body : String) :
  (∀ entry ∈ declaredNames, lower name ∈ entry.2 →
      ofDeclared (before ++ name ++ after) = entry.1)
    ∧ (ofDeclared (before ++ withModifier name body ++ after)
        = ofDeclared (before ++ name ++ after)
      ↔ lower name ≠ "timestamp with time zone")
    ∧ (lower name = "timestamp with time zone" →
      ofDeclared (before ++ withModifier name body ++ after) = .timestamp)
  := by
  rw [ofDeclared_surrounded hbefore hafter, ofDeclared_surrounded hbefore hafter]
  have hinstant : lower name = "timestamp with time zone" →
      ofDeclared (withModifier name body) = .timestamp := by
    intro h
    apply ofDeclared_withModifier_zoned
    rw [h]
    decide
  refine ⟨fun entry hentry => ofDeclared_of_lower hentry, ⟨?_, ?_⟩, hinstant⟩
  · intro heq h
    have hplain : ofDeclared name = .timestampTz := by
      rw [ofDeclared_congr_lower (t := "timestamp with time zone") (by rw [h]; decide)]
      decide +kernel
    rw [hinstant h, hplain] at heq
    contradiction
  · intro hname
    by_cases hlocal : lower name = "timestamp without time zone"
    · rw [ofDeclared_withModifier_zoned (by rw [hlocal]; decide),
        ofDeclared_congr_lower (t := "timestamp without time zone") (by rw [hlocal]; decide)]
      decide +kernel
    · apply ofDeclared_withModifier_plain
      simp [zonedNames, hname, hlocal]

theorem ofDeclared_withModifier_iff_numeric :
  isBlank "\t" = true ∧ isBlank " " = true ∧ withModifier "NUMERIC" "10,2" = "NUMERIC(10,2)"
    ∧ ofDeclared "\tNUMERIC(10,2) " = ofDeclared "\tNUMERIC " ∧ ofDeclared "\tNUMERIC " = .decimal
  := by
  have hbefore : isBlank "\t" = true := by decide
  have hafter : isBlank " " = true := by decide
  have hmodified : withModifier "NUMERIC" "10,2" = "NUMERIC(10,2)" := by decide
  obtain ⟨hplain, hsame, -⟩ := ofDeclared_withModifier_iff hbefore hafter "NUMERIC" "10,2"
  rw [hmodified] at hsame
  exact ⟨hbefore, hafter, hmodified, hsame.mpr (by decide),
    hplain (.decimal, ["decimal", "numeric", "money", "smallmoney"]) (by decide) (by decide)⟩

/-- The precision of an instant makes a local timestamp of it. -/
theorem not_ofDeclared_withModifier :
  withModifier "timestamp with time zone" "3" = "timestamp(3) with time zone"
    ∧ ofDeclared "timestamp with time zone" = .timestampTz
    ∧ ofDeclared "timestamp(3) with time zone" = .timestamp
    ∧ ¬ ∀ entry ∈ declaredNames, ∀ name ∈ entry.2, ∀ body : String,
      ofDeclared (withModifier name body) = ofDeclared name
  := by
  have hmodified : withModifier "timestamp with time zone" "3" = "timestamp(3) with time zone" := by
    decide
  have hplain : ofDeclared "timestamp with time zone" = .timestampTz := by decide +kernel
  have hcut : ofDeclared "timestamp(3) with time zone" = .timestamp := by decide +kernel
  refine ⟨hmodified, hplain, hcut, ?_⟩
  intro hall
  have h := hall (.timestampTz, ["timestamptz", "timestamp with time zone", "datetimeoffset"])
    (by decide) "timestamp with time zone" (by decide) "3"
  rw [hmodified, hplain, hcut] at h
  contradiction

end BoundSql.ColumnType
