import BoundSql.Fragment.Builder
import BoundSql.Proofs.Fragment.Written

/-!
# What builders spell

A builder spells a sequence of characters and values: its parts are the characters,
with a placeholder for each value, and its values are those of the sequence. No
part is an empty text and no two texts stand side by side. Every push adds to the
sequence, and nothing else of a builder counts: two builders that spell the same
are equal. There are as many placeholders as values.
-/

namespace BoundSql

/-! ### Parts -/

namespace Symbol

variable {α : Type}

/-- The characters of a text. -/
def chars (s : String) : List (Symbol α) :=
  s.toList.map .char

theorem filterMap_slot?_chars (s : String) :
  (chars (α := α) s).filterMap slot? = []
  := filterMap_slot?_map_char s.toList

/-- A symbol without what stands in its place. -/
def vacated : Symbol α → Symbol Unit
  | .char c => .char c
  | .slot _ => .slot ()

theorem map_vacated_chars (s : String) :
  (chars (α := α) s).map vacated = chars s
  := by
  rw [chars, List.map_map]
  rfl

/-- Symbols are written without regard to what stands in their places. -/
theorem write_map_vacated (n : Nat) (s : List (Symbol α)) :
  write n (s.map vacated) = write n s
  := by
  induction s generalizing n with
  | nil => rfl
  | cons x s ih =>
      cases x with
      | char c => simp [vacated, write, ih]
      | slot a => simp [vacated, write, ih]

end Symbol

namespace Part

open BoundSql.Symbol

/-- The symbols of a part. -/
def symbols : Part → List (Symbol Unit)
  | .raw s => chars s
  | .placeholder => [.slot ()]

/-- Two parts that may stand side by side. -/
def Apart : Part → Part → Prop
  | .raw _, .raw _ => False
  | _, _ => True

/-- No part is an empty text, and no two texts stand side by side. -/
structure Merged (ps : List Part) : Prop where
  apart : ps.IsChain Apart
  filled : .raw "" ∉ ps

theorem Merged.tail {p : Part} {ps : List Part} (h : Merged (p :: ps)) :
  Merged ps
  := by
  use h.apart.tail
  apply mt (List.mem_cons_of_mem p) h.filled

theorem Merged.toList_ne_nil {s : String} {ps : List Part} (h : Merged (.raw s :: ps)) :
  s.toList ≠ []
  := by
  intro hs
  rw [String.toList_eq_nil_iff.mp hs] at h
  apply h.filled List.mem_cons_self

/-- Parts that have no symbols are none. -/
theorem Merged.eq_nil {ps : List Part} (h : Merged ps) (hsymbols : ps.flatMap symbols = []) :
  ps = []
  := by
  cases ps with
  | nil => rfl
  | cons p ps =>
      rw [List.flatMap_cons, List.append_eq_nil_iff] at hsymbols
      cases p with
      | placeholder => cases hsymbols.1
      | raw s =>
          rw [symbols, chars, List.map_eq_nil_iff] at hsymbols
          apply absurd hsymbols.1 h.toList_ne_nil

/-- Behind a text stands nothing or a placeholder. -/
theorem Merged.head_symbols {s : String} {ps : List Part} (h : Merged (.raw s :: ps)) :
  ∀ x ∈ (ps.flatMap symbols).head?, x = .slot ()
  := by
  cases ps with
  | nil => simp
  | cons p ps =>
      cases p with
      | raw t => cases (List.isChain_cons_cons.mp h.apart).1
      | placeholder => simp [symbols]

/-- Texts in front of nothing or a place are told apart from what follows. -/
theorem append_inj_of_slot (cs ds : List Char) {s t : List (Symbol Unit)}
    (hs : ∀ x ∈ s.head?, x = .slot ()) (ht : ∀ x ∈ t.head?, x = .slot ())
    (h : cs.map .char ++ s = ds.map .char ++ t) :
  cs = ds ∧ s = t
  := by
  induction cs generalizing ds with
  | nil =>
      cases ds with
      | nil => use rfl, h
      | cons d ds =>
          rw [List.map_nil, List.nil_append, List.map_cons, List.cons_append] at h
          rw [h] at hs
          cases hs _ rfl
  | cons c cs ih =>
      cases ds with
      | nil =>
          rw [List.map_nil, List.nil_append, List.map_cons, List.cons_append] at h
          rw [← h] at ht
          cases ht _ rfl
      | cons d ds =>
          obtain ⟨hc, hrest⟩ := List.cons.inj h
          obtain ⟨rfl, rfl⟩ := ih ds hrest
          cases hc
          use rfl

/-- Merged parts are determined by their symbols. -/
theorem Merged.eq_of_symbols {ps qs : List Part} (hps : Merged ps) (hqs : Merged qs)
    (h : ps.flatMap symbols = qs.flatMap symbols) :
  ps = qs
  := by
  induction ps generalizing qs with
  | nil => apply (hqs.eq_nil h.symm).symm
  | cons p ps ih =>
      cases qs with
      | nil => apply hps.eq_nil h
      | cons q qs =>
          rw [List.flatMap_cons, List.flatMap_cons] at h
          -- a text is not empty, so it does not read like a placeholder
          cases p with
          | placeholder =>
              cases q with
              | placeholder => rw [ih hps.tail hqs.tail (List.cons.inj h).2]
              | raw t =>
                  have ht := append_inj_of_slot [] t.toList (by simp) hqs.head_symbols h
                  cases hqs.toList_ne_nil ht.1.symm
          | raw s =>
              cases q with
              | placeholder =>
                  have hs := append_inj_of_slot s.toList [] hps.head_symbols (by simp) h
                  cases hps.toList_ne_nil hs.1
              | raw t =>
                  obtain ⟨hst, hrest⟩ := append_inj_of_slot _ _ hps.head_symbols hqs.head_symbols h
                  rw [String.toList_inj.mp hst, ih hps.tail hqs.tail hrest]

theorem apart_placeholder (p : Part) :
  p.Apart .placeholder
  := by
  cases p <;> trivial

/-- Text may stand behind a part when any text may. -/
theorem Apart.raw {p : Part} {s : String} (h : p.Apart (.raw s)) (t : String) :
  p.Apart (.raw t)
  := by
  cases p with
  | raw _ => cases h
  | placeholder => trivial

/-- A text is written into the last part or behind it. -/
theorem written_cases (s : String) (ps : List Part) :
  (∃ front last, ps = front ++ [.raw last] ∧ Builder.written s ps = front ++ [.raw (last ++ s)])
    ∨ (∀ p ∈ ps.getLast?, p = .placeholder) ∧ Builder.written s ps = ps ++ [.raw s]
  := by
  rcases List.eq_nil_or_concat ps with rfl | ⟨front, p, rfl⟩
  · simp [Builder.written]
  · cases p with
    | raw last => simp [Builder.written]
    | placeholder => simp [Builder.written]

theorem symbols_written (s : String) (ps : List Part) :
  (Builder.written s ps).flatMap symbols = ps.flatMap symbols ++ chars s
  := by
  rcases written_cases s ps with ⟨front, last, rfl, h⟩ | ⟨-, h⟩
  · simp [h, symbols, chars]
  · simp [h, symbols]

theorem Merged.written {s : String} {ps : List Part} (h : Merged ps) (hs : s ≠ "") :
  Merged (Builder.written s ps)
  := by
  obtain ⟨hapart, hfilled⟩ := h
  rcases written_cases s ps with ⟨front, last, rfl, h⟩ | ⟨hlast, h⟩
  · rw [h]
    rw [List.isChain_append] at hapart
    constructor
    · rw [List.isChain_append]
      use hapart.1, List.isChain_singleton _
      intro p hp q hq
      obtain rfl := Option.some.inj hq
      apply (hapart.2.2 p hp _ rfl).raw
    · rw [List.mem_append, not_or] at hfilled
      simp [hfilled.1, hs]
  · rw [h]
    constructor
    · rw [List.isChain_append]
      use hapart, List.isChain_singleton _
      intro p hp q hq
      rw [hlast p hp]
      trivial
    · simp [hfilled, hs.symm]

theorem Merged.placeholder {ps : List Part} (h : Merged ps) :
  Merged (ps ++ [.placeholder])
  := by
  constructor
  · rw [List.isChain_append]
    use h.apart, List.isChain_singleton _
    intro p _ q hq
    obtain rfl := Option.some.inj hq
    apply apart_placeholder
  · simp [h.filled]

end Part

/-! ### What is spelled -/

namespace Builder

open BoundSql.Part BoundSql.Symbol

/-- A builder spells a sequence of characters and values: its parts are the characters with a
placeholder for each value, merged, and its values are those of the sequence. -/
structure Spells (b : Builder) (s : List (Symbol Value)) : Prop where
  merged : Merged b.parts
  symbols : b.parts.flatMap Part.symbols = s.map Symbol.vacated
  params : b.params = s.filterMap Symbol.slot?

variable {b : Builder} {s : List (Symbol Value)}

theorem spells_empty :
  empty.Spells []
  where
  merged := ⟨List.IsChain.nil, List.not_mem_nil⟩
  symbols := rfl
  params := rfl

/-! ### One push -/

theorem symbols_pushText (b : Builder) (t : String) :
  (b.pushText t).parts.flatMap Part.symbols
    = b.parts.flatMap Part.symbols ++ chars t
  := by
  rw [pushText]
  split
  · next ht => simp [ht, chars]
  · apply symbols_written

theorem merged_pushText (h : Merged b.parts) (t : String) :
  Merged (b.pushText t).parts
  := by
  rw [pushText]
  split
  · apply h
  · next ht => apply h.written ht

theorem params_pushText (b : Builder) (t : String) :
  (b.pushText t).params = b.params
  := by
  rw [pushText]
  split
  · rfl
  · rfl

theorem Spells.pushText (h : b.Spells s) (t : String) :
  (b.pushText t).Spells (s ++ chars t)
  where
  merged := merged_pushText h.merged t
  symbols := by rw [symbols_pushText, h.symbols, List.map_append, map_vacated_chars]
  params := by
    rw [params_pushText, h.params, List.filterMap_append, filterMap_slot?_chars, List.append_nil]

/-- An identifier is pushed like its text, which is not empty. -/
theorem pushIdent_eq_pushText (b : Builder) (i : Ident) :
  b.pushIdent i = b.pushText i.text
  := by
  rw [pushText, if_neg]
  · rfl
  · intro hempty
    apply i.toList_text_ne_nil
    rw [hempty]
    rfl

theorem Spells.pushIdent (h : b.Spells s) (i : Ident) :
  (b.pushIdent i).Spells (s ++ chars i.text)
  := by
  rw [pushIdent_eq_pushText]
  apply h.pushText

theorem Spells.pushBound (h : b.Spells s) (v : Value) :
  (b.pushBound v).Spells (s ++ [.slot v])
  where
  merged := h.merged.placeholder
  symbols := by
    rw [Builder.pushBound, List.flatMap_append, h.symbols, List.map_append]
    rfl
  params := by
    rw [Builder.pushBound, h.params, List.filterMap_append]
    rfl

/-! ### Pushing a builder -/

theorem symbols_foldl_pushPart (b : Builder) (ps : List Part) :
  (ps.foldl pushPart b).parts.flatMap Part.symbols
    = b.parts.flatMap Part.symbols ++ ps.flatMap Part.symbols
  := by
  induction ps generalizing b with
  | nil => simp
  | cons p ps ih =>
      rw [List.foldl_cons, ih, List.flatMap_cons, ← List.append_assoc]
      congr 1
      cases p with
      | raw t => apply symbols_pushText
      | placeholder => apply List.flatMap_append

theorem merged_foldl_pushPart (h : Merged b.parts) (ps : List Part) :
  Merged (ps.foldl pushPart b).parts
  := by
  induction ps generalizing b with
  | nil => apply h
  | cons p ps ih =>
      apply ih
      cases p with
      | raw t => apply merged_pushText h
      | placeholder => apply h.placeholder

theorem params_foldl_pushPart (b : Builder) (ps : List Part) :
  (ps.foldl pushPart b).params = b.params
  := by
  induction ps generalizing b with
  | nil => rfl
  | cons p ps ih =>
      rw [List.foldl_cons, ih]
      cases p with
      | raw t => apply params_pushText
      | placeholder => rfl

theorem Spells.pushBuilder (h : b.Spells s) {added : Builder} {t : List (Symbol Value)}
    (hadded : added.Spells t) :
  (b.pushBuilder added).Spells (s ++ t)
  where
  merged := merged_foldl_pushPart h.merged added.parts
  symbols := by
    rw [List.map_append, ← h.symbols, ← hadded.symbols]
    apply symbols_foldl_pushPart
  params := by
    rw [List.filterMap_append, ← h.params, ← hadded.params,
      ← params_foldl_pushPart b added.parts]
    rfl

/-! ### Pushing several things -/

/-- Things are pushed one after the other, with a text in front of each. -/
theorem Spells.foldl {α : Type} {push : Builder → α → Builder} {said : α → List (Symbol Value)}
    (separator : String) {as : List α}
    (hpush : ∀ a ∈ as, ∀ {b s}, Spells b s → (push b a).Spells (s ++ said a)) (h : b.Spells s) :
  (as.foldl (fun b a => push (b.pushText separator) a) b).Spells
    (s ++ as.flatMap fun a => chars separator ++ said a)
  := by
  induction as generalizing b s with
  | nil => simpa using h
  | cons a as ih =>
      rw [List.forall_mem_cons] at hpush
      rw [List.foldl_cons, List.flatMap_cons, ← List.append_assoc, ← List.append_assoc]
      apply ih hpush.2
      apply hpush.1 (h.pushText separator)

/-- Sequences with a separator between them are the first one, and a separator in front of each of
the others. -/
theorem intercalate_cons_eq_append_flatMap {α β : Type} (separator : List β) (said : α → List β)
    (a : α) (as : List α) :
  separator.intercalate ((a :: as).map said) = said a ++ as.flatMap fun a => separator ++ said a
  := by
  induction as generalizing a with
  | nil => simp
  | cons a' as ih =>
      rw [List.map_cons, List.map_cons, List.intercalate_cons_cons, ← List.map_cons, ih]
      simp

theorem foldl_zipIdx_pushIdent (b : Builder) (is : List Ident) (k : Nat) :
  (is.zipIdx (k + 1)).foldl
      (fun b (i, n) => (if 0 < n then b.pushText ", " else b).pushIdent i) b
    = is.foldl (fun b i => (b.pushText ", ").pushIdent i) b
  := by
  induction is generalizing b k with
  | nil => rfl
  | cons i is ih =>
      rw [List.zipIdx_cons, List.foldl_cons, List.foldl_cons, ih]
      rfl

theorem Spells.pushIdents (h : b.Spells s) (is : List Ident) :
  (b.pushIdents is).Spells (s ++ (chars ", ").intercalate (is.map fun i => chars i.text))
  := by
  rw [Builder.pushIdents]
  cases is with
  | nil => simpa using h
  | cons i is =>
      rw [intercalate_cons_eq_append_flatMap, ← List.append_assoc, List.zipIdx_cons,
        List.foldl_cons, foldl_zipIdx_pushIdent]
      apply Spells.foldl
      · intro i _ b s h
        apply h.pushIdent
      · apply h.pushIdent

theorem Spells.pushBoundList (h : b.Spells s) {vs : List Value} (hvs : vs ≠ []) :
  (b.pushBoundList vs).Spells (s ++ (chars ", ").intercalate (vs.map fun v => [.slot v]))
  := by
  cases vs with
  | nil => contradiction
  | cons v vs =>
      rw [intercalate_cons_eq_append_flatMap, ← List.append_assoc]
      apply Spells.foldl
      · intro v _ b s h
        apply h.pushBound
      · apply h.pushBound

theorem foldl_pushBuilder (b : Builder) (separator : String) (added : List Builder) :
  (added.foldl (fun (b, first) f =>
      ((if first then b else b.pushText separator).pushBuilder f, false)) (b, false)).1
    = added.foldl (fun b f => (b.pushText separator).pushBuilder f) b
  := by
  induction added generalizing b with
  | nil => rfl
  | cons f added ih => apply ih

/-- A builder is empty when it spells nothing. -/
theorem Spells.isEmpty (h : b.Spells s) :
  b.isEmpty = s.isEmpty
  := by
  rw [Builder.isEmpty, Bool.eq_iff_iff, List.isEmpty_iff, List.isEmpty_iff]
  constructor
  · intro hparts
    have hsymbols := h.symbols
    rw [hparts, List.flatMap_nil, eq_comm, List.map_eq_nil_iff] at hsymbols
    apply hsymbols
  · rintro rfl
    apply h.merged.eq_nil h.symbols

/-- Builders that spell nothing are left out between separators. -/
theorem Spells.pushJoined (h : b.Spells s) {α : Type} {built : α → Builder}
    {said : α → List (Symbol Value)} (separator : String) {as : List α}
    (hspells : ∀ a ∈ as, (built a).Spells (said a)) :
  (b.pushJoined (as.map built) separator).Spells
    (s ++ (chars separator).intercalate ((as.map said).filter (!·.isEmpty)))
  := by
  have hbuilt : (as.map built).filter (!·.isEmpty)
      = (as.filter fun a => !(said a).isEmpty).map built := by
    rw [List.filter_map]
    congr 1
    apply List.filter_congr
    intro a ha
    rw [Function.comp_apply, (hspells a ha).isEmpty]
  have hsaid : (as.map said).filter (!·.isEmpty)
      = (as.filter fun a => !(said a).isEmpty).map said := List.filter_map
  have hkept : ∀ a ∈ as.filter fun a => !(said a).isEmpty, (built a).Spells (said a) := by
    intro a ha
    apply hspells a (List.mem_of_mem_filter ha)
  rw [Builder.pushJoined, hbuilt, hsaid]
  generalize (as.filter fun a => !(said a).isEmpty) = kept at hkept
  cases kept with
  | nil => simpa using h
  | cons a as =>
      rw [List.forall_mem_cons] at hkept
      rw [intercalate_cons_eq_append_flatMap, ← List.append_assoc, List.map_cons, List.foldl_cons,
        foldl_pushBuilder, List.foldl_map]
      have hpush : ∀ a ∈ as, ∀ {b s}, Spells b s →
          (b.pushBuilder (built a)).Spells (s ++ said a) := by
        intro a ha b s h
        apply h.pushBuilder (hkept.2 a ha)
      apply Spells.foldl separator hpush
      apply h.pushBuilder hkept.1

theorem Spells.pushWindow (h : b.Spells s) (offset fetch : Int64) :
  (b.pushWindow offset fetch).Spells (s ++ chars " OFFSET " ++ [.slot (.int offset)]
    ++ chars " ROWS FETCH NEXT " ++ [.slot (.int fetch)] ++ chars " ROWS ONLY")
  := by
  apply Spells.pushText
  apply Spells.pushBound
  apply Spells.pushText
  apply Spells.pushBound
  apply h.pushText

/-! ### Finished statements -/

/-- A builder has as many placeholders as values. -/
theorem Spells.balanced (h : b.Spells s) :
  b.parts.count .placeholder = b.paramCount
  := by
  have hparts : ∀ ps : List Part,
      ps.count .placeholder = ((ps.flatMap Part.symbols).filterMap Symbol.slot?).length := by
    intro ps
    induction ps with
    | nil => rfl
    | cons p ps ih =>
        cases p with
        | raw t => simp [ih, Part.symbols, filterMap_slot?_chars]
        | placeholder => simp [ih, Part.symbols, slot?]
  rw [hparts, h.symbols, paramCount, h.params, List.filterMap_map,
    List.length_filterMap_eq_countP, List.length_filterMap_eq_countP]
  apply List.countP_congr
  intro x _
  cases x with
  | char c => rfl
  | slot v => simp [Symbol.vacated, Symbol.slot?]

theorem renderFrom_eq_write (n : Nat) (ps : List Part) :
  renderFrom n ps = Symbol.write n (ps.flatMap Part.symbols)
  := by
  induction ps generalizing n with
  | nil => rfl
  | cons p ps ih =>
      cases p with
      | raw t => rw [renderFrom, List.flatMap_cons, Part.symbols, chars, write_text, ih]
      | placeholder => simp [renderFrom, Part.symbols, Symbol.write, ih]

/-- The text of a builder is what it spells, with a placeholder for each value. -/
theorem Spells.toList_sql (h : b.Spells s) :
  b.sql.toList = Symbol.write 0 s
  := by
  rw [sql, String.toList_ofList, renderFrom_eq_write, h.symbols, Symbol.write_map_vacated]

/-- Builders that spell the same are equal. -/
theorem Spells.unique (h : b.Spells s) {c : Builder} (hc : c.Spells s) :
  c = b
  := by
  obtain ⟨parts, params⟩ := b
  obtain ⟨parts', params'⟩ := c
  rw [Builder.mk.injEq]
  use hc.merged.eq_of_symbols h.merged (hc.symbols.trans h.symbols.symm)
  apply hc.params.trans h.params.symm

end Builder

end BoundSql
