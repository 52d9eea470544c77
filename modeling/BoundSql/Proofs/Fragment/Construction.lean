import BoundSql.Proofs.Fragment.Builder

/-!
# Constructions

A statement is built step by step: texts, identifiers and values are pushed onto
what was built before, and so are builders that were made on their own. What is
built spells the sequence of the characters and values that were added, and depends
on this sequence alone: the characters are written as they are, and the values
are numbered from one on. How the sequence was divided into builders leaves no
trace, and the fragment that is put together in the same steps finishes the same
statement.
-/

namespace BoundSql

open BoundSql.Text

/-! ### Numbered symbols -/

namespace Symbol

variable {α : Type}

/-- Symbols with the numbers from `n + 1` on in their places. -/
def number : Nat → List (Symbol α) → List (Symbol Nat)
  | _, [] => []
  | n, .char c :: r => .char c :: number n r
  | n, .slot _ :: r => .slot (n + 1) :: number (n + 1) r

/-- A symbol with its number raised. -/
def raise (n : Nat) : Symbol Nat → Symbol Nat
  | .char c => .char c
  | .slot k => .slot (n + k)

/-- The characters of numbered symbols, with a placeholder for each number. -/
def spelled (s : List (Symbol Nat)) : List Char :=
  s.flatMap fun
    | .char c => [c]
    | .slot k => Fragment.placeholder k

theorem write_eq_spelled (n : Nat) (s : List (Symbol α)) :
  write n s = spelled (number n s)
  := by
  induction s generalizing n with
  | nil => rfl
  | cons x s ih =>
      cases x with
      | char c =>
          rw [write, ih]
          rfl
      | slot a =>
          rw [write, ih]
          rfl

/-- Numbering onwards from a number is numbering from one and raising every number. -/
theorem number_eq_map_raise (n : Nat) (s : List (Symbol α)) :
  number n s = (number 0 s).map (raise n)
  := by
  have hshift : ∀ k, number (n + k) s = (number k s).map (raise n) := by
    induction s with
    | nil =>
        intro k
        rfl
    | cons x s ih =>
        intro k
        cases x with
        | char c => rw [number, number, List.map_cons, ih, raise]
        | slot a => rw [number, number, List.map_cons, Nat.add_assoc, ih, raise]
  apply hshift 0

/-- The places are numbered one after the other. -/
theorem filterMap_slot?_number (n : Nat) (s : List (Symbol α)) :
  (number n s).filterMap slot? = List.range' (n + 1) (s.filterMap slot?).length
  := by
  induction s generalizing n with
  | nil => rfl
  | cons x s ih =>
      cases x with
      | char c => simp [number, slot?, List.filterMap_cons, ih]
      | slot a => simp [number, slot?, List.range'_succ, ih]

end Symbol

/-! ### Fragments without idle pieces -/

namespace Fragment

/-- A fragment has pieces only when it spells something. -/
def Tight (f : Fragment) : Prop :=
  f.symbols = [] → f.isEmpty = true

theorem isEmpty_append (f g : Fragment) :
  (f ++ g).isEmpty = (f.isEmpty && g.isEmpty)
  := by
  rw [isEmpty, pieces_append, isEmpty, isEmpty]
  cases f.pieces with
  | nil => rfl
  | cons p ps => rfl

theorem symbols_of_isEmpty {f : Fragment} (h : f.isEmpty = true) :
  f.symbols = []
  := by
  rw [isEmpty, List.isEmpty_iff] at h
  rw [symbols, h]
  rfl

theorem Tight.isEmpty_eq {f : Fragment} (h : f.Tight) :
  f.isEmpty = f.symbols.isEmpty
  := by
  rw [Bool.eq_iff_iff, List.isEmpty_iff]
  use symbols_of_isEmpty, h

theorem tight_empty :
  empty.Tight
  := fun _ => rfl

theorem Tight.append {f g : Fragment} (hf : f.Tight) (hg : g.Tight) :
  (f ++ g).Tight
  := by
  intro h
  rw [symbols_append, List.append_eq_nil_iff] at h
  rw [isEmpty_append, hf h.1, hg h.2]
  rfl

theorem tight_text (s : String) :
  (text s).Tight
  := by
  intro h
  rw [symbols_text, List.map_eq_nil_iff, String.toList_eq_nil_iff] at h
  rw [h]
  rfl

theorem tight_ident (i : Ident) :
  (ident i).Tight
  := by
  intro h
  rw [symbols_ident, List.map_eq_nil_iff] at h
  apply absurd h i.toList_text_ne_nil

theorem tight_bound (v : Value) :
  (bound v).Tight
  := by
  intro h
  contradiction

theorem tight_intercalate {f : Fragment} (hf : f.Tight) {fs : List Fragment}
    (h : ∀ g ∈ fs, g.Tight) :
  (intercalate f fs).Tight
  := by
  induction fs with
  | nil => apply tight_empty
  | cons g fs ih =>
      rw [List.forall_mem_cons] at h
      cases fs with
      | nil => apply h.1
      | cons g' fs => apply (h.1.append hf).append (ih h.2)

theorem tight_joined (s : String) {fs : List Fragment} (h : ∀ f ∈ fs, f.Tight) :
  (joined s fs).Tight
  := by
  apply tight_intercalate (tight_text s)
  intro f hf
  apply h f (List.mem_of_mem_filter hf)

theorem tight_idents (is : List Ident) :
  (idents is).Tight
  := by
  apply tight_intercalate (tight_text _)
  rw [List.forall_mem_map]
  intro i _
  apply tight_ident

theorem tight_boundList (vs : List Value) :
  (boundList vs).Tight
  := by
  cases vs with
  | nil => apply tight_text
  | cons v vs =>
      apply tight_intercalate (tight_text _)
      rw [List.forall_mem_map]
      intro w _
      apply tight_bound

theorem tight_window (offset fetch : Int64) :
  (window offset fetch).Tight
  := by
  rw [window]
  apply Tight.append _ (tight_text _)
  apply Tight.append _ (tight_bound _)
  apply Tight.append _ (tight_text _)
  apply Tight.append (tight_text _) (tight_bound _)

/-- Fragments that spell nothing are left out between separators. -/
theorem symbols_joined (s : String) {fs : List Fragment} (h : ∀ f ∈ fs, f.Tight) :
  (joined s fs).symbols
    = (s.toList.map .char).intercalate ((fs.map symbols).filter (!·.isEmpty))
  := by
  have hfilter : fs.filter (!·.isEmpty) = fs.filter (!·.symbols.isEmpty) := by
    apply List.filter_congr
    intro f hf
    rw [(h f hf).isEmpty_eq]
  rw [joined, symbols_intercalate, symbols_text, hfilter, List.filter_map]
  rfl

end Fragment

/-! ### Constructions -/

/-- How a statement is built. Each step adds to a construction before it: a text, an identifier,
identifiers with commas between them, a value, values with commas between them, another
construction, several with a separator between them, or a window. -/
inductive Construction where
  | empty
  | text (before : Construction) (s : String)
  | ident (before : Construction) (i : Ident)
  | idents (before : Construction) (is : List Ident)
  | bound (before : Construction) (v : Value)
  | boundList (before : Construction) (vs : List Value)
  | fragment (before added : Construction)
  | joined (before : Construction) (added : List Construction) (separator : String)
  | window (before : Construction) (offset fetch : Int64)

namespace Construction

open BoundSql.Symbol

mutual

/-- The builder onto which everything is pushed. -/
def built : Construction → Builder
  | .empty => .empty
  | .text before s => before.built.pushText s
  | .ident before i => before.built.pushIdent i
  | .idents before is => before.built.pushIdents is
  | .bound before v => before.built.pushBound v
  | .boundList before vs => before.built.pushBoundList vs
  | .fragment before added => before.built.pushBuilder added.built
  | .joined before added separator => before.built.pushJoined (builts added) separator
  | .window before offset fetch => before.built.pushWindow offset fetch

/-- The builders of several constructions. -/
def builts : List Construction → List Builder
  | [] => []
  | c :: cs => c.built :: builts cs

end

mutual

/-- The fragment that is put together. -/
def result : Construction → Fragment
  | .empty => .empty
  | .text before s => before.result ++ .text s
  | .ident before i => before.result ++ .ident i
  | .idents before is => before.result ++ .idents is
  | .bound before v => before.result ++ .bound v
  | .boundList before vs => before.result ++ .boundList vs
  | .fragment before added => before.result ++ added.result
  | .joined before added separator => before.result ++ .joined separator (results added)
  | .window before offset fetch => before.result ++ .window offset fetch

/-- The fragments of several constructions. -/
def results : List Construction → List Fragment
  | [] => []
  | c :: cs => c.result :: results cs

end

mutual

/-- The characters and values that are added, in order. -/
def sequence : Construction → List (Symbol Value)
  | .empty => []
  | .text before s => before.sequence ++ chars s
  | .ident before i => before.sequence ++ chars i.text
  | .idents before is => before.sequence ++ (chars ", ").intercalate (is.map fun i => chars i.text)
  | .bound before v => before.sequence ++ [.slot v]
  | .boundList before [] => before.sequence ++ chars "NULL"
  | .boundList before (v :: vs) =>
    before.sequence ++ (chars ", ").intercalate ((v :: vs).map fun w => [.slot w])
  | .fragment before added => before.sequence ++ added.sequence
  | .joined before added separator =>
    before.sequence ++ (chars separator).intercalate ((sequences added).filter (!·.isEmpty))
  | .window before offset fetch =>
    before.sequence ++ chars " OFFSET " ++ [.slot (.int offset)] ++ chars " ROWS FETCH NEXT "
      ++ [.slot (.int fetch)] ++ chars " ROWS ONLY"

/-- What is added by several constructions. -/
def sequences : List Construction → List (List (Symbol Value))
  | [] => []
  | c :: cs => c.sequence :: sequences cs

end

theorem builts_eq_map (cs : List Construction) :
  builts cs = cs.map built
  := by
  induction cs with
  | nil => rfl
  | cons c cs ih => rw [builts, ih, List.map_cons]

theorem results_eq_map (cs : List Construction) :
  results cs = cs.map result
  := by
  induction cs with
  | nil => rfl
  | cons c cs ih => rw [results, ih, List.map_cons]

theorem sequences_eq_map (cs : List Construction) :
  sequences cs = cs.map sequence
  := by
  induction cs with
  | nil => rfl
  | cons c cs ih => rw [sequences, ih, List.map_cons]

/-- What every step keeps holds of every construction. -/
@[elab_as_elim]
theorem induct {motive : Construction → Prop} (empty : motive .empty)
    (text : ∀ before s, motive before → motive (.text before s))
    (ident : ∀ before i, motive before → motive (.ident before i))
    (idents : ∀ before is, motive before → motive (.idents before is))
    (bound : ∀ before v, motive before → motive (.bound before v))
    (boundList : ∀ before vs, motive before → motive (.boundList before vs))
    (fragment : ∀ before added, motive before → motive added → motive (.fragment before added))
    (joined : ∀ before added separator, motive before → (∀ c ∈ added, motive c) →
      motive (.joined before added separator))
    (window : ∀ before offset fetch, motive before → motive (.window before offset fetch))
    (c : Construction) :
  motive c
  := by
  refine Construction.rec (motive_1 := motive) (motive_2 := fun cs => ∀ c ∈ cs, motive c) empty text
    ident idents bound boundList fragment joined window ?_ ?_ c
  · simp
  · intro c cs hc hcs
    rw [List.forall_mem_cons]
    use hc, hcs

/-- What is built spells what was added. -/
theorem spells_built (c : Construction) :
  c.built.Spells c.sequence
  := by
  induction c using induct with
  | empty => apply Builder.spells_empty
  | text before s ih => apply ih.pushText
  | ident before i ih => apply ih.pushIdent
  | idents before is ih => apply ih.pushIdents
  | bound before v ih => apply ih.pushBound
  | boundList before vs ih =>
      cases vs with
      | nil => apply ih.pushText "NULL"
      | cons v vs => apply ih.pushBoundList (List.cons_ne_nil v vs)
  | fragment before added ih ihadded => apply ih.pushBuilder ihadded
  | joined before added separator ih ihadded =>
      rw [built, sequence, builts_eq_map, sequences_eq_map]
      apply ih.pushJoined separator ihadded
  | window before offset fetch ih => apply ih.pushWindow

theorem tight_result (c : Construction) :
  c.result.Tight
  := by
  induction c using induct with
  | empty => apply Fragment.tight_empty
  | text before s ih => apply ih.append (Fragment.tight_text s)
  | ident before i ih => apply ih.append (Fragment.tight_ident i)
  | idents before is ih => apply ih.append (Fragment.tight_idents is)
  | bound before v ih => apply ih.append (Fragment.tight_bound v)
  | boundList before vs ih => apply ih.append (Fragment.tight_boundList vs)
  | fragment before added ih ihadded => apply ih.append ihadded
  | joined before added separator ih ihadded =>
      apply ih.append
      apply Fragment.tight_joined
      rw [results_eq_map, List.forall_mem_map]
      apply ihadded
  | window before offset fetch ih => apply ih.append (Fragment.tight_window offset fetch)

/-- The fragment that is put together spells what was added. -/
theorem symbols_result (c : Construction) :
  c.result.symbols = c.sequence
  := by
  induction c using induct with
  | empty => rfl
  | text before s ih =>
      rw [result, sequence, Fragment.symbols_append, ih, Fragment.symbols_text, chars]
  | ident before i ih =>
      rw [result, sequence, Fragment.symbols_append, ih, Fragment.symbols_ident, chars]
  | idents before is ih =>
      rw [result, sequence, Fragment.symbols_append, ih, Fragment.idents,
        Fragment.symbols_intercalate, Fragment.symbols_text, List.map_map, chars]
      congr 3
      funext i
      apply Fragment.symbols_ident
  | bound before v ih => rw [result, sequence, Fragment.symbols_append, ih, Fragment.symbols_bound]
  | boundList before vs ih =>
      rw [result, Fragment.symbols_append, ih]
      cases vs with
      | nil => rw [Fragment.boundList, Fragment.symbols_text, sequence, chars]
      | cons v vs => rw [Fragment.symbols_boundList (List.cons_ne_nil v vs), sequence, chars]
  | fragment before added ih ihadded =>
      rw [result, sequence, Fragment.symbols_append, ih, ihadded]
  | joined before added separator ih ihadded =>
      have htight : ∀ f ∈ results added, f.Tight := by
        rw [results_eq_map, List.forall_mem_map]
        intro c _
        apply tight_result
      have hsequences : (results added).map Fragment.symbols = sequences added := by
        rw [results_eq_map, sequences_eq_map, List.map_map]
        apply List.map_congr_left
        intro c hc
        apply ihadded c hc
      rw [result, sequence, Fragment.symbols_append, ih, Fragment.symbols_joined separator htight,
        hsequences, chars]
  | window before offset fetch ih =>
      rw [result, sequence, Fragment.symbols_append, ih, Fragment.window]
      simp [chars]

/-! ### Finished statements -/

theorem toList_sql_built (c : Construction) :
  c.built.sql.toList = spelled (number 0 c.sequence)
  := by
  rw [c.spells_built.toList_sql, write_eq_spelled]

/-- A fragment that is put together finishes the statement that is built. -/
theorem build_built (c : Construction) :
  c.built.build = c.result.build
  := by
  have hsql : c.built.sql = c.result.sql := by
    rw [← String.toList_inj, c.spells_built.toList_sql, Fragment.toList_sql, symbols_result]
  rw [Builder.build, Fragment.build, hsql, c.spells_built.params, Fragment.params_eq_filterMap,
    symbols_result]

/-- What a construction spells is what is built: the sequence of what it adds is written and bound,
and nothing else of it counts. -/
structure Composes (c : Construction) : Prop where
  /-- There are as many placeholders as bound values. -/
  balanced : c.built.parts.count .placeholder = c.built.paramCount
  /-- The text is what is added, with a placeholder for each value. -/
  sql : c.built.sql.toList = spelled (number 0 c.sequence)
  /-- The bound values are those that are added. -/
  params : c.built.params = c.sequence.filterMap slot?
  /-- The placeholders are numbered from one through the number of the bound values. -/
  numbers : (number 0 c.sequence).filterMap slot? = List.range' 1 c.built.paramCount
  /-- Nothing was built when nothing was added. -/
  isEmpty : c.built.isEmpty = c.sequence.isEmpty
  /-- A builder that is pushed follows with its numbers raised by the number of values before it,
  and so do its values. -/
  added : ∀ d : Construction,
    (c.built.pushBuilder d.built).sql.toList
      = c.built.sql.toList ++ spelled ((number 0 d.sequence).map (raise c.built.paramCount))
    ∧ (c.built.pushBuilder d.built).params = c.built.params ++ d.built.params
  /-- Builders that are pushed one behind the other may be put together in any order of steps. -/
  associative : ∀ d e : Construction,
    (c.built.pushBuilder d.built).pushBuilder e.built
      = c.built.pushBuilder (d.built.pushBuilder e.built)
  /-- Another construction that adds the same sequence builds the same. -/
  regrouped : ∀ d : Construction, d.sequence = c.sequence → d.built = c.built
  /-- The fragment that is put together in the same steps finishes the same statement, and is empty
  when nothing was built. -/
  result : c.built.build = c.result.build ∧ c.built.isEmpty = c.result.isEmpty

/-- Every construction composes, however it is nested. -/
theorem composes (c : Construction) :
  Composes c
  where
  balanced := c.spells_built.balanced
  sql := c.toList_sql_built
  params := c.spells_built.params
  numbers := by rw [filterMap_slot?_number, Builder.paramCount, c.spells_built.params]
  isEmpty := c.spells_built.isEmpty
  added := by
    intro d
    have hspells := c.spells_built.pushBuilder d.spells_built
    constructor
    · rw [hspells.toList_sql, write_append, c.spells_built.toList_sql, Nat.zero_add,
        write_eq_spelled _ d.sequence, number_eq_map_raise, Builder.paramCount,
        c.spells_built.params]
    · rw [hspells.params, List.filterMap_append, c.spells_built.params, d.spells_built.params]
  associative := by
    intro d e
    have hleft := (c.spells_built.pushBuilder d.spells_built).pushBuilder e.spells_built
    rw [List.append_assoc] at hleft
    apply (c.spells_built.pushBuilder (d.spells_built.pushBuilder e.spells_built)).unique hleft
  regrouped := by
    intro d h
    have hd := d.spells_built
    rw [h] at hd
    apply c.spells_built.unique hd
  result := by
    use c.build_built
    rw [c.spells_built.isEmpty, (tight_result c).isEmpty_eq, symbols_result]

end Construction

end BoundSql
