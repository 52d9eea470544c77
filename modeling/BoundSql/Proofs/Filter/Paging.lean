import BoundSql.Proofs.Filter.Total

/-!
# Pages

A page leaves out the rows of the pages in front of it and takes the rows that follow.
The pages of a result have no row in common, one after the other they are the whole
result, and behind its last row all pages are empty, also those that would leave out
more rows than can be counted.
-/

namespace BoundSql

open Fragment

namespace Paging

/-! ### Windows in words -/

/-- A page by its number and the number of rows on each page, both given. -/
def ofNumbers (page size : Int64) : Paging :=
  ⟨some page, some size⟩

/-- The product of two words, or the word nearest to it. -/
def saturatingMul (a b : Int64) : Int64 :=
  nearestInt64 (a.toInt * b.toInt)

/-- How many rows a page leaves out. -/
def offset (page size : Int64) : Int64 :=
  saturatingMul (max page 1 - 1) (max size 1)

theorem toInt_max_one (n : Int64) :
  (max n 1).toInt = max n.toInt 1
  := by
  have hone : (1 : Int64).toInt = 1 := by decide
  have hmax : max n 1 = if n ≤ 1 then 1 else n := rfl
  rw [hmax]
  split
  · next hle =>
      rw [Int64.le_iff_toInt_le] at hle
      omega
  · next hlt =>
      rw [Int64.le_iff_toInt_le] at hlt
      omega

/-- Going one page back from a page does not leave the words. -/
theorem toInt_max_one_sub (n : Int64) :
  (max n 1 - 1).toInt = max n.toInt 1 - 1
  := by
  have hone : (1 : Int64).toInt = 1 := by decide
  have hhigh := Int64.toInt_lt n
  rw [Int64.toInt_sub, toInt_max_one, hone, Int.bmod_eq_of_le]
  · omega
  · omega

theorem zero_le_product (page size : Int64) :
  0 ≤ (max page.toInt 1 - 1) * max size.toInt 1
  := by
  apply Int.mul_nonneg
  · omega
  · omega

theorem toInt_offset (page size : Int64) :
  (offset page size).toInt
    = min ((max page.toInt 1 - 1) * max size.toInt 1) Int64.maxValue.toInt
  := by
  have hmin := Int64.toInt_minValue
  have hmax := Int64.toInt_maxValue
  have hproduct := zero_le_product page size
  rw [offset, saturatingMul, toInt_max_one_sub, toInt_max_one, nearestInt64,
    Int64.toInt_ofInt_of_le]
  · omega
  · omega
  · omega

theorem zero_le_offset (page size : Int64) :
  0 ≤ offset page size
  := by
  have hzero : (0 : Int64).toInt = 0 := by decide
  rw [Int64.le_iff_toInt_le, hzero, toInt_offset]
  have hmax : 0 ≤ Int64.maxValue.toInt := by decide
  have hproduct := zero_le_product page size
  omega

/-- The window of a page is computed in words. -/
theorem window?_ofNumbers (page size : Int64) :
  (ofNumbers page size).window? = some (offset page size, max size 1)
  := by
  have hoffset : Int64.ofInt (min ((max page.toInt 1 - 1) * max size.toInt 1)
      Int64.maxValue.toInt) = offset page size := by
    rw [← toInt_offset, Int64.ofInt_toInt]
  have hfetch : Int64.ofInt (max size.toInt 1) = max size 1 := by
    rw [← toInt_max_one, Int64.ofInt_toInt]
  rw [window?, ofNumbers]
  dsimp only
  rw [hoffset, hfetch]

/-! ### Rows of pages -/

variable {α : Type} {rows : List α} {page size : Int64} {k : Nat}

/-- The rows that a window lets through: those behind the ones that it leaves out, as many as it
takes. -/
def cut (rows : List α) (window : Int64 × Int64) : List α :=
  (rows.drop window.1.toNatClampNeg).take window.2.toNatClampNeg

/-- The rows on a page, all of them without a window. -/
def rowsOn (p : Paging) (rows : List α) : List α :=
  p.window?.elim rows (cut rows)

/-- The number of rows on a full page. -/
def fullSize (size : Int64) : Nat :=
  (max size.toInt 1).toNat

theorem fullSize_pos (size : Int64) :
  0 < fullSize size
  := by
  rw [fullSize]
  omega

/-- A page leaves out the full pages in front of it. Where their rows are too many to be counted,
the result has no rows left. -/
theorem rowsOn_eq (h : rows.length ≤ Int64.maxValue.toInt) (hpage : page.toInt = k + 1) :
  (ofNumbers page size).rowsOn rows = (rows.drop (k * fullSize size)).take (fullSize size)
  := by
  have hsize : max size.toInt 1 = fullSize size := by
    rw [fullSize]
    omega
  have hpast : max page.toInt 1 - 1 = k := by omega
  have htake : (max size 1).toNatClampNeg = fullSize size := by
    rw [Int64.toNatClampNeg, toInt_max_one, fullSize]
  have hdrop : (offset page size).toNatClampNeg
      = min (k * fullSize size) Int64.maxValue.toInt.toNat := by
    rw [Int64.toNatClampNeg, toInt_offset, hpast, hsize]
    omega
  rw [rowsOn, window?_ofNumbers, Option.elim_some, cut, htake, hdrop]
  rcases Nat.le_total (k * fullSize size) Int64.maxValue.toInt.toNat with hle | hle
  · rw [Nat.min_eq_left hle]
  · have hnone : rows.length ≤ k * fullSize size := by omega
    rw [Nat.min_eq_right hle, List.drop_eq_nil_of_le hnone, List.drop_eq_nil_of_le (by omega)]

/-- Full pages in a row hold as many rows from the first on. -/
theorem flatMap_pages (rows : List α) (s n : Nat) :
  (List.range n).flatMap (fun k => (rows.drop (k * s)).take s) = rows.take (n * s)
  := by
  induction n with
  | zero => simp
  | succ n ih =>
      rw [List.range_succ, List.flatMap_append, ih, List.flatMap_singleton, Nat.succ_mul,
        List.take_add]

/-- A row on a page stands behind the pages in front of it and in front of those behind it. -/
theorem position_of_mem_rowsOn (h : rows.length ≤ Int64.maxValue.toInt)
    (hpage : page.toInt = k + 1) {x : α} {i : Nat}
    (hx : (x, i) ∈ (ofNumbers page size).rowsOn rows.zipIdx) :
  k * fullSize size ≤ i ∧ i < (k + 1) * fullSize size
  := by
  rw [rowsOn_eq (by rwa [List.length_zipIdx]) hpage] at hx
  obtain ⟨j, hj⟩ := List.mem_iff_getElem?.mp hx
  rw [List.getElem?_take] at hj
  split at hj
  · next hlt =>
      rw [List.getElem?_drop, List.getElem?_zipIdx] at hj
      obtain ⟨y, -, hy⟩ := Option.map_eq_some_iff.mp hj
      obtain ⟨-, rfl⟩ := Prod.mk.inj hy
      rw [Nat.succ_mul]
      omega
  · contradiction

/-! ### The last page -/

/-- The number of the last page with a row, zero without rows. -/
def lastPage (size : Int64) (rows : List α) : Nat :=
  (rows.length + fullSize size - 1) / fullSize size

theorem lt_lastPage_iff (size : Int64) (rows : List α) (k : Nat) :
  k < lastPage size rows ↔ k * fullSize size < rows.length
  := by
  have hpos := fullSize_pos size
  rw [lastPage, ← Nat.succ_le_iff, Nat.le_div_iff_mul_le hpos, Nat.succ_mul]
  omega

theorem lastPage_le (size : Int64) (rows : List α) :
  lastPage size rows ≤ rows.length
  := by
  by_contra hlt
  have hrow := (lt_lastPage_iff size rows rows.length).mp (Nat.lt_of_not_le hlt)
  have hfull := Nat.le_mul_of_pos_right rows.length (fullSize_pos size)
  omega

/-- A page has rows exactly when it is not behind the last one. -/
theorem rowsOn_eq_nil_iff (h : rows.length ≤ Int64.maxValue.toInt) (hpage : page.toInt = k + 1) :
  (ofNumbers page size).rowsOn rows = [] ↔ lastPage size rows ≤ k
  := by
  have hpos := fullSize_pos size
  rw [rowsOn_eq h hpage, ← Nat.not_lt, lt_lastPage_iff, List.take_eq_nil_iff, List.drop_eq_nil_iff]
  omega

/-! ### Pages of a result -/

/-- The word of a page number that can be counted. -/
theorem toInt_ofNat_succ (h : k + 1 ≤ Int64.maxValue.toInt) :
  (Int64.ofNat (k + 1)).toInt = k + 1
  := by
  have hmax := Int64.toInt_maxValue
  rw [Int64.toInt_ofNat_of_lt (by omega)]
  rfl

theorem exists_toInt_eq (h : 1 ≤ page) :
  ∃ k : Nat, page.toInt = k + 1
  := by
  have hone : (1 : Int64).toInt = 1 := by decide
  rw [Int64.le_iff_toInt_le, hone] at h
  use (page.toInt - 1).toNat
  omega

/-- Pages of a size part rows up to a last page: those up to it have rows, and all rows in order; no
two pages share a place of a row, and those behind the last are empty, also those that would leave
out more rows than can be counted. -/
structure Parts (size : Int64) (rows : List α) (last : Nat) : Prop where
  counted : last ≤ Int64.maxValue.toInt
  whole : (List.range last).flatMap (fun k => (ofNumbers (Int64.ofNat (k + 1)) size).rowsOn rows)
    = rows
  filled : ∀ k < last, (ofNumbers (Int64.ofNat (k + 1)) size).rowsOn rows ≠ []
  apart : ∀ p q : Int64, 1 ≤ p → 1 ≤ q → p ≠ q →
    List.Disjoint ((ofNumbers p size).rowsOn rows.zipIdx) ((ofNumbers q size).rowsOn rows.zipIdx)
  behind : ∀ page : Int64, last < page.toInt → (ofNumbers page size).rowsOn rows = []
  saturated : ∀ page : Int64,
    Int64.maxValue.toInt ≤ (max page.toInt 1 - 1) * max size.toInt 1 →
    (ofNumbers page size).rowsOn rows = []

theorem disjoint_rowsOn (h : rows.length ≤ Int64.maxValue.toInt) {p q : Int64} (hp : 1 ≤ p)
    (hq : 1 ≤ q) (hne : p ≠ q) :
  List.Disjoint ((ofNumbers p size).rowsOn rows.zipIdx) ((ofNumbers q size).rowsOn rows.zipIdx)
  := by
  obtain ⟨j, hj⟩ := exists_toInt_eq hp
  obtain ⟨k, hk⟩ := exists_toInt_eq hq
  have hjk : j ≠ k := by
    rintro rfl
    apply hne
    rw [← Int64.toInt_inj, hj, hk]
  rintro ⟨x, i⟩ hxp hxq
  obtain ⟨hlow, hhigh⟩ := position_of_mem_rowsOn h hj hxp
  obtain ⟨hlow', hhigh'⟩ := position_of_mem_rowsOn h hk hxq
  -- of two pages the one in front ends where the other begins, or earlier
  rcases Nat.lt_or_gt_of_ne hjk with hlt | hlt
  · have hpages : (j + 1) * fullSize size ≤ k * fullSize size := Nat.mul_le_mul_right _ hlt
    omega
  · have hpages : (k + 1) * fullSize size ≤ j * fullSize size := Nat.mul_le_mul_right _ hlt
    omega

/-- A result with no more rows than can be counted is parted by pages of any size. -/
theorem parts_lastPage (h : rows.length ≤ Int64.maxValue.toInt) (size : Int64) :
  Parts size rows (lastPage size rows)
  := by
  have hlast := lastPage_le size rows
  have hnumber : ∀ k < lastPage size rows, (Int64.ofNat (k + 1)).toInt = k + 1 := by
    intro k hk
    apply toInt_ofNat_succ
    omega
  constructor
  · omega
  · have hpages : ∀ k ∈ List.range (lastPage size rows),
        (ofNumbers (Int64.ofNat (k + 1)) size).rowsOn rows
          = (rows.drop (k * fullSize size)).take (fullSize size) := by
      intro k hk
      apply rowsOn_eq h (hnumber k (List.mem_range.mp hk))
    have hall : rows.length ≤ lastPage size rows * fullSize size := by
      rw [← Nat.not_lt, ← lt_lastPage_iff]
      apply Nat.lt_irrefl
    rw [List.flatMap_congr hpages, flatMap_pages, List.take_of_length_le hall]
  · intro k hk hnil
    rw [rowsOn_eq_nil_iff h (hnumber k hk)] at hnil
    omega
  · intro p q
    apply disjoint_rowsOn h
  · intro page hpage
    rw [rowsOn_eq_nil_iff h (k := (page.toInt - 1).toNat) (by omega)]
    omega
  · intro page hfar
    have hall : rows.length ≤ (offset page size).toNatClampNeg := by
      rw [Int64.toNatClampNeg, toInt_offset]
      omega
    rw [rowsOn, window?_ofNumbers, Option.elim_some, cut, List.drop_eq_nil_of_le hall,
      List.take_nil]

end Paging

namespace FilterRequest

open Paging

/-- The window of a page is the last that a listing binds, at the end of its text. -/
theorem window_of_select {table : Ident} {request : FilterRequest} {layout : Option Layout}
    {s : Statement} {window : Int64 × Int64} (hpage : request.page? = some window)
    (h : select table request layout = .ok s) :
  ∃ params text, s.params = params ++ [.int window.1, .int window.2]
    ∧ s.sql = text ++ pageText (params.length + 1) (params.length + 2)
  := by
  obtain ⟨clauses, -, rfl⟩ := listing_of_select h
  rw [hpage]
  use (rowsOf "SELECT * FROM " (ident table) clauses).params
  use (rowsOf "SELECT * FROM " (ident table) clauses).sql
    ++ orderText (orderTerms (.ofLayout? layout) request.order) true
  constructor
  · apply (params_append _ _).trans
    rw [params_cut]
    rfl
  · apply (sql_append_cut _ _ _).trans
    rw [String.append_assoc]
    rfl

/-- The window of a page is computed in words without leaving them; it leaves out no negative number
of rows and takes at least one. The pages of any size part every result with no more rows than can
be counted, and a listing binds the window of its page behind all other values. -/
theorem pages_part_rows :
  (∀ page size : Int64, ∃ offset fetch, (ofNumbers page size).window? = some (offset, fetch)
      ∧ 0 ≤ offset ∧ 1 ≤ fetch
      ∧ (max page 1 - 1).toInt = (max page 1).toInt - (1 : Int64).toInt
      ∧ offset = saturatingMul (max page 1 - 1) (max size 1) ∧ fetch = max size 1)
    ∧ (∀ {α : Type} (rows : List α) (size : Int64), rows.length ≤ Int64.maxValue.toInt →
      ∃ last, Parts size rows last)
    ∧ ∀ (table : Ident) (request : FilterRequest) (layout : Option Layout) (page size : Int64)
      (s : Statement), request.paging = some (ofNumbers page size) →
      select table request layout = .ok s →
      ∃ offset fetch params text, (ofNumbers page size).window? = some (offset, fetch)
        ∧ s.params = params ++ [.int offset, .int fetch]
        ∧ s.sql = text ++ pageText (params.length + 1) (params.length + 2)
  := by
  refine ⟨?_, ?_, ?_⟩
  · intro page size
    have hone : (1 : Int64).toInt = 1 := by decide
    use offset page size, max size 1, window?_ofNumbers page size
    refine ⟨?_, ?_, ?_, rfl, rfl⟩
    · apply zero_le_offset
    · rw [Int64.le_iff_toInt_le, toInt_max_one, hone]
      omega
    · rw [toInt_max_one_sub, toInt_max_one, hone]
  · intro α rows size h
    use lastPage size rows
    apply parts_lastPage h
  · intro table request layout page size s hpaging h
    have hpage : request.page? = some (offset page size, max size 1) := by
      rw [page?, hpaging, Option.bind_some, window?_ofNumbers]
    obtain ⟨params, text, hparams, htext⟩ := window_of_select hpage h
    use offset page size, max size 1, params, text, window?_ofNumbers page size, hparams

/-- Five rows are parted by pages of two, and by pages of a negative size, which counts as one. A
page so far behind them that its offset cannot be counted is listed all the same. -/
theorem pages_part_rows_five :
  (([1, 2, 3, 4, 5] : List Nat).length ≤ Int64.maxValue.toInt
      ∧ (∃ last, Parts 2 [1, 2, 3, 4, 5] last) ∧ ∃ last, Parts (-7) [1, 2, 3, 4, 5] last)
    ∧ ∃ s, select ⟨"lot", by decide⟩ { paging := some (ofNumbers Int64.maxValue 2) } none = .ok s
      ∧ s.params = [.int Int64.maxValue, .int 2]
      ∧ ∃ params text, s.params = params ++ [.int Int64.maxValue, .int 2]
        ∧ s.sql = text ++ pageText (params.length + 1) (params.length + 2)
  := by
  obtain ⟨-, hparts, hbinds⟩ := pages_part_rows
  constructor
  · have hlength : ([1, 2, 3, 4, 5] : List Nat).length ≤ Int64.maxValue.toInt := by decide
    exact ⟨hlength, hparts _ 2 hlength, hparts _ (-7) hlength⟩
  · have hselect : select ⟨"lot", by decide⟩ { paging := some (ofNumbers Int64.maxValue 2) } none
        = .ok ⟨"SELECT * FROM lot ORDER BY (SELECT NULL) OFFSET $1 ROWS FETCH NEXT $2 ROWS ONLY",
          [.int Int64.maxValue, .int 2]⟩ := by rfl
    refine ⟨_, hselect, rfl, ?_⟩
    obtain ⟨offset, fetch, params, text, hwindow, hparams, htext⟩ :=
      hbinds _ _ none Int64.maxValue 2 _ rfl hselect
    have hvalues : (offset, fetch) = (Int64.maxValue, 2) := by
      apply Option.some.inj
      rw [← hwindow]
      decide
    obtain ⟨rfl, rfl⟩ := Prod.mk.inj hvalues
    use params, text

end FilterRequest

end BoundSql
