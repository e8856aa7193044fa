import SqlStatements.Proofs.Draft.Paging

/-! The bounds of a page by row numbers. A SELECT is paged unless a bound exceeds
the largest row number, and the rows whose number is within the bounds are the
page: the rows that are left after the offset, as many as the limit allows. -/
namespace SqlStatements

namespace Expr

/-- The number that a term stands for in a row, which is given by its
columns. -/
def number? (row : String → Option Int) : Expr → Option Int
  | .literal (.int n) => some n
  | .column ⟨none, name, _⟩ => row name
  | _ => none

/-- Whether a condition on numbers holds in a row. -/
def holds? (row : String → Option Int) : Expr → Option Bool
  | .binary .and left right => do return (← left.holds? row) && (← right.holds? row)
  | .binary .gt left right => do return decide ((← right.number? row) < (← left.number? row))
  | .binary .ltEq left right => do return decide ((← left.number? row) ≤ (← right.number? row))
  | _ => none

/-- The rows in which a condition holds. The column of the given name numbers
them from one, and the values of other columns are those of the row. -/
def keeps {α : Type} (condition : Expr) (number : String) (values : α → String → Option Int)
    (rows : List α) : List α :=
  ((rows.zipIdx 1).filter fun r =>
    condition.holds? (fun name => if name = number then some (r.2 : Int) else values r.1 name) ==
      some true).map Prod.fst

end Expr

namespace Paging

/-- The largest row number, which is one of sixty-four bits with a sign. -/
def maxRow : Nat := Nat.pow 2 63 - 1

/-- Whether the first or the last row of a page is beyond all row numbers. -/
def Exceeds (offset : UInt64) (limit : Option UInt64) : Prop :=
  maxRow < offset.toNat ∨ ∃ n, limit = some n ∧ maxRow < offset.toNat + n.toNat

def within (number : String) (offset : UInt64) (limit : Option UInt64) : Expr :=
  let column : Expr := .column ⟨none, number, .of .bigInteger⟩
  let after : Expr := .binary .gt column (.literal (.int offset.toNat))
  match limit with
  | none => after
  | some n => after.both (.binary .ltEq column (.literal (.int (offset.toNat + n.toNat))))

def pageOf {α : Type} (offset : UInt64) (limit : Option UInt64) (rows : List α) : List α :=
  match limit with
  | none => rows.drop offset.toNat
  | some n => (rows.drop offset.toNat).take n.toNat

section Bounds

variable {offset limit : UInt64}

/-- The sum of an offset and a limit never wraps around; it stops at the largest
number of sixty-four bits. -/
theorem toNat_lastRow :
    (lastRow offset limit).toNat = min (offset.toNat + limit.toNat) (UInt64.size - 1) := by
  rw [lastRow]
  split
  · rename_i hFits
    rw [UInt64.toNat_add, Nat.mod_eq_of_lt hFits]
    omega
  · rename_i hBeyond
    rw [UInt64.toNat_ofNat_of_lt' (by decide)]
    omega

/-- A bound up to the largest row number is written as it is. -/
theorem bound_of_le {n : UInt64} (h : n.toNat ≤ maxRow) : bound n = .ok (.int n.toNat) :=
  if_pos (Nat.lt_of_le_of_lt h (by decide))

/-- A bound beyond all row numbers is refused, and the error names it. -/
theorem bound_of_lt {n : UInt64} (h : maxRow < n.toNat) :
    bound n = .error (.conflict (.rowBound n.toNat)) :=
  if_neg (Nat.not_lt.mpr h)

/-- The sum of the bounds is cut only where it is beyond all row numbers anyway,
so a bound that is written is the true sum. -/
theorem bound_lastRow (h : offset.toNat + limit.toNat ≤ maxRow) :
    bound (lastRow offset limit) = .ok (.int (offset.toNat + limit.toNat)) := by
  have hLast : (lastRow offset limit).toNat = offset.toNat + limit.toNat := by
    have hMax : maxRow ≤ UInt64.size - 1 := by decide
    rw [toNat_lastRow]
    omega
  rw [bound_of_le (by omega), hLast]
  rfl

/-- A page that would end beyond all row numbers is refused. The number in the
error is not always the sum, which may have stopped early. -/
theorem bound_lastRow_error (h : maxRow < offset.toNat + limit.toNat) :
    ∃ n, bound (lastRow offset limit) = .error (.conflict (.rowBound n)) := by
  refine ⟨_, bound_of_lt ?_⟩
  have hMax : maxRow < UInt64.size - 1 := by decide
  rw [toNat_lastRow]
  omega

end Bounds

theorem exceeds_none {offset : UInt64} : Exceeds offset none ↔ maxRow < offset.toNat := by
  simp [Exceeds]

theorem exceeds_some {offset n : UInt64} :
    Exceeds offset (some n) ↔ maxRow < offset.toNat + n.toNat := by
  constructor
  · rintro (h | ⟨_, hn, h⟩)
    · omega
    · cases hn
      exact h
  · exact fun h => .inr ⟨n, rfl, h⟩

/-- The filter keeps the numbers within the page, unless a bound exceeds them
all. Then it is refused, never cut short. -/
theorem filter_outcome (number : String) (offset : UInt64) (limit : Option UInt64) :
    (¬Exceeds offset limit ∧ filter number offset limit = .ok (within number offset limit)) ∨
    Exceeds offset limit ∧
      ∃ n, filter number offset limit = .error (.conflict (.rowBound n)) := by
  rcases Nat.lt_or_ge maxRow offset.toNat with hOffset | hOffset
  · exact .inr ⟨.inl hOffset, offset.toNat, by rw [filter, bound_of_lt hOffset]; rfl⟩
  rw [filter, bound_of_le hOffset]
  cases limit with
  | none => exact .inl ⟨fun h => Nat.not_lt.mpr hOffset (exceeds_none.mp h), rfl⟩
  | some n =>
      rw [exceeds_some]
      rcases Nat.lt_or_ge maxRow (offset.toNat + n.toNat) with hLast | hLast
      · obtain ⟨m, hError⟩ := bound_lastRow_error hLast
        exact .inr ⟨hLast, m, by simp only [hError]; rfl⟩
      · exact .inl ⟨Nat.not_lt.mpr hLast, by simp only [bound_lastRow hLast]; rfl⟩

section Rows

variable {α : Type}

/-- The rows numbered above a bound are those left after as many are dropped,
wherever the numbers start. -/
theorem filter_gt_zipIdx (rows : List α) (first lower : Nat) :
    (rows.zipIdx first).filter (fun r => decide (lower < r.2)) =
      (rows.drop (lower + 1 - first)).zipIdx (max first (lower + 1)) := by
  induction rows generalizing first with
  | nil => simp
  | cons row rows ih =>
      rw [List.zipIdx_cons, List.filter_cons, ih]
      by_cases hFirst : lower < first
      · have hDrop : lower + 1 - first = 0 := by omega
        have hDrop' : lower + 1 - (first + 1) = 0 := by omega
        have hMax : max first (lower + 1) = first := by omega
        have hMax' : max (first + 1) (lower + 1) = first + 1 := by omega
        rw [if_pos (decide_eq_true hFirst), hDrop, hDrop', hMax, hMax', List.drop_zero,
          List.drop_zero, List.zipIdx_cons]
      · have hDrop : lower + 1 - first = lower + 1 - (first + 1) + 1 := by omega
        have hMax : max first (lower + 1) = max (first + 1) (lower + 1) := by omega
        rw [if_neg (by simpa using hFirst), hDrop, hMax, List.drop_succ_cons]

/-- The rows numbered up to a bound are as many from the start, wherever the
numbers start. -/
theorem filter_le_zipIdx (rows : List α) (first upper : Nat) :
    (rows.zipIdx first).filter (fun r => decide (r.2 ≤ upper)) =
      (rows.take (upper + 1 - first)).zipIdx first := by
  induction rows generalizing first with
  | nil => simp
  | cons row rows ih =>
      rw [List.zipIdx_cons, List.filter_cons, ih]
      by_cases hFirst : first ≤ upper
      · have hTake : upper + 1 - first = upper + 1 - (first + 1) + 1 := by omega
        rw [if_pos (decide_eq_true hFirst), hTake, List.take_succ_cons, List.zipIdx_cons]
      · have hTake : upper + 1 - first = 0 := by omega
        have hTake' : upper + 1 - (first + 1) = 0 := by omega
        rw [if_neg (by simpa using hFirst), hTake, hTake', List.take_zero, List.take_zero]
        rfl

/-- Without a limit, the condition holds exactly for the row numbers behind the
offset. -/
theorem holds?_within_none {number : String} {offset : UInt64} {row : String → Option Int}
    {n : Nat} (hRow : row number = some (n : Int)) :
    (within number offset none).holds? row = some (decide (offset.toNat < n)) := by
  simp [within, Expr.holds?, Expr.number?, hRow]

/-- With a limit, it holds exactly for as many row numbers behind the offset as
the limit says. The sum is that of the naturals. -/
theorem holds?_within_some {number : String} {offset limit : UInt64} {row : String → Option Int}
    {n : Nat} (hRow : row number = some (n : Int)) :
    (within number offset (some limit)).holds? row =
      some (decide (offset.toNat < n) && decide (n ≤ offset.toNat + limit.toNat)) := by
  have hLast : (n : Int) ≤ offset.toNat + limit.toNat ↔ n ≤ offset.toNat + limit.toNat := by omega
  simp [within, Expr.both, Expr.holds?, Expr.number?, hRow, hLast]

/-- The rows numbered within the page are the page: as many rows are dropped as
the offset says, and no more are taken than the limit. -/
theorem keeps_within (number : String) (offset : UInt64) (limit : Option UInt64)
    (values : α → String → Option Int) (rows : List α) :
    (within number offset limit).keeps number values rows = pageOf offset limit rows := by
  cases limit with
  | none =>
      have hHolds : ∀ r : α × Nat, ((within number offset none).holds?
          (fun name => if name = number then some (r.2 : Int) else values r.1 name) == some true) =
          decide (offset.toNat < r.2) := by
        intro r
        rw [holds?_within_none (if_pos rfl)]
        simp
      simp only [Expr.keeps, hHolds, filter_gt_zipIdx, List.zipIdx_map_fst, pageOf,
        Nat.add_sub_cancel]
  | some limit =>
      have hHolds : ∀ r : α × Nat, ((within number offset (some limit)).holds?
          (fun name => if name = number then some (r.2 : Int) else values r.1 name) == some true) =
          (decide (r.2 ≤ offset.toNat + limit.toNat) && decide (offset.toNat < r.2)) := by
        intro r
        rw [holds?_within_some (if_pos rfl)]
        simp [Bool.and_comm]
      have hTake : offset.toNat + limit.toNat + 1 - max 1 (offset.toNat + 1) = limit.toNat := by
        omega
      simp only [Expr.keeps, hHolds, ← List.filter_filter, filter_gt_zipIdx, filter_le_zipIdx,
        hTake, List.zipIdx_map_fst, pageOf, Nat.add_sub_cancel]

end Rows

/-- The row number is the last column of the rows with their numbers, also where
it stands around distinct rows. -/
theorem getLast?_withNumbers {s inner : Select} {columns : List Labelled} {number : String}
    (h : withNumbers s columns number = .ok inner) :
    ∃ order, inner.columns.getLast? = some (numberColumn order number) := by
  rcases withNumbers_cases h with ⟨_, rfl⟩ | ⟨_, order, _, rfl⟩
  · exact ⟨s.orderBy, List.getLast?_concat ..⟩
  · exact ⟨order, List.getLast?_concat ..⟩

end Paging

namespace Select

/-- What paging by row numbers asks of a SELECT apart from its bounds: an order,
no star that stands for unknown columns, and an order by selected columns where
duplicates are removed. -/
structure Pageable (s : Select) : Prop where
  ordered : s.orderBy ≠ []
  known : ∀ source, .star source ∈ s.columns → Paging.Known s.sources source
  selected : s.distinct = true → ∀ exprs, Paging.expanded s.sources s.columns = .ok exprs →
    Paging.Selected (Paging.labelled [] 0 exprs) s.orderBy

/-- Paging succeeds, or a bound is beyond all row numbers, or something other
than the bounds is wrong. -/
theorem paged_outcome (dialect : String) {s : Select} (hPlain : s.numbered = false) :
    (s.Pageable ∧ ¬Paging.Exceeds (s.offset.getD 0) s.limit ∧
      ∃ page, s.paged dialect = .ok page) ∨
    (s.Pageable ∧ Paging.Exceeds (s.offset.getD 0) s.limit ∧
      ∃ n, s.paged dialect = .error (.conflict (.rowBound n))) ∨
    ¬s.Pageable ∧ ∃ e, s.paged dialect = .error e ∧ ∀ n, e ≠ .conflict (.rowBound n) := by
  rw [paged, hPlain, if_neg Bool.false_ne_true]
  split
  · rename_i hNone
    refine .inr (.inr ⟨fun hs => hs.ordered (List.isEmpty_iff.mp hNone), _, rfl, ?_⟩)
    rintro n ⟨⟩
  rename_i hOrdered
  rw [List.isEmpty_iff] at hOrdered
  rcases Paging.expanded_outcome s.sources s.columns with ⟨hKnown, exprs, hExprs⟩ | ⟨hKnown, hError⟩
  swap
  · refine .inr (.inr ⟨fun hs => hKnown hs.known, _, by rw [hError]; rfl, ?_⟩)
    rintro n ⟨⟩
  rcases Paging.withNumbers_outcome s (Paging.labelled [] 0 exprs) (freshName Paging.rowNumberName
    ((Paging.labelled [] 0 exprs).map (·.name))) with ⟨hSelected, inner, hInner⟩ |
    ⟨hSelected, hError⟩
  swap
  · refine .inr (.inr ⟨fun hs => hSelected fun hDistinct => hs.selected hDistinct _ hExprs,
      .conflict .distinctOrder, by simp only [bind, Except.bind, hExprs, hError], ?_⟩)
    rintro n ⟨⟩
  have hs : s.Pageable := ⟨hOrdered, hKnown, fun hDistinct others hOthers => by
    cases hExprs.symm.trans hOthers
    exact hSelected hDistinct⟩
  rcases Paging.filter_outcome (freshName Paging.rowNumberName
    ((Paging.labelled [] 0 exprs).map (·.name))) (s.offset.getD 0) s.limit with
    ⟨hBounds, hFilter⟩ | ⟨hBounds, n, hError⟩
  · exact .inl ⟨hs, hBounds, _, by simp only [bind, Except.bind, hExprs, hInner, hFilter]; rfl⟩
  · exact .inr (.inl ⟨hs, hBounds, n, by simp only [bind, Except.bind, hExprs, hInner, hError]⟩)

/-- A SELECT with an offset is paged by row numbers unless a bound is beyond all
of them, which is found out in the integers. The rows that pass the filter on
their number are those left after the offset, as many as the limit allows. -/
theorem paged_bounds (dialect : String) (s : Select) (offset : UInt64)
    (hPlain : s.numbered = false) (hOffset : s.offset = some offset) :
    ((∃ n, s.paged dialect = .error (.conflict (.rowBound n))) ↔
      s.Pageable ∧ Paging.Exceeds offset s.limit) ∧
    ((∃ page, s.paged dialect = .ok page) ↔ s.Pageable ∧ ¬Paging.Exceeds offset s.limit) ∧
    ∀ page, s.paged dialect = .ok page → ∃ inner order number,
      page.sources = [.derived (.select inner) Paging.numberedRows false] ∧
      inner.columns.getLast? = some (Paging.numberColumn order number) ∧
      page.condition = some (Paging.within number offset s.limit) ∧
      ∀ (α : Type) (values : α → String → Option Int) (rows : List α),
        (Paging.within number offset s.limit).keeps number values rows =
          Paging.pageOf offset s.limit rows := by
  have hStart : s.offset.getD 0 = offset := by rw [hOffset, Option.getD_some]
  have hOutcome := paged_outcome dialect hPlain
  rw [hStart] at hOutcome
  refine ⟨?_, ?_, ?_⟩
  · rcases hOutcome with ⟨_, hBounds, _, hPage⟩ | ⟨hs, hBounds, n, hError⟩ | ⟨hs, e, hError, hOther⟩
    · exact iff_of_false (by simp [hPage]) fun h => hBounds h.2
    · exact iff_of_true ⟨n, hError⟩ ⟨hs, hBounds⟩
    · exact iff_of_false (by simpa [hError] using hOther) fun h => hs h.1
  · rcases hOutcome with ⟨hs, hBounds, page, hPage⟩ | ⟨_, hBounds, n, hError⟩ | ⟨hs, e, hError, _⟩
    · exact iff_of_true ⟨page, hPage⟩ ⟨hs, hBounds⟩
    · exact iff_of_false (by simp [hError]) fun h => h.2 hBounds
    · exact iff_of_false (by simp [hError]) fun h => hs h.1
  · intro page hPage
    obtain ⟨_, _, number, inner, condition, _, _, _, hInner, hFilter, rfl⟩ := paged_new hPlain hPage
    obtain ⟨order, hLast⟩ := Paging.getLast?_withNumbers hInner
    rw [hStart] at hFilter
    rcases Paging.filter_outcome number offset s.limit with ⟨_, hWithin⟩ | ⟨_, n, hError⟩
    · cases hFilter.symm.trans hWithin
      exact ⟨inner, order, number, rfl, hLast, rfl, fun α => Paging.keeps_within number offset _⟩
    · cases hFilter.symm.trans hError

end Select

namespace Sample

/-- Distinct rows from close to the largest row number on, in the order of a
column that has the name of the row number. -/
def lastRows (limit : UInt64) : Select :=
  { Select.ofColumns [.label (.column ⟨none, "id", .of .integer⟩) "rn"] with
    distinct := true
    sources := [.cte "recent"]
    orderBy := [⟨.column ⟨none, "rn", .null⟩, none, none⟩]
    limit := some limit
    offset := some 9223372036854775805 }

/-- An order by a bare name is accepted here although the SELECT is DISTINCT,
since a selected column has that name. -/
theorem pageable_lastRows (limit : UInt64) : (lastRows limit).Pageable where
  ordered := List.cons_ne_nil _ _
  known := by simp [lastRows, Select.ofColumns]
  selected := by
    intro _ exprs hExprs term hTerm
    cases hExprs
    cases List.mem_singleton.mp hTerm
    exact ⟨_, List.mem_cons_self .., .inr (by decide)⟩

end Sample

/-- The last row number there is may be on a page, and no page goes further. -/
theorem Select.paged_bounds_lastRows :
    (∃ page, (Sample.lastRows 2).paged "mssql" = .ok page ∧ ∃ number,
      page.condition = some (Paging.within number 9223372036854775805 (some 2)) ∧
      ∀ rows : List Nat, (Paging.within number 9223372036854775805 (some 2)).keeps number
        (fun _ _ => none) rows = (rows.drop 9223372036854775805).take 2) ∧
    ∃ n, (Sample.lastRows 3).paged "mssql" = .error (.conflict (.rowBound n)) := by
  have hFits : ¬Paging.Exceeds 9223372036854775805 (some 2) := by
    rw [Paging.exceeds_some]
    decide
  have hBeyond : Paging.Exceeds 9223372036854775805 (some 3) := by
    rw [Paging.exceeds_some]
    decide
  obtain ⟨_, hPaged, hPage⟩ := Select.paged_bounds "mssql" (Sample.lastRows 2) _ rfl rfl
  obtain ⟨page, h⟩ := hPaged.mpr ⟨Sample.pageable_lastRows 2, hFits⟩
  obtain ⟨_, _, number, _, _, hCondition, hRows⟩ := hPage page h
  refine ⟨⟨page, h, number, hCondition, hRows Nat fun _ _ => none⟩, ?_⟩
  exact (Select.paged_bounds "mssql" (Sample.lastRows 3) _ rfl rfl).1.mpr
    ⟨Sample.pageable_lastRows 3, hBeyond⟩

end SqlStatements
