import SqlStatements.Draft.Statement
import SqlStatements.Proofs.Draft.Paging

/-! The draft of a SELECT in three parts: what stands in front of its FROM
clause, the clause, and what follows it. A SELECT is drafted in this way unless
its page has to be picked by row numbers first. -/
namespace SqlStatements

/-- The same target with another way to write row limits. -/
def Target.withLimits (t : Target) (limits : LimitRule) : Target :=
  { t with profile := { t.profile with limits } }

namespace Select

variable (t : Target) (pager : Pager) (sc : Scope) (outermost : Bool) (s : Select)

/-- Whether the SELECT can be written for the target as it stands. -/
def Direct : Prop := s.skipsRows = true → t.strategy = .limitOffset

def headDraft : Draft :=
  let sc' := sc.providing (sc.sources s)
  Draft.withClause t s.ctes (cteDrafts t pager sc' s.ctes) ++
    .text (if s.distinct then "SELECT DISTINCT " else "SELECT ") :: (Draft.top t s.limit ++
    Draft.columns (s.headings t sc outermost) (exprDrafts t pager sc' s.columns))

def fromDraft : Draft :=
  let items := sc.sources s
  if items.isEmpty then []
  else
    .text " FROM " :: Draft.sources t items
      (if s.sources.isEmpty then (sc.implied s.columns s.condition).map TableRef.draft
      else sourceDrafts t pager (sc.providing items) s.sources)

def tailDraft : Draft :=
  let sc' := sc.providing (sc.sources s)
  Draft.clause " WHERE " (optionDraft t pager sc' s.condition) ++
    Draft.listClause " GROUP BY " (exprDrafts t pager sc' s.groupBy) ++
    Draft.clause " HAVING " (optionDraft t pager sc' s.having) ++
    Draft.order t sc (s.limit.isSome || s.offset.isSome) (orderDrafts t pager sc' s.orderBy) ++
    if t.strategy = .limitOffset then Draft.limits s.limit s.offset else []

variable {t pager sc outermost s}

theorem Direct.avoids (hDirect : s.Direct t) {strategy : LimitStrategy}
    (hOther : strategy ≠ .limitOffset) : ¬(s.skipsRows = true ∧ t.strategy = strategy) := by
  rintro ⟨hSkips, hStrategy⟩
  exact hOther (hStrategy.symm.trans (hDirect hSkips))

/-- A SELECT that skips no rows can be written as it stands for every target. -/
theorem direct_of_not_skipsRows (h : s.skipsRows = false) : s.Direct t := by
  intro hSkips
  rw [h] at hSkips
  cases hSkips

theorem plain_of_skipsRows (h : s.skipsRows = true) : s.numbered = false := by
  rw [skipsRows, Bool.and_eq_true] at h
  simpa using h.2

/-- A page skips no rows by itself. -/
theorem direct_of_paged {dialect : String} {page : Select} (hPlain : s.numbered = false)
    (h : s.paged dialect = .ok page) : page.Direct t := by
  obtain ⟨_, _, _, _, _, _, _, _, _, _, rfl⟩ := paged_new hPlain h
  exact direct_of_not_skipsRows rfl

/-- A SELECT that is written as it stands has three parts: up to the FROM
clause, the clause itself, and what follows it. -/
theorem draft_direct (hDirect : s.Direct t) (hColumns : s.columns.isEmpty = false) :
    s.draft t pager sc outermost =
      s.headDraft t pager sc outermost ++ s.fromDraft t pager sc ++ s.tailDraft t pager sc := by
  have hTop := hDirect.avoids (show LimitStrategy.top ≠ .limitOffset by decide)
  have hPages := hDirect.avoids (show LimitStrategy.rowNumber ≠ .limitOffset by decide)
  obtain ⟨ctes, distinct, columns, sources, condition, groupBy, having, orderBy, limit, offset,
    numbered⟩ := s
  have hSome : ¬columns.isEmpty = true := by
    intro hEmpty
    rw [hEmpty] at hColumns
    cases hColumns
  rw [Select.draft, if_neg hTop, if_neg hPages, if_neg hSome]
  simp only [headDraft, fromDraft, tailDraft, List.cons_append, List.append_assoc]

/-- A SELECT without columns is an error, also where it has other clauses. -/
theorem draft_stop_of_no_columns (hDirect : s.Direct t) (hColumns : s.columns.isEmpty = true) :
    s.draft t pager sc outermost = [.stop (.conflict .emptySelect)] := by
  have hTop := hDirect.avoids (show LimitStrategy.top ≠ .limitOffset by decide)
  have hPages := hDirect.avoids (show LimitStrategy.rowNumber ≠ .limitOffset by decide)
  obtain ⟨ctes, distinct, columns, sources, condition, groupBy, having, orderBy, limit, offset,
    numbered⟩ := s
  rw [Select.draft, if_neg hTop, if_neg hPages, if_pos hColumns]

theorem not_top_of_rowNumber (s : Select) (hStrategy : t.strategy = .rowNumber) :
    ¬(s.skipsRows = true ∧ t.strategy = .top) := by
  rw [hStrategy]
  rintro ⟨_, ⟨⟩⟩

/-- Where pages are picked by row numbers, the page is drafted in place of the
SELECT. -/
theorem draft_paged {page : Select} (hSkips : s.skipsRows = true)
    (hStrategy : t.strategy = .rowNumber) (hPage : s.paged t.profile.name = .ok page) :
    s.draft t pager sc outermost = pager sc outermost page := by
  obtain ⟨ctes, distinct, columns, sources, condition, groupBy, having, orderBy, limit, offset,
    numbered⟩ := s
  rw [Select.draft, if_neg (not_top_of_rowNumber _ hStrategy), if_pos ⟨hSkips, hStrategy⟩, hPage]

/-- Where a page cannot be picked, the whole SELECT is the error. -/
theorem draft_unpaged {e : Error} (hSkips : s.skipsRows = true)
    (hStrategy : t.strategy = .rowNumber) (hPage : s.paged t.profile.name = .error e) :
    s.draft t pager sc outermost = [.stop e] := by
  obtain ⟨ctes, distinct, columns, sources, condition, groupBy, having, orderBy, limit, offset,
    numbered⟩ := s
  rw [Select.draft, if_neg (not_top_of_rowNumber _ hStrategy), if_pos ⟨hSkips, hStrategy⟩, hPage]

end Select

/-- The draft goes to its end. -/
def Draft.Complete (d : Draft) : Prop := ∀ e, .stop e ∉ d

/-- A draft that is written out goes to its end: the first reason to stop would
have been the outcome. -/
theorem Ledger.stop_not_mem {s : Setting} {L : Ledger} {d : Draft} {r : List String × Ledger}
    (h : L.write s d = .ok r) (e : Error) : .stop e ∉ d := by
  induction d generalizing L r with
  | nil => exact List.not_mem_nil
  | cons piece d ih =>
      obtain ⟨texts, L'⟩ := r
      obtain ⟨text, M, rest, hPiece, hRest, _⟩ := write_cons h
      intro hMem
      rcases List.mem_cons.mp hMem with rfl | hMem
      · cases hPiece
      · exact ih hRest hMem

namespace Select

variable {t : Target} {pager : Pager} {sc : Scope} {outermost : Bool} {s : Select}

/-- A draft that goes to its end has columns, since without them it stops at
once. -/
theorem columns_of_complete (hDirect : s.Direct t)
    (hComplete : (s.draft t pager sc outermost).Complete) : s.columns.isEmpty = false := by
  cases hColumns : s.columns.isEmpty with
  | false => rfl
  | true =>
      rw [draft_stop_of_no_columns hDirect hColumns] at hComplete
      exact absurd (List.mem_singleton_self _) (hComplete _)

/-- A SELECT that is written out has columns. -/
theorem columns_of_write {st : Setting} {L : Ledger} {r : List String × Ledger}
    (hDirect : s.Direct t) (h : L.write st (s.draft t pager sc outermost) = .ok r) :
    s.columns.isEmpty = false :=
  columns_of_complete hDirect (Ledger.stop_not_mem h)

/-- A draft that goes to its end has found names for all columns. -/
theorem headings_of_complete (hDirect : s.Direct t)
    (hComplete : (s.draft t pager sc outermost).Complete) :
    ∃ hs, s.headings t sc outermost = .ok hs := by
  cases hHeadings : s.headings t sc outermost with
  | ok hs => exact ⟨hs, rfl⟩
  | error e =>
      refine absurd ?_ (hComplete e)
      rw [draft_direct hDirect (columns_of_complete hDirect hComplete)]
      simp [headDraft, hHeadings, Draft.columns]

/-- A SELECT that is written out has found a name for each of its columns. -/
theorem exists_headings {st : Setting} {L : Ledger} {r : List String × Ledger}
    (hDirect : s.Direct t) (h : L.write st (s.draft t pager sc outermost) = .ok r) :
    ∃ hs, s.headings t sc outermost = .ok hs :=
  headings_of_complete hDirect (Ledger.stop_not_mem h)

/-- Where a SELECT cannot be written as it stands, its page is picked by row
numbers. Offsets behind TOP are refused. -/
theorem rowNumber_of_complete (hPaged : ¬s.Direct t)
    (hComplete : (s.draft t pager sc outermost).Complete) :
    s.skipsRows = true ∧ t.strategy = .rowNumber := by
  obtain ⟨hSkips, hOffset⟩ := Classical.not_imp.mp hPaged
  refine ⟨hSkips, ?_⟩
  cases hStrategy : t.strategy with
  | limitOffset => exact absurd hStrategy hOffset
  | rowNumber => rfl
  | top =>
      obtain ⟨ctes, distinct, columns, sources, condition, groupBy, having, orderBy, limit, offset,
        numbered⟩ := s
      rw [Select.draft, if_pos ⟨hSkips, hStrategy⟩] at hComplete
      exact absurd (List.mem_singleton_self _) (hComplete _)

/-- A SELECT that is drafted by row numbers has a page, and it is the page that
is drafted. -/
theorem exists_draft_page {depth : Nat} (hSkips : s.skipsRows = true)
    (hStrategy : t.strategy = .rowNumber)
    (hComplete : (s.draft t (SqlStatements.pager t depth) sc outermost).Complete) :
    ∃ page inner, s.paged t.profile.name = .ok page ∧ depth = inner + 1 ∧
      s.draft t (SqlStatements.pager t depth) sc outermost =
        page.draft t (SqlStatements.pager t inner) sc outermost := by
  cases hPage : s.paged t.profile.name with
  | error e =>
      rw [draft_unpaged hSkips hStrategy hPage] at hComplete
      exact absurd (List.mem_singleton_self _) (hComplete e)
  | ok page =>
      have hDraft : s.draft t (SqlStatements.pager t depth) sc outermost =
          SqlStatements.pager t depth sc outermost page := draft_paged hSkips hStrategy hPage
      cases depth with
      | zero =>
          rw [hDraft] at hComplete
          exact absurd (List.mem_singleton_self _) (hComplete _)
      | succ inner => exact ⟨page, inner, rfl, rfl, hDraft⟩

/-- A SELECT that is written out by row numbers has a page, and it is the page
that is written out. -/
theorem exists_page {st : Setting} {L : Ledger} {r : List String × Ledger} {depth : Nat}
    (hSkips : s.skipsRows = true) (hStrategy : t.strategy = .rowNumber)
    (h : L.write st (s.draft t (SqlStatements.pager t depth) sc outermost) = .ok r) :
    ∃ page inner, s.paged t.profile.name = .ok page ∧ depth = inner + 1 ∧
      L.write st (page.draft t (SqlStatements.pager t inner) sc outermost) = .ok r := by
  obtain ⟨page, inner, hPage, hDepth, hDraft⟩ :=
    exists_draft_page hSkips hStrategy (Ledger.stop_not_mem h)
  exact ⟨page, inner, hPage, hDepth, hDraft ▸ h⟩

end Select

end SqlStatements
