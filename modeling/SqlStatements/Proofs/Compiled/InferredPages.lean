import SqlStatements.Proofs.Compiled.BindNames
import SqlStatements.Proofs.Draft.PagedSources

/-! Pages of SELECTs whose tables are inferred. Whether the offset is written as
such or the page is picked by row numbers, the tables are those that the SELECT
mentions, but the two forms do not always agree on them. -/
namespace SqlStatements

/-- Somewhere in the draft the SELECT is written with the given tables as its
FROM clause. -/
def Draft.SelectsFrom (t : Target) (d : Draft) (s : Select) (tables : List TableRef) : Prop :=
  ∃ pager place outermost before after, d = before ++
    (s.headDraft t pager place outermost ++ listClause " FROM " (tables.map TableRef.draft) ++
      s.tailDraft t pager place) ++ after

namespace Select

/-- When a SELECT without a FROM clause skips rows, an offset that is written as
such leaves it with the tables that its columns and its condition mention and no
enclosing query provides. Picked by row numbers, its rows come from every table
so mentioned, provided or not, and from those of its order unless it is
DISTINCT. The two agree exactly if no table mentioned is provided and the order,
unless the SELECT is DISTINCT, mentions no further table. -/
theorem draft_inferred_page (t : Target) (limits : LimitRule)
    (hNumbers : t.strategy = .rowNumber) (hOffset : (t.withLimits limits).strategy = .limitOffset)
    (s : Select) (hFrom : s.sources = []) (hSkips : s.skipsRows = true)
    (hStars : ∀ ref, .star (some (.table ref)) ∈ s.columns → ref.table.columns ≠ [])
    (sc : Scope) (outermost : Bool) (depth : Nat) (pager : Pager) (st : Setting) (L : Ledger)
    (r : List String × Ledger)
    (hWrite : L.write st (s.draft t (SqlStatements.pager t depth) sc outermost) = .ok r) :
    ∃ offsetTables numberTables : List TableRef,
      (s.draft (t.withLimits limits) pager sc outermost).SelectsFrom (t.withLimits limits) s
        offsetTables ∧
      (∃ name, (s.draft t (SqlStatements.pager t depth) sc outermost).SelectsFrom t
        (Paging.rows s (Paging.rowColumns s
          (Paging.labelled [] 0 (s.columns.flatMap Paging.unstarred)) name)) numberTables) ∧
      (∀ ref, ref ∈ offsetTables ↔ s.Mentions ref ∧ ref ∉ sc.visible) ∧
      (∀ ref, ref ∈ numberTables ↔ s.Mentions ref ∨ s.distinct = false ∧ s.OrdersBy ref) ∧
      ((∀ ref, ref ∈ numberTables ↔ ref ∈ offsetTables) ↔
        (∀ ref, s.Mentions ref → ref ∉ sc.visible) ∧
          (s.distinct = false → ∀ ref, s.OrdersBy ref → s.Mentions ref)) := by
  have hPlain := plain_of_skipsRows hSkips
  obtain ⟨page, inner, hPage, rfl, hPageWrite⟩ := exists_page hSkips hNumbers hWrite
  have hColumns := columns_of_write (direct_of_paged hPlain hPage) hPageWrite
  obtain ⟨name, rows, place, before, after, rfl, hOwn, hRows, hVisible, hDraft⟩ :=
    exists_draft_rows (SqlStatements.pager t inner) sc outermost hFrom hPlain hPage hColumns
  have hOffsetTables : ∀ ref, ref ∈ sc.implied s.columns s.condition ↔
      s.Mentions ref ∧ ref ∉ sc.visible := fun ref => Scope.mem_implied
  have hNumberTables : ∀ ref, ref ∈ place.implied (Paging.rowColumns s
      (Paging.labelled [] 0 (s.columns.flatMap Paging.unstarred)) name) s.condition ↔
      s.Mentions ref ∨ s.distinct = false ∧ s.OrdersBy ref :=
    fun ref => mem_implied_rows hStars hVisible
  refine ⟨_, _, ⟨pager, sc, outermost, [], [], ?_⟩,
    ⟨name, SqlStatements.pager t inner, place, false, before, after, ?_⟩, hOffsetTables,
    hNumberTables, tables_agree_iff hOffsetTables hNumberTables⟩
  · rw [draft_direct (fun _ => hOffset) hOwn, fromDraft_inferred hFrom]
    simp
  · have hRowsFrom : (Paging.rows s (Paging.rowColumns s
        (Paging.labelled [] 0 (s.columns.flatMap Paging.unstarred)) name)).sources = [] := hFrom
    refine (draft_paged hSkips hNumbers hPage).trans (hDraft.trans ?_)
    rw [draft_direct (direct_of_not_skipsRows rfl) hRows, fromDraft_inferred hRowsFrom]
    rfl

end Select

namespace Sample

def columnOf (ref : TableRef) (name : String) : Expr :=
  .column ⟨some (.table ref), name, .of .integer⟩

/-- All but the first account with the id of an account outside as its
balance. -/
def owed : Select :=
  { Select.ofColumns [columnOf (.aliased accounts "a") "id"] with
    condition := some (.binary .eq (columnOf (.aliased accounts "a") "balance")
      (columnOf (.plain accounts) "id"))
    orderBy := [⟨columnOf (.aliased accounts "a") "id", none, none⟩]
    offset := some 1 }

/-- The accounts for which there are such rows. -/
def debtors : Statement :=
  .query (.select { Select.ofColumns [columnOf (.plain accounts) "id"] with
    condition := some (.existsIn (.select owed) false) })

/-- The rows of a table that only a second column names. -/
def starred : Statement :=
  .query (.select { Select.ofColumns [.star none, columnOf (.plain accounts) "id"] with
    orderBy := [⟨columnOf (.plain accounts) "id", none, none⟩]
    offset := some 1 })

def numbering : Target := target.withLimits (.fixed .rowNumber)

end Sample

/-- Inside of the query that provides them, the accounts are a table of the page
by row numbers and not of the other one. -/
theorem Select.draft_inferred_page_owed :
    ∃ offsetTables numberTables : List TableRef,
      (Sample.owed.draft (Sample.numbering.withLimits (.fixed .limitOffset)) (pager Sample.target 0)
        ⟨1, [.plain Sample.accounts]⟩ false).SelectsFrom
          (Sample.numbering.withLimits (.fixed .limitOffset)) Sample.owed offsetTables ∧
      .plain Sample.accounts ∉ offsetTables ∧ .plain Sample.accounts ∈ numberTables ∧
      ¬∀ ref, ref ∈ numberTables ↔ ref ∈ offsetTables := by
  obtain ⟨r, hWrite, _⟩ := exists_ok_of_toOption
    (x := Ledger.write (Sample.debtors.setting Sample.numbering .placeholders) {}
      (Sample.owed.draft Sample.numbering (pager Sample.numbering 1)
        ⟨1, [.plain Sample.accounts]⟩ false))
    (f := fun r => String.join r.1)
    (y := "SELECT anon_1.id FROM (SELECT a.id AS id, ROW_NUMBER() OVER (ORDER BY a.id) AS rn " ++
      "FROM accounts AS a, accounts WHERE a.balance = accounts.id) AS anon_1 WHERE rn > 1")
    (by decide +kernel)
  obtain ⟨offsetTables, numberTables, hDirect, _, hOffset, hNumber, hSame⟩ :=
    Select.draft_inferred_page Sample.numbering (.fixed .limitOffset) rfl rfl Sample.owed rfl rfl
      (by simp [Sample.owed, Sample.columnOf, Select.ofColumns]) ⟨1, [.plain Sample.accounts]⟩ false
      1 (pager Sample.target 0) _ _ r hWrite
  have hMentions : Sample.owed.Mentions (.plain Sample.accounts) :=
    ⟨_, List.mem_cons_of_mem _ (List.mem_cons_self ..), .expr (Sample.columnOf _ "id"),
      by simp [Sample.columnOf, Expr.visits], rfl⟩
  refine ⟨offsetTables, numberTables, hDirect, ?_, (hNumber _).mpr (.inl hMentions), ?_⟩
  · intro hMem
    exact ((hOffset _).mp hMem).2 (List.mem_cons_self ..)
  · intro hAgree
    exact (hSame.mp hAgree).1 _ hMentions (List.mem_cons_self ..)

/-- Picked by row numbers, a page inside of a query reads from the table of that
query once more, and one with a bare star loses columns. -/
theorem Statement.compile_inferred_pages :
    (Sample.debtors.compile Sample.target .placeholders).toOption.map (·.sql) =
      some ("SELECT accounts.id FROM accounts WHERE EXISTS (SELECT a.id FROM accounts AS a " ++
        "WHERE a.balance = accounts.id ORDER BY a.id OFFSET 1)") ∧
    (Sample.debtors.compile Sample.numbering .placeholders).toOption.map (·.sql) =
      some ("SELECT accounts.id FROM accounts WHERE EXISTS (SELECT anon_1.id FROM " ++
        "(SELECT a.id AS id, ROW_NUMBER() OVER (ORDER BY a.id) AS rn " ++
        "FROM accounts AS a, accounts WHERE a.balance = accounts.id) AS anon_1 WHERE rn > 1)") ∧
    (Sample.starred.compile Sample.target .placeholders).toOption.map (·.columns.length) =
      some 3 ∧
    (Sample.starred.compile Sample.numbering .placeholders).toOption.map (·.columns.length) =
      some 1 := by
  decide +kernel

end SqlStatements
