import SqlStatements.Proofs.Compiled.InferredPages
import SqlStatements.Proofs.Draft.Nodes

/-! Queries inside of changes. A SELECT brings its tables into sight of the queries
inside of it, but an update or a deletion does not do so with the table whose rows
it changes. A query that mentions this table and has no FROM clause therefore reads
from it once more, and no longer depends on the row that is changed. -/
namespace SqlStatements

/-- The table whose rows a statement changes one by one, and the expressions
that are evaluated for each of them. -/
def Statement.rowExprs? : Statement → Option (Table × List Expr)
  | .update s => some (s.table, s.assignments.map (·.2) ++ s.condition.toList)
  | .delete s => some (s.table, s.condition.toList)
  | _ => none

/-- The tables from which a draft takes the rows of a SELECT without a FROM
clause, if some tables are provided around it. These are left out, unless the
page of the SELECT is picked by row numbers: then its rows stand in a derived
table, where nothing is in sight, with their order among the columns. -/
structure Draft.Infers (t : Target) (d : Draft) (s : Select) (provided : TableRef → Prop)
    (tables : List TableRef) : Prop where
  direct : s.Direct t → d.SelectsFrom t s tables ∧
    ∀ ref, ref ∈ tables ↔ s.Mentions ref ∧ ¬provided ref
  paged : ¬s.Direct t →
    (∃ name, d.SelectsFrom t (Paging.rows s (Paging.rowColumns s
      (Paging.labelled [] 0 (s.columns.flatMap Paging.unstarred)) name)) tables) ∧
    ∀ ref, ref ∈ tables ↔
      (∃ e ∈ s.columns.flatMap Paging.unstarred ++ s.condition.toList, e.Mentions ref) ∨
        s.distinct = false ∧ s.OrdersBy ref

variable {t : Target} {mode : ParameterMode}

/-- Only which tables are provided matters for what is inferred, not in which
order or how often. -/
theorem Draft.Infers.congr {d : Draft} {s : Select} {provided provided' : TableRef → Prop}
    {tables : List TableRef} (h : d.Infers t s provided tables)
    (hSame : ∀ ref, provided ref ↔ provided' ref) : d.Infers t s provided' tables := by
  obtain rfl : provided = provided' := funext fun ref => propext (hSame ref)
  exact h

/-- What is written out within a draft is written out with the tables implied at
its place; those around it are left out. -/
theorem Draft.selectsFrom_of_within {d : Draft} {s : Select} {pager : Pager} {place : Scope}
    {outermost : Bool} (hComplete : d.Complete) (hDirect : s.Direct t) (hFrom : s.sources = [])
    (h : s.draft t pager place outermost <:+: d) :
    d.SelectsFrom t s (place.implied s.columns s.condition) := by
  have hColumns := Select.columns_of_complete hDirect (hComplete.of_part h)
  obtain ⟨before, after, hDraft⟩ := h
  refine ⟨pager, place, outermost, before, after, ?_⟩
  rw [← hDraft, Select.draft_direct hDirect hColumns, Select.fromDraft_inferred hFrom]

/-- A draft that stops somewhere cannot be written out, so nothing of a compiled
statement is missing. -/
theorem Statement.complete_of_compile {s : Statement} {c : Compiled}
    (h : s.compile t mode = .ok c) : (s.draft t).Complete := by
  obtain ⟨texts, L, hWrite, _⟩ := exists_ledger_of_compile h
  exact Ledger.stop_not_mem hWrite

/-- The expressions of a change are drafted with no table in sight. -/
theorem Statement.infix_rowExpr {s : Statement} {table : Table} {exprs : List Expr} {e : Expr}
    (h : s.rowExprs? = some (table, exprs)) (he : e ∈ exprs) :
    e.draft t (pager t s.pages) .outermost <:+: s.draft t := by
  cases s with
  | update s =>
      cases h
      exact Update.infix_rowExpr he
  | delete s =>
      cases h
      exact Delete.infix_rowExpr he
  | query | insert | createTable | dropTable | createIndex | dropIndex => cases h

/-- Whatever is in sight where a SELECT is drafted is provided. A page picked by
row numbers has nothing in sight. -/
theorem Draft.exists_infers {d : Draft} {s : Select} {depth : Nat} {place : Scope}
    {outermost : Bool} (hComplete : d.Complete) (hFrom : s.sources = [])
    (h : s.draft t (pager t depth) place outermost <:+: d) :
    ∃ tables, d.Infers t s (· ∈ place.visible) tables := by
  by_cases hDirect : s.Direct t
  · have hSelects := selectsFrom_of_within hComplete hDirect hFrom h
    exact ⟨_, fun _ => ⟨hSelects, fun _ => Scope.mem_implied⟩, fun hPaged => absurd hDirect hPaged⟩
  · have hOwn := hComplete.of_part h
    obtain ⟨hSkips, hNumbers⟩ := Select.rowNumber_of_complete hDirect hOwn
    obtain ⟨page, inner, hPage, rfl, hDraft⟩ := Select.exists_draft_page hSkips hNumbers hOwn
    rw [hDraft] at h hOwn
    have hPlain := Select.plain_of_skipsRows hSkips
    have hColumns := Select.columns_of_complete (Select.direct_of_paged hPlain hPage) hOwn
    obtain ⟨name, rows, place', before, after, rfl, _, _, hVisible, hRows⟩ :=
      Select.exists_draft_rows (pager t inner) place outermost hFrom hPlain hPage hColumns
    have hWithin := List.IsInfix.trans ⟨before, after, hRows.symm⟩ h
    have hSelects := selectsFrom_of_within hComplete (Select.direct_of_not_skipsRows rfl)
      (show (Paging.rows s _).sources = [] from hFrom) hWithin
    refine ⟨_, fun hOther => absurd hOther hDirect, fun _ => ⟨⟨name, hSelects⟩, ?_⟩⟩
    intro ref
    rw [Scope.mem_implied, hVisible]
    simp only [Paging.rows, List.mem_append, or_and_right, exists_or,
      Paging.mentions_rowColumns_unstarred, List.not_mem_nil, not_false_eq_true, and_true]
    rw [or_right_comm]

/-- The tables of a SELECT that an expression leads to: those provided on the
way are left out, unless it is a page that the way ends at. -/
theorem Draft.infers_of_leads {d : Draft} {depth : Nat} {sc : Scope} {e : Expr} {q : Query}
    {between : List Select} {inner : Select} (hComplete : d.Complete)
    (hExpr : e.draft t (pager t depth) sc <:+: d) (hAsks : e.Asks t q)
    (hLeads : q.Leads t between inner) (hFrom : inner.sources = []) :
    ∃ tables, d.Infers t inner
      (fun ref => ref ∈ sc.visible ∨ ∃ outer ∈ between, outer.Provides ref) tables := by
  have hQuery := (hAsks.within (hComplete.of_part hExpr)).trans hExpr
  obtain ⟨place, outermost, hInner, hVisible⟩ := hLeads.within _ _ (hComplete.of_part hQuery)
  obtain ⟨tables, hInfers⟩ := exists_infers hComplete hFrom (hInner.trans hQuery)
  exact ⟨tables, hInfers.congr hVisible⟩

/-- Take a SELECT without a FROM clause in a query of an expression, at any
depth but in no derived table. Where the expression belongs to an update or a
deletion, only the SELECTs on the way provide tables; so if the SELECT mentions
the table whose rows are changed, and none of those provides it, then it reads
from it. Where the same expression belongs to a SELECT, that one provides its
tables as well. -/
theorem Statement.compile_subquery_tables (t : Target) (mode : ParameterMode) (e : Expr)
    (q : Query) (hAsks : e.Asks t q) (between : List Select) (inner : Select)
    (hLeads : q.Leads t between inner) (hFrom : inner.sources = []) :
    (∀ (s : Statement) (c : Compiled) (table : Table) (exprs : List Expr),
      s.compile t mode = .ok c → s.rowExprs? = some (table, exprs) → e ∈ exprs →
      ∃ tables,
        (s.draft t).Infers t inner (fun ref => ∃ outer ∈ between, outer.Provides ref) tables ∧
        (inner.Direct t → (.plain table ∈ tables ↔ inner.Mentions (.plain table) ∧
          ∀ outer ∈ between, ¬outer.Provides (.plain table)))) ∧
    (∀ (around : Select) (c : Compiled),
      (Statement.query (.select around)).compile t mode = .ok c → around.Direct t →
      e ∈ around.parts t →
      ∃ tables, ((Statement.query (.select around)).draft t).Infers t inner
        (fun ref => around.Provides ref ∨ ∃ outer ∈ between, outer.Provides ref) tables) := by
  constructor
  · intro s c table exprs hCompile hExprs he
    obtain ⟨tables, hInfers⟩ := Draft.infers_of_leads (complete_of_compile hCompile)
      (infix_rowExpr hExprs he) hAsks hLeads hFrom
    refine ⟨tables, hInfers.congr (by simp [Scope.outermost]), ?_⟩
    intro hDirect
    rw [(hInfers.direct hDirect).2]
    simp [Scope.outermost]
  · intro around c hCompile hAround he
    have hComplete := complete_of_compile hCompile
    have hDraft : (Statement.query (.select around)).draft t =
        around.draft t (pager t (Statement.query (.select around)).pages) .outermost true := by
      rw [Statement.draft, Query.draft]
    rw [hDraft] at hComplete ⊢
    obtain ⟨tables, hInfers⟩ := Draft.infers_of_leads hComplete
      (Select.infix_part hAround hComplete he) hAsks hLeads hFrom
    refine ⟨tables, hInfers.congr ?_⟩
    intro ref
    rw [Select.mem_visible_providing]
    simp [Scope.outermost]

namespace Sample

def orders : Table :=
  { name := "orders"
    columns := [Column.named "id" (.of .integer), Column.named "account" (.of .integer)] }

def ordersOfAccount : Select :=
  { Select.ofColumns [columnOf (.plain orders) "id"] with
    condition := some (.binary .eq (columnOf (.plain orders) "account")
      (columnOf (.plain accounts) "id")) }

def hasOrders : Expr := .existsIn (.select ordersOfAccount) false

def purge : Statement := .delete ⟨accounts, some hasOrders, []⟩

def buyers : Select :=
  { Select.ofColumns [columnOf (.plain accounts) "id"] with condition := some hasOrders }

end Sample

/-- Among the orders of the accounts to be removed all accounts are read, but
among those of the accounts that are selected none. -/
theorem Statement.compile_subquery_tables_orders :
    (∃ tables, (Sample.purge.draft Sample.target).SelectsFrom Sample.target Sample.ordersOfAccount
      tables ∧ .plain Sample.accounts ∈ tables) ∧
    (∃ tables, ((Statement.query (.select Sample.buyers)).draft Sample.target).SelectsFrom
      Sample.target Sample.ordersOfAccount tables ∧ .plain Sample.accounts ∉ tables) := by
  have hMentions : Sample.ordersOfAccount.Mentions (.plain Sample.accounts) :=
    ⟨_, List.mem_cons_of_mem _ (List.mem_cons_self ..), .expr (Sample.columnOf _ "id"),
      by simp [Sample.columnOf, Expr.visits], rfl⟩
  have hProvides : Sample.buyers.Provides (.plain Sample.accounts) :=
    ⟨_, List.mem_cons_self .., .expr (Sample.columnOf _ "id"),
      by simp [Sample.columnOf, Expr.visits], rfl⟩
  obtain ⟨c, hPurge, _⟩ := exists_ok_of_toOption
    (x := Sample.purge.compile Sample.target .placeholders) (f := fun c => c.kind)
    (y := .delete) (by decide +kernel)
  obtain ⟨c', hBuyers, _⟩ := exists_ok_of_toOption
    (x := (Statement.query (.select Sample.buyers)).compile Sample.target .placeholders)
    (f := fun c => c.kind) (y := .select) (by decide +kernel)
  obtain ⟨hChange, hSelect⟩ := compile_subquery_tables Sample.target .placeholders Sample.hasOrders
    (.select Sample.ordersOfAccount) (.here rfl) [] Sample.ordersOfAccount (.here _) rfl
  have hDirect : Sample.ordersOfAccount.Direct Sample.target := Select.direct_of_not_skipsRows rfl
  obtain ⟨tables, hInfers, hTarget⟩ := hChange Sample.purge c Sample.accounts _ hPurge rfl
    (List.mem_singleton_self _)
  obtain ⟨tables', hInfers'⟩ := hSelect Sample.buyers c' hBuyers
    (Select.direct_of_not_skipsRows rfl) (by simp [Select.parts, Sample.buyers])
  obtain ⟨hFrom', hTables'⟩ := hInfers'.direct hDirect
  refine ⟨⟨tables, (hInfers.direct hDirect).1, (hTarget hDirect).mpr ⟨hMentions, by simp⟩⟩,
    tables', hFrom', ?_⟩
  intro hMem
  exact ((hTables' _).mp hMem).2 (.inl hProvides)

/-- The condition of a deletion does not depend on the row to be removed,
although the same condition of a SELECT depends on the row to be selected. -/
theorem Statement.compile_orders_of_changed_accounts :
    (Sample.purge.compile Sample.target .placeholders).toOption.map (·.sql) =
      some ("DELETE FROM accounts WHERE EXISTS (SELECT orders.id FROM orders, accounts " ++
        "WHERE orders.account = accounts.id)") ∧
    ((Statement.query (.select Sample.buyers)).compile Sample.target .placeholders).toOption.map
      (·.sql) =
      some ("SELECT accounts.id FROM accounts WHERE EXISTS (SELECT orders.id FROM orders " ++
        "WHERE orders.account = accounts.id)") := by
  decide +kernel

end SqlStatements
