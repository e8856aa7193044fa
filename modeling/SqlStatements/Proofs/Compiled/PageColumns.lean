import SqlStatements.Compiled.Params
import SqlStatements.Proofs.Compiled.BindNames
import SqlStatements.Proofs.Draft.Outputs
import SqlStatements.Proofs.Draft.Select

/-! The result columns of a page. Whether an offset is written as such or the
page is picked by row numbers, a row has the same columns. -/
namespace SqlStatements

namespace Sample

/-- A page of rows with stars, a label, and an expression without a name. -/
def page : Select :=
  { Select.ofColumns
      [.star none, .label (.column ⟨some (.table (.plain accounts)), "id", .of .integer⟩) "rn",
        .binary .add (.column ⟨some (.table (.plain accounts)), "balance", .of .integer⟩)
          (.literal (.int 1)),
        .star (some (.table (.aliased accounts "a")))] with
    sources := [.table (.plain accounts), .table (.aliased accounts "a")]
    orderBy := [⟨.column ⟨some (.table (.plain accounts)), "id", .of .integer⟩, none, none⟩]
    limit := some 10
    offset := some 20 }

end Sample

namespace Select

variable {t : Target} {s : Select}

/-- The columns of an outermost SELECT are those of its headings if it is
written as it stands. -/
theorem Direct.outputs_eq {hs : List Heading} (hDirect : s.Direct t)
    (h : s.headings t .outermost true = .ok hs) : s.outputs t = hs.flatMap (·.fields) := by
  have hPages := hDirect.avoids (show LimitStrategy.rowNumber ≠ .limitOffset by decide)
  rw [outputs, if_neg hPages, plainOutputs, h]

/-- A SELECT that is written as it stands has the columns of its expressions,
with stars over the items that it selects from. -/
theorem Direct.types_outputs_sources {hs : List Heading} (hDirect : s.Direct t)
    (h : s.headings t .outermost true = .ok hs) :
    (s.outputs t).map (·.type) = s.columns.flatMap
      (Expr.outputTypes fun source => starFields source (Scope.outermost.sources s)) := by
  rw [hDirect.outputs_eq h]
  exact types_headings h

/-- The types of the columns do not depend on the names that headings find for
them. -/
theorem Direct.types_outputs {hs : List Heading} (hDirect : s.Direct t) (hFrom : s.sources ≠ [])
    (h : s.headings t .outermost true = .ok hs) :
    (s.outputs t).map (·.type) = s.outputTypes := by
  have hSources : Scope.outermost.sources s = s.sources := if_neg (by simpa using hFrom)
  rw [hDirect.types_outputs_sources h, hSources]
  rfl

/-- The row number by which a page is picked is none of its columns. It is read
inside of the page only. -/
theorem rowNumber_not_selected {dialect : String} {page : Select} (hPlain : s.numbered = false)
    (h : s.paged dialect = .ok page) :
    ∃ number condition, Paging.filter number (s.offset.getD 0) s.limit = .ok condition ∧
      page.condition = some condition ∧
      ∀ e ∈ page.columns, ∃ name type,
        e = .column ⟨some (.derived Paging.numberedRows), name, type⟩ ∧ name ≠ number := by
  obtain ⟨exprs, columns, number, inner, condition, _, _, hNumber, _, hFilter, rfl⟩ :=
    paged_new hPlain h
  refine ⟨number, condition, hFilter, rfl, ?_⟩
  intro e he
  obtain ⟨c, hc, rfl⟩ := List.mem_map.mp he
  refine ⟨c.name, c.expr.type, rfl, ?_⟩
  intro hName
  have hFree := freshName_not_mem Paging.rowNumberName (columns.map (·.name))
  rw [← hNumber, ← hName] at hFree
  exact hFree (List.mem_map.mpr ⟨c, hc, rfl⟩)

end Select

/-- A row with each value converted by what stands at its place in a list. -/
def convertEach (conversions : List (Option Conversion)) (row : Row) : Except Error Row :=
  (row.mapIdx fun i v => convert conversions[i]?.join v).mapM id

/-- Rows are converted by the conversions of their columns alone. Values beyond
the columns stay as they are. -/
theorem Compiled.decodeRow_eq (c : Compiled) (row : Row) :
    c.decodeRow row = convertEach (c.columns.map (·.conversion)) row := by
  have hBind : ∀ x : Option ResultColumn, x.bind (·.conversion) = (x.map (·.conversion)).join := by
    intro x
    cases x <;> rfl
  simp only [decodeRow, convertEach, hBind, List.getElem?_map]

/-- How a row is decoded depends only on the conversions of the columns, not on
their names and positions. -/
theorem Compiled.decodeRow_congr {c c' : Compiled}
    (h : c.columns.map (·.conversion) = c'.columns.map (·.conversion)) (row : Row) :
    c.decodeRow row = c'.decodeRow row := by
  rw [decodeRow_eq, decodeRow_eq, h]

namespace Statement

variable {t : Target} {mode : ParameterMode} {s : Select} {c : Compiled}

/-- Types and conversions of the result columns are fixed by the types alone. -/
theorem columns_of_compile {s : Statement} (h : s.compile t mode = .ok c) :
    c.columns.map (fun column => (column.type, column.conversion)) =
      ((s.outputs t).map (·.type)).map fun type =>
        (type, t.profile.resultConversion t.caps type) := by
  obtain ⟨texts, L, _, rfl⟩ := exists_ledger_of_compile h
  rw [map_resultColumns _ (fun _ _ => rfl), List.map_map]
  rfl

/-- An offset that is written as such leaves the columns as they are, since the
SELECT is written as it stands. -/
theorem types_of_limitOffset (hStrategy : t.strategy = .limitOffset) (hFrom : s.sources ≠ [])
    (h : (Statement.query (.select s)).compile t mode = .ok c) :
    ((Statement.query (.select s)).outputs t).map (·.type) = s.outputTypes := by
  obtain ⟨texts, L, hWrite, _⟩ := exists_ledger_of_compile h
  have hDirect : s.Direct t := fun _ => hStrategy
  obtain ⟨hs, hHeadings⟩ := Select.exists_headings hDirect hWrite
  exact hDirect.types_outputs hFrom hHeadings

/-- Row numbers leave the types of the columns as they are, and a SELECT that is
compiled in this way has a page. -/
theorem types_of_rowNumber (hStrategy : t.strategy = .rowNumber) (hSkips : s.skipsRows = true)
    (h : (Statement.query (.select s)).compile t mode = .ok c) :
    ∃ page, s.paged t.profile.name = .ok page ∧
      ((Statement.query (.select s)).outputs t).map (·.type) = s.outputTypes := by
  obtain ⟨texts, L, hWrite, _⟩ := exists_ledger_of_compile h
  obtain ⟨page, inner, hPage, _, hWrite⟩ := Select.exists_page hSkips hStrategy hWrite
  have hPlain := Select.plain_of_skipsRows hSkips
  obtain ⟨exprs, columns, number, rows, condition, _, _, _, _, _, hNew⟩ :=
    Select.paged_new hPlain hPage
  have hSkipsNot : page.skipsRows = false := by rw [hNew]; rfl
  have hDirect : page.Direct t := Select.direct_of_not_skipsRows hSkipsNot
  obtain ⟨hs, hHeadings⟩ := Select.exists_headings hDirect hWrite
  refine ⟨page, hPage, ?_⟩
  calc ((Statement.query (.select s)).outputs t).map (·.type)
      = (page.outputs t).map (·.type) := by
        show List.map _ (s.outputs t) = _
        rw [Select.outputs, if_pos ⟨hSkips, hStrategy⟩, hPage, Select.outputs, hSkipsNot]
        rfl
    _ = page.outputTypes :=
        hDirect.types_outputs (by rw [hNew]; exact List.cons_ne_nil _ _) hHeadings
    _ = s.outputTypes := Select.types_paged hPlain hPage

/-- A page has the same result columns whether its offset is written as such or
it is picked by row numbers: equally many, and place by place of the same type
and with the same conversion. Rows are therefore converted alike. The row number
itself is not selected. -/
theorem compile_page_columns (t : Target) (limits : LimitRule) (mode : ParameterMode)
    (hOffset : t.strategy = .limitOffset) (hNumbers : (t.withLimits limits).strategy = .rowNumber)
    (s : Select) (hFrom : s.sources ≠ []) (hSkips : s.skipsRows = true) (c c' : Compiled)
    (h : (Statement.query (.select s)).compile t mode = .ok c)
    (h' : (Statement.query (.select s)).compile (t.withLimits limits) mode = .ok c') :
    c'.columns.length = c.columns.length ∧
    c'.columns.map (fun column => (column.type, column.conversion)) =
      c.columns.map (fun column => (column.type, column.conversion)) ∧
    (∀ row, c'.decodeRow row = c.decodeRow row) ∧
    ∃ page, s.paged t.profile.name = .ok page ∧
      ∃ number condition, Paging.filter number (s.offset.getD 0) s.limit = .ok condition ∧
        page.condition = some condition ∧
        ∀ e ∈ page.columns, ∃ name type,
          e = .column ⟨some (.derived Paging.numberedRows), name, type⟩ ∧ name ≠ number := by
  have hTypes := types_of_limitOffset hOffset hFrom h
  obtain ⟨page, hPage, hTypes'⟩ := types_of_rowNumber hNumbers hSkips h'
  have hColumns : c'.columns.map (fun column => (column.type, column.conversion)) =
      c.columns.map (fun column => (column.type, column.conversion)) := by
    rw [columns_of_compile h, columns_of_compile h', hTypes, hTypes']
    rfl
  have hPlain := Select.plain_of_skipsRows hSkips
  refine ⟨?_, hColumns, ?_, page, hPage, Select.rowNumber_not_selected hPlain hPage⟩
  · simpa using congrArg List.length hColumns
  · refine Compiled.decodeRow_congr ?_
    simpa [Function.comp_def] using congrArg (List.map Prod.snd) hColumns

/-- A page with two stars and a column that is itself called `rn`. -/
theorem compile_page_columns_stars :
    ∃ c c', (Statement.query (.select Sample.page)).compile Sample.target .placeholders = .ok c ∧
      (Statement.query (.select Sample.page)).compile
        (Sample.target.withLimits (.fixed .rowNumber)) .placeholders = .ok c' ∧
      c.sql = "SELECT *, accounts.id AS rn, accounts.balance + 1, a.* " ++
        "FROM accounts, accounts AS a ORDER BY accounts.id LIMIT 10 OFFSET 20" ∧
      c.columns.length = 8 ∧
      c'.columns.length = c.columns.length ∧
      c'.columns.map (fun column => (column.type, column.conversion)) =
        c.columns.map (fun column => (column.type, column.conversion)) := by
  obtain ⟨c, h, hText⟩ := exists_ok_of_toOption
    (x := (Statement.query (.select Sample.page)).compile Sample.target .placeholders)
    (f := fun c => (c.sql, c.columns.length))
    (y := ("SELECT *, accounts.id AS rn, accounts.balance + 1, a.* " ++
      "FROM accounts, accounts AS a ORDER BY accounts.id LIMIT 10 OFFSET 20", 8))
    (by decide +kernel)
  obtain ⟨c', h', _⟩ := exists_ok_of_toOption
    (x := (Statement.query (.select Sample.page)).compile
      (Sample.target.withLimits (.fixed .rowNumber)) .placeholders)
    (f := fun c => c.columns.length) (y := 8) (by decide +kernel)
  obtain ⟨hLength, hColumns, _⟩ := compile_page_columns Sample.target (.fixed .rowNumber)
    .placeholders rfl rfl Sample.page (List.cons_ne_nil _ _) rfl c c' h h'
  exact ⟨c, c', h, h', congrArg Prod.fst hText, congrArg Prod.snd hText, hLength, hColumns⟩

end Statement

end SqlStatements
