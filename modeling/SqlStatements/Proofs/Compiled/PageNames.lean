import SqlStatements.Dialect.SqlServer
import SqlStatements.Proofs.Compiled.ChangedTables
import SqlStatements.Proofs.Draft.HeadingNames

/-! The names in a page that is picked by row numbers. The page refers to the columns of
the derived table inside by the names that these have in the tree, but the SELECT there
hands them on under names that are cut to the limit of the server. -/
namespace SqlStatements

variable {t : Target} {mode : ParameterMode}

/-- A SELECT from a derived table, without further clauses, is written with its
columns and its condition. -/
theorem Select.mem_parts_of_derived {s : Select} {q : Query} {name : String} {lateral : Bool}
    {e : Expr} (hFrom : s.sources = [.derived q name lateral]) (hGroup : s.groupBy = [])
    (hHaving : s.having = none) (hOrder : s.orderBy = []) (h : e ∈ s.parts t) :
    e ∈ s.columns ∨ e ∈ s.condition.toList := by
  simpa [parts, keptOrder, hFrom, hGroup, hHaving, hOrder, FromItem.conditions] using h

namespace Paging

variable {s inner : Select} {columns : List Labelled} {number : String}

/-- The SELECT that numbers the rows of a page skips none itself, so it is
written as it stands. -/
theorem direct_withNumbers (h : withNumbers s columns number = .ok inner) : inner.Direct t := by
  rcases withNumbers_cases h with ⟨-, rfl⟩ | ⟨-, order, -, rfl⟩
  · exact Select.direct_of_not_skipsRows rfl
  · exact Select.direct_of_not_skipsRows rfl

/-- The rows with their numbers have the columns of the page and the number,
each under its label. -/
theorem exists_column_withNumbers (h : withNumbers s columns number = .ok inner) {name : String}
    (hName : (∃ c ∈ columns, name = c.name) ∨ name = number) :
    ∃ e ∈ inner.columns, e.outputName? = some name := by
  rcases withNumbers_cases h with ⟨-, rfl⟩ | ⟨-, order, -, rfl⟩
  · rcases hName with ⟨c, hc, rfl⟩ | rfl
    · exact ⟨c.column, List.mem_append_left _ (List.mem_map_of_mem hc), rfl⟩
    · exact ⟨_, List.mem_append_right _ (List.mem_singleton_self _), rfl⟩
  · rcases hName with ⟨c, hc, rfl⟩ | rfl
    · exact ⟨c.through distinctRows, List.mem_append_left _ (List.mem_map_of_mem hc), rfl⟩
    · exact ⟨_, List.mem_append_right _ (List.mem_singleton_self _), rfl⟩

/-- Where duplicates are removed, the rows with their numbers refer to nothing
but the columns of the rows inside: as such, or in the order of the numbers. -/
theorem refersTo_distinctRows {orderBy order : List OrderTerm} {e : Expr}
    {source : Option ColumnSource} {name : String}
    (hOrder : distinctOrder columns orderBy = .ok order)
    (he : e ∈ columns.map (·.through distinctRows) ++ [numberColumn order number])
    (hRefers : e.RefersTo source name) :
    source = some (.derived distinctRows) ∧ ∃ c ∈ columns, name = c.name := by
  obtain ⟨c, hc, hRefers⟩ : ∃ c ∈ columns, (c.through distinctRows).RefersTo source name := by
    rcases List.mem_append.mp he with he | he
    · obtain ⟨c, hc, rfl⟩ := List.mem_map.mp he
      exact ⟨c, hc, hRefers⟩
    · obtain rfl := List.mem_singleton.mp he
      obtain ⟨term, hTerm, hRefers⟩ := refersTo_numberColumn.mp hRefers
      obtain ⟨c, hc, hExpr⟩ := mem_distinctOrder hOrder hTerm
      rw [hExpr] at hRefers
      exact ⟨c, hc, hRefers⟩
  obtain ⟨hSource, hName⟩ := refersTo_through.mp hRefers
  exact ⟨hSource, c, hc, hName⟩

end Paging

/-- A SELECT that is written out has found names for all of its columns.
Otherwise the draft would have stopped there. -/
theorem Statement.Writes.exists_outputNames {s : Statement} {c : Compiled} {sc : Scope}
    {outermost : Bool} {sel : Select} (hCompile : s.compile t mode = .ok c)
    (h : s.Writes t (.query sc outermost (.select sel))) (hDirect : sel.Direct t) :
    ∃ out, sel.outputNames t sc outermost = .ok out := by
  have hComplete := complete_of_compile hCompile
  obtain ⟨depth, hInfix⟩ := h.within hComplete
  rw [Node.draft_select] at hInfix
  obtain ⟨hs, hHeadings⟩ := Select.headings_of_complete hDirect (hComplete.of_part hInfix)
  exact ⟨hs.flatMap Heading.names, by rw [Select.outputNames, hHeadings]; rfl⟩

/-- Take any SELECT, at any place of a statement, whose page is picked by row
numbers. All names by which the page refers to the derived table inside, those
of the columns and that of the row number, are names under which the SELECT in
that table hands on its columns exactly if they are within the limit for names.
The same is true one level further in, where duplicates are removed before the
rows are numbered. -/
theorem Statement.compile_page_names (t : Target) (hNumbers : t.strategy = .rowNumber)
    (mode : ParameterMode) (s : Statement) (c : Compiled) (h : s.compile t mode = .ok c)
    (sc : Scope) (outermost : Bool) (sel : Select)
    (hWrites : s.Writes t (.query sc outermost (.select sel))) (hSkips : sel.skipsRows = true) :
    ∃ page inner out,
      s.Writes t (.query sc outermost (.select page)) ∧
      sel.paged t.profile.name = .ok page ∧
      page.sources = [.derived (.select inner) Paging.numberedRows false] ∧
      s.Writes t (.query sc.isolated false (.select inner)) ∧
      inner.outputNames t sc.isolated false = .ok out ∧
      (∀ e ∈ page.parts t, ∀ source name, e.RefersTo source name →
        (source = some (.derived Paging.numberedRows) ∨ source = none) ∧
        (name ∈ out ↔ name.length ≤ t.rules.maxLength)) ∧
      (sel.distinct = true → ∃ rows out',
        inner.sources = [.derived (.select rows) Paging.distinctRows false] ∧
        s.Writes t (.query sc.isolated.isolated false (.select rows)) ∧
        rows.outputNames t sc.isolated.isolated false = .ok out' ∧
        ∀ e ∈ inner.parts t, ∀ source name, e.RefersTo source name →
          source = some (.derived Paging.distinctRows) ∧
          (name ∈ out' ↔ name.length ≤ t.rules.maxLength)) := by
  have hComplete := complete_of_compile h
  obtain ⟨depth, hInfix⟩ := hWrites.within hComplete
  rw [Node.draft_select] at hInfix
  obtain ⟨page, _, hPage, -, -⟩ :=
    Select.exists_draft_page hSkips hNumbers (hComplete.of_part hInfix)
  have hPageWrites := hWrites.trans (.single (.page hSkips hNumbers hPage))
  obtain ⟨exprs, columns, number, inner, condition, -, -, -, hInner, hCondition, rfl⟩ :=
    Select.paged_new (Select.plain_of_skipsRows hSkips) hPage
  have hInnerWrites := hPageWrites.trans
    (Node.derived_of_sources (Select.direct_of_not_skipsRows rfl) rfl)
  obtain ⟨out, hOut⟩ := hInnerWrites.exists_outputNames h (Paging.direct_withNumbers hInner)
  refine ⟨_, inner, out, hPageWrites, hPage, rfl, hInnerWrites, hOut, ?_, ?_⟩
  · intro e he source name hRefers
    have hFits : (∃ c ∈ columns, name = c.name) ∨ name = number →
        (name ∈ out ↔ name.length ≤ t.rules.maxLength) := by
      intro hName
      obtain ⟨column, hColumn, hBase⟩ := Paging.exists_column_withNumbers hInner hName
      exact Select.mem_outputNames_iff hOut hColumn hBase
    rcases Select.mem_parts_of_derived rfl rfl rfl rfl he with he | he
    · obtain ⟨c, hc, rfl⟩ := List.mem_map.mp he
      obtain ⟨hSource, hName⟩ := Paging.refersTo_through.mp hRefers
      exact ⟨.inl hSource, hFits (.inl ⟨c, hc, hName⟩)⟩
    · obtain rfl := List.mem_singleton.mp he
      obtain ⟨hSource, hName⟩ := Paging.refersTo_filter hCondition hRefers
      exact ⟨.inr hSource, hFits (.inr hName)⟩
  · intro hDistinct
    rcases Paging.withNumbers_cases hInner with ⟨hPlain, -⟩ | ⟨-, order, hOrder, rfl⟩
    · rw [hDistinct] at hPlain
      cases hPlain
    · have hRowsWrites := hInnerWrites.trans
        (Node.derived_of_sources (Select.direct_of_not_skipsRows rfl) rfl)
      obtain ⟨out', hOut'⟩ :=
        hRowsWrites.exists_outputNames h (Select.direct_of_not_skipsRows rfl)
      refine ⟨_, out', rfl, hRowsWrites, hOut', ?_⟩
      intro e he source name hRefers
      rcases Select.mem_parts_of_derived rfl rfl rfl rfl he with he | he
      · obtain ⟨hSource, c, hc, rfl⟩ := Paging.refersTo_distinctRows hOrder he hRefers
        exact ⟨hSource, Select.mem_outputNames_iff hOut' (List.mem_map_of_mem hc) rfl⟩
      · cases he

namespace Sample

def customers : Table :=
  { name := "customers"
    columns := [Column.named "id" (.of .integer), Column.named "customer_name" (.of .integer)] }

/-- A server that takes names of at most twelve characters. -/
def narrow : Target :=
  ⟨SqlServer.profile .odbc false,
    SqlServer.defaults .odbc { hasWindowFunctions := true, maxIdentifierLength := 12 }⟩

def laterCustomers : Select :=
  { Select.ofColumns [columnOf (.plain customers) "customer_name"] with
    sources := [.table (.plain customers)]
    orderBy := [⟨columnOf (.plain customers) "id", none, none⟩]
    offset := some 1 }

/-- The label is cut to the limit where it is written, but not where the page
refers to it. -/
theorem compile_laterCustomers :
    ∃ c, (Statement.query (.select laterCustomers)).compile narrow .placeholders = .ok c ∧
      c.sql = "SELECT anon_1.customer_name AS cus_0f60800f " ++
        "FROM (SELECT customers.customer_name AS cus_0f60800f, " ++
        "ROW_NUMBER() OVER (ORDER BY customers.id) AS rn FROM customers) AS anon_1 WHERE rn > 1" :=
  exists_ok_of_toOption (f := Compiled.sql) (by decide +kernel)

end Sample

/-- The row number is found inside of the page, but the name of the customer is
not. -/
theorem Statement.compile_page_names_customers :
    ∃ c page inner out,
      (Statement.query (.select Sample.laterCustomers)).compile Sample.narrow .placeholders =
        .ok c ∧
      Sample.laterCustomers.paged Sample.narrow.profile.name = .ok page ∧
      page.columns = [.column ⟨some (.derived "anon_1"), "customer_name", .of .integer⟩] ∧
      page.sources = [.derived (.select inner) "anon_1" false] ∧
      inner.outputNames Sample.narrow Scope.outermost.isolated false = .ok out ∧
      "customer_name" ∉ out ∧ "rn" ∈ out := by
  obtain ⟨c, hCompile, -⟩ := Sample.compile_laterCustomers
  obtain ⟨page', hPage', hParts⟩ := exists_ok_of_toOption
    (x := Sample.laterCustomers.paged Sample.narrow.profile.name)
    (f := fun page => (page.columns, page.condition))
    (y := ([.column ⟨some (.derived "anon_1"), "customer_name", .of .integer⟩],
      some (.binary .gt (.column ⟨none, "rn", .of .bigInteger⟩) (.literal (.int 1)))))
    rfl
  obtain ⟨page, inner, out, -, hPage, hFrom, -, hOut, hNames, -⟩ :=
    compile_page_names Sample.narrow rfl .placeholders (.query (.select Sample.laterCustomers)) c
      hCompile .outermost true Sample.laterCustomers
      ⟨_, List.mem_singleton_self _, .refl⟩ rfl
  rw [hPage'] at hPage
  cases hPage
  obtain ⟨hColumns, hCondition⟩ := Prod.mk.inj hParts
  have hColumn := hNames (.column ⟨some (.derived "anon_1"), "customer_name", .of .integer⟩)
    (by simp [Select.parts, hColumns]) _ _ (Expr.refersTo_column.mpr ⟨rfl, rfl⟩)
  have hNumber := hNames
    (.binary .gt (.column ⟨none, "rn", .of .bigInteger⟩) (.literal (.int 1)))
    (by simp [Select.parts, hCondition]) _ _
    (Expr.refersTo_binary.mpr (.inl (Expr.refersTo_column.mpr ⟨rfl, rfl⟩)))
  refine ⟨c, page', inner, out, hCompile, hPage', hColumns, hFrom, hOut, ?_, ?_⟩
  · rw [hColumn.2]
    decide
  · rw [hNumber.2]
    decide

/-- The name of the customer is cut inside of the page, but the page refers to
it as a whole. -/
theorem Statement.compile_cut_page_name :
    ∃ c page inner,
      (Statement.query (.select Sample.laterCustomers)).compile Sample.narrow .placeholders =
        .ok c ∧
      c.sql = "SELECT anon_1.customer_name AS cus_0f60800f " ++
        "FROM (SELECT customers.customer_name AS cus_0f60800f, " ++
        "ROW_NUMBER() OVER (ORDER BY customers.id) AS rn FROM customers) AS anon_1 WHERE rn > 1" ∧
      Sample.laterCustomers.paged Sample.narrow.profile.name = .ok page ∧
      (∃ e ∈ page.columns, e.RefersTo (some (.derived Paging.numberedRows)) "customer_name") ∧
      page.sources = [.derived (.select inner) Paging.numberedRows false] ∧
      inner.outputNames Sample.narrow Scope.outermost.isolated false =
        .ok ["cus_0f60800f", "rn"] := by
  obtain ⟨c, hCompile, hText⟩ := Sample.compile_laterCustomers
  refine ⟨c, _, _, hCompile, hText, rfl,
    ⟨_, List.mem_cons_self .., Expr.refersTo_column.mpr ⟨rfl, rfl⟩⟩, rfl, ?_⟩
  decide +kernel

end SqlStatements
