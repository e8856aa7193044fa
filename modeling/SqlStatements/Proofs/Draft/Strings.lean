import SqlStatements.Proofs.Draft.Nodes
import SqlStatements.Proofs.Text.Lacks
import SqlStatements.Proofs.Tree.Strings

/-! The strings of the parts of a statement that are written out. A page picked by row
numbers has no strings but those of the query and names made from them, so a sign that the
strings of a statement lack is lacking in all its parts. -/
namespace SqlStatements

open Text

variable {c : Char}

section Lists

/-- The strings of a list are those of its members. The same is said of the
other lists of a tree below. -/
theorem lackAll_exprs {es : List Expr} :
    LackAll c (exprsStrings es) ↔ ∀ e ∈ es, LackAll c e.strings := by
  induction es with
  | nil => simp [exprsStrings]
  | cons e es ih => simp [exprsStrings, ih]

theorem lackAll_option {o : Option Expr} :
    LackAll c (optionStrings o) ↔ ∀ e ∈ o.toList, LackAll c e.strings := by
  cases o <;> simp [optionStrings]

theorem lackAll_branches {bs : List Branch} :
    LackAll c (branchesStrings bs) ↔
      ∀ e ∈ bs.flatMap (fun b => [b.condition, b.result]), LackAll c e.strings := by
  induction bs with
  | nil => simp [branchesStrings]
  | cons b bs ih =>
      obtain ⟨x, y⟩ := b
      simp [branchesStrings, or_imp, forall_and, ih]

theorem lackAll_orders {terms : List OrderTerm} :
    LackAll c (ordersStrings terms) ↔ ∀ e ∈ terms.map (·.expr), LackAll c e.strings := by
  induction terms with
  | nil => simp [ordersStrings]
  | cons term terms ih =>
      obtain ⟨e, direction, nulls⟩ := term
      simp only [ordersStrings, lackAll_append, List.map_cons, List.forall_mem_cons, ih]

theorem lackAll_window {w : Option Window} :
    LackAll c (windowStrings w) ↔
      ∀ e ∈ w.toList.flatMap Window.exprs, LackAll c e.strings := by
  cases w with
  | none => simp [windowStrings]
  | some w =>
      obtain ⟨partitionBy, orderBy⟩ := w
      simp only [windowStrings, Option.toList_some, List.flatMap_singleton, Window.exprs,
        List.forall_mem_append, lackAll_append, lackAll_exprs, lackAll_orders]

theorem lackAll_sources {items : List FromItem} :
    LackAll c (sourcesStrings items) ↔ ∀ item ∈ items, LackAll c item.strings := by
  induction items with
  | nil => simp [sourcesStrings]
  | cons item items ih =>
      simp only [sourcesStrings, lackAll_append, List.forall_mem_cons, ih]

theorem lackAll_ctes {ctes : List Cte} :
    LackAll c (ctesStrings ctes) ↔
      ∀ x ∈ ctes, Lacks c x.name ∧ LackAll c x.columns ∧ LackAll c x.query.strings := by
  induction ctes with
  | nil => simp [ctesStrings]
  | cons x ctes ih =>
      obtain ⟨name, columns, q, recursive⟩ := x
      simp only [ctesStrings, lackAll_cons, lackAll_append, List.forall_mem_cons, ih, and_assoc]

theorem lackAll_queries {qs : List Query} :
    LackAll c (queriesStrings qs) ↔ ∀ q ∈ qs, LackAll c q.strings := by
  induction qs with
  | nil => simp [queriesStrings]
  | cons q qs ih => simp only [queriesStrings, lackAll_append, List.forall_mem_cons, ih]

/-- The strings of a SELECT, clause by clause. -/
theorem Select.lackAll_strings {s : Select} :
    LackAll c s.strings ↔
      (∀ x ∈ s.ctes, Lacks c x.name ∧ LackAll c x.columns ∧ LackAll c x.query.strings) ∧
        (∀ e ∈ s.columns, LackAll c e.strings) ∧ (∀ item ∈ s.sources, LackAll c item.strings) ∧
        (∀ e ∈ s.condition.toList, LackAll c e.strings) ∧
        (∀ e ∈ s.groupBy, LackAll c e.strings) ∧ (∀ e ∈ s.having.toList, LackAll c e.strings) ∧
        ∀ e ∈ s.orderBy.map (·.expr), LackAll c e.strings := by
  obtain ⟨ctes, distinct, columns, sources, condition, groupBy, having, orderBy, _, _, _⟩ := s
  simp only [strings, lackAll_append, lackAll_ctes, lackAll_exprs, lackAll_sources,
    lackAll_option, lackAll_orders, and_assoc]

end Lists

section Paging

theorem FromItem.lackAll_tables : (item : FromItem) → LackAll c item.strings →
    ∀ ref ∈ item.tables, LackAll c ref.strings
  | .table ref, h => by
      simpa [FromItem.tables, FromItem.strings] using h
  | .join _ l r _, h => by
      simp only [FromItem.strings, lackAll_append] at h
      simpa only [FromItem.tables, List.forall_mem_append] using
        ⟨FromItem.lackAll_tables l h.1.1, FromItem.lackAll_tables r h.1.2⟩
  | .derived _ _ _, _ | .cte _, _ => by simp [FromItem.tables]

/-- The name of an expression is one of its strings. -/
theorem Expr.lacks_outputName {e : Expr} {name : String} (h : LackAll c e.strings)
    (hName : e.outputName? = some name) : Lacks c name := by
  cases e <;> simp only [outputName?, reduceCtorEq, Option.some.injEq] at hName <;> subst name
  · simp only [strings, ColumnRef.strings, lackAll_cons] at h
    exact h.1
  · simp only [strings, lackAll_cons] at h
    exact h.1

namespace Paging

theorem lackAll_tableColumns {ref : TableRef} (h : LackAll c ref.strings) :
    ∀ e ∈ tableColumns ref, LackAll c e.strings := by
  have hTable : LackAll c ref.table.strings := by
    cases ref with
    | plain x => exact h
    | aliased x name => exact (lackAll_cons.mp h).2
  intro e he
  obtain ⟨column, hColumn, rfl⟩ := List.mem_map.mp he
  simp only [Table.strings, lackAll_append, lackAll_flatMap] at hTable
  have hName := (lackAll_cons.mp (hTable.1.2 column hColumn)).1
  simp [Expr.strings, ColumnRef.strings, ColumnSource.strings, hName, h]

/-- Stars bring the names of columns, which are among the strings of their
tables. So no sign comes in with them. -/
theorem lackAll_expanded {sources : List FromItem} {es out : List Expr}
    (h : expanded sources es = .ok out) (hSources : ∀ item ∈ sources, LackAll c item.strings)
    (hes : ∀ e ∈ es, LackAll c e.strings) : ∀ e ∈ out, LackAll c e.strings := by
  intro e he
  rcases mem_expanded h he with he | ⟨ref, hRef, he⟩
  · exact hes e he
  · refine lackAll_tableColumns ?_ e he
    rcases hRef with hRef | hRef
    · simpa [Expr.strings, ColumnSource.strings] using hes _ hRef
    · obtain ⟨item, hItem, hRef⟩ := List.mem_flatMap.mp hRef
      exact item.lackAll_tables (hSources item hItem) ref hRef

variable (hc : Sign c)

include hc

/-- Labels are made from names and numbers, and none of these brings the
sign. -/
theorem lackAll_labelled {taken : List String} {unnamed : Nat} {es : List Expr}
    (h : ∀ e ∈ es, LackAll c e.strings) :
    ∀ x ∈ labelled taken unnamed es, Lacks c x.name ∧ LackAll c x.expr.strings := by
  fun_induction labelled taken unnamed es with
  | case1 => exact List.forall_mem_nil _
  | case2 taken unnamed e base rest name ih =>
      rw [List.forall_mem_cons] at h ⊢
      rw [Expr.strings, lackAll_cons] at h
      exact ⟨⟨lacks_freshName hc h.1.1 taken, h.1.2⟩, ih h.2⟩
  | case3 taken unnamed ref rest name ih =>
      rw [List.forall_mem_cons] at h ⊢
      exact ⟨⟨lacks_freshName hc (Expr.lacks_outputName h.1 rfl) taken, h.1⟩, ih h.2⟩
  | case4 taken unnamed e rest _ _ name ih =>
      have hAnon : Plain ("anon_" ++ toString (unnamed + 1)) := by simp +decide
      rw [List.forall_mem_cons] at h ⊢
      exact ⟨⟨lacks_freshName hc (hAnon.lacks hc) taken, h.1⟩, ih h.2⟩

theorem lackAll_through {columns : List Labelled} {source : String}
    (h : ∀ x ∈ columns, Lacks c x.name ∧ LackAll c x.expr.strings) (hSource : Plain source) :
    ∀ e ∈ columns.map (·.through source), LackAll c e.strings := by
  refine List.forall_mem_map.mpr fun x hx => ?_
  simp [Labelled.through, Expr.strings, ColumnRef.strings, ColumnSource.strings, (h x hx).1,
    hSource.lacks hc]

theorem lackAll_numberColumn {orderBy : List OrderTerm} {name : String}
    (h : ∀ e ∈ orderBy.map (·.expr), LackAll c e.strings) (hName : Lacks c name) :
    LackAll c (numberColumn orderBy name).strings := by
  have hCall : Plain "ROW_NUMBER" := by decide
  simp [numberColumn, Expr.rowNumber, Expr.strings, exprsStrings, windowStrings,
    lackAll_orders.mpr h, hName, hCall.lacks hc]

omit hc in
theorem lackAll_rows {s : Select} {columns : List Expr} (h : LackAll c s.strings)
    (hColumns : ∀ e ∈ columns, LackAll c e.strings) : LackAll c (rows s columns).strings := by
  obtain ⟨-, -, hSources, hCondition, hGroup, hHaving, -⟩ := Select.lackAll_strings.mp h
  exact Select.lackAll_strings.mpr ⟨List.forall_mem_nil _, hColumns, hSources, hCondition,
    hGroup, hHaving, List.forall_mem_nil _⟩

omit hc in
theorem lackAll_filter {name : String} {offset : UInt64} {limit : Option UInt64} {e : Expr}
    (h : filter name offset limit = .ok e) (hName : Lacks c name) : LackAll c e.strings := by
  have hBound : ∀ n v, bound n = .ok v → v.strings = [] := by
    intro n v hv
    rw [bound] at hv
    split at hv
    · cases hv
      rfl
    · cases hv
  obtain ⟨low, hLow, h⟩ := exists_ok_of_bind_ok h
  cases limit with
  | none =>
      cases h
      simp [Expr.strings, ColumnRef.strings, hName, hBound _ _ hLow]
  | some limit =>
      obtain ⟨high, hHigh, h⟩ := exists_ok_of_bind_ok h
      cases h
      simp [Expr.strings, Expr.both, ColumnRef.strings, hName, hBound _ _ hLow, hBound _ _ hHigh]

/-- Numbered rows have no strings with the sign if the SELECT has none. Their
own names are plain. -/
theorem lackAll_withNumbers {s inner : Select} {columns : List Labelled} {name : String}
    (h : withNumbers s columns name = .ok inner) (hs : LackAll c s.strings)
    (hColumns : ∀ x ∈ columns, Lacks c x.name ∧ LackAll c x.expr.strings)
    (hName : Lacks c name) : LackAll c inner.strings := by
  have hLabels : ∀ e ∈ columns.map Labelled.column, LackAll c e.strings := by
    refine List.forall_mem_map.mpr fun x hx => ?_
    rw [Labelled.column, Expr.strings]
    exact lackAll_cons.mpr (hColumns x hx)
  rcases withNumbers_cases h with ⟨-, rfl⟩ | ⟨-, order, hOrder, rfl⟩
  · obtain ⟨-, -, -, -, -, -, hOrder⟩ := Select.lackAll_strings.mp hs
    exact lackAll_rows hs (List.forall_mem_append.mpr
      ⟨hLabels, List.forall_mem_singleton.mpr (lackAll_numberColumn hc hOrder hName)⟩)
  · have hThrough : ∀ e ∈ columns.map (·.through distinctRows), LackAll c e.strings :=
      lackAll_through hc hColumns (by decide)
    have hTerms : ∀ e ∈ order.map (·.expr), LackAll c e.strings := by
      refine List.forall_mem_map.mpr fun term hTerm => ?_
      obtain ⟨x, hx, he⟩ := mem_distinctOrder hOrder hTerm
      rw [he]
      exact hThrough _ (List.mem_map_of_mem hx)
    have hSource : LackAll c (FromItem.derived (.select (rows s (columns.map Labelled.column)))
        distinctRows false).strings := by
      rw [FromItem.strings, Query.strings]
      exact lackAll_cons.mpr ⟨Plain.lacks (by decide) hc, lackAll_rows hs hLabels⟩
    exact Select.lackAll_strings.mpr ⟨List.forall_mem_nil _, List.forall_mem_append.mpr
        ⟨hThrough, List.forall_mem_singleton.mpr (lackAll_numberColumn hc hTerms hName)⟩,
      List.forall_mem_singleton.mpr hSource, List.forall_mem_nil _, List.forall_mem_nil _,
      List.forall_mem_nil _, List.forall_mem_nil _⟩

end Paging

/-- Paging brings no sign along, since the names that it makes up are plain and
the others come from the SELECT. -/
theorem Select.lackAll_paged (hc : Sign c) {dialect : String} {s page : Select}
    (h : s.paged dialect = .ok page) (hs : LackAll c s.strings) : LackAll c page.strings := by
  rcases paged_cases h with rfl | ⟨exprs, columns, name, inner, condition, hExprs, rfl, rfl,
    hInner, hCondition, rfl⟩
  · exact hs
  · obtain ⟨hCtes, hColumns, hSources, -⟩ := lackAll_strings.mp hs
    have hLabelled : ∀ x ∈ Paging.labelled [] 0 exprs, Lacks c x.name ∧ LackAll c x.expr.strings :=
      Paging.lackAll_labelled hc (Paging.lackAll_expanded hExprs hSources hColumns)
    have hName : Lacks c
        (freshName Paging.rowNumberName ((Paging.labelled [] 0 exprs).map (·.name))) :=
      lacks_freshName hc (Plain.lacks (by decide) hc) _
    have hSource : LackAll c
        (FromItem.derived (.select inner) Paging.numberedRows false).strings := by
      rw [FromItem.strings, Query.strings]
      exact lackAll_cons.mpr ⟨Plain.lacks (by decide) hc,
        Paging.lackAll_withNumbers hc hInner hs hLabelled hName⟩
    exact lackAll_strings.mpr ⟨hCtes, Paging.lackAll_through hc hLabelled (by decide),
      List.forall_mem_singleton.mpr hSource,
      List.forall_mem_singleton.mpr (Paging.lackAll_filter hCondition hName),
      List.forall_mem_nil _, List.forall_mem_nil _, List.forall_mem_nil _⟩

end Paging

def Node.strings : Node → List String
  | .expr _ e => e.strings
  | .item _ source => source.strings
  | .query _ _ q => q.strings

section Parts

variable {t : Target}

/-- The strings of a part are among those of the expression it belongs to. -/
theorem Expr.lackAll_part {e part : Expr} (h : part ∈ e.parts t) (he : LackAll c e.strings) :
    LackAll c part.strings := by
  cases e with
  | literal | column | param | existsIn | scalar | star | raw => cases h
  | unary | isNull =>
      rw [List.mem_singleton.mp h]
      rw [strings] at he
      exact he
  | extract | label =>
      rw [List.mem_singleton.mp h]
      rw [strings] at he
      exact (lackAll_cons.mp he).2
  | cast | inQuery =>
      rw [List.mem_singleton.mp h]
      rw [strings] at he
      exact (lackAll_append.mp he).1
  | binary op l r =>
      rw [strings] at he
      obtain ⟨hl, hr⟩ := lackAll_append.mp he
      rcases List.mem_cons.mp h with rfl | h
      · exact hl
      · split at h
        · cases h
        · rw [List.mem_singleton.mp h]
          exact hr
  | call name args distinct w type =>
      rw [strings] at he
      obtain ⟨hArgs, hWindow⟩ := lackAll_append.mp (lackAll_cons.mp he).2
      rw [parts] at h
      split at h
      · cases h
      · rcases List.mem_append.mp h with h | h
        · exact lackAll_exprs.mp hArgs _ h
        · exact lackAll_window.mp hWindow _ h
  | caseOf o bs e =>
      rw [strings] at he
      obtain ⟨hFirst, hElse⟩ := lackAll_append.mp he
      obtain ⟨hOperand, hBranches⟩ := lackAll_append.mp hFirst
      rcases List.mem_append.mp h with h | h
      · rcases List.mem_append.mp h with h | h
        · exact lackAll_option.mp hOperand _ h
        · exact lackAll_branches.mp hBranches _ h
      · exact lackAll_option.mp hElse _ h
  | inList e items negated =>
      rw [strings] at he
      obtain ⟨hOperand, hItems⟩ := lackAll_append.mp he
      rw [parts] at h
      split at h
      · cases h
      · rcases List.mem_cons.mp h with rfl | h
        · exact hOperand
        · exact lackAll_exprs.mp hItems _ h
  | between e l u negated =>
      rw [strings] at he
      simp only [lackAll_append] at he
      simp only [parts, List.mem_cons, List.not_mem_nil, or_false] at h
      rcases h with rfl | rfl | rfl
      · exact he.1.1
      · exact he.1.2
      · exact he.2
  | tuple items =>
      rw [strings] at he
      exact lackAll_exprs.mp he _ h

theorem Expr.lackAll_query {e : Expr} {q : Query} (h : e.query? = some q)
    (he : LackAll c e.strings) : LackAll c q.strings := by
  cases e with
  | inQuery =>
      cases h
      rw [strings] at he
      exact (lackAll_append.mp he).2
  | existsIn | scalar =>
      cases h
      rw [strings] at he
      exact he
  | _ => cases h

theorem FromItem.lackAll_condition {e : Expr} : (item : FromItem) → e ∈ item.conditions →
    LackAll c item.strings → LackAll c e.strings
  | .join _ l r _, h, hItem => by
      rw [strings] at hItem
      simp only [lackAll_append] at hItem
      rcases List.mem_append.mp h with h | h
      · rcases List.mem_append.mp h with h | h
        · exact FromItem.lackAll_condition l h hItem.1.1
        · exact FromItem.lackAll_condition r h hItem.1.2
      · exact lackAll_option.mp hItem.2 _ h
  | .table _, h, _ | .derived _ _ _, h, _ | .cte _, h, _ => by cases h

/-- The strings of the expressions that are written out with a SELECT are among
its own. -/
theorem Select.lackAll_part {s : Select} {e : Expr} (h : e ∈ s.parts t)
    (hs : LackAll c s.strings) : LackAll c e.strings := by
  obtain ⟨-, hColumns, hSources, hCondition, hGroup, hHaving, hOrder⟩ := lackAll_strings.mp hs
  simp only [parts, List.mem_append] at h
  rcases h with ((((h | h) | h) | h) | h) | h
  · exact hColumns e h
  · obtain ⟨item, hItem, h⟩ := List.mem_flatMap.mp h
    exact FromItem.lackAll_condition item h (hSources item hItem)
  · exact hCondition e h
  · exact hGroup e h
  · exact hHaving e h
  · rw [keptOrder] at h
    split at h
    · exact hOrder e h
    · cases h

/-- The items of a FROM clause, given or implied. -/
theorem Scope.lackAll_source {sc : Scope} {s : Select} {item : FromItem}
    (h : item ∈ sc.sources s) (hs : LackAll c s.strings) : LackAll c item.strings := by
  obtain ⟨-, hColumns, hSources, hCondition, -⟩ := Select.lackAll_strings.mp hs
  rw [sources] at h
  split at h
  · obtain ⟨ref, hRef, rfl⟩ := List.mem_map.mp h
    have hMentioned := strings_mentionedTables (List.mem_of_mem_filter hRef)
    have hBoth := lackAll_exprs.mpr (List.forall_mem_append.mpr ⟨hColumns, hCondition⟩)
    rw [FromItem.strings]
    exact fun x hx => hBoth x (hMentioned hx)
  · exact hSources item h

/-- A sign that a node lacks is lacking in its parts, those it has only through
a page or through implied tables among them. -/
theorem Node.Part.lackAll {n m : Node} (hc : Sign c) (h : n.Part t m)
    (hn : LackAll c n.strings) : LackAll c m.strings := by
  cases h with
  | operand hPart => exact Expr.lackAll_part hPart hn
  | asked hQuery => exact Expr.lackAll_query hQuery hn
  | derived =>
      rw [strings, FromItem.strings] at hn
      exact (lackAll_cons.mp hn).2
  | left =>
      rw [strings, FromItem.strings] at hn
      exact (lackAll_append.mp (lackAll_append.mp hn).1).1
  | right =>
      rw [strings, FromItem.strings] at hn
      exact (lackAll_append.mp (lackAll_append.mp hn).1).2
  | condition =>
      rw [strings, FromItem.strings] at hn
      exact (lackAll_append.mp hn).2
  | page _ _ hPage =>
      rw [strings, Query.strings] at hn ⊢
      exact Select.lackAll_paged hc hPage hn
  | cte _ hCte =>
      rw [strings, Query.strings] at hn
      exact ((Select.lackAll_strings.mp hn).1 _ hCte).2.2
  | clause _ hPart =>
      rw [strings, Query.strings] at hn
      exact Select.lackAll_part hPart hn
  | source _ hItem =>
      rw [strings, Query.strings] at hn
      exact Scope.lackAll_source hItem hn
  | order _ _ hPart =>
      rw [strings, Query.strings] at hn
      exact (Select.lackAll_strings.mp hn).2.2.2.2.2.2 _ hPart
  | @member _ _ _ _ _ _ _ _ q hMember =>
      rw [strings, Query.strings] at hn
      have hq := lackAll_queries.mp (lackAll_append.mp hn).1 q (List.mem_of_getElem? hMember)
      split <;> exact hq
  | compoundOrder _ hPart =>
      rw [strings, Query.strings] at hn
      exact lackAll_orders.mp (lackAll_append.mp hn).2 _ hPart

end Parts

/-- A sign that a statement lacks is lacking in its largest parts. -/
theorem Statement.lackAll_root {s : Statement} {n : Node} (h : n ∈ s.roots)
    (hs : LackAll c s.strings) : LackAll c n.strings := by
  cases s with
  | query q =>
      rw [List.mem_singleton.mp h]
      exact hs
  | insert s =>
      obtain ⟨hFirst, hReturning⟩ := lackAll_append.mp hs
      obtain ⟨-, hSource⟩ := lackAll_append.mp hFirst
      rcases List.mem_append.mp h with h | h
      · obtain ⟨table, source, returning⟩ := s
        cases source with
        | defaults => cases h
        | query columns q =>
            rw [List.mem_singleton.mp h]
            exact (lackAll_append.mp hSource).2
        | rows columns cells =>
            obtain ⟨e, he, rfl⟩ := List.mem_map.mp h
            obtain ⟨row, hRow, he⟩ := List.mem_flatten.mp (List.mem_of_mem_filter he)
            have hCells := lackAll_flatMap.mp (lackAll_append.mp hSource).2
            exact lackAll_exprs.mp (hCells row hRow) e he
      · obtain ⟨e, he, rfl⟩ := List.mem_map.mp h
        exact lackAll_exprs.mp hReturning e he
  | update s =>
      simp only [strings, lackAll_append] at hs
      obtain ⟨⟨⟨-, hAssignments⟩, hCondition⟩, hReturning⟩ := hs
      obtain ⟨e, he, rfl⟩ := List.mem_map.mp h
      rcases List.mem_append.mp he with he | he
      · rcases List.mem_append.mp he with he | he
        · exact lackAll_exprs.mp hAssignments e he
        · exact lackAll_option.mp hCondition e he
      · exact lackAll_exprs.mp hReturning e he
  | delete s =>
      simp only [strings, lackAll_append] at hs
      obtain ⟨⟨-, hCondition⟩, hReturning⟩ := hs
      obtain ⟨e, he, rfl⟩ := List.mem_map.mp h
      rcases List.mem_append.mp he with he | he
      · exact lackAll_option.mp hCondition e he
      · exact lackAll_exprs.mp hReturning e he
  | createTable | dropTable | createIndex | dropIndex => cases h

/-- A sign that a statement lacks is lacking in all parts of it that are written
out. By induction on the way to the part. -/
theorem Statement.Writes.lackAll {t : Target} {s : Statement} {n : Node} (hc : Sign c)
    (h : s.Writes t n) (hs : LackAll c s.strings) : LackAll c n.strings := by
  obtain ⟨root, hRoot, hParts⟩ := h
  induction hParts with
  | refl => exact lackAll_root hRoot hs
  | tail _ hPart ih => exact hPart.lackAll hc ih

end SqlStatements
