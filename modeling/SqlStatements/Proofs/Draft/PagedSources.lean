import SqlStatements.Proofs.Draft.Paging
import SqlStatements.Proofs.Draft.Select
import SqlStatements.Proofs.Tree.Mentions

/-! The tables that are inferred for a SELECT without a FROM clause. They are
inferred where the SELECT is drafted, and a page that is picked by row numbers
drafts its rows in a derived table, out of sight of the tables around it and with
the order among the columns. So the two ways to skip rows do not always agree on
the tables, and this is when they do. -/
namespace SqlStatements

/-- Whether the columns or the condition of a SELECT mention the table. -/
def Select.Mentions (s : Select) (ref : TableRef) : Prop :=
  ∃ e ∈ s.columns ++ s.condition.toList, e.Mentions ref

def Select.OrdersBy (s : Select) (ref : TableRef) : Prop :=
  ∃ term ∈ s.orderBy, term.expr.Mentions ref

/-- The tables implied are those that columns or condition mention and nothing
around provides. Grouping and order imply none. -/
theorem Scope.mem_implied {sc : Scope} {columns : List Expr} {condition : Option Expr}
    {ref : TableRef} :
    ref ∈ sc.implied columns condition ↔
      (∃ e ∈ columns ++ condition.toList, e.Mentions ref) ∧ ref ∉ sc.visible := by
  rw [Scope.implied, List.mem_filter, mem_mentionedTables]
  simp

namespace Paging

variable {ref : TableRef}

/-- A walk through the row number meets what the rows are ordered by. -/
theorem mem_visits_numberColumn {orderBy : List OrderTerm} {name : String} {v : Visit} :
    v ∈ (numberColumn orderBy name).visits false ↔
      v = .expr (numberColumn orderBy name) ∨ v = .expr (.rowNumber (some ⟨[], orderBy⟩)) ∨
        ∃ term ∈ orderBy, v ∈ term.expr.visits false := by
  rw [← mem_ordersVisits, numberColumn, Expr.visits, Expr.rowNumber, Expr.visits, windowVisits]
  simp [exprsVisits]

/-- The row number mentions exactly the tables of the order it numbers by. -/
theorem mentions_numberColumn {orderBy : List OrderTerm} {name : String} :
    (numberColumn orderBy name).Mentions ref ↔
      ∃ term ∈ orderBy, term.expr.Mentions ref := by
  constructor
  · rintro ⟨v, hv, hRef⟩
    rcases mem_visits_numberColumn.mp hv with rfl | rfl | ⟨term, hTerm, hv⟩
    · cases hRef
    · cases hRef
    · exact ⟨term, hTerm, v, hv, hRef⟩
  · rintro ⟨term, hTerm, v, hv, hRef⟩
    exact ⟨v, mem_visits_numberColumn.mpr (.inr (.inr ⟨term, hTerm, hv⟩)), hRef⟩

/-- The columns that the star of a table stands for mention that table, unless
it has none. -/
theorem mentions_tableColumns {other : TableRef} (hColumns : other.table.columns ≠ []) :
    (∃ e ∈ tableColumns other, e.Mentions ref) ↔ ref = other := by
  simp only [tableColumns, List.mem_map]
  constructor
  · rintro ⟨_, ⟨c, _, rfl⟩, hMentions⟩
    cases Expr.mentions_column.mp hMentions
    rfl
  · rintro rfl
    obtain ⟨c, hc⟩ := List.exists_mem_of_ne_nil _ hColumns
    exact ⟨_, ⟨c, hc, rfl⟩, Expr.mentions_column.mpr rfl⟩

/-- The columns of the SELECT that the rows of a page come from. The row number
is one of them, unless duplicates have to be removed first. -/
def rowColumns (s : Select) (columns : List Labelled) (name : String) : List Expr :=
  columns.map Labelled.column ++ if s.distinct then [] else [numberColumn s.orderBy name]

/-- What a column is written out to where no FROM clause is given: the star of a
table to its columns, and a bare star to nothing. -/
def unstarred : Expr → List Expr
  | .star none => []
  | .star (some (.table ref)) => tableColumns ref
  | e => [e]

/-- Without a FROM clause the star of a table is written out to its columns, and
a bare star to nothing. -/
theorem expanded_nil {es out : List Expr} (h : expanded [] es = .ok out) :
    out = es.flatMap unstarred := by
  rw [expanded_eq h]
  refine List.flatMap_congr fun e _ => ?_
  unfold writtenOut
  split
  · rfl
  · rfl
  · rw [unstarred] <;> assumption

/-- Writing out the star of a table keeps the table, unless it has no columns. A
bare star mentions nothing before or after. -/
theorem mentions_unstarred {e : Expr}
    (hStar : ∀ other, e = .star (some (.table other)) → other.table.columns ≠ []) :
    (∃ e' ∈ unstarred e, e'.Mentions ref) ↔ e.Mentions ref := by
  unfold unstarred
  split
  · simp [Expr.mentions_star]
  · rename_i other
    rw [mentions_tableColumns (hStar other rfl), Expr.mentions_star, eq_comm]
    simp
  · simp

/-- A label mentions what stands under it, so it may be taken off. -/
theorem mentions_unlabelled {e : Expr} : e.unlabelled.Mentions ref ↔ e.Mentions ref := by
  unfold Expr.unlabelled
  split
  · rw [Expr.mentions_label]
  · rfl

/-- Labels change nothing about the tables that columns mention. -/
theorem mentions_labelled (taken : List String) (unnamed : Nat) (es : List Expr) :
    (∃ e ∈ (labelled taken unnamed es).map Labelled.column, e.Mentions ref) ↔
      ∃ e ∈ es, e.Mentions ref := by
  calc (∃ e ∈ (labelled taken unnamed es).map Labelled.column, e.Mentions ref)
    _ ↔ ∃ e ∈ (labelled taken unnamed es).map (·.expr), e.Mentions ref := by
        simp [Labelled.column, Expr.mentions_label]
    _ ↔ ∃ e ∈ es, e.Mentions ref := by
        simp [exprs_labelled, mentions_unlabelled]

/-- The rows of a page mention what its columns mention, once their stars are
written out, and what its order mentions, if the rows are numbered by it. -/
theorem mentions_rowColumns_unstarred {s : Select} {name : String} :
    (∃ e ∈ rowColumns s (labelled [] 0 (s.columns.flatMap unstarred)) name, e.Mentions ref) ↔
      (∃ e ∈ s.columns.flatMap unstarred, e.Mentions ref) ∨
        s.distinct = false ∧ s.OrdersBy ref := by
  simp only [rowColumns, List.mem_append, or_and_right, exists_or, mentions_labelled]
  cases s.distinct with
  | true => simp
  | false => simp [mentions_numberColumn, Select.OrdersBy]

/-- The rows of a page mention the tables of the columns, and those of the order
where the row number stands among them. -/
theorem mentions_rowColumns {s : Select} {name : String}
    (hStars : ∀ other, .star (some (.table other)) ∈ s.columns → other.table.columns ≠ []) :
    (∃ e ∈ rowColumns s (labelled [] 0 (s.columns.flatMap unstarred)) name, e.Mentions ref) ↔
      (∃ e ∈ s.columns, e.Mentions ref) ∨ s.distinct = false ∧ s.OrdersBy ref := by
  have hColumns : (∃ e ∈ s.columns.flatMap unstarred, e.Mentions ref) ↔
      ∃ e ∈ s.columns, e.Mentions ref := by
    simp only [List.mem_flatMap]
    constructor
    · rintro ⟨e', ⟨e, he, he'⟩, hMentions⟩
      refine ⟨e, he, (mentions_unstarred ?_).mp ⟨e', he', hMentions⟩⟩
      rintro other rfl
      exact hStars other he
    · rintro ⟨e, he, hMentions⟩
      obtain ⟨e', he', hMentions⟩ := (mentions_unstarred (by
        rintro other rfl
        exact hStars other he)).mpr hMentions
      exact ⟨e', ⟨e, he, he'⟩, hMentions⟩
  rw [mentions_rowColumns_unstarred, hColumns]

end Paging

namespace Select

variable {t : Target} {pager : Pager} {sc : Scope} {outermost : Bool} {s : Select}

/-- Tables stand next to each other in a FROM clause, since none of them could
be applied to the others. -/
theorem draft_sources_tables (t : Target) (refs : List TableRef) :
    Draft.sources t (refs.map .table) (refs.map TableRef.draft) =
      Draft.join ", " (refs.map TableRef.draft) := by
  induction refs with
  | nil => rfl
  | cons ref refs ih =>
      cases refs with
      | nil => simp [Draft.sources, Draft.join]
      | cons other refs =>
          calc Draft.sources t ((ref :: other :: refs).map .table)
                ((ref :: other :: refs).map TableRef.draft)
              = ref.draft ++ [.text ", "] ++ Draft.sources t ((other :: refs).map .table)
                  ((other :: refs).map TableRef.draft) := by
                simp [Draft.sources, FromItem.isLateral]
            _ = _ := by
                rw [ih]
                simp [Draft.join]

/-- A SELECT without a FROM clause is given the tables that are implied at its
place, as the items of a list. -/
theorem fromDraft_inferred (hFrom : s.sources = []) :
    s.fromDraft t pager sc =
      Draft.listClause " FROM " ((sc.implied s.columns s.condition).map TableRef.draft) := by
  have hSources : sc.sources s = (sc.implied s.columns s.condition).map .table :=
    if_pos (by rw [hFrom]; rfl)
  simp only [fromDraft, hSources, hFrom, List.isEmpty_nil, if_true, draft_sources_tables,
    Draft.listClause, List.isEmpty_map]

/-- The tables inferred for the rows of a page, where no other table is in
sight: those of the order count unless it is DISTINCT. -/
theorem mem_implied_rows {place : Scope} {name : String} {ref : TableRef}
    (hStars : ∀ other, .star (some (.table other)) ∈ s.columns → other.table.columns ≠ [])
    (hVisible : place.visible = []) :
    ref ∈ place.implied (Paging.rowColumns s
        (Paging.labelled [] 0 (s.columns.flatMap Paging.unstarred)) name) s.condition ↔
      s.Mentions ref ∨ s.distinct = false ∧ s.OrdersBy ref := by
  rw [Scope.mem_implied, hVisible, Mentions]
  simp only [List.mem_append, or_and_right, exists_or, Paging.mentions_rowColumns hStars]
  simp only [List.not_mem_nil, not_false_eq_true, and_true]
  rw [or_right_comm]

/-- When the tables of the two kinds of pages are the same. This compares which
tables they have, not their order. -/
theorem tables_agree_iff {offsetTables numberTables : List TableRef}
    (hOffset : ∀ ref, ref ∈ offsetTables ↔ s.Mentions ref ∧ ref ∉ sc.visible)
    (hNumber : ∀ ref, ref ∈ numberTables ↔
      s.Mentions ref ∨ s.distinct = false ∧ s.OrdersBy ref) :
    (∀ ref, ref ∈ numberTables ↔ ref ∈ offsetTables) ↔
      (∀ ref, s.Mentions ref → ref ∉ sc.visible) ∧
        (s.distinct = false → ∀ ref, s.OrdersBy ref → s.Mentions ref) := by
  simp only [hOffset, hNumber]
  constructor
  · intro hSame
    constructor
    · intro ref hMentions
      exact ((hSame ref).mp (.inl hMentions)).2
    · intro hDistinct ref hOrders
      exact ((hSame ref).mp (.inr ⟨hDistinct, hOrders⟩)).1
  · rintro ⟨hUnprovided, hOrder⟩ ref
    constructor
    · rintro (hMentions | ⟨hDistinct, hOrders⟩)
      · exact ⟨hMentions, hUnprovided ref hMentions⟩
      · have hMentions := hOrder hDistinct ref hOrders
        exact ⟨hMentions, hUnprovided ref hMentions⟩
    · rintro ⟨hMentions, _⟩
      exact .inl hMentions

/-- What a derived table selects is drafted out of sight of all other tables,
with its query as one piece. -/
theorem exists_draft_derived (pager : Pager) (sc : Scope) (outermost : Bool) {inner : Select}
    {name : String} (hDirect : s.Direct t) (hColumns : s.columns.isEmpty = false)
    (hFrom : s.sources = [.derived (.select inner) name false]) :
    ∃ before after, s.draft t pager sc outermost =
      before ++ inner.draft t pager ⟨sc.depth + 1, []⟩ false ++ after := by
  have hSources : sc.sources s = s.sources := if_neg (by rw [hFrom]; exact Bool.false_ne_true)
  refine ⟨s.headDraft t pager sc outermost ++ [.text " FROM ", .text "("],
    [.text ") AS ", .name name] ++ s.tailDraft t pager sc, ?_⟩
  rw [draft_direct hDirect hColumns, fromDraft, hSources, hFrom]
  simp [sourceDrafts, FromItem.draft, Query.draft, Draft.sources, Draft.derived, Scope.isolated,
    Scope.providing]

/-- The rows of a page are drafted inside of it, without any table in sight. -/
theorem exists_draft_rows (pager : Pager) (sc : Scope) (outermost : Bool) {page : Select}
    (hFrom : s.sources = []) (hPlain : s.numbered = false)
    (hPage : s.paged t.profile.name = .ok page) (hColumns : page.columns.isEmpty = false) :
    ∃ name rows place before after,
      rows = Paging.rowColumns s (Paging.labelled [] 0 (s.columns.flatMap Paging.unstarred)) name ∧
      s.columns.isEmpty = false ∧ rows.isEmpty = false ∧ place.visible = [] ∧
      page.draft t pager sc outermost =
        before ++ (Paging.rows s rows).draft t pager place false ++ after := by
  obtain ⟨exprs, _, name, inner, condition, hExprs, rfl, _, hInner, _, rfl⟩ :=
    paged_new hPlain hPage
  rw [hFrom] at hExprs
  obtain rfl := Paging.expanded_nil hExprs
  have hSome : Paging.labelled [] 0 (s.columns.flatMap Paging.unstarred) ≠ [] := by
    simpa [ofColumns] using hColumns
  have hOwn : s.columns.isEmpty = false := by
    rw [List.isEmpty_eq_false_iff]
    intro hNil
    rw [hNil] at hSome
    exact hSome rfl
  generalize Paging.labelled [] 0 (s.columns.flatMap Paging.unstarred) = columns at *
  have hRows : (Paging.rowColumns s columns name).isEmpty = false := by
    simp [Paging.rowColumns, hSome]
  obtain ⟨before, after, hOuter⟩ :=
    exists_draft_derived pager sc outermost (direct_of_not_skipsRows rfl) hColumns rfl
  rcases Paging.withNumbers_cases hInner with ⟨hDistinct, rfl⟩ | ⟨hDistinct, order, -, rfl⟩
  · have hRowColumns : Paging.rowColumns s columns name =
        columns.map Paging.Labelled.column ++ [Paging.numberColumn s.orderBy name] := by
      simp [Paging.rowColumns, hDistinct]
    refine ⟨name, _, ⟨sc.depth + 1, []⟩, before, after, rfl, hOwn, hRows, rfl, ?_⟩
    rw [hOuter, hRowColumns]
  · have hRowColumns : Paging.rowColumns s columns name =
        columns.map Paging.Labelled.column := by simp [Paging.rowColumns, hDistinct]
    -- Duplicates go one level further in, so the rows stand in two derived tables.
    obtain ⟨before', after', hMiddle⟩ := exists_draft_derived pager ⟨sc.depth + 1, []⟩ false
      (t := t) (s := { Select.ofColumns (columns.map (·.through Paging.distinctRows) ++
          [Paging.numberColumn order name]) with
        sources := [.derived (.select (Paging.rows s (columns.map Paging.Labelled.column)))
          Paging.distinctRows false] })
      (direct_of_not_skipsRows rfl) (by simp [ofColumns]) rfl
    refine ⟨name, _, ⟨sc.depth + 2, []⟩, before ++ before', after' ++ after, rfl, hOwn, hRows, rfl,
      ?_⟩
    rw [hOuter, hMiddle, hRowColumns]
    simp only [List.append_assoc]

end Select

end SqlStatements
