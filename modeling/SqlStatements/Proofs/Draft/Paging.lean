import Mathlib.Data.List.Forall2
import SqlStatements.Draft.Paging
import SqlStatements.Proofs.Ledger.Step

/-! What paging puts into a SELECT, case by case, and what it asks of one. Every
column of the rows to be numbered comes from the SELECT itself or stands for a
column of one of its tables. A star has to stand for known columns, and distinct
rows have to be ordered by selected ones. -/
namespace SqlStatements

namespace Paging

/-- The columns that a star stands for are columns of one table. -/
theorem mem_starColumns {source : Option ColumnSource} {sources : List FromItem}
    {columns : List Expr} {e : Expr} (h : starColumns source sources = .ok columns)
    (he : e ∈ columns) :
    ∃ ref, (source = some (.table ref) ∨ ref ∈ sources.flatMap FromItem.tables) ∧
      e ∈ tableColumns ref := by
  unfold starColumns at h
  split at h
  · cases h
  · rename_i ref
    cases h
    exact ⟨ref, .inl rfl, he⟩
  · split at h
    · cases h
    · cases h
      obtain ⟨ref, hRef, he⟩ := List.mem_flatMap.mp he
      exact ⟨ref, .inr hRef, he⟩

/-- A column after stars have been written out was there before, or is a column
of a table: one with a star of its own, or one of the FROM clause. -/
theorem mem_expanded {sources : List FromItem} {es out : List Expr} {e : Expr}
    (h : expanded sources es = .ok out) (he : e ∈ out) :
    e ∈ es ∨ ∃ ref, (.star (some (.table ref)) ∈ es ∨ ref ∈ sources.flatMap FromItem.tables) ∧
      e ∈ tableColumns ref := by
  fun_induction expanded sources es generalizing out with
  | case1 =>
      cases h
      cases he
  | case2 source rest ih =>
      obtain ⟨columns, hColumns, h⟩ := exists_ok_of_bind_ok h
      obtain ⟨more, hMore, h⟩ := exists_ok_of_bind_ok h
      cases h
      rcases List.mem_append.mp he with he | he
      · obtain ⟨ref, hRef, he⟩ := mem_starColumns hColumns he
        refine .inr ⟨ref, ?_, he⟩
        rcases hRef with rfl | hRef
        · exact .inl (List.mem_cons_self ..)
        · exact .inr hRef
      · rcases ih hMore he with he | ⟨ref, hRef, he⟩
        · exact .inl (List.mem_cons_of_mem _ he)
        · exact .inr ⟨ref, hRef.imp_left (List.mem_cons_of_mem _), he⟩
  | case3 first rest hStar ih =>
      obtain ⟨more, hMore, h⟩ := exists_ok_of_bind_ok h
      cases h
      rcases List.mem_cons.mp he with rfl | he
      · exact .inl (List.mem_cons_self ..)
      · rcases ih hMore he with he | ⟨ref, hRef, he⟩
        · exact .inl (List.mem_cons_of_mem _ he)
        · exact .inr ⟨ref, hRef.imp_left (List.mem_cons_of_mem _), he⟩

/-- What a selected expression stands for: a bare star for the columns of all
tables of the FROM clause, the star of a table for its columns, and anything
else for itself. -/
def writtenOut (sources : List FromItem) : Expr → List Expr
  | .star none => (sources.flatMap FromItem.tables).flatMap tableColumns
  | .star (some (.table ref)) => tableColumns ref
  | e => [e]

/-- If stars can be written out, each column becomes what it stands for, in its
place. -/
theorem expanded_eq {sources : List FromItem} {es out : List Expr}
    (h : expanded sources es = .ok out) : out = es.flatMap (writtenOut sources) := by
  fun_induction expanded sources es generalizing out with
  | case1 =>
      cases h
      rfl
  | case2 source rest ih =>
      obtain ⟨columns, hColumns, h⟩ := exists_ok_of_bind_ok h
      obtain ⟨more, hMore, h⟩ := exists_ok_of_bind_ok h
      cases h
      have hStar : columns = writtenOut sources (.star source) := by
        unfold starColumns at hColumns
        split at hColumns
        · cases hColumns
        · cases hColumns
          rfl
        · split at hColumns
          · cases hColumns
          · cases hColumns
            rfl
      rw [List.flatMap_cons, hStar, ih hMore]
  | case3 first rest hStar ih =>
      obtain ⟨more, hMore, h⟩ := exists_ok_of_bind_ok h
      cases h
      have hFirst : writtenOut sources first = [first] := by
        unfold writtenOut
        split
        · exact absurd rfl (hStar _)
        · exact absurd rfl (hStar _)
        · rfl
      rw [List.flatMap_cons, hFirst, ih hMore]
      rfl

end Paging

/-- An expression without its label, if it has one. -/
def Expr.unlabelled : Expr → Expr
  | .label e _ => e
  | e => e

theorem Expr.type_unlabelled (e : Expr) : e.unlabelled.type = e.type := by
  unfold unlabelled
  split
  · rw [Expr.type]
  · rfl

namespace Paging

/-- Labels do not change the expressions, and each column has one. An old label
is taken off. -/
theorem exprs_labelled (taken : List String) (unnamed : Nat) (es : List Expr) :
    (labelled taken unnamed es).map (·.expr) = es.map Expr.unlabelled := by
  fun_induction labelled taken unnamed es with
  | case1 => rfl
  | case2 taken unnamed e base rest name ih => exact congrArg (e :: ·) ih
  | case3 taken unnamed ref rest name ih => exact congrArg (Expr.column ref :: ·) ih
  | case4 taken unnamed e rest hLabel _ name ih =>
      have hPlain : e.unlabelled = e := by
        unfold Expr.unlabelled
        split
        · exact absurd rfl (hLabel _ _)
        · rfl
      rw [List.map_cons, List.map_cons, ih, hPlain]

/-- The order of distinct rows is the given one, entry by entry. Only the
expression is replaced: by the first column that it is, or that it names. -/
theorem forall₂_distinctOrder {columns : List Labelled} {terms order : List OrderTerm}
    (h : distinctOrder columns terms = .ok order) :
    List.Forall₂ (fun term term' => ∃ c ∈ columns,
      (c.expr = term.expr ∨ isBareName c.name term.expr = true) ∧
        term' = { term with expr := c.through distinctRows }) terms order := by
  induction terms generalizing order with
  | nil =>
      cases h
      exact .nil
  | cons first rest ih =>
      rw [distinctOrder] at h
      split at h
      · rename_i c hc
        obtain ⟨more, hMore, h⟩ := exists_ok_of_bind_ok h
        cases h
        refine .cons ⟨c, List.mem_of_find?_eq_some hc, ?_, rfl⟩ (ih hMore)
        simpa using List.find?_some hc
      · cases h

/-- The order of distinct rows is in terms of their columns. -/
theorem mem_distinctOrder {columns : List Labelled} {terms order : List OrderTerm}
    {term : OrderTerm} (h : distinctOrder columns terms = .ok order) (hTerm : term ∈ order) :
    ∃ c ∈ columns, term.expr = c.through distinctRows := by
  have hEach := forall₂_distinctOrder h
  obtain ⟨i, hi, rfl⟩ := List.getElem_of_mem hTerm
  obtain ⟨c, hc, -, hEntry⟩ := hEach.get (hEach.length_eq ▸ hi) hi
  exact ⟨c, hc, congrArg OrderTerm.expr hEntry⟩

/-- The two forms of numbered rows: the row number among the columns, or around
the distinct rows with an order in terms of their columns. -/
theorem withNumbers_cases {s inner : Select} {columns : List Labelled} {name : String}
    (h : withNumbers s columns name = .ok inner) :
    (s.distinct = false ∧
      inner = rows s (columns.map Labelled.column ++ [numberColumn s.orderBy name])) ∨
    s.distinct = true ∧ ∃ order, distinctOrder columns s.orderBy = .ok order ∧
      inner = { Select.ofColumns
          (columns.map (·.through distinctRows) ++ [numberColumn order name]) with
        sources :=
          [.derived (.select (rows s (columns.map Labelled.column))) distinctRows false] } := by
  rw [withNumbers] at h
  split at h
  · rename_i hDistinct
    obtain ⟨order, hOrder, h⟩ := exists_ok_of_bind_ok h
    cases h
    exact .inr ⟨hDistinct, order, hOrder, rfl⟩
  · rename_i hDistinct
    cases h
    exact .inl ⟨by simpa using hDistinct, rfl⟩

/-- Whether it is known what columns a star stands for. -/
def Known (sources : List FromItem) : Option ColumnSource → Prop
  | some (.derived _) => False
  | some (.table _) => True
  | none => ∀ item ∈ sources, item.hasDerived = false

/-- Whether an order goes by selected columns, or by their names. -/
def Selected (columns : List Labelled) (orderBy : List OrderTerm) : Prop :=
  ∀ term ∈ orderBy, ∃ c ∈ columns, c.expr = term.expr ∨ isBareName c.name term.expr = true

/-- A star is refused exactly if its columns are not known. -/
theorem starColumns_outcome (sources : List FromItem) (source : Option ColumnSource) :
    (Known sources source ∧ ∃ columns, starColumns source sources = .ok columns) ∨
    ¬Known sources source ∧ starColumns source sources = .error (.conflict .starOverDerived) := by
  unfold starColumns
  split
  · exact .inr ⟨id, rfl⟩
  · exact .inl ⟨trivial, _, rfl⟩
  · split
    · rename_i hDerived
      refine .inr ⟨fun hKnown => ?_, rfl⟩
      obtain ⟨item, hItem, hDerived⟩ := List.any_eq_true.mp hDerived
      rw [hKnown item hItem] at hDerived
      cases hDerived
    · rename_i hPlain
      exact .inl ⟨by simpa [Known] using hPlain, _, rfl⟩

/-- Writing out stars fails exactly if the columns of one of them are not known,
and always with the same error. -/
theorem expanded_outcome (sources : List FromItem) (es : List Expr) :
    ((∀ source, .star source ∈ es → Known sources source) ∧
      ∃ out, expanded sources es = .ok out) ∨
    (¬∀ source, .star source ∈ es → Known sources source) ∧
      expanded sources es = .error (.conflict .starOverDerived) := by
  fun_induction expanded sources es with
  | case1 => exact .inl ⟨fun source h => absurd h List.not_mem_nil, [], rfl⟩
  | case2 source rest ih =>
      rcases starColumns_outcome sources source with ⟨hKnown, columns, hColumns⟩ | ⟨hKnown, hError⟩
      · rcases ih with ⟨hRest, more, hMore⟩ | ⟨hRest, hError⟩
        · refine .inl ⟨fun other hOther => ?_, columns ++ more, by rw [hColumns, hMore]; rfl⟩
          rcases List.mem_cons.mp hOther with hOther | hOther
          · cases hOther
            exact hKnown
          · exact hRest other hOther
        · refine .inr ⟨fun hAll => hRest fun other hOther => ?_, by rw [hColumns, hError]; rfl⟩
          exact hAll other (List.mem_cons_of_mem _ hOther)
      · exact .inr ⟨fun hAll => hKnown (hAll source (List.mem_cons_self ..)), by rw [hError]; rfl⟩
  | case3 first rest hStar ih =>
      have hFirst : ∀ source, .star source ∈ first :: rest ↔ .star source ∈ rest := by
        intro source
        rw [List.mem_cons, or_iff_right]
        rintro rfl
        exact hStar source rfl
      simp only [hFirst]
      rcases ih with ⟨hRest, more, hMore⟩ | ⟨hRest, hError⟩
      · exact .inl ⟨hRest, first :: more, by rw [hMore]; rfl⟩
      · exact .inr ⟨hRest, by rw [hError]; rfl⟩

/-- An order is put in terms of distinct rows exactly if it goes by selected
columns or their names. -/
theorem distinctOrder_outcome (columns : List Labelled) (terms : List OrderTerm) :
    (Selected columns terms ∧ ∃ order, distinctOrder columns terms = .ok order) ∨
    ¬Selected columns terms ∧ distinctOrder columns terms = .error (.conflict .distinctOrder) := by
  induction terms with
  | nil => exact .inl ⟨fun term h => absurd h List.not_mem_nil, [], rfl⟩
  | cons first rest ih =>
      rw [distinctOrder]
      split
      · rename_i c hc
        have hFirst : c.expr = first.expr ∨ isBareName c.name first.expr = true := by
          simpa using List.find?_some hc
        have hMem := List.mem_of_find?_eq_some hc
        rcases ih with ⟨hRest, more, hMore⟩ | ⟨hRest, hError⟩
        · refine .inl ⟨?_, _, by rw [hMore]; rfl⟩
          exact List.forall_mem_cons.mpr ⟨⟨c, hMem, hFirst⟩, hRest⟩
        · exact .inr ⟨fun hAll => hRest (List.forall_mem_cons.mp hAll).2, by rw [hError]; rfl⟩
      · rename_i hNone
        refine .inr ⟨fun hAll => ?_, rfl⟩
        obtain ⟨c, hc, hFirst⟩ := hAll first (List.mem_cons_self ..)
        have hOther := List.find?_eq_none.mp hNone c hc
        simp only [Bool.or_eq_true, decide_eq_true_eq] at hOther
        exact hOther hFirst

/-- Numbering rows fails exactly for a DISTINCT SELECT whose order goes by
something else than its columns. -/
theorem withNumbers_outcome (s : Select) (columns : List Labelled) (number : String) :
    ((s.distinct = true → Selected columns s.orderBy) ∧
      ∃ inner, withNumbers s columns number = .ok inner) ∨
    (¬(s.distinct = true → Selected columns s.orderBy)) ∧
      withNumbers s columns number = .error (.conflict .distinctOrder) := by
  rw [withNumbers]
  split
  · rename_i hDistinct
    rcases distinctOrder_outcome columns s.orderBy with ⟨hSelected, order, hOrder⟩ |
      ⟨hSelected, hError⟩
    · exact .inl ⟨fun _ => hSelected, _, by rw [hOrder]; rfl⟩
    · exact .inr ⟨fun hAll => hSelected (hAll hDistinct), by rw [hError]; rfl⟩
  · rename_i hDistinct
    exact .inl ⟨fun h => absurd h hDistinct, _, rfl⟩

end Paging

/-- A SELECT that does not go by row numbers yet is put behind a filter on the
numbers of its rows. -/
theorem Select.paged_new {dialect : String} {s page : Select} (hPlain : s.numbered = false)
    (h : s.paged dialect = .ok page) :
    ∃ exprs columns name inner condition,
      Paging.expanded s.sources s.columns = .ok exprs ∧
      columns = Paging.labelled [] 0 exprs ∧
      name = freshName Paging.rowNumberName (columns.map (·.name)) ∧
      Paging.withNumbers s columns name = .ok inner ∧
      Paging.filter name (s.offset.getD 0) s.limit = .ok condition ∧
      page = { Select.ofColumns (columns.map (·.through Paging.numberedRows)) with
        ctes := s.ctes
        sources := [.derived (.select inner) Paging.numberedRows false]
        condition := some condition
        numbered := true } := by
  rw [paged, hPlain, if_neg Bool.false_ne_true] at h
  split at h
  · cases h
  · obtain ⟨exprs, hExprs, h⟩ := exists_ok_of_bind_ok h
    obtain ⟨inner, hInner, h⟩ := exists_ok_of_bind_ok h
    obtain ⟨condition, hCondition, h⟩ := exists_ok_of_bind_ok h
    cases h
    exact ⟨exprs, _, _, inner, condition, hExprs, rfl, rfl, hInner, hCondition, rfl⟩

/-- A SELECT picks its page by row numbers already, or it is put behind a filter
on the numbers of its rows. -/
theorem Select.paged_cases {dialect : String} {s page : Select} (h : s.paged dialect = .ok page) :
    page = s ∨ ∃ exprs columns name inner condition,
      Paging.expanded s.sources s.columns = .ok exprs ∧
      columns = Paging.labelled [] 0 exprs ∧
      name = freshName Paging.rowNumberName (columns.map (·.name)) ∧
      Paging.withNumbers s columns name = .ok inner ∧
      Paging.filter name (s.offset.getD 0) s.limit = .ok condition ∧
      page = { Select.ofColumns (columns.map (·.through Paging.numberedRows)) with
        ctes := s.ctes
        sources := [.derived (.select inner) Paging.numberedRows false]
        condition := some condition
        numbered := true } := by
  cases hNumbered : s.numbered with
  | true =>
      rw [paged, if_pos hNumbered] at h
      cases h
      exact .inl rfl
  | false => exact .inr (paged_new hNumbered h)

end SqlStatements
