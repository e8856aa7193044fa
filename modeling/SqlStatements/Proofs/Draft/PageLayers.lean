import Mathlib.Data.List.Forall2
import Mathlib.Data.List.Nodup
import SqlStatements.Proofs.Compiled.BindNames
import SqlStatements.Proofs.Draft.Paging

/-! A page in layers. The rows are selected in the innermost SELECT, numbered there or one
level further out, and picked by their numbers in the outermost one. Each layer hands its
columns on under names of their own, so every column of the page is known by one name. -/
namespace SqlStatements

namespace Paging

/-- An expression as a column of a derived table, where it has a name. -/
def reference (source : String) (e : Expr) (name : String) : Expr :=
  .column ⟨some (.derived source), name, e.type⟩

def relabelled (e : Expr) (name : String) : Expr := .label e.unlabelled name

/-- The labels of columns stand side by side with their expressions, so the
columns can be put together from the two. -/
theorem labelled_eq_zipWith (taken : List String) (unnamed : Nat) (es : List Expr) :
    labelled taken unnamed es =
      List.zipWith (fun e name => ⟨e.unlabelled, name⟩) es
        ((labelled taken unnamed es).map (·.name)) := by
  have hPair : labelled taken unnamed es = List.zipWith Labelled.mk
      ((labelled taken unnamed es).map (·.expr)) ((labelled taken unnamed es).map (·.name)) := by
    simp [List.zipWith_map, List.zipWith_self]
  rw [exprs_labelled, List.zipWith_map_left] at hPair
  exact hPair

/-- Every column keeps its place when it is given a label. -/
theorem length_labelled (taken : List String) (unnamed : Nat) (es : List Expr) :
    (labelled taken unnamed es).length = es.length := by
  simpa using congrArg List.length (exprs_labelled taken unnamed es)

/-- Labels differ from each other and from all names taken before, whatever the
columns were called. -/
theorem nodup_labelled (taken : List String) (unnamed : Nat) (es : List Expr) :
    ((labelled taken unnamed es).map (·.name)).Nodup ∧
      ∀ name ∈ (labelled taken unnamed es).map (·.name), name ∉ taken := by
  have hStep : ∀ (base : String) (taken names : List String),
      (names.Nodup ∧ ∀ n ∈ names, n ∉ freshName base taken :: taken) →
      (freshName base taken :: names).Nodup ∧ ∀ n ∈ freshName base taken :: names, n ∉ taken := by
    rintro base taken names ⟨hNodup, hApart⟩
    refine ⟨List.nodup_cons.mpr ⟨fun hMem => hApart _ hMem (List.mem_cons_self ..), hNodup⟩, ?_⟩
    refine List.forall_mem_cons.mpr ⟨freshName_not_mem base taken, fun n hn => ?_⟩
    exact (List.ne_and_not_mem_of_not_mem_cons (hApart n hn)).2
  fun_induction labelled taken unnamed es with
  | case1 => simp
  | case2 taken unnamed e base rest name ih => exact hStep base taken _ ih
  | case3 taken unnamed ref rest name ih => exact hStep ref.name taken _ ih
  | case4 taken unnamed e rest _ _ name ih => exact hStep _ taken _ ih

/-- A bare name is a column without a qualifier. Its type does not count. -/
theorem isBareName_iff {name : String} {e : Expr} :
    isBareName name e = true ↔ ∃ type, e = .column ⟨none, name, type⟩ := by
  constructor
  · intro h
    unfold isBareName at h
    split at h
    · exact ⟨_, by rw [beq_iff_eq.mp h]⟩
    · cases h
  · rintro ⟨type, rfl⟩
    exact beq_self_eq_true name

/-- An entry of an order, and the same entry in terms of distinct rows: it goes
by a column that stands for its expression, or has the bare name which the entry
gives. -/
def Ranks (columns : List Expr) (names : List String) (term term' : OrderTerm) : Prop :=
  ∃ (i : Nat) (e : Expr) (name : String), columns[i]? = some e ∧ names[i]? = some name ∧
    (e.unlabelled = term.expr ∨ ∃ type, term.expr = .column ⟨none, name, type⟩) ∧
    term' = { term with expr := reference distinctRows e name }

section Labels

variable {columns : List Expr} {names : List String} {labels : List Labelled}

/-- Labels that columns are given replace those that they have. -/
theorem map_column (h : labels = List.zipWith (fun e name => ⟨e.unlabelled, name⟩) columns names) :
    labels.map Labelled.column = List.zipWith relabelled columns names := by
  rw [h, List.map_zipWith]
  rfl

/-- From outside, a column is known by its new label, with the type that it has
inside. -/
theorem map_through (source : String)
    (h : labels = List.zipWith (fun e name => ⟨e.unlabelled, name⟩) columns names) :
    labels.map (·.through source) = List.zipWith (reference source) columns names := by
  rw [h, List.map_zipWith]
  simp only [Labelled.through, Expr.type_unlabelled]
  rfl

/-- The order of distinct rows ranks them by their columns, entry by entry and
in the same direction. -/
theorem ranks_distinctOrder {terms order : List OrderTerm}
    (h : labels = List.zipWith (fun e name => ⟨e.unlabelled, name⟩) columns names)
    (hOrder : distinctOrder labels terms = .ok order) :
    List.Forall₂ (Ranks columns names) terms order := by
  refine (forall₂_distinctOrder hOrder).imp ?_
  rintro term term' ⟨c, hc, hTerm, rfl⟩
  obtain ⟨i, hi⟩ := List.getElem?_of_mem hc
  rw [h, List.getElem?_zipWith_eq_some] at hi
  obtain ⟨e, name, he, hName, rfl⟩ := hi
  refine ⟨i, e, name, he, hName, hTerm.imp_right isBareName_iff.mp, ?_⟩
  rw [reference, ← e.type_unlabelled]
  rfl

/-- Columns that are put under names hand on these names. -/
theorem map_outputName? {put : Expr → String → Expr}
    (hPut : ∀ e name, (put e name).outputName? = some name)
    (hLength : names.length = columns.length) :
    (List.zipWith put columns names).map Expr.outputName? = names.map some := by
  rw [List.map_zipWith]
  refine List.ext_getElem (by simp [hLength]) ?_
  intro i _ _
  simp [hPut]

end Labels

end Paging

namespace Select

/-- The rows of a SELECT, without CTEs of its own and in no order, as many as
there are. -/
def bare (s : Select) : Select :=
  { s with ctes := [], orderBy := [], limit := none, offset := none }

/-- The rows of a page are selected as by the SELECT without its order and its
limits; everything else about it stays. -/
theorem rows_eq {s : Select} (hPlain : s.numbered = false) (columns : List Expr) :
    Paging.rows s columns = { s.bare with columns } := by
  rw [Paging.rows, bare, hPlain]

/-- A page is made of layers. The outermost SELECT keeps the CTEs and picks rows
by their number. It refers to the columns, with their stars written out, by
names that differ from each other and from that of the row number; the SELECT
inside hands on these names and the number, and nothing else. The innermost
SELECT is the given one, and only its columns are labelled anew. The rows are
numbered there in the given order, and where duplicates are removed one level
further out, in the same order in terms of the distinct rows. -/
theorem paged_layers (dialect : String) (s page : Select) (hPlain : s.numbered = false)
    (h : s.paged dialect = .ok page) :
    ∃ columns names number inner condition,
      columns = s.columns.flatMap (Paging.writtenOut s.sources) ∧
      names.length = columns.length ∧ (names ++ [number]).Nodup ∧
      page =
        { Select.ofColumns
            (List.zipWith (Paging.reference Paging.numberedRows) columns names) with
          ctes := s.ctes
          sources := [.derived (.select inner) Paging.numberedRows false]
          condition := some condition
          numbered := true } ∧
      Paging.filter number (s.offset.getD 0) s.limit = .ok condition ∧
      inner.columns.map Expr.outputName? = (names ++ [number]).map some ∧
      (s.distinct = false →
        inner =
          { s.bare with
            columns := List.zipWith Paging.relabelled columns names ++
              [Paging.numberColumn s.orderBy number] }) ∧
      (s.distinct = true → ∃ order,
        List.Forall₂ (Paging.Ranks columns names) s.orderBy order ∧
        inner =
          { Select.ofColumns
              (List.zipWith (Paging.reference Paging.distinctRows) columns names ++
                [Paging.numberColumn order number]) with
            sources := [.derived (.select { s.bare with
              columns := List.zipWith Paging.relabelled columns names })
              Paging.distinctRows false] }) := by
  obtain ⟨columns, labels, number, inner, condition, hColumns, rfl, hNumber, hInner, hFilter,
    rfl⟩ := paged_new hPlain h
  have hLength : ((Paging.labelled [] 0 columns).map (·.name)).length = columns.length := by
    rw [List.length_map, Paging.length_labelled]
  have hNodup := (Paging.nodup_labelled [] 0 columns).1
  have hLabels := Paging.labelled_eq_zipWith [] 0 columns
  generalize Paging.labelled [] 0 columns = labels at *
  generalize labels.map (·.name) = names at *
  have hDistinct : (names ++ [number]).Nodup := by
    rw [hNumber, List.nodup_append_comm]
    exact List.nodup_cons.mpr ⟨freshName_not_mem _ _, hNodup⟩
  rw [Paging.map_through _ hLabels]
  refine ⟨columns, names, number, inner, condition, Paging.expanded_eq hColumns, hLength,
    hDistinct, rfl, hFilter, ?_⟩
  rcases Paging.withNumbers_cases hInner with
    ⟨hPlainRows, rfl⟩ | ⟨hDistinctRows, order, hOrder, rfl⟩
  · rw [Paging.map_column hLabels, rows_eq hPlain]
    refine ⟨?_, fun _ => rfl, fun hOther => ?_⟩
    · rw [List.map_append, Paging.map_outputName? (fun _ _ => rfl) hLength, List.map_append]
      rfl
    · rw [hPlainRows] at hOther
      cases hOther
  · rw [Paging.map_through _ hLabels, Paging.map_column hLabels, rows_eq hPlain]
    refine ⟨?_, fun hOther => ?_, fun _ => ⟨order, Paging.ranks_distinctOrder hLabels hOrder, rfl⟩⟩
    · rw [ofColumns, List.map_append, Paging.map_outputName? (fun _ _ => rfl) hLength,
        List.map_append]
      rfl
    · rw [hDistinctRows] at hOther
      cases hOther

end Select

namespace Sample

/-- Distinct rows of accounts side by side, in the order of a balance that is
called `rn` and of an id. -/
def accountPairs : Select :=
  { Select.ofColumns
      [.star none,
        .label (.column ⟨some (.table (.plain accounts)), "balance", .of .integer⟩) "rn"] with
    distinct := true
    sources := [.table (.plain accounts), .table (.aliased accounts "a")]
    orderBy := [⟨.column ⟨none, "rn", .null⟩, some .desc, some .last⟩,
      ⟨.column ⟨some (.table (.plain accounts)), "id", .of .integer⟩, none, none⟩]
    limit := some 10
    offset := some 20 }

end Sample

/-- The columns of two tables, one of them called `rn`, next to the row
number. -/
theorem Select.paged_layers_accountPairs :
    ∃ page names number, Sample.accountPairs.paged "mssql" = .ok page ∧
      page.columns.map Expr.outputName? =
        [some "id", some "balance", some "id_1", some "balance_1", some "rn"] ∧
      names.map some = page.columns.map Expr.outputName? ∧ (names ++ [number]).Nodup ∧
      ∃ inner order, page.sources = [.derived (.select inner) Paging.numberedRows false] ∧
        inner.columns.map Expr.outputName? = (names ++ [number]).map some ∧
        inner.columns.getLast? = some (Paging.numberColumn order number) ∧
        List.Forall₂ (fun term term' => term'.direction = term.direction ∧
          term'.nulls = term.nulls) Sample.accountPairs.orderBy order := by
  obtain ⟨page, hPage, hNames⟩ := exists_ok_of_toOption
    (x := Sample.accountPairs.paged "mssql")
    (f := fun page => page.columns.map Expr.outputName?)
    (y := [some "id", some "balance", some "id_1", some "balance_1", some "rn"])
    (by decide)
  obtain ⟨columns, names, number, inner, condition, -, hLength, hNodup, hOuter, -, hInner, -,
    hDistinct⟩ := Select.paged_layers "mssql" Sample.accountPairs page rfl hPage
  obtain ⟨order, hOrder, hLayer⟩ := hDistinct rfl
  refine ⟨page, names, number, hPage, hNames, ?_, hNodup, inner, order, ?_, hInner, ?_, ?_⟩
  · rw [hOuter]
    exact (Paging.map_outputName? (fun _ _ => rfl) hLength).symm
  · rw [hOuter]
  · rw [hLayer]
    exact List.getLast?_concat ..
  · refine hOrder.imp ?_
    rintro term _ ⟨i, e, name, -, -, -, rfl⟩
    exact ⟨rfl, rfl⟩

end SqlStatements
