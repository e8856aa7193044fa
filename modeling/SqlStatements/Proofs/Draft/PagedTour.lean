import SqlStatements.Proofs.Draft.Paging
import SqlStatements.Proofs.Tree.Tour

/-! A tour through a page by row numbers. Paging moves the clauses of a SELECT: into the rows that
are numbered, or around them. So a page is made of the parts of its SELECT, each as often as it
stands there, except for a few that are left out and a few that are added. Both are listed here,
and the balance is exact, whatever is counted. What is added is of few kinds; of all other kinds,
only the order of distinct rows is left out, which goes by columns that are selected anyway. -/
namespace SqlStatements

section Counts

variable {f : TreePart → Bool}

theorem exprsTour_eq_flatMap (es : List Expr) : exprsTour es = es.flatMap (·.tour) := by
  induction es with
  | nil => rfl
  | cons e es ih => rw [exprsTour, List.flatMap_cons, ih]

theorem exprsTour_append (es es' : List Expr) :
    exprsTour (es ++ es') = exprsTour es ++ exprsTour es' := by
  simp only [exprsTour_eq_flatMap, List.flatMap_append]

theorem ordersTour_eq_flatMap (terms : List OrderTerm) :
    ordersTour terms = terms.flatMap (·.expr.tour) := by
  induction terms with
  | nil => rfl
  | cons term terms ih =>
      obtain ⟨e, direction, nulls⟩ := term
      rw [ordersTour, List.flatMap_cons, ih]

/-- A tour through a SELECT, counted clause by clause. -/
theorem Select.countP_tour (s : Select) :
    s.tour.countP f =
      (if f (.visit (.select s)) then 1 else 0) + (ctesTour s.ctes).countP f +
        (exprsTour s.columns).countP f + (sourcesTour s.sources).countP f +
        (optionTour s.condition).countP f + (exprsTour s.groupBy).countP f +
        (optionTour s.having).countP f + (ordersTour s.orderBy).countP f := by
  obtain ⟨ctes, distinct, columns, sources, condition, groupBy, having, orderBy, _, _, _⟩ := s
  simp only [tour, List.countP_cons, List.countP_append]
  omega

end Counts

namespace Select

/-- The page of a SELECT, if it has one. It is the same in all dialects: their
name stands in errors only. -/
def page? (s : Select) : Option Select := (s.paged "").toOption

/-- Any dialect that pages the SELECT has this page. Dialects differ only in the
errors that they give. -/
theorem page?_of_paged {dialect : String} {s page : Select} (h : s.paged dialect = .ok page) :
    s.page? = some page := by
  have hSame : s.paged "" = .ok page := by
    rw [paged] at h ⊢
    split
    · rename_i hNumbered
      rwa [if_pos hNumbered] at h
    · rename_i hNumbered
      rw [if_neg hNumbered] at h
      split
      · rename_i hNone
        rw [if_pos hNone] at h
        cases h
      · rename_i hSome
        rwa [if_neg hSome] at h
  rw [page?, hSame]
  rfl

theorem paged_of_page? {s page : Select} (h : s.page? = some page) : s.paged "" = .ok page := by
  rw [page?] at h
  cases hPaged : s.paged "" with
  | error e =>
      rw [hPaged] at h
      cases h
  | ok other =>
      rw [hPaged] at h
      exact congrArg Except.ok (Option.some.inj h)

/-- A SELECT and the outermost node of each of its columns. -/
def heads (s : Select) : List TreePart :=
  .visit (.select s) :: s.columns.map fun e => .visit (.expr e)

/-- The SELECT in the derived table that another one selects from. -/
def inner? (s : Select) : Option Select :=
  match s.sources with
  | [.derived (.select inner) _ _] => some inner
  | _ => none

end Select

namespace Paging

/-- The columns that a star stands for. -/
def starParts (sources : List FromItem) : Expr → List TreePart
  | .star source => exprsTour (writtenOut sources (.star source))
  | _ => []

def starred : Expr → List TreePart
  | .star source => (Expr.star source).tour
  | _ => []

/-- A label that another one takes the place of. -/
def oldLabel : Expr → List TreePart
  | .label e name => [.visit (.expr (.label e name))]
  | _ => []

/-- What numbering the rows of a SELECT adds to them. Distinct rows are numbered
from outside. -/
def numbering (s inner : Select) : List TreePart :=
  if s.distinct then inner.shell ++ (inner.inner?.map Select.heads).getD []
  else inner.heads ++ [.visit (.expr (.rowNumber (some ⟨[], s.orderBy⟩)))]

end Paging

namespace Select

/-- All that the page of a SELECT has and the SELECT has not: the page around
its numbered rows, what numbering adds, a label for each column, and the columns
that stars stand for. -/
def additions (s : Select) : List TreePart :=
  match s.page? with
  | some page =>
    page.shell ++ ((page.inner?.map (Paging.numbering s)).getD [] ++
      s.columns.flatMap (Paging.starParts s.sources))
  | none => []

/-- All that a SELECT has and its page has not, the SELECT itself apart: stars,
labels of columns, and the order of distinct rows, which is put in terms of the
columns. -/
def omissions (s : Select) : List TreePart :=
  s.columns.flatMap Paging.starred ++ s.columns.flatMap Paging.oldLabel ++
    if s.distinct then ordersTour s.orderBy else []

end Select

section Paging

variable {f : TreePart → Bool}

namespace Paging

/-- Stars are replaced, and all else stays: what is added with the columns and
what is lost with the stars balance each other. -/
theorem countP_writtenOut (sources : List FromItem) (es : List Expr) :
    (exprsTour (es.flatMap (writtenOut sources))).countP f + (es.flatMap starred).countP f =
      (exprsTour es).countP f + (es.flatMap (starParts sources)).countP f := by
  have hOne : ∀ e, (exprsTour (writtenOut sources e)).countP f + (starred e).countP f =
      e.tour.countP f + (starParts sources e).countP f := by
    intro e
    cases e with
    | star source =>
        rw [starParts, starred]
        omega
    | _ => simp [writtenOut, starParts, starred, exprsTour]
  induction es with
  | nil => rfl
  | cons e es ih =>
      simp only [List.flatMap_cons, exprsTour_append, exprsTour, List.countP_append]
      have := hOne e
      omega

/-- What stars stand for has no labels. -/
theorem oldLabel_writtenOut (sources : List FromItem) (es : List Expr) :
    (es.flatMap (writtenOut sources)).flatMap oldLabel = es.flatMap oldLabel := by
  have hTable : ∀ ref, (tableColumns ref).flatMap oldLabel = [] := fun ref => by
    rw [tableColumns, List.flatMap_map]
    exact List.flatMap_eq_nil_iff.mpr fun _ _ => rfl
  have hOne : ∀ e, (writtenOut sources e).flatMap oldLabel = oldLabel e := by
    intro e
    unfold writtenOut
    split
    · rw [List.flatMap_assoc]
      exact List.flatMap_eq_nil_iff.mpr fun ref _ => hTable ref
    · exact hTable _
    · exact List.append_nil _
  rw [List.flatMap_assoc]
  simp only [hOne]

/-- Each column has one label in the end, which takes the place of its own label
if it has one. -/
theorem countP_labels (taken : List String) (unnamed : Nat) (es : List Expr) :
    (exprsTour ((labelled taken unnamed es).map Labelled.column)).countP f +
        (es.flatMap oldLabel).countP f =
      (exprsTour es).countP f +
        ((labelled taken unnamed es).map fun c => TreePart.visit (.expr c.column)).countP f := by
  fun_induction labelled taken unnamed es with
  | case1 => rfl
  | case2 | case3 | case4 =>
      simp_all only [List.map_cons, List.flatMap_cons, exprsTour, List.countP_append,
        List.countP_cons, Labelled.column, Expr.tour, oldLabel, List.countP_nil]
      omega

/-- The row number is met with its label, the function and then the order, whose
expressions are met here again. -/
theorem tour_numberColumn (orderBy : List OrderTerm) (name : String) :
    (numberColumn orderBy name).tour = .visit (.expr (numberColumn orderBy name)) ::
      .visit (.expr (.rowNumber (some ⟨[], orderBy⟩))) :: ordersTour orderBy := by
  simp [numberColumn, Expr.rowNumber, Expr.tour, exprsTour, windowTour]

/-- A SELECT over a derived table, with what is in the table. There is nothing
else on the tour but the shell. -/
theorem countP_over {s inner : Select} {name : String} {lateral : Bool}
    (hFrom : s.sources = [.derived (.select inner) name lateral]) (hGroups : s.groupBy = [])
    (hHaving : s.having = none) (hOrder : s.orderBy = []) :
    s.tour.countP f = s.shell.countP f + (ctesTour s.ctes).countP f + inner.tour.countP f := by
  rw [s.countP_tour, Select.shell, hFrom, hGroups, hHaving, hOrder]
  simp only [sourcesTour, FromItem.tour, Query.tour, exprsTour, optionTour, ordersTour,
    List.map_cons, List.map_nil, List.append_nil, List.countP_cons, List.countP_append,
    List.countP_nil]
  omega

/-- What is counted on a tour through the rows of a page, clause by clause.
Common table expressions, the order and the limits are not there. -/
theorem countP_tour_rows (s : Select) (columns : List Expr) :
    (rows s columns).tour.countP f =
      (if f (.visit (.select (rows s columns))) then 1 else 0) + (exprsTour columns).countP f +
        (sourcesTour s.sources).countP f + (optionTour s.condition).countP f +
        (exprsTour s.groupBy).countP f + (optionTour s.having).countP f := by
  rw [Select.countP_tour]
  simp only [rows, ctesTour, ordersTour, List.countP_nil]
  omega

/-- The rows are numbered with all that they were selected with. Only the order
of distinct rows is exchanged for one in terms of their columns. -/
theorem countP_numbered {s inner : Select} {columns : List Labelled} {name : String}
    (h : withNumbers s columns name = .ok inner) :
    inner.tour.countP f + (if s.distinct then ordersTour s.orderBy else []).countP f +
        (columns.map fun c => TreePart.visit (.expr c.column)).countP f =
      (exprsTour (columns.map Labelled.column)).countP f + (sourcesTour s.sources).countP f +
        (optionTour s.condition).countP f + (exprsTour s.groupBy).countP f +
        (optionTour s.having).countP f + (ordersTour s.orderBy).countP f +
        (numbering s inner).countP f := by
  rcases withNumbers_cases h with ⟨hDistinct, rfl⟩ | ⟨hDistinct, order, -, rfl⟩
  · rw [countP_tour_rows, exprsTour_append, exprsTour, exprsTour, List.append_nil,
      tour_numberColumn, numbering, hDistinct]
    simp only [Bool.false_eq_true, if_false, Select.heads, List.countP_append, List.countP_cons,
      List.countP_nil]
    simp only [rows, List.map_append, List.map_cons, List.map_nil, List.map_map, List.countP_append,
      List.countP_cons, List.countP_nil, Function.comp_def]
    omega
  · rw [countP_over rfl rfl rfl rfl, countP_tour_rows, numbering, hDistinct]
    simp only [if_true, Select.inner?, Option.map_some, Option.getD_some, Select.heads,
      List.countP_append, List.countP_cons]
    simp only [rows, Select.ofColumns, ctesTour, List.map_map, List.countP_nil, Function.comp_def]
    omega

end Paging

/-- The page of a SELECT, part by part: what is in the SELECT is in the page,
each part once, but for the omissions; and what else is in the page are the
additions. -/
theorem Select.countP_tour_paged {dialect : String} {s page : Select} (hPlain : s.numbered = false)
    (h : s.paged dialect = .ok page) :
    page.tour.countP f + (if f (.visit (.select s)) then 1 else 0) + s.omissions.countP f =
      s.tour.countP f + s.additions.countP f := by
  have hPage := page?_of_paged h
  obtain ⟨exprs, columns, name, inner, condition, hExprs, rfl, rfl, hInner, hCondition, rfl⟩ :=
    paged_new hPlain h
  have hRows := Paging.countP_numbered (f := f) hInner
  have hLabels := Paging.countP_labels (f := f) [] 0 exprs
  have hStars := Paging.countP_writtenOut (f := f) s.sources s.columns
  rw [← Paging.expanded_eq hExprs] at hStars
  have hOld := Paging.oldLabel_writtenOut s.sources s.columns
  rw [← Paging.expanded_eq hExprs] at hOld
  rw [hOld] at hLabels
  rw [Paging.countP_over rfl rfl rfl rfl, additions, hPage, omissions, s.countP_tour]
  simp only [inner?, Option.map_some, Option.getD_some, List.countP_append] at hRows ⊢
  omega

end Paging

section Added

/-- What paging may add to a walk: columns with their tables and labels, row
numbers and bounds on them, and SELECTs without an order or a limit. -/
def Visit.Added : Visit → Prop
  | .expr (.column _) | .expr (.star _) | .expr (.label _ _) => True
  | .expr (.literal value) => ∃ n : Nat, value = .int n
  | .expr (.call name _ _ _ _) => name = "ROW_NUMBER"
  | .expr (.binary op l r) =>
    op = .and ∨ ∃ (ref : ColumnRef) (n : Nat), l = .column ref ∧ r = .literal (.int n)
  | .expr _ | .bind _ => False
  | .table _ => True
  | .select s => s.isRestricted = false

/-- No SELECT that paging adds has an offset, so none of them has to be paged
again. -/
theorem Visit.Added.offset_eq_none {s : Select} (h : (Visit.select s).Added) : s.offset = none := by
  have hPlain : s.isRestricted = false := h
  rw [Select.isRestricted, Bool.or_eq_false_iff] at hPlain
  exact Option.isNone_iff_eq_none.mp (Option.isSome_eq_false_iff.mp hPlain.2)

/-- What paging may add to a tour: what it may add to a walk, and derived
tables. -/
def TreePart.Added : TreePart → Prop
  | .visit v => v.Added
  | .item (.derived _ _ _) => True
  | .item _ | .cte _ | .compound _ | .member _ => False

theorem added_source (source : Option ColumnSource) :
    ∀ part ∈ (ColumnSource.visits source).map TreePart.visit, part.Added := by
  refine List.forall_mem_map.mpr ?_
  unfold ColumnSource.visits
  split
  · exact List.forall_mem_singleton.mpr trivial
  · exact List.forall_mem_nil _

theorem Expr.added_column (ref : ColumnRef) : ∀ part ∈ (Expr.column ref).tour, part.Added := by
  rw [tour]
  exact List.forall_mem_cons.mpr ⟨trivial, added_source _⟩

theorem Expr.added_star (source : Option ColumnSource) :
    ∀ part ∈ (Expr.star source).tour, part.Added := by
  rw [tour]
  exact List.forall_mem_cons.mpr ⟨trivial, added_source _⟩

/-- A list of expressions adds only what its expressions add. -/
theorem added_exprsTour {es : List Expr} (h : ∀ e ∈ es, ∀ part ∈ e.tour, part.Added) :
    ∀ part ∈ exprsTour es, part.Added := by
  rw [exprsTour_eq_flatMap]
  exact List.forall_mem_flatMap.mpr h

namespace Paging

/-- A comparison of the row number with a bound adds nothing but itself, the
column and the bound. -/
theorem added_comparison (op : BinaryOp) (ref : ColumnRef) {n : UInt64} {value : Value}
    (h : bound n = .ok value) :
    ∀ part ∈ (Expr.binary op (.column ref) (.literal value)).tour, part.Added := by
  obtain rfl : value = .int n.toNat := by
    rw [bound] at h
    split at h <;> cases h
    rfl
  rw [Expr.tour, Expr.tour.eq_1]
  exact List.forall_mem_cons.mpr ⟨.inr ⟨ref, _, rfl, rfl⟩, List.forall_mem_append.mpr
    ⟨Expr.added_column _, List.forall_mem_singleton.mpr ⟨_, rfl⟩⟩⟩

/-- The condition on row numbers is all added, with one bound or with two. -/
theorem added_filter {name : String} {offset : UInt64} {limit : Option UInt64} {e : Expr}
    (h : filter name offset limit = .ok e) : ∀ part ∈ e.tour, part.Added := by
  obtain ⟨low, hLow, h⟩ := exists_ok_of_bind_ok h
  cases limit with
  | none =>
      cases h
      exact added_comparison _ _ hLow
  | some limit =>
      obtain ⟨high, hHigh, h⟩ := exists_ok_of_bind_ok h
      cases h
      rw [Expr.both, Expr.tour]
      exact List.forall_mem_cons.mpr ⟨.inl rfl, List.forall_mem_append.mpr
        ⟨added_comparison _ _ hLow, added_comparison _ _ hHigh⟩⟩

/-- Columns seen through a derived table are all added. They are qualified by
its name and bring no table along. -/
theorem added_through (columns : List Labelled) (source : String) :
    ∀ part ∈ exprsTour (columns.map (·.through source)), part.Added :=
  added_exprsTour (List.forall_mem_map.mpr fun _ _ => Expr.added_column _)

/-- The order of distinct rows is in terms of their columns. -/
theorem added_distinctOrder {columns : List Labelled} {terms order : List OrderTerm}
    (h : distinctOrder columns terms = .ok order) : ∀ part ∈ ordersTour order, part.Added := by
  rw [ordersTour_eq_flatMap]
  refine List.forall_mem_flatMap.mpr fun term hTerm => ?_
  obtain ⟨c, -, he⟩ := mem_distinctOrder h hTerm
  rw [he]
  exact Expr.added_column _

theorem added_starParts (sources : List FromItem) (e : Expr) :
    ∀ part ∈ starParts sources e, part.Added := by
  have hTable : ∀ ref, ∀ e ∈ tableColumns ref, ∀ part ∈ e.tour, part.Added := fun ref =>
    List.forall_mem_map.mpr fun _ _ => Expr.added_column _
  cases e with
  | star source =>
      refine added_exprsTour ?_
      unfold writtenOut
      split
      · exact List.forall_mem_flatMap.mpr fun ref _ => hTable ref
      · exact hTable _
      · exact List.forall_mem_singleton.mpr (Expr.added_star _)
  | _ => exact List.forall_mem_nil _

/-- What numbering adds is added as well: the row number, and for distinct rows
the SELECT and the derived table around them. -/
theorem added_numbering {s inner : Select} {columns : List Labelled} {name : String}
    (h : withNumbers s columns name = .ok inner) : ∀ part ∈ numbering s inner, part.Added := by
  have hLabels : ∀ e ∈ columns.map Labelled.column, (TreePart.visit (.expr e)).Added :=
    List.forall_mem_map.mpr fun _ _ => trivial
  rcases withNumbers_cases h with ⟨hDistinct, rfl⟩ | ⟨hDistinct, order, hOrder, rfl⟩
  · rw [numbering, hDistinct, if_neg Bool.false_ne_true]
    refine List.forall_mem_append.mpr ⟨List.forall_mem_cons.mpr ⟨rfl, List.forall_mem_map.mpr ?_⟩,
      List.forall_mem_singleton.mpr rfl⟩
    exact List.forall_mem_append.mpr ⟨hLabels, List.forall_mem_singleton.mpr trivial⟩
  · have hNumber : ∀ part ∈ (numberColumn order name).tour, part.Added := by
      rw [tour_numberColumn]
      exact List.forall_mem_cons.mpr
        ⟨trivial, List.forall_mem_cons.mpr ⟨rfl, added_distinctOrder hOrder⟩⟩
    rw [numbering, if_pos hDistinct]
    refine List.forall_mem_append.mpr ⟨List.forall_mem_cons.mpr ⟨rfl, ?_⟩,
      List.forall_mem_cons.mpr ⟨rfl, List.forall_mem_map.mpr hLabels⟩⟩
    refine List.forall_mem_append.mpr ⟨List.forall_mem_append.mpr
      ⟨?_, List.forall_mem_singleton.mpr trivial⟩, List.forall_mem_nil _⟩
    show ∀ part ∈ exprsTour (_ ++ [_]), part.Added
    rw [exprsTour_append, exprsTour, exprsTour, List.append_nil]
    exact List.forall_mem_append.mpr ⟨added_through _ _, hNumber⟩

end Paging

namespace Select

variable {dialect : String} {s page : Select}

/-- All that a page adds is of a few kinds. No parameters are among them, and no
SELECTs that skip rows. -/
theorem added_additions (hPlain : s.numbered = false) : ∀ part ∈ s.additions, part.Added := by
  rw [additions]
  cases hPage : s.page? with
  | none => exact List.forall_mem_nil _
  | some page =>
      have hStars : ∀ part ∈ s.columns.flatMap (Paging.starParts s.sources), part.Added :=
        List.forall_mem_flatMap.mpr fun e _ => Paging.added_starParts _ e
      obtain ⟨exprs, columns, name, inner, condition, -, -, -, hInner, hCondition, rfl⟩ :=
        paged_new hPlain (paged_of_page? hPage)
      refine List.forall_mem_append.mpr ⟨List.forall_mem_cons.mpr ⟨rfl, ?_⟩,
        List.forall_mem_append.mpr ⟨Paging.added_numbering hInner, hStars⟩⟩
      exact List.forall_mem_append.mpr ⟨List.forall_mem_append.mpr
        ⟨Paging.added_through _ _, List.forall_mem_singleton.mpr trivial⟩,
        Paging.added_filter hCondition⟩

variable {f : TreePart → Bool} (hAdded : ∀ part : TreePart, part.Added → f part = false)

include hAdded

/-- What does not count anything added counts nothing where all is added. -/
theorem countP_of_added {ps : List TreePart} (h : ∀ part ∈ ps, part.Added) : ps.countP f = 0 := by
  refine List.countP_eq_zero.mpr fun part hPart => ?_
  rw [hAdded part (h part hPart)]
  exact Bool.false_ne_true

theorem countP_starred (es : List Expr) : (es.flatMap Paging.starred).countP f = 0 := by
  refine countP_of_added hAdded (List.forall_mem_flatMap.mpr fun e _ => ?_)
  cases e with
  | star source => exact Expr.added_star source
  | _ => exact List.forall_mem_nil _

theorem countP_oldLabel (es : List Expr) : (es.flatMap Paging.oldLabel).countP f = 0 := by
  refine countP_of_added hAdded (List.forall_mem_flatMap.mpr fun e _ => ?_)
  cases e with
  | label e name => exact List.forall_mem_singleton.mpr trivial
  | _ => exact List.forall_mem_nil _

/-- Of the kinds that paging does not add, a page has all that its SELECT has,
apart from the order of distinct rows. -/
theorem countP_paged (hPlain : s.numbered = false) (h : s.paged dialect = .ok page) :
    page.tour.countP f + (if f (.visit (.select s)) then 1 else 0) +
        (if s.distinct then ordersTour s.orderBy else []).countP f = s.tour.countP f := by
  have hBalance := countP_tour_paged (f := f) hPlain h
  rw [omissions, List.countP_append, List.countP_append, countP_starred hAdded,
    countP_oldLabel hAdded, countP_of_added hAdded (added_additions hPlain)] at hBalance
  omega

/-- Every column is there under its new label; the label is added, and an old
one is gone. -/
theorem countP_labelled {exprs : List Expr} (h : Paging.expanded s.sources s.columns = .ok exprs) :
    (exprsTour ((Paging.labelled [] 0 exprs).map Paging.Labelled.column)).countP f =
      (exprsTour s.columns).countP f := by
  have hLabels := Paging.countP_labels (f := f) [] 0 exprs
  have hStars := Paging.countP_writtenOut (f := f) s.sources s.columns
  have hNew : ((Paging.labelled [] 0 exprs).map fun c =>
      TreePart.visit (.expr c.column)).countP f = 0 :=
    countP_of_added hAdded (List.forall_mem_map.mpr fun _ _ => trivial)
  have hParts : (s.columns.flatMap (Paging.starParts s.sources)).countP f = 0 :=
    countP_of_added hAdded (List.forall_mem_flatMap.mpr fun e _ => Paging.added_starParts _ e)
  rw [countP_starred hAdded, ← Paging.expanded_eq h, hParts] at hStars
  rw [countP_oldLabel hAdded, hNew] at hLabels
  omega

/-- What is met in an order by selected columns is met in the columns, unless it
is a bare name. -/
theorem countP_pos_of_selected {columns : List Paging.Labelled} {terms : List OrderTerm}
    (h : Paging.Selected columns terms) (hSome : 0 < (ordersTour terms).countP f) :
    0 < (exprsTour (columns.map Paging.Labelled.column)).countP f := by
  obtain ⟨part, hPart, hf⟩ := List.countP_pos_iff.mp hSome
  rw [ordersTour_eq_flatMap] at hPart
  obtain ⟨term, hTerm, hPart⟩ := List.mem_flatMap.mp hPart
  obtain ⟨c, hc, hSame | hName⟩ := h term hTerm
  · refine List.countP_pos_iff.mpr ⟨part, ?_, hf⟩
    rw [exprsTour_eq_flatMap, List.mem_flatMap]
    refine ⟨c.column, List.mem_map_of_mem hc, ?_⟩
    rw [Paging.Labelled.column, Expr.tour, hSame]
    exact List.mem_cons_of_mem _ hPart
  · rw [Paging.isBareName.eq_def] at hName
    split at hName
    · rename_i n type hColumn
      rw [hColumn] at hPart
      rw [hAdded part (Expr.added_column _ part hPart)] at hf
      cases hf
    · cases hName

/-- What is not the SELECT itself, and of no kind that paging adds, is in its
page just if it is in the SELECT. -/
theorem exists_part_paged (hPlain : s.numbered = false) (h : s.paged dialect = .ok page)
    (hSelf : f (.visit (.select s)) = false) :
    (∃ part ∈ page.tour, f part = true) ↔ ∃ part ∈ s.tour, f part = true := by
  have hCount := countP_paged hAdded hPlain h
  have hClauses := s.countP_tour (f := f)
  rw [hSelf] at hCount hClauses
  obtain ⟨exprs, columns, name, inner, condition, hExprs, rfl, rfl, hInner, _⟩ := paged_new hPlain h
  have hOrder : s.distinct = true → 0 < (ordersTour s.orderBy).countP f →
      0 < (exprsTour s.columns).countP f := by
    intro hDistinct hSome
    rw [← countP_labelled hAdded hExprs]
    rcases Paging.withNumbers_outcome s (Paging.labelled [] 0 exprs) _ with ⟨hSelected, _⟩ |
      ⟨_, hError⟩
    · exact countP_pos_of_selected hAdded (hSelected hDistinct) hSome
    · cases hInner.symm.trans hError
  rw [← List.countP_pos_iff, ← List.countP_pos_iff]
  cases hDistinct : s.distinct with
  | false =>
      rw [hDistinct] at hCount
      simp only [Bool.false_eq_true, if_false, List.countP_nil] at hCount
      omega
  | true =>
      have hMoved := hOrder hDistinct
      rw [hDistinct, if_pos rfl] at hCount
      simp only [Bool.false_eq_true, if_false] at hCount hClauses
      omega

omit hAdded in
/-- What holds of all that is met in a SELECT holds of all that is met in its
page, if it holds of what paging adds. -/
theorem forall_paged {P : Visit → Prop} (hAdded : ∀ v : Visit, v.Added → P v)
    (h : s.paged dialect = .ok page) (hs : ∀ v ∈ s.visits true, P v) :
    ∀ v ∈ page.visits true, P v := by
  classical
  cases hNumbered : s.numbered with
  | true =>
      rw [paged, if_pos hNumbered] at h
      cases h
      exact hs
  | false =>
      have hCount := countP_paged (f := fun part => part.visit?.any fun v => !decide (P v))
        (fun part hPart => by
          cases part with
          | visit v => simpa [TreePart.visit?] using hAdded v hPart
          | item | cte | compound | member => rfl) hNumbered h
      have hNone : ∀ x : Select, (x.tour.countP fun part => part.visit?.any fun v => !decide (P v))
          = 0 ↔ ∀ v ∈ x.visits true, P v := by
        intro x
        rw [← x.walked_tour, walked, List.forall_mem_filterMap, List.countP_eq_zero]
        refine forall₂_congr fun part _ => ?_
        cases part.visit? <;> simp
      exact (hNone page).mp (by have := (hNone s).mpr hs; omega)

end Select

end Added

end SqlStatements
