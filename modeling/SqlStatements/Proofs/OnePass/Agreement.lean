import SqlStatements.Proofs.Draft.Subqueries
import SqlStatements.Proofs.OnePass.Writes

/-! Expressions and queries are rendered as their drafts are written out. The proof goes along
the tree; for a SELECT in whose place its page is rendered it goes along the depth of pages. -/
namespace SqlStatements

namespace Select

/-- A page is marked as numbered, so it is not paged a second time. -/
theorem not_skipsRows_of_paged {dialect : String} {s page : Select} (hSkips : s.skipsRows = true)
    (h : s.paged dialect = .ok page) : page.skipsRows = false := by
  obtain ⟨_, _, _, _, _, _, _, _, _, _, rfl⟩ := paged_new (plain_of_skipsRows hSkips) h
  rfl

/-- A SELECT can be written as it stands unless it skips rows and the target has
one of the two strategies that do not write offsets as such. -/
theorem direct_of_avoids {t : Target} {s : Select}
    (hTop : ¬(s.skipsRows = true ∧ t.strategy = .top))
    (hNumbers : ¬(s.skipsRows = true ∧ t.strategy = .rowNumber)) : s.Direct t := by
  intro hSkips
  cases hStrategy : t.strategy with
  | limitOffset => rfl
  | top => exact absurd ⟨hSkips, hStrategy⟩ hTop
  | rowNumber => exact absurd ⟨hSkips, hStrategy⟩ hNumbers

/-- The columns of an outermost SELECT at a place. -/
def outputsAt (t : Target) (sc : Scope) (s : Select) : List OutputField :=
  if s.skipsRows ∧ t.strategy = .rowNumber then
    match s.paged t.profile.name with
    | .ok page => page.plainOutputsAt t sc
    | .error _ => []
  else s.plainOutputsAt t sc

end Select

/-- The columns of an outermost query at a place: those of its first member. -/
def Query.outputsAt (t : Target) (sc : Scope) : Query → List OutputField
  | .select s => s.outputsAt t sc
  | .compound _ [] _ _ _ => []
  | .compound _ (first :: _) _ _ _ =>
    if first.isRestricted then (first.wrappedAs 1).plainOutputsAt t sc else first.outputsAt t sc

def memberOutputsAt (t : Target) (sc : Scope) (number : Nat) : List Query → List OutputField
  | [] => []
  | first :: _ =>
    if first.isRestricted then (first.wrappedAs number).plainOutputsAt t sc
    else first.outputsAt t sc

/-- The result row of a compound query is that of its first member alone. -/
theorem Query.outputsAt_compound (t : Target) (sc : Scope) (op : SetOp) (members : List Query)
    (orderBy : List OrderTerm) (limit offset : Option UInt64) :
    (Query.compound op members orderBy limit offset).outputsAt t sc =
      memberOutputsAt t sc 1 members := by
  cases members with
  | nil => rw [Query.outputsAt, memberOutputsAt]
  | cons first rest => rw [Query.outputsAt, memberOutputsAt]

/-- At the place of a whole statement these are the columns of its result
row. -/
theorem Query.outputsAt_outermost (t : Target) : (q : Query) →
    q.outputsAt t .outermost = q.outputs t
  | .select s => by
      rw [Query.outputsAt, Query.outputs]
      rfl
  | .compound _ [] _ _ _ => by rw [Query.outputsAt, Query.outputs]
  | .compound _ (first :: _) _ _ _ => by
      rw [Query.outputsAt, Query.outputs, Query.outputsAt_outermost t first]
      rfl

/-- Pages are rendered as they are drafted. -/
def PageRenderer.Writes (pg : PageRenderer) (st : Setting) (pager : Pager) : Prop :=
  ∀ (p : Place) (outermost : Bool) (page : Select), p.setting = st → page.skipsRows = false →
    (pg outermost page).Writes p (pager p.scope outermost page)
      (if outermost then page.plainOutputsAt p.target p.scope else [])

/-- To bring the tables of items into sight is the same for the renderer as for
the draft. -/
theorem Place.scope_providing (p : Place) (items : List FromItem) :
    (p.providing (items.flatMap FromItem.tables)).scope = p.scope.providing items := by
  simp only [scope, providing, Scope.providing, List.flatten_append, List.flatten_cons,
    List.flatten_nil, List.append_nil]

/-- There is a draft for every heading. -/
theorem length_drafts_of_headings {t : Target} {pager : Pager} {sc : Scope}
    {rules : IdentifierRules} {star : Option ColumnSource → List Field} {exprs : List Expr}
    {hs : List Heading} (h : headings rules star [] exprs = .ok hs) :
    hs.length = (exprDrafts t pager sc exprs).length := by
  rw [length_headings h, length_exprDrafts]

section Tree

open Renderer

variable {st : Setting} {pg : PageRenderer} {pager : Pager}

/-- A SELECT that is rendered as it stands, clause by clause. Its tables are in
sight in all of them. -/
theorem Renderer.writes_select {t : Target} {sc : Scope} {s : Select} {p : Place}
    (outermost : Bool) {ctes columns items groupBy orderBy : List Renderer}
    {condition having : Option Renderer} (hPlace : p.scope = sc.providing (sc.sources s))
    (hCtes : WritesEach p ctes (cteDrafts t pager p.scope s.ctes))
    (hColumns : WritesEach p columns (exprDrafts t pager p.scope s.columns))
    (hItems : WritesEach p items (sourceDrafts t pager p.scope s.sources))
    (hCondition : WritesSome p condition (optionDraft t pager p.scope s.condition))
    (hGroups : WritesEach p groupBy (exprDrafts t pager p.scope s.groupBy))
    (hHaving : WritesSome p having (optionDraft t pager p.scope s.having))
    (hOrder : WritesEach p orderBy (orderDrafts t pager p.scope s.orderBy)) :
    (select t sc outermost s ctes columns items condition groupBy having orderBy).Writes p
      (s.headDraft t pager sc outermost ++ s.fromDraft t pager sc ++ s.tailDraft t pager sc)
      (if outermost then s.plainOutputsAt t sc else []) := by
  have hKeeps : ∀ limited ds, Draft.order t p.scope limited ds = Draft.order t sc limited ds := by
    intro limited ds
    rw [hPlace]
    rfl
  have hLast := hOrder.order t (s.limit.isSome || s.offset.isSome)
  rw [hKeeps] at hLast
  rw [hPlace] at hCtes hColumns hItems hCondition hGroups hHaving hLast
  have hSelected := hColumns.columns
    (fun hs (h : s.headings t sc outermost = .ok hs) => length_drafts_of_headings h) outermost
  have hHead := (hCtes.withClause t s.ctes).before ((writes_text p
    (if s.distinct then "SELECT DISTINCT " else "SELECT ")).before
      ((writes_pieces p (Draft.top t s.limit)).before hSelected))
  have hImplied : WritesEach p
      ((sc.implied s.columns s.condition).map impliedTable)
      ((sc.implied s.columns s.condition).map TableRef.draft) :=
    writesEach_map fun ref _ => (writes_pieces p ref.draft).traced _
  have hFrom : Writes (if (sc.sources s).isEmpty then pieces []
      else text " FROM " ++ sources t (sc.sources s) (if s.sources.isEmpty then
        (sc.implied s.columns s.condition).map impliedTable else items)) p
      (s.fromDraft t pager sc) [] := by
    rw [Select.fromDraft]
    split
    · exact writes_nothing p
    · refine (writes_text p _).append ?_
      split
      · exact hImplied.sources t _
      · exact hItems.sources t _
  have hTail := ((((hCondition.clause " WHERE ").append (hGroups.listClause " GROUP BY ")).append
    (hHaving.clause " HAVING ")).append hLast).append
      (writes_pieces p (if t.strategy = .limitOffset then Draft.limits s.limit s.offset else []))
  have hFields : (if outermost then headingFields (s.headings t sc outermost) else []) =
      if outermost then s.plainOutputsAt t sc else [] := by
    cases outermost <;> rfl
  rw [hFields] at hHead
  exact (hHead.after hFrom).after hTail

mutual

/-- Rendering an expression does what drafting it and writing out the draft do,
from any state. No columns are recorded. -/
theorem Expr.writes_render (hPages : pg.Writes st pager) : (e : Expr) → (p : Place) →
    p.setting = st → (e.render pg).Writes p (e.draft p.target pager p.scope) []
  | .literal v, p, _ => by
      rw [Expr.render, Expr.draft]
      exact (writes_forTarget (writes_pieces p _)).meet _
  | .column ref, p, _ => by
      rw [Expr.render, Expr.draft]
      exact (writes_pieces p _).meet _
  | .param bind, p, _ => by
      rw [Expr.render, Expr.draft]
      exact (writes_pieces p _).meet _
  | .binary op l r, p, hp => by
      rw [Expr.render, Expr.draft]
      exact (writes_forTarget ((l.writes_render hPages p hp).binary _ op l r
        (r.writes_render hPages p hp))).meet _
  | .unary op e, p, hp => by
      rw [Expr.render, Expr.draft]
      exact ((writes_text p _).append ((e.writes_render hPages p hp).parens _)).meet _
  | .call name args distinct w type, p, hp => by
      rw [Expr.render, Expr.draft]
      exact (writes_forTarget ((writes_exprRenderers hPages args p hp).call
        (writes_windowRenderer hPages w p hp) _ name distinct)).meet _
  | .caseOf o bs e, p, hp => by
      rw [Expr.render, Expr.draft]
      exact ((writes_text p _).append (((((writes_optionRenderer hPages o p hp).clause _).append
        (writes_branchesRenderer hPages bs p hp)).append
        ((writes_optionRenderer hPages e p hp).clause _)).append (writes_text p _))).meet _
  | .cast e type, p, hp => by
      rw [Expr.render, Expr.draft]
      exact (writes_forTarget ((writes_text p _).append
        ((e.writes_render hPages p hp).append (writes_text p _)))).meet _
  | .extract field e, p, hp => by
      rw [Expr.render, Expr.draft]
      exact (writes_forTarget ((e.writes_render hPages p hp).extract _ field)).meet _
  | .isNull e negated, p, hp => by
      rw [Expr.render, Expr.draft]
      exact ((e.writes_render hPages p hp).isNull e negated).meet _
  | .inList e items negated, p, hp => by
      rw [Expr.render, Expr.draft]
      exact ((e.writes_render hPages p hp).inList e (writes_exprRenderers hPages items p hp)
        negated).meet _
  | .inQuery e q negated, p, hp => by
      rw [Expr.render, Expr.draft]
      exact (((e.writes_render hPages p hp).operand e).append ((writes_text p _).append
        ((q.writes_render hPages p.nested false hp).nested.append (writes_text p _)))).meet _
  | .between e l h negated, p, hp => by
      rw [Expr.render, Expr.draft]
      exact (((e.writes_render hPages p hp).operand e).append ((writes_text p _).append
        (((l.writes_render hPages p hp).operand l).append ((writes_text p _).append
          ((h.writes_render hPages p hp).operand h))))).meet _
  | .existsIn q negated, p, hp => by
      rw [Expr.render, Expr.draft]
      exact ((writes_text p _).append
        ((q.writes_render hPages p.nested false hp).nested.append (writes_text p _))).meet _
  | .scalar q, p, hp => by
      rw [Expr.render, Expr.draft]
      exact ((writes_text p _).append
        ((q.writes_render hPages p.nested false hp).nested.append (writes_text p _))).meet _
  | .label e name, p, hp => by
      rw [Expr.render, Expr.draft]
      exact (e.writes_render hPages p hp).meet _
  | .star none, p, _ => by
      rw [Expr.render, Expr.draft]
      exact (writes_text p _).meet _
  | .star (some source), p, _ => by
      rw [Expr.render, Expr.draft]
      exact (writes_pieces p _).meet _
  | .tuple items, p, hp => by
      rw [Expr.render, Expr.draft]
      exact ((writes_text p _).append (((writes_exprRenderers hPages items p hp).join _).append
        (writes_text p _))).meet _
  | .raw sql, p, _ => by
      rw [Expr.render, Expr.draft]
      exact (writes_text p _).meet _

theorem writes_exprRenderers (hPages : pg.Writes st pager) : (es : List Expr) → (p : Place) →
    p.setting = st → WritesEach p (exprRenderers pg es) (exprDrafts p.target pager p.scope es)
  | [], _, _ => by
      rw [exprRenderers, exprDrafts]
      exact .nil
  | e :: es, p, hp => by
      rw [exprRenderers, exprDrafts]
      exact .cons (e.writes_render hPages p hp) (writes_exprRenderers hPages es p hp)

theorem writes_optionRenderer (hPages : pg.Writes st pager) : (o : Option Expr) → (p : Place) →
    p.setting = st → WritesSome p (optionRenderer pg o) (optionDraft p.target pager p.scope o)
  | none, _, _ => by
      rw [optionRenderer, optionDraft]
      exact .none
  | some e, p, hp => by
      rw [optionRenderer, optionDraft]
      exact .some (e.writes_render hPages p hp)

theorem writes_branchesRenderer (hPages : pg.Writes st pager) : (bs : List Branch) →
    (p : Place) → p.setting = st →
    (branchesRenderer pg bs).Writes p (branchDrafts p.target pager p.scope bs) []
  | [], p, _ => by
      rw [branchesRenderer, branchDrafts]
      exact writes_nothing p
  | ⟨c, r⟩ :: bs, p, hp => by
      rw [branchesRenderer, branchDrafts]
      exact (writes_text p _).append ((c.writes_render hPages p hp).append
        ((writes_text p _).append ((r.writes_render hPages p hp).append
          (writes_branchesRenderer hPages bs p hp))))

theorem writes_orderRenderers (hPages : pg.Writes st pager) : (terms : List OrderTerm) →
    (p : Place) → p.setting = st →
    WritesEach p (orderRenderers pg terms) (orderDrafts p.target pager p.scope terms)
  | [], _, _ => by
      rw [orderRenderers, orderDrafts]
      exact .nil
  | ⟨e, direction, nulls⟩ :: rest, p, hp => by
      rw [orderRenderers, orderDrafts]
      exact .cons ((e.writes_render hPages p hp).append (writes_text p _))
        (writes_orderRenderers hPages rest p hp)

theorem writes_windowRenderer (hPages : pg.Writes st pager) : (w : Option Window) →
    (p : Place) → p.setting = st →
    WritesSome p (windowRenderer pg w) (windowDraft p.target pager p.scope w)
  | none, _, _ => by
      rw [windowRenderer, windowDraft]
      exact .none
  | some ⟨partitionBy, orderBy⟩, p, hp => by
      rw [windowRenderer, windowDraft]
      exact .some ((writes_exprRenderers hPages partitionBy p hp).window
        (writes_orderRenderers hPages orderBy p hp))

theorem FromItem.writes_render (hPages : pg.Writes st pager) : (item : FromItem) →
    (p : Place) → p.setting = st →
    (item.render pg).Writes p (item.draft p.target pager p.scope) []
  | .table ref, p, _ => by
      rw [FromItem.render, FromItem.draft]
      exact (writes_pieces p _).meet _
  | .derived q name true, p, hp => by
      rw [FromItem.render, FromItem.draft]
      exact (writes_forTarget
        ((q.writes_render hPages p.nested false hp).nested.derived _ name _)).meet _
  | .derived q name false, p, hp => by
      rw [FromItem.render, FromItem.draft]
      exact (writes_forTarget
        ((q.writes_render hPages p.isolated.nested false hp).nested.isolated.derived _ name _)).meet
          _
  | .join kind l r condition, p, hp => by
      rw [FromItem.render, FromItem.draft]
      exact (writes_forTarget ((l.writes_render hPages p hp).joined (r.writes_render hPages p hp)
        (writes_optionRenderer hPages condition p hp) _ kind r)).meet _
  | .cte name, p, _ => by
      rw [FromItem.render, FromItem.draft]
      exact (writes_pieces p _).meet _

theorem writes_sourceRenderers (hPages : pg.Writes st pager) : (items : List FromItem) →
    (p : Place) → p.setting = st →
    WritesEach p (sourceRenderers pg items) (sourceDrafts p.target pager p.scope items)
  | [], _, _ => by
      rw [sourceRenderers, sourceDrafts]
      exact .nil
  | item :: items, p, hp => by
      rw [sourceRenderers, sourceDrafts]
      exact .cons (item.writes_render hPages p hp) (writes_sourceRenderers hPages items p hp)

theorem writes_cteRenderers (hPages : pg.Writes st pager) : (ctes : List Cte) → (p : Place) →
    p.setting = st → WritesEach p (cteRenderers pg ctes) (cteDrafts p.target pager p.scope ctes)
  | [], _, _ => by
      rw [cteRenderers, cteDrafts]
      exact .nil
  | ⟨name, columns, q, _⟩ :: rest, p, hp => by
      rw [cteRenderers, cteDrafts]
      exact .cons (((q.writes_render hPages p.nested false hp).nested.cte name columns).meet _)
        (writes_cteRenderers hPages rest p hp)

/-- The same for a SELECT, whose columns are recorded if it is the outermost
query. Its page is rendered in its place where that is needed. -/
theorem Select.writes_render (hPages : pg.Writes st pager) : (s : Select) → (p : Place) →
    (outermost : Bool) → p.setting = st →
    (s.render pg outermost).Writes p (s.draft p.target pager p.scope outermost)
      (if outermost then s.outputsAt p.target p.scope else [])
  | ⟨ctes, distinct, columns, sources, condition, groupBy, having, orderBy, limit, offset,
      numbered⟩, p, outermost, hp => by
      rw [Select.render]
      refine (writes_forTarget ?_).meet _
      generalize hSelect : (⟨ctes, distinct, columns, sources, condition, groupBy, having, orderBy,
        limit, offset, numbered⟩ : Select) = s
      split
      · rename_i hTop
        rw [← hSelect] at hTop ⊢
        rw [Select.draft, if_pos hTop]
        exact writes_fail p _ _
      rename_i hTop
      split
      · rename_i hSkips
        rw [Select.outputsAt, if_pos hSkips]
        cases hPage : s.paged p.target.profile.name with
        | error e =>
            rw [Select.draft_unpaged hSkips.1 hSkips.2 hPage]
            exact writes_fail p _ _
        | ok page =>
            rw [Select.draft_paged hSkips.1 hSkips.2 hPage]
            have hPlain := Select.not_skipsRows_of_paged hSkips.1 hPage
            exact (hPages p outermost page hp hPlain).traced _
      rename_i hSkips
      have hDirect := Select.direct_of_avoids hTop hSkips
      rw [Select.outputsAt, if_neg hSkips]
      split
      · rename_i hColumns
        rw [Select.draft_stop_of_no_columns hDirect (by rw [← hSelect]; exact hColumns)]
        exact writes_fail p _ _
      rename_i hColumns
      rw [Select.draft_direct hDirect (by rw [← hSelect]; exact Bool.eq_false_iff.mpr hColumns)]
      refine writes_forScope (Writes.providing ?_)
      subst hSelect
      exact writes_select outermost (p.scope_providing _) (writes_cteRenderers hPages ctes _ hp)
        (writes_exprRenderers hPages columns _ hp) (writes_sourceRenderers hPages sources _ hp)
        (writes_optionRenderer hPages condition _ hp) (writes_exprRenderers hPages groupBy _ hp)
        (writes_optionRenderer hPages having _ hp) (writes_orderRenderers hPages orderBy _ hp)

/-- The same for a query. Members in derived tables are rendered at a place of
their own, which is left afterwards. -/
theorem Query.writes_render (hPages : pg.Writes st pager) : (q : Query) → (p : Place) →
    (outermost : Bool) → p.setting = st →
    (q.render pg outermost).Writes p (q.draft p.target pager p.scope outermost)
      (if outermost then q.outputsAt p.target p.scope else [])
  | .select s, p, outermost, hp => by
      rw [Query.render, Query.draft, Query.outputsAt]
      exact s.writes_render hPages p outermost hp
  | .compound op members orderBy limit offset, p, outermost, hp => by
      rw [Query.render, Query.draft, Query.outputsAt_compound]
      refine (writes_forTarget ?_).meet _
      split
      · exact writes_fail p _ _
      · exact (((writes_memberRenderers hPages members p outermost 1 hp).join _).after
          ((writes_orderRenderers hPages orderBy p hp).order _ _)).after (writes_pieces p _)

theorem writes_memberRenderers (hPages : pg.Writes st pager) : (qs : List Query) →
    (p : Place) → (outermost : Bool) → (number : Nat) → p.setting = st →
    WritesAll p (memberRenderers pg outermost number qs)
      (memberDrafts p.target pager p.scope outermost number qs)
      (if outermost then memberOutputsAt p.target p.scope number qs else [])
  | [], p, outermost, number, _ => by
      rw [memberRenderers, memberDrafts, memberOutputsAt, ite_self]
      exact .nil
  | q :: qs, p, outermost, number, hp => by
      have hRest := writes_memberRenderers hPages qs p false (number + 1) hp
      rw [memberRenderers, memberDrafts, memberOutputsAt,
        ← List.append_nil (if outermost then _ else _)]
      refine .cons ?_ hRest
      split
      · exact (writes_forTarget (writes_forScope (((writes_text p _).recording _).after
          ((q.writes_render hPages p.isolated.nested false hp).nested.isolated.append
            (writes_pieces p _))))).traced _
      · exact ((q.writes_render hPages p outermost hp).parens _).meet _

end

end Tree

/-- At every depth pages are rendered as they are drafted. Both stop at the same
depth with the same error. -/
theorem writes_pageRenderer (st : Setting) (depth : Nat) :
    (pageRenderer depth).Writes st (pager st.target depth) := by
  induction depth with
  | zero => exact fun p _ _ _ _ => Renderer.writes_fail p _ _
  | succ depth ih =>
      rintro p outermost page rfl hPage
      have hWrites := page.writes_render ih p outermost rfl
      have hPlain : ¬(page.skipsRows = true ∧ p.target.strategy = .rowNumber) := by
        rw [hPage]
        exact fun h => Bool.false_ne_true h.1
      rw [Select.outputsAt, if_neg hPlain] at hWrites
      exact hWrites

section Statements

open Renderer

variable {st : Setting} {pg : PageRenderer} {pager : Pager} {p : Place}

/-- The values that are handed back make up the result row of a change. -/
theorem writes_returningRenderer (hPages : pg.Writes st pager) (hp : p.setting = st)
    (hPlace : p.scope = .outermost) (exprs : List Expr) :
    (returningRenderer pg exprs).Writes p (Draft.returning p.target pager exprs)
      (returnedOutputs p.target exprs) := by
  rw [returningRenderer, Draft.returning]
  split
  · rename_i hNone
    rw [List.isEmpty_iff.mp hNone]
    exact writes_nothing p
  · refine writes_forTarget ?_
    split
    · have hExprs := writes_exprRenderers hPages exprs p hp
      rw [hPlace] at hExprs
      exact (writes_text p _).before (hExprs.columns (fun _ => length_drafts_of_headings) true)
    · exact writes_fail p _ _

namespace Insert

/-- A cell is rendered as it is drafted, with its mark. Cells stand at the
outermost place only. -/
theorem writes_cellRenderer (hPages : pg.Writes st pager) (hp : p.setting = st)
    (hPlace : p.scope = .outermost) (generated : Bool) (e : Expr) :
    (cellRenderer pg generated e).Writes p (cellDraft p.target pager generated e) [] := by
  have hExpr := e.writes_render hPages p hp
  rw [hPlace] at hExpr
  cases e with
  | param bind =>
      rw [cellRenderer, cellDraft]
      exact (writes_pieces p _).meet _
  | _ => exact hExpr

theorem writes_cells (hPages : pg.Writes st pager) (hp : p.setting = st)
    (hPlace : p.scope = .outermost) (generated : Nat → Bool) (row : List Expr) :
    WritesEach p (row.mapIdx fun i e => cellRenderer pg (generated i) e)
      (row.mapIdx fun i e => cellDraft p.target pager (generated i) e) := by
  induction row generalizing generated with
  | nil => exact .nil
  | cons e row ih =>
      rw [List.mapIdx_cons, List.mapIdx_cons]
      exact .cons (writes_cellRenderer hPages hp hPlace _ e) (ih fun i => generated (i + 1))

/-- The rows of an insertion are rendered as they are drafted, also where too
many rows are a failure. -/
theorem writes_sourceRenderer (hPages : pg.Writes st pager) (hp : p.setting = st)
    (hPlace : p.scope = .outermost) (table : Table) (source : InsertSource) :
    (sourceRenderer pg table source).Writes p (sourceDraft p.target pager table source) [] := by
  cases source with
  | defaults =>
      rw [sourceRenderer, sourceDraft]
      refine writes_forTarget ?_
      split_ifs
      · exact writes_text p _
      · exact writes_text p _
      · exact writes_fail p _ _
  | rows columns cells =>
      rw [sourceRenderer, sourceDraft]
      refine writes_forTarget ?_
      have hRows : WritesEach p (cells.map (rowRenderer pg (generatedAt table columns)))
          (cells.map (rowDraft p.target pager (generatedAt table columns))) :=
        writesEach_map fun row _ => ((writes_cells hPages hp hPlace _ row).join _).parens true
      split
      · exact writes_fail p _ _
      · exact (writes_text p _).append ((writes_pieces p _).append
          ((writes_text p _).append (hRows.join _)))
  | query columns q =>
      have hQuery := q.writes_render hPages p false hp
      rw [hPlace] at hQuery
      rw [sourceRenderer, sourceDraft]
      exact (writes_text p _).append ((writes_pieces p _).append
        ((writes_text p _).append hQuery))

end Insert

theorem writes_condition (hPages : pg.Writes st pager) (hp : p.setting = st)
    (hPlace : p.scope = .outermost) (condition : Option Expr) :
    (clause " WHERE " (optionRenderer pg condition)).Writes p
      (Draft.clause " WHERE " (optionDraft p.target pager .outermost condition)) [] := by
  have hCondition := writes_optionRenderer hPages condition p hp
  rw [hPlace] at hCondition
  exact hCondition.clause _

/-- A statement is rendered as its draft is written out, and its result row is
recorded. -/
theorem Statement.writes_render (s : Statement) (p : Place) (hPlace : p.scope = .outermost) :
    (s.render (pageRenderer s.pages)).Writes p (s.draft p.target) (s.outputs p.target) := by
  have hPages := writes_pageRenderer p.setting s.pages
  cases s with
  | query q =>
      have hQuery := q.writes_render hPages p true rfl
      rw [hPlace, if_pos rfl, Query.outputsAt_outermost] at hQuery
      exact hQuery
  | insert s =>
      exact ((writes_pieces p _).before
        ((Insert.writes_sourceRenderer hPages rfl hPlace s.table s.source).before
          (writes_returningRenderer hPages rfl hPlace s.returning))).meet _
  | update s =>
      have hAssignments : WritesEach p
          (s.assignments.map fun a => pieces [.name a.1, .text " = "] ++
            a.2.render (pageRenderer (Statement.update s).pages))
          (s.assignments.map fun a => .name a.1 :: .text " = " ::
            a.2.draft p.target (SqlStatements.pager p.target (Statement.update s).pages)
              .outermost) := by
        refine writesEach_map fun a _ => ?_
        have hValue := a.2.writes_render hPages p rfl
        rw [hPlace] at hValue
        exact (writes_pieces p _).append hValue
      exact ((writes_pieces p _).before (((hAssignments.join _).append
        (writes_condition hPages rfl hPlace s.condition)).before
          (writes_returningRenderer hPages rfl hPlace s.returning))).meet _
  | delete s =>
      exact ((writes_pieces p _).before ((writes_condition hPages rfl hPlace s.condition).before
        (writes_returningRenderer hPages rfl hPlace s.returning))).meet _
  | createTable | createIndex | dropIndex =>
      rw [render, draft, outputs]
      exact (writes_forTarget (writes_pieces p _)).meet _
  | dropTable => exact (writes_pieces p _).meet _

end Statements

end SqlStatements
