import SqlStatements.Proofs.Draft.Params
import SqlStatements.Proofs.Draft.Subqueries

/-! The order of parameters. Where a target keeps every part of a tree and its place,
the parameters of a draft are those met on a walk through the tree, one by one. A
draft that stops has no text, so nothing is said about it. -/
namespace SqlStatements

/-- The target writes every part of a tree at its place: no function is a mere
word, queries are compared as they stand, nested queries keep their order, and
offsets are written as such. -/
structure Target.InOrder (t : Target) : Prop where
  functions : ∀ name word, t.profile.functions.lookup name ≠ some (.keyword word)
  comparison : t.caps.scalarComparison = true
  order : t.caps.subqueryOrder = true
  limits : t.strategy = .limitOffset

/-- Standard SQL writes everything at its place, as soon as two capabilities are
there which it has by default. -/
theorem Target.inOrder_standard {caps : Capabilities} (hComparison : caps.scalarComparison = true)
    (hOrder : caps.subqueryOrder = true) : Target.InOrder ⟨Profile.standard, caps⟩ where
  functions := fun _ _ => nofun
  comparison := hComparison
  order := hOrder
  limits := rfl

/-- No list is empty in which something is looked for. -/
def Visit.Filled (vs : List Visit) : Prop := ∀ e negated, .expr (.inList e [] negated) ∉ vs

namespace Visit

variable {vs ws : List Visit}

@[simp] theorem filled_append : Filled (vs ++ ws) ↔ Filled vs ∧ Filled ws := by
  simp only [Filled, List.mem_append, not_or, forall_and]

@[simp] theorem filled_expr {e : Expr} :
    Filled (.expr e :: vs) ↔ (∀ o negated, .inList o [] negated ≠ e) ∧ Filled vs := by
  simp only [Filled, List.mem_cons, Visit.expr.injEq, not_or, forall_and, ne_eq]

@[simp] theorem filled_table {t : Table} : Filled (.table t :: vs) ↔ Filled vs := by
  simp [Filled]

@[simp] theorem filled_select {s : Select} : Filled (.select s :: vs) ↔ Filled vs := by
  simp [Filled]

end Visit

/-- The draft stops somewhere, or it has the given parameters in their order. -/
def Draft.Carries (d : Draft) (ps : List BindParam) : Prop := d.Complete → d.params = ps

namespace Draft

variable {d l r : Draft} {ds : List Draft} {ps qs : List BindParam}

@[simp] theorem carries_nil : Carries [] [] := fun _ => rfl

theorem params_append (l r : Draft) : params (l ++ r) = params l ++ params r :=
  List.filterMap_append

/-- A draft that stops has all parameters one may ask for; otherwise those of
the two parts follow each other. -/
theorem Carries.append (hl : Carries l ps) (hr : Carries r qs) : Carries (l ++ r) (ps ++ qs) := by
  intro hComplete
  have hLeft := hl (hComplete.of_part (List.prefix_append _ _).isInfix)
  have hRight := hr (hComplete.of_part (List.suffix_append _ _).isInfix)
  rw [params_append, hLeft, hRight]

/-- Only parameters and reasons to stop matter for what a draft carries; all
other pieces are passed over. -/
theorem carries_cons {piece : Piece} (hParam : ∀ p generated, piece ≠ .param p generated)
    (hStop : ∀ e, piece ≠ .stop e) : Carries (piece :: d) ps ↔ Carries d ps := by
  have hComplete : Complete (piece :: d) ↔ Complete d := by
    simp only [Complete, List.mem_cons, not_or, forall_and]
    exact and_iff_right fun e he => hStop e he.symm
  have hParams : params (piece :: d) = params d := by
    cases piece with
    | param p generated => exact absurd rfl (hParam p generated)
    | text | name | table | source | qualifier | stop => rfl
  rw [Carries, Carries, hComplete, hParams]

@[simp] theorem carries_text {x : String} : Carries (.text x :: d) ps ↔ Carries d ps :=
  carries_cons (by simp) (by simp)

@[simp] theorem carries_name {x : String} : Carries (.name x :: d) ps ↔ Carries d ps :=
  carries_cons (by simp) (by simp)

@[simp] theorem carries_table {t : Table} : Carries (.table t :: d) ps ↔ Carries d ps :=
  carries_cons (by simp) (by simp)

@[simp] theorem carries_source {t : Table} : Carries (.source t :: d) ps ↔ Carries d ps :=
  carries_cons (by simp) (by simp)

@[simp] theorem carries_qualifier {t : Table} : Carries (.qualifier t :: d) ps ↔ Carries d ps :=
  carries_cons (by simp) (by simp)

theorem carries_stop (e : Error) (d : Draft) (ps : List BindParam) : Carries (.stop e :: d) ps :=
  fun hComplete => absurd (List.mem_cons_self ..) (hComplete e)

@[simp] theorem carries_param (p : BindParam) (generated : Bool) :
    Carries [.param p generated] [p] := fun _ => rfl

/-- A draft that ends in something without parameters. -/
theorem Carries.append_nil (hl : Carries l ps) (hr : Carries r []) : Carries (l ++ r) ps := by
  have hAll := hl.append hr
  rwa [List.append_nil] at hAll

theorem Carries.followed (h : Carries d ps) (x : String) : Carries (d ++ [.text x]) ps :=
  h.append_nil (carries_text.mpr carries_nil)

theorem params_join (separator : String) (ds : List Draft) :
    params (join separator ds) = params ds.flatten := by
  fun_induction join separator ds with
  | case1 => rfl
  | case2 d => rw [List.flatten_singleton]
  | case3 d ds _ ih =>
      rw [List.flatten_cons, params_append, params_append, ← ih]
      rfl

/-- A draft in which others stand, and that has the parameters of these in turn,
carries what they carry together. -/
theorem Carries.of_parts (h : Carries ds.flatten ps)
    (hParts : Complete d → ∀ part ∈ ds, part <:+: d) (hParams : params d = params ds.flatten) :
    Carries d ps := by
  intro hComplete
  rw [hParams]
  refine h ?_
  intro e hStop
  obtain ⟨part, hPart, hStop⟩ := List.mem_flatten.mp hStop
  exact hComplete.of_part (hParts hComplete part hPart) e hStop

/-- The text between drafts does not matter. -/
theorem carries_join {separator : String} (h : Carries ds.flatten ps) :
    Carries (join separator ds) ps :=
  h.of_parts (fun _ _ => infix_join) (params_join separator ds)

theorem Carries.parens (h : Carries d ps) (wanted : Bool) : Carries (d.parens wanted) ps := by
  cases wanted with
  | false => exact h
  | true => exact carries_text.mpr (h.followed ")")

theorem carries_clause (word : String) {o : Option Draft} (h : Carries o.toList.flatten ps) :
    Carries (clause word o) ps := by
  cases o with
  | none => exact h
  | some d =>
      rw [Option.toList_some, List.flatten_singleton] at h
      exact carries_text.mpr h

theorem carries_listClause (word : String) (h : Carries ds.flatten ps) :
    Carries (listClause word ds) ps := by
  cases ds with
  | nil => exact h
  | cons d ds => exact carries_text.mpr (carries_join h)

theorem carries_names (idents : List String) : Carries (names idents) [] := by
  refine carries_join ?_
  induction idents with
  | nil => exact carries_nil
  | cons ident idents ih => exact carries_name.mpr ih

theorem carries_ofExcept (x : Except Error String) : Carries (ofExcept x) [] := by
  cases x with
  | ok text => exact carries_text.mpr carries_nil
  | error e => exact carries_stop e [] []

theorem carries_columnSource (source : ColumnSource) : Carries source.draft [] := by
  cases source with
  | table ref => cases ref <;> simp [ColumnSource.draft]
  | derived name => simp [ColumnSource.draft]

theorem carries_column (ref : ColumnRef) : Carries ref.draft [] := by
  rw [ColumnRef.draft]
  split
  · exact (carries_columnSource _).append_nil (by simp)
  · simp

theorem carries_tableRef (ref : TableRef) : Carries ref.draft [] := by
  cases ref <;> simp [TableRef.draft]

/-- An operand of a predicate is written in front of the rest of it. -/
theorem Carries.operand (h : Carries d ps) (e : Expr) (hr : Carries r qs) :
    Carries (operand e d ++ r) (ps ++ qs) :=
  (h.parens _).append hr

theorem Carries.isNull (h : Carries d ps) (e : Expr) (negated : Bool) :
    Carries (isNull e d negated) ps :=
  (h.parens _).followed _

/-- Both operands are written in their order. A missing value on the right
brings no parameters, so nothing is lost where it is not written. -/
theorem carries_binary {t : Target} (ht : t.InOrder) {op : BinaryOp} {left right : Expr}
    (hl : Carries l ps) (hr : Carries r qs) (hNull : right.isNullLiteral = true → qs = []) :
    Carries (binary t op left right l r) (ps ++ qs) := by
  simp only [binary, ht.comparison, Bool.true_eq_false, false_and, and_false, if_false]
  split
  · rename_i hTest
    rw [hNull hTest.2, List.append_nil]
    exact hl.isNull left _
  · exact (hl.parens _).append (carries_text.mpr (hr.parens _))

theorem carries_window {orders : List Draft} (h : Carries ds.flatten ps)
    (hOrders : Carries orders.flatten qs) : Carries (window ds orders) (ps ++ qs) := by
  have hBoth := (carries_listClause "PARTITION BY " h).append
    (carries_listClause "ORDER BY " hOrders)
  refine carries_join ?_
  rw [List.flatten_filter_not_isEmpty]
  simpa using hBoth

theorem carries_overWindow {t : Target} {name : String} {w : Option Draft}
    (h : Carries w.toList.flatten ps) : Carries (overWindow t name w) ps := by
  cases w with
  | none => exact h
  | some d =>
      rw [Option.toList_some, List.flatten_singleton] at h
      rw [overWindow]
      split
      · exact carries_text.mpr (h.followed _)
      · exact carries_stop _ _ _

/-- Arguments come before the window. No function is a mere word here, since
that would lose its arguments. -/
theorem carries_call {t : Target} (ht : t.InOrder) {name : String} {distinct : Bool}
    {w : Option Draft} (h : Carries ds.flatten ps) (hw : Carries w.toList.flatten qs) :
    Carries (call t name ds distinct w) (ps ++ qs) := by
  obtain ⟨opening, hCall⟩ := exists_call t name (ht.functions _) ds distinct w
  rw [hCall, carries_text]
  exact (carries_join h).append (carries_text.mpr (carries_overWindow hw))

theorem params_headings {headings : List Heading} (hLength : headings.length = ds.length) :
    params (List.zipWith Heading.draft headings ds).flatten = params ds.flatten := by
  induction headings generalizing ds with
  | nil => rw [List.eq_nil_of_length_eq_zero hLength.symm]; rfl
  | cons heading headings ih =>
      cases ds with
      | nil => cases hLength
      | cons d ds =>
          have hHeading : params (heading.draft d) = params d := by
            rw [Heading.draft]
            split
            · rw [params_append]
              exact List.append_nil _
            · rfl
          rw [List.zipWith_cons_cons, List.flatten_cons, List.flatten_cons, params_append,
            params_append, hHeading, ih (Nat.succ.inj hLength)]

/-- Headings add no parameters to the columns. -/
theorem carries_columns {hs : Except Error (List Heading)}
    (hLength : ∀ headings, hs = .ok headings → headings.length = ds.length)
    (h : Carries ds.flatten ps) : Carries (columns hs ds) ps := by
  cases hs with
  | error e => exact carries_stop _ _ _
  | ok headings =>
      refine h.of_parts (fun hComplete _ => infix_columns hComplete hLength) ?_
      rw [columns, params_join, params_headings (hLength headings rfl)]

theorem carries_limits (limit offset : Option UInt64) : Carries (limits limit offset) [] := by
  cases limit <;> cases offset <;> simp [limits]

theorem carries_top (t : Target) (limit : Option UInt64) : Carries (top t limit) [] := by
  unfold top
  split <;> simp

/-- An order is always kept for such a target, so its parameters are never
lost. -/
theorem carries_order {t : Target} (ht : t.InOrder) {sc : Scope} {limited : Bool}
    (h : Carries ds.flatten ps) : Carries (order t sc limited ds) ps := by
  rw [order, if_pos (by simp [Scope.keepsOrder, ht.order])]
  exact carries_listClause _ h

theorem carries_withClause {t : Target} {ctes : List Cte} (hLength : ds.length = ctes.length)
    (h : Carries ds.flatten ps) : Carries (withClause t ctes ds) ps := by
  rw [withClause]
  split
  · rename_i hEmpty
    rw [List.isEmpty_iff.mp hEmpty] at hLength
    rwa [List.eq_nil_of_length_eq_zero hLength] at h
  · exact carries_text.mpr ((carries_join h).followed _)

theorem Carries.cte (h : Carries d ps) (name : String) (columns : List String) :
    Carries (cte name columns d) ps := by
  have hQuery : Carries (.text " AS (" :: (d ++ [.text ")"])) ps :=
    carries_text.mpr (h.followed _)
  rw [Draft.cte, carries_name]
  split
  · exact hQuery
  · have hNames : Carries (.text " (" :: (names columns ++ [.text ")"])) [] :=
      carries_text.mpr ((carries_names columns).followed _)
    exact hNames.append hQuery

theorem Carries.derived (h : Carries d ps) (t : Target) (name : String) (lateral : Bool) :
    Carries (derived t name lateral d) ps := by
  rw [Draft.derived]
  split
  · exact carries_stop _ _ _
  · exact carries_text.mpr (h.append_nil (by simp))

theorem params_sources {t : Target} {items : List FromItem} (hLength : items.length = ds.length) :
    params (sources t items ds) = params ds.flatten := by
  induction items generalizing ds with
  | nil =>
      rw [List.eq_nil_of_length_eq_zero hLength.symm]
      rfl
  | cons item items ih =>
      cases ds with
      | nil => cases hLength
      | cons d ds =>
          simp only [sources, List.flatten_cons, params_append, ih (Nat.succ.inj hLength)]
          cases items with
          | nil => rw [List.append_assoc]; rfl
          | cons => rw [List.append_assoc]; rfl

theorem carries_sources {t : Target} {items : List FromItem} (hLength : items.length = ds.length)
    (h : Carries ds.flatten ps) : Carries (sources t items ds) ps :=
  h.of_parts (fun _ _ => infix_sources t hLength) (params_sources hLength)

section Joins

variable {t : Target} {kind : JoinKind} {condition : Option Draft} {rs : List BindParam}

/-- A condition on a table that is applied is refused, so that no parameters of
it can be lost. -/
theorem carries_apply (hr : Carries r qs) (hc : Carries condition.toList.flatten rs) :
    Carries (apply t kind condition.isSome r) (qs ++ rs) := by
  cases condition with
  | some c =>
      cases kind <;> exact carries_stop _ _ _
  | none =>
      cases kind with
      | right | full => exact carries_stop _ _ _
      | inner | cross | left =>
          have hAll := hr.append hc
          rw [Option.toList_none, List.flatten_nil, List.append_nil] at hAll
          exact carries_text.mpr hAll

theorem carries_joined {right : FromItem} (hl : Carries l ps) (hr : Carries r qs)
    (hc : Carries condition.toList.flatten rs) :
    Carries (joined t kind right l r condition) (ps ++ qs ++ rs) := by
  rw [joined, List.append_assoc]
  refine hl.append ?_
  split
  · exact carries_apply hr hc
  · exact carries_text.mpr ((hr.parens _).append (carries_clause _ hc))

end Joins

end Draft

section Tree

variable {t : Target} {pager : Pager}

theorem binds_columnSource (source : Option ColumnSource) :
    (ColumnSource.visits source).filterMap Visit.bind? = [] := by
  unfold ColumnSource.visits
  split <;> rfl

theorem binds_of_isNullLiteral {e : Expr} (h : e.isNullLiteral = true) :
    (e.visits true).filterMap Visit.bind? = [] := by
  cases e with
  | literal v => rfl
  | _ => cases h

theorem length_cteDrafts {sc : Scope} (ctes : List Cte) :
    (cteDrafts t pager sc ctes).length = ctes.length := by
  induction ctes with
  | nil => rfl
  | cons cte ctes ih =>
      obtain ⟨name, columns, query, recursive⟩ := cte
      rw [cteDrafts, List.length_cons, List.length_cons, ih]

namespace Select

variable {sc : Scope} {outermost : Bool} {s : Select} {ps qs : List BindParam}

/-- What is met in a SELECT, clause by clause as they are written. -/
theorem filterMap_visits {α : Type} (f : Visit → Option α) (hf : ∀ s, f (.select s) = none)
    (s : Select) : (s.visits true).filterMap f =
      (ctesVisits true s.ctes).filterMap f ++ (exprsVisits true s.columns).filterMap f ++
        (sourcesVisits true s.sources).filterMap f ++
        ((optionVisits true s.condition).filterMap f ++
          (exprsVisits true s.groupBy).filterMap f ++ (optionVisits true s.having).filterMap f ++
          (ordersVisits true s.orderBy).filterMap f) := by
  obtain ⟨ctes, distinct, columns, sources, condition, groupBy, having, orderBy, limit, offset,
    numbered⟩ := s
  rw [Select.visits, List.filterMap_cons_none (hf _)]
  simp only [List.filterMap_append, List.append_assoc]

/-- In front of the FROM clause stand the common table expressions, and then the
columns. -/
theorem headDraft_carries
    (hCtes : Draft.Carries (cteDrafts t pager (sc.providing (sc.sources s)) s.ctes).flatten ps)
    (hColumns : Draft.Carries
      (exprDrafts t pager (sc.providing (sc.sources s)) s.columns).flatten qs) :
    (s.headDraft t pager sc outermost).Carries (ps ++ qs) := by
  have hHeadings : ∀ hs, s.headings t sc outermost = .ok hs →
      hs.length = (exprDrafts t pager (sc.providing (sc.sources s)) s.columns).length := by
    intro hs h
    rw [length_headings h, length_exprDrafts]
  refine (Draft.carries_withClause (length_cteDrafts _) hCtes).append (Draft.carries_text.mpr ?_)
  exact (Draft.carries_top t s.limit).append (Draft.carries_columns hHeadings hColumns)

/-- Tables that are implied bring no parameters along, so a FROM clause carries
what its given items carry. -/
theorem fromDraft_carries
    (h : Draft.Carries (sourceDrafts t pager (sc.providing (sc.sources s)) s.sources).flatten ps) :
    (s.fromDraft t pager sc).Carries ps := by
  by_cases hFrom : s.sources = []
  · rw [hFrom] at h
    obtain rfl : [] = ps := h (by simp [sourceDrafts, Draft.Complete])
    rw [fromDraft_inferred hFrom]
    refine Draft.carries_listClause _ ?_
    induction sc.implied s.columns s.condition with
    | nil => exact Draft.carries_nil
    | cons ref refs ih => exact (Draft.carries_tableRef ref).append ih
  · rw [fromDraft_given hFrom]
    exact Draft.carries_text.mpr (Draft.carries_sources (length_sourceDrafts _).symm h)

/-- Behind the FROM clause stand the condition, the groups with theirs and the
order. Limits are numbers and no parameters. -/
theorem tailDraft_carries (ht : t.InOrder) {rs us : List BindParam}
    (hCondition : Draft.Carries
      (optionDraft t pager (sc.providing (sc.sources s)) s.condition).toList.flatten ps)
    (hGroup : Draft.Carries
      (exprDrafts t pager (sc.providing (sc.sources s)) s.groupBy).flatten qs)
    (hHaving : Draft.Carries
      (optionDraft t pager (sc.providing (sc.sources s)) s.having).toList.flatten rs)
    (hOrder : Draft.Carries
      (orderDrafts t pager (sc.providing (sc.sources s)) s.orderBy).flatten us) :
    (s.tailDraft t pager sc).Carries (ps ++ qs ++ rs ++ us) := by
  rw [tailDraft, if_pos ht.limits]
  exact ((((Draft.carries_clause _ hCondition).append (Draft.carries_listClause _ hGroup)).append
    (Draft.carries_clause _ hHaving)).append (Draft.carries_order ht hOrder)).append_nil
    (Draft.carries_limits _ _)

/-- The three parts of a SELECT follow each other. A SELECT without columns
stops, so it carries anything. -/
theorem carries_of_parts (ht : t.InOrder) {rs : List BindParam}
    (hHead : (s.headDraft t pager sc outermost).Carries ps)
    (hFrom : (s.fromDraft t pager sc).Carries qs)
    (hTail : (s.tailDraft t pager sc).Carries rs) :
    (s.draft t pager sc outermost).Carries (ps ++ qs ++ rs) := by
  have hDirect : s.Direct t := fun _ => ht.limits
  cases hColumns : s.columns.isEmpty with
  | true =>
      rw [draft_stop_of_no_columns hDirect hColumns]
      exact Draft.carries_stop _ _ _
  | false =>
      rw [draft_direct hDirect hColumns]
      exact (hHead.append hFrom).append hTail

end Select

mutual

/-- The parameters of an expression are written in the order in which a walk
meets them, each as often as it occurs. -/
theorem Expr.draft_carries (ht : t.InOrder) : (e : Expr) → (sc : Scope) →
    Visit.Filled (e.visits true) →
    (e.draft t pager sc).Carries ((e.visits true).filterMap Visit.bind?)
  | .literal _, _, _ => Draft.carries_ofExcept _
  | .column ref, _, _ => by
      rw [Expr.draft, Expr.visits, List.filterMap_cons_none rfl, binds_columnSource]
      exact Draft.carries_column ref
  | .param _, _, _ => Draft.carries_param _ _
  | .binary _ l r, sc, h => by
      simp only [Expr.visits, Visit.filled_expr, Visit.filled_append] at h
      rw [Expr.draft, Expr.visits, List.filterMap_cons_none rfl, List.filterMap_append]
      exact Draft.carries_binary ht (Expr.draft_carries ht l sc h.2.1)
        (Expr.draft_carries ht r sc h.2.2) binds_of_isNullLiteral
  | .unary _ e, sc, h => by
      simp only [Expr.visits, Visit.filled_expr] at h
      rw [Expr.draft, Expr.visits, List.filterMap_cons_none rfl]
      exact Draft.carries_text.mpr ((Expr.draft_carries ht e sc h.2).parens _)
  | .call _ args _ w _, sc, h => by
      simp only [Expr.visits, Visit.filled_expr, Visit.filled_append] at h
      rw [Expr.draft, Expr.visits, List.filterMap_cons_none rfl, List.filterMap_append]
      exact Draft.carries_call ht (exprDrafts_carries ht args sc h.2.1)
        (windowDraft_carries ht w sc h.2.2)
  | .caseOf o bs e, sc, h => by
      simp only [Expr.visits, Visit.filled_expr, Visit.filled_append] at h
      obtain ⟨-, ⟨ho, hbs⟩, he⟩ := h
      rw [Expr.draft, Expr.visits, List.filterMap_cons_none rfl, List.filterMap_append,
        List.filterMap_append, Draft.carries_text]
      have hOperand := Draft.carries_clause " " (optionDraft_carries ht o sc ho)
      have hElse := Draft.carries_clause " ELSE " (optionDraft_carries ht e sc he)
      exact ((hOperand.append (branchDrafts_carries ht bs sc hbs)).append hElse).followed _
  | .cast e _, sc, h => by
      simp only [Expr.visits, Visit.filled_expr] at h
      rw [Expr.draft, Expr.visits, List.filterMap_cons_none rfl, Draft.carries_text]
      exact (Expr.draft_carries ht e sc h.2).followed _
  | .extract _ e, sc, h => by
      simp only [Expr.visits, Visit.filled_expr] at h
      rw [Expr.draft, Expr.visits, List.filterMap_cons_none rfl]
      exact Draft.carries_text.mpr ((Expr.draft_carries ht e sc h.2).followed _)
  | .isNull e _, sc, h => by
      simp only [Expr.visits, Visit.filled_expr] at h
      rw [Expr.draft, Expr.visits, List.filterMap_cons_none rfl]
      exact (Expr.draft_carries ht e sc h.2).isNull e _
  | .inList e items _, sc, h => by
      simp only [Expr.visits, Visit.filled_expr, Visit.filled_append] at h
      rw [Expr.draft, Expr.visits, List.filterMap_cons_none rfl, List.filterMap_append]
      have hItems := exprDrafts_carries ht items sc h.2.2
      cases items with
      | nil => exact absurd rfl (h.1 e _)
      | cons item items =>
          exact (Expr.draft_carries ht e sc h.2.1).operand e (Draft.carries_text.mpr
            ((Draft.carries_join hItems).followed _))
  | .inQuery e q _, sc, h => by
      simp only [Expr.visits, Visit.filled_expr, Visit.filled_append, if_true] at h
      rw [Expr.draft, Expr.visits, List.filterMap_cons_none rfl, List.filterMap_append, if_pos rfl]
      exact (Expr.draft_carries ht e sc h.2.1).operand e (Draft.carries_text.mpr
        ((Query.draft_carries ht q sc.nested false h.2.2).followed _))
  | .between e l u _, sc, h => by
      simp only [Expr.visits, Visit.filled_expr, Visit.filled_append] at h
      obtain ⟨-, ⟨he, hl⟩, hu⟩ := h
      rw [Expr.draft, Expr.visits, List.filterMap_cons_none rfl, List.filterMap_append,
        List.filterMap_append, List.append_assoc]
      have hHigh := Draft.carries_text (x := " AND ") |>.mpr ((Expr.draft_carries ht u sc hu).parens
        (u.strength ≤ Expr.predicateStrength))
      exact (Expr.draft_carries ht e sc he).operand e
        (Draft.carries_text.mpr ((Expr.draft_carries ht l sc hl).operand l hHigh))
  | .existsIn q _, sc, h => by
      simp only [Expr.visits, Visit.filled_expr, if_true] at h
      rw [Expr.draft, Expr.visits, List.filterMap_cons_none rfl, if_pos rfl]
      exact Draft.carries_text.mpr ((Query.draft_carries ht q sc.nested false h.2).followed _)
  | .scalar q, sc, h => by
      simp only [Expr.visits, Visit.filled_expr, if_true] at h
      rw [Expr.draft, Expr.visits, List.filterMap_cons_none rfl, if_pos rfl]
      exact Draft.carries_text.mpr ((Query.draft_carries ht q sc.nested false h.2).followed _)
  | .label e _, sc, h => by
      simp only [Expr.visits, Visit.filled_expr] at h
      rw [Expr.draft, Expr.visits, List.filterMap_cons_none rfl]
      exact Expr.draft_carries ht e sc h.2
  | .star none, _, _ => Draft.carries_text.mpr Draft.carries_nil
  | .star (some source), _, _ => by
      rw [Expr.draft, Expr.visits, List.filterMap_cons_none rfl, binds_columnSource]
      exact (Draft.carries_columnSource source).followed _
  | .tuple items, sc, h => by
      simp only [Expr.visits, Visit.filled_expr] at h
      rw [Expr.draft, Expr.visits, List.filterMap_cons_none rfl, Draft.carries_text]
      exact (Draft.carries_join (exprDrafts_carries ht items sc h.2)).followed _
  | .raw _, _, _ => Draft.carries_text.mpr Draft.carries_nil

theorem exprDrafts_carries (ht : t.InOrder) : (es : List Expr) → (sc : Scope) →
    Visit.Filled (exprsVisits true es) →
    Draft.Carries (exprDrafts t pager sc es).flatten ((exprsVisits true es).filterMap Visit.bind?)
  | [], _, _ => Draft.carries_nil
  | e :: es, sc, h => by
      simp only [exprsVisits, Visit.filled_append] at h
      rw [exprDrafts, exprsVisits, List.flatten_cons, List.filterMap_append]
      exact (Expr.draft_carries ht e sc h.1).append (exprDrafts_carries ht es sc h.2)

theorem optionDraft_carries (ht : t.InOrder) : (o : Option Expr) → (sc : Scope) →
    Visit.Filled (optionVisits true o) →
    Draft.Carries (optionDraft t pager sc o).toList.flatten
      ((optionVisits true o).filterMap Visit.bind?)
  | none, _, _ => Draft.carries_nil
  | some e, sc, h => by
      rw [optionVisits] at h
      rw [optionDraft, optionVisits, Option.toList_some, List.flatten_singleton]
      exact Expr.draft_carries ht e sc h

theorem branchDrafts_carries (ht : t.InOrder) : (bs : List Branch) → (sc : Scope) →
    Visit.Filled (branchesVisits true bs) →
    (branchDrafts t pager sc bs).Carries ((branchesVisits true bs).filterMap Visit.bind?)
  | [], _, _ => Draft.carries_nil
  | ⟨c, r⟩ :: bs, sc, h => by
      simp only [branchesVisits, Visit.filled_append] at h
      obtain ⟨⟨hc, hr⟩, hbs⟩ := h
      rw [branchDrafts, branchesVisits, List.filterMap_append, List.filterMap_append,
        List.append_assoc, Draft.carries_text]
      refine (Expr.draft_carries ht c sc hc).append (Draft.carries_text.mpr ?_)
      exact (Expr.draft_carries ht r sc hr).append (branchDrafts_carries ht bs sc hbs)

theorem orderDrafts_carries (ht : t.InOrder) : (os : List OrderTerm) → (sc : Scope) →
    Visit.Filled (ordersVisits true os) →
    Draft.Carries (orderDrafts t pager sc os).flatten ((ordersVisits true os).filterMap Visit.bind?)
  | [], _, _ => Draft.carries_nil
  | ⟨e, _, _⟩ :: os, sc, h => by
      simp only [ordersVisits, Visit.filled_append] at h
      rw [orderDrafts, ordersVisits, List.flatten_cons, List.filterMap_append]
      exact ((Expr.draft_carries ht e sc h.1).followed _).append (orderDrafts_carries ht os sc h.2)

theorem windowDraft_carries (ht : t.InOrder) : (w : Option Window) → (sc : Scope) →
    Visit.Filled (windowVisits true w) →
    Draft.Carries (windowDraft t pager sc w).toList.flatten
      ((windowVisits true w).filterMap Visit.bind?)
  | none, _, _ => Draft.carries_nil
  | some ⟨p, o⟩, sc, h => by
      simp only [windowVisits, Visit.filled_append] at h
      rw [windowDraft, windowVisits, Option.toList_some, List.flatten_singleton,
        List.filterMap_append]
      exact Draft.carries_window (exprDrafts_carries ht p sc h.1) (orderDrafts_carries ht o sc h.2)

theorem FromItem.draft_carries (ht : t.InOrder) : (i : FromItem) → (sc : Scope) →
    Visit.Filled (i.visits true) →
    (i.draft t pager sc).Carries ((i.visits true).filterMap Visit.bind?)
  | .table ref, _, _ => Draft.carries_tableRef ref
  | .derived q name lateral, sc, h => by
      rw [FromItem.visits] at h
      rw [FromItem.draft, FromItem.visits]
      exact (Query.draft_carries ht q _ false h).derived t name lateral
  | .join _ l r c, sc, h => by
      simp only [FromItem.visits, Visit.filled_append] at h
      rw [FromItem.draft, FromItem.visits, List.filterMap_append, List.filterMap_append]
      exact Draft.carries_joined (FromItem.draft_carries ht l sc h.1.1)
        (FromItem.draft_carries ht r sc h.1.2) (optionDraft_carries ht c sc h.2)
  | .cte _, _, _ => Draft.carries_name.mpr Draft.carries_nil

theorem sourceDrafts_carries (ht : t.InOrder) : (is : List FromItem) → (sc : Scope) →
    Visit.Filled (sourcesVisits true is) →
    Draft.Carries (sourceDrafts t pager sc is).flatten
      ((sourcesVisits true is).filterMap Visit.bind?)
  | [], _, _ => Draft.carries_nil
  | i :: is, sc, h => by
      simp only [sourcesVisits, Visit.filled_append] at h
      rw [sourceDrafts, sourcesVisits, List.flatten_cons, List.filterMap_append]
      exact (FromItem.draft_carries ht i sc h.1).append (sourceDrafts_carries ht is sc h.2)

theorem cteDrafts_carries (ht : t.InOrder) : (cs : List Cte) → (sc : Scope) →
    Visit.Filled (ctesVisits true cs) →
    Draft.Carries (cteDrafts t pager sc cs).flatten ((ctesVisits true cs).filterMap Visit.bind?)
  | [], _, _ => Draft.carries_nil
  | ⟨name, columns, q, _⟩ :: cs, sc, h => by
      simp only [ctesVisits, Visit.filled_append] at h
      rw [cteDrafts, ctesVisits, List.flatten_cons, List.filterMap_append]
      have hFirst := (Query.draft_carries ht q sc.nested false h.1).cte name columns
      exact hFirst.append (cteDrafts_carries ht cs sc h.2)

/-- The same for a SELECT, clause by clause. Offsets are written as such for
these targets, so no page takes its place. -/
theorem Select.draft_carries (ht : t.InOrder) : (s : Select) → (sc : Scope) →
    (outermost : Bool) → Visit.Filled (s.visits true) →
    (s.draft t pager sc outermost).Carries ((s.visits true).filterMap Visit.bind?)
  | ⟨ctes, distinct, columns, sources, condition, groupBy, having, orderBy, limit, offset,
      numbered⟩, sc, outermost, h => by
      simp only [Select.visits, Visit.filled_select, Visit.filled_append] at h
      obtain ⟨⟨⟨⟨⟨⟨hCtes, hColumns⟩, hSources⟩, hCondition⟩, hGroup⟩, hHaving⟩, hOrder⟩ := h
      rw [Select.filterMap_visits _ fun _ => rfl]
      exact Select.carries_of_parts ht
        (Select.headDraft_carries (cteDrafts_carries ht ctes _ hCtes)
          (exprDrafts_carries ht columns _ hColumns))
        (Select.fromDraft_carries (sourceDrafts_carries ht sources _ hSources))
        (Select.tailDraft_carries ht (optionDraft_carries ht condition _ hCondition)
          (exprDrafts_carries ht groupBy _ hGroup) (optionDraft_carries ht having _ hHaving)
          (orderDrafts_carries ht orderBy _ hOrder))

theorem Query.draft_carries (ht : t.InOrder) : (q : Query) → (sc : Scope) →
    (outermost : Bool) → Visit.Filled (q.visits true) →
    (q.draft t pager sc outermost).Carries ((q.visits true).filterMap Visit.bind?)
  | .select s, sc, outermost, h => by
      rw [Query.visits] at h
      rw [Query.draft, Query.visits]
      exact Select.draft_carries ht s sc outermost h
  | .compound _ members orderBy limit offset, sc, outermost, h => by
      simp only [Query.visits, Visit.filled_append] at h
      rw [Query.draft, Query.visits, List.filterMap_append]
      split
      · exact Draft.carries_stop _ _ _
      · have hMembers := memberDrafts_carries ht members sc outermost 1 h.1
        have hOrder := orderDrafts_carries ht orderBy sc h.2
        exact ((Draft.carries_join hMembers).append (Draft.carries_order ht hOrder)).append_nil
          (Draft.carries_limits limit offset)

theorem memberDrafts_carries (ht : t.InOrder) : (qs : List Query) → (sc : Scope) →
    (outermost : Bool) → (number : Nat) → Visit.Filled (queriesVisits true qs) →
    Draft.Carries (memberDrafts t pager sc outermost number qs).flatten
      ((queriesVisits true qs).filterMap Visit.bind?)
  | [], _, _, _, _ => Draft.carries_nil
  | q :: qs, sc, outermost, number, h => by
      simp only [queriesVisits, Visit.filled_append] at h
      rw [memberDrafts, queriesVisits, List.flatten_cons, List.filterMap_append]
      refine Draft.Carries.append ?_ (memberDrafts_carries ht qs sc false (number + 1) h.2)
      split
      · exact Draft.carries_text.mpr
          ((Query.draft_carries ht q sc.isolated false h.1).append_nil (by simp))
      · exact (Query.draft_carries ht q sc outermost h.1).parens _

end

end Tree

section Changes

variable {t : Target} {pager : Pager}

theorem Draft.carries_returning (ht : t.InOrder) {exprs : List Expr}
    (h : Visit.Filled (exprsVisits true exprs)) :
    (Draft.returning t pager exprs).Carries ((exprsVisits true exprs).filterMap Visit.bind?) := by
  rw [Draft.returning]
  split
  · rename_i hEmpty
    rw [List.isEmpty_iff.mp hEmpty]
    exact carries_nil
  · split
    · have hLength : ∀ hs, headings t.rules (starView true []) [] exprs = .ok hs →
          hs.length = (exprDrafts t pager .outermost exprs).length := by
        intro hs hHeadings
        rw [length_headings hHeadings, length_exprDrafts]
      exact carries_text.mpr (carries_columns hLength (exprDrafts_carries ht exprs _ h))
    · exact carries_stop _ _ _

namespace Insert

theorem cellDraft_carries (ht : t.InOrder) (generated : Bool) {e : Expr}
    (h : Visit.Filled (e.visits true)) :
    (cellDraft t pager generated e).Carries ((e.visits true).filterMap Visit.bind?) := by
  unfold cellDraft
  split
  · exact Draft.carries_param _ _
  · exact Expr.draft_carries ht _ _ h

/-- Marks on the cells of a row, whichever they are, keep the order. -/
theorem cells_carry (ht : t.InOrder) (generated : Nat → Bool) {row : List Expr}
    (h : Visit.Filled (exprsVisits true row)) :
    Draft.Carries (row.mapIdx fun i e => cellDraft t pager (generated i) e).flatten
      ((exprsVisits true row).filterMap Visit.bind?) := by
  induction row generalizing generated with
  | nil => exact Draft.carries_nil
  | cons e row ih =>
      rw [exprsVisits, Visit.filled_append] at h
      rw [List.mapIdx_cons, List.flatten_cons, exprsVisits, List.filterMap_append]
      exact (cellDraft_carries ht _ h.1).append (ih _ h.2)

theorem rows_carry (ht : t.InOrder) (generated : Option Nat) {rows : List (List Expr)}
    (h : Visit.Filled (rows.flatMap (exprsVisits true))) :
    Draft.Carries (rows.map (rowDraft t pager generated)).flatten
      ((rows.flatMap (exprsVisits true)).filterMap Visit.bind?) := by
  induction rows with
  | nil => exact Draft.carries_nil
  | cons row rows ih =>
      rw [List.flatMap_cons, Visit.filled_append] at h
      rw [List.map_cons, List.flatten_cons, List.flatMap_cons, List.filterMap_append]
      exact ((Draft.carries_join (cells_carry ht _ h.1)).parens true).append (ih h.2)

theorem sourceDraft_carries (ht : t.InOrder) {table : Table} {source : InsertSource}
    (h : Visit.Filled (source.visits true)) :
    (sourceDraft t pager table source).Carries ((source.visits true).filterMap Visit.bind?) := by
  cases source with
  | defaults =>
      rw [sourceDraft]
      split
      · exact Draft.carries_text.mpr Draft.carries_nil
      · split
        · exact Draft.carries_text.mpr Draft.carries_nil
        · exact Draft.carries_stop _ _ _
  | rows columns cells =>
      rw [sourceDraft]
      split
      · exact Draft.carries_stop _ _ _
      · exact Draft.carries_text.mpr ((Draft.carries_names columns).append
          (Draft.carries_text.mpr (Draft.carries_join (rows_carry ht _ h))))
  | query columns q =>
      exact Draft.carries_text.mpr ((Draft.carries_names columns).append
        (Draft.carries_text.mpr (Query.draft_carries ht q _ false h)))

end Insert

theorem Update.assignments_carry (ht : t.InOrder) {assignments : List (String × Expr)}
    (h : Visit.Filled (exprsVisits true (assignments.map (·.2)))) :
    Draft.Carries (assignments.map fun (name, e) =>
        Piece.name name :: Piece.text " = " :: e.draft t pager .outermost).flatten
      ((exprsVisits true (assignments.map (·.2))).filterMap Visit.bind?) := by
  induction assignments with
  | nil => exact Draft.carries_nil
  | cons assignment assignments ih =>
      rw [List.map_cons, exprsVisits, Visit.filled_append] at h
      rw [List.map_cons, List.flatten_cons, List.map_cons, exprsVisits, List.filterMap_append]
      exact (Draft.carries_name.mpr (Draft.carries_text.mpr
        (Expr.draft_carries ht assignment.2 _ h.1))).append (ih h.2)

end Changes

namespace Statement

variable {t : Target}

/-- For a target that writes everything at its place, the parameters of a draft
are those of the statement, in the order of the clauses. -/
theorem draft_carries (ht : t.InOrder) (s : Statement) (h : Visit.Filled (s.visits true)) :
    (s.draft t).Carries s.binds := by
  rw [binds]
  cases s with
  | query q => exact Query.draft_carries ht q _ true h
  | insert s =>
      simp only [visits, Visit.filled_table, Visit.filled_append] at h
      rw [visits, List.filterMap_cons_none rfl, List.filterMap_append]
      refine Draft.carries_text.mpr (Draft.carries_table.mpr ?_)
      exact (Insert.sourceDraft_carries ht h.1).append (Draft.carries_returning ht h.2)
  | update s =>
      simp only [visits, Visit.filled_table, Visit.filled_append] at h
      rw [visits, List.filterMap_cons_none rfl, List.filterMap_append, List.filterMap_append]
      refine Draft.carries_text.mpr (Draft.carries_table.mpr (Draft.carries_text.mpr ?_))
      exact ((Draft.carries_join (Update.assignments_carry ht h.1.1)).append
        (Draft.carries_clause _ (optionDraft_carries ht s.condition _ h.1.2))).append
        (Draft.carries_returning ht h.2)
  | delete s =>
      simp only [visits, Visit.filled_table, Visit.filled_append] at h
      rw [visits, List.filterMap_cons_none rfl, List.filterMap_append]
      refine Draft.carries_text.mpr (Draft.carries_table.mpr ?_)
      exact (Draft.carries_clause _ (optionDraft_carries ht s.condition _ h.1)).append
        (Draft.carries_returning ht h.2)
  | createTable | dropTable | createIndex | dropIndex =>
      exact fun _ => List.eq_nil_of_subset_nil (params_draft_subset t _)

end Statement

end SqlStatements
