import Mathlib.Tactic.SplitIfs
import SqlStatements.Proofs.Draft.Params
import SqlStatements.Proofs.Tree.Forget

/-! Drafting takes no notice of the values of parameters: the draft of a tree
without them is the draft of the tree, without them. This does not hold where
pages are picked by row numbers, since the order of distinct rows is compared
with their columns, values included. -/
namespace SqlStatements

def Piece.forget : Piece → Piece
  | .param p generated => .param p.forget generated
  | piece => piece

def Draft.forget (d : Draft) : Draft := d.map Piece.forget

section Shape

@[simp] theorem Expr.strength_forget : (e : Expr) → e.forget.strength = e.strength
  | .literal _ | .column _ | .param _ | .binary _ _ _ | .unary _ _ | .call _ _ _ _ _
  | .caseOf _ _ _ | .cast _ _ | .extract _ _ | .isNull _ _ | .inList _ _ _ | .inQuery _ _ _
  | .between _ _ _ _ | .existsIn _ _ | .scalar _ | .star _ | .tuple _ | .raw _ => rfl
  | .label e _ => e.strength_forget

@[simp] theorem Expr.applies_forget (op : BinaryOp) (e : Expr) :
    e.forget.applies op = e.applies op := by
  cases e <;> rfl

@[simp] theorem Expr.needsParens_forget (e : Expr) (op : BinaryOp) :
    e.forget.needsParens op = e.needsParens op := by
  simp [needsParens]

@[simp] theorem Expr.needsParensUnder_forget (e : Expr) (op : UnaryOp) :
    e.forget.needsParensUnder op = e.needsParensUnder op := by
  cases op <;> simp [needsParensUnder]

@[simp] theorem Expr.isScalar_forget (e : Expr) : e.forget.isScalar = e.isScalar := by
  cases e <;> rfl

@[simp] theorem Expr.isNullLiteral_forget (e : Expr) :
    e.forget.isNullLiteral = e.isNullLiteral := by
  cases e <;> rfl

@[simp] theorem Query.isRestricted_forget (q : Query) : q.forget.isRestricted = q.isRestricted := by
  cases q with
  | select s =>
      obtain ⟨_, _, _, _, _, _, _, orderBy, _, _, _⟩ := s
      rcases orderBy with _ | ⟨⟨_, _, _⟩, _⟩ <;> rfl
  | compound => rfl

@[simp] theorem Query.isCompound_forget (q : Query) : q.forget.isCompound = q.isCompound := by
  cases q <;> rfl

@[simp] theorem Draft.isJoin_forget (i : FromItem) : isJoin i.forget = isJoin i := by
  cases i <;> rfl

end Shape

namespace Draft

variable {t : Target}

@[simp] theorem forget_nil : Draft.forget [] = [] := rfl

@[simp] theorem forget_append (l r : Draft) : Draft.forget (l ++ r) = l.forget ++ r.forget :=
  List.map_append

@[simp] theorem forget_cons (piece : Piece) (d : Draft) :
    Draft.forget (piece :: d) = piece.forget :: d.forget :=
  rfl

@[simp] theorem forget_text (x : String) : (Piece.text x).forget = .text x := rfl

@[simp] theorem forget_name (x : String) : (Piece.name x).forget = .name x := rfl

@[simp] theorem forget_table (x : Table) : (Piece.table x).forget = .table x := rfl

@[simp] theorem forget_source (x : Table) : (Piece.source x).forget = .source x := rfl

@[simp] theorem forget_qualifier (x : Table) : (Piece.qualifier x).forget = .qualifier x := rfl

@[simp] theorem forget_stop (e : Error) : (Piece.stop e).forget = .stop e := rfl

@[simp] theorem forget_param (p : BindParam) (generated : Bool) :
    (Piece.param p generated).forget = .param p.forget generated :=
  rfl

/-- Values are forgotten in both branches of a decision that does not depend on
them. -/
theorem forget_ite (p : Prop) [Decidable p] (l r : Draft) :
    Draft.forget (if p then l else r) = if p then l.forget else r.forget :=
  apply_ite Draft.forget p l r

@[simp] theorem forget_isEmpty (d : Draft) : d.forget.isEmpty = d.isEmpty := by
  cases d <;> rfl

@[simp] theorem forget_join (separator : String) (ds : List Draft) :
    (join separator ds).forget = join separator (ds.map Draft.forget) := by
  induction ds with
  | nil => rfl
  | cons d ds ih =>
      cases ds with
      | nil => rfl
      | cons d' ds =>
          simp only [join, forget_append, forget_cons, forget_text, List.map_cons] at ih ⊢
          rw [ih]

@[simp] theorem forget_parens (wanted : Bool) (d : Draft) :
    (d.parens wanted).forget = d.forget.parens wanted := by
  cases wanted <;> simp [parens]

@[simp] theorem forget_clause (word : String) (o : Option Draft) :
    (clause word o).forget = clause word (o.map Draft.forget) := by
  cases o <;> simp [clause]

@[simp] theorem forget_listClause (word : String) (ds : List Draft) :
    (listClause word ds).forget = listClause word (ds.map Draft.forget) := by
  cases ds <;> simp [listClause]

@[simp] theorem forget_names (idents : List String) : (names idents).forget = names idents := by
  simp [names, Function.comp_def]

@[simp] theorem forget_ofExcept (x : Except Error String) : (ofExcept x).forget = ofExcept x := by
  cases x <;> rfl

@[simp] theorem forget_columnSource (source : ColumnSource) :
    source.draft.forget = source.draft := by
  rcases source with (_ | _) | _ <;> rfl

@[simp] theorem forget_column (ref : ColumnRef) : ref.draft.forget = ref.draft := by
  rw [ColumnRef.draft]
  split <;> simp

@[simp] theorem forget_tableRef (ref : TableRef) : ref.draft.forget = ref.draft := by
  cases ref <;> rfl

theorem forget_operand (e : Expr) (d : Draft) :
    (operand e d).forget = operand e.forget d.forget := by
  simp [operand]

theorem forget_isNull (e : Expr) (d : Draft) (negated : Bool) :
    (isNull e d negated).forget = isNull e.forget d.forget negated := by
  simp [isNull, forget_operand]

/-- Whether a comparison becomes a test for missing values is seen from
literals. The values of parameters do not count for that. -/
theorem forget_binary (op : BinaryOp) (left right : Expr) (l r : Draft) :
    (binary t op left right l r).forget =
      binary t op left.forget right.forget l.forget r.forget := by
  simp only [binary, Expr.isNullLiteral_forget, Expr.isScalar_forget, Expr.needsParens_forget]
  split_ifs <;> simp [forget_isNull, forget_operand]

theorem forget_inList (e : Expr) (d : Draft) (items : List Draft) (negated : Bool) :
    (inList e d items negated).forget =
      inList e.forget d.forget (items.map Draft.forget) negated := by
  cases items <;> simp [inList, forget_operand]

theorem forget_inQuery (e : Expr) (d query : Draft) (negated : Bool) :
    (inQuery e d query negated).forget = inQuery e.forget d.forget query.forget negated := by
  simp [inQuery, forget_operand]

theorem forget_between (e low high : Expr) (d l h : Draft) (negated : Bool) :
    (between e low high d l h negated).forget =
      between e.forget low.forget high.forget d.forget l.forget h.forget negated := by
  simp [between, forget_operand]

theorem forget_window (partitionBy orderBy : List Draft) :
    (window partitionBy orderBy).forget =
      window (partitionBy.map Draft.forget) (orderBy.map Draft.forget) := by
  have hFilter : ∀ ds : List Draft, (ds.filter fun d => !d.isEmpty).map Draft.forget =
      (ds.map Draft.forget).filter fun d => !d.isEmpty := by
    intro ds
    simp [List.filter_map, Function.comp_def]
  rw [window, forget_join, hFilter]
  simp [window]

/-- Which form a function call takes is decided by its name. -/
theorem forget_call (name : String) (args : List Draft) (distinct : Bool) (w : Option Draft) :
    (call t name args distinct w).forget =
      call t name (args.map Draft.forget) distinct (w.map Draft.forget) := by
  have hOver : (overWindow t name w).forget = overWindow t name (w.map Draft.forget) := by
    cases w with
    | none => rfl
    | some d =>
        simp only [overWindow, Option.map_some]
        split <;> simp
  simp only [call]
  split <;> simp [hOver]

theorem forget_columns (hs : Except Error (List Heading)) (ds : List Draft) :
    (columns hs ds).forget = columns hs (ds.map Draft.forget) := by
  cases hs with
  | error e => rfl
  | ok hs =>
      have hEach : ∀ (h : Heading) (d : Draft), (h.draft d).forget = h.draft d.forget := by
        intro h d
        simp only [Heading.draft]
        split <;> simp
      simp only [columns, forget_join, List.map_zipWith, List.zipWith_map_right, hEach]

@[simp] theorem forget_limits (limit offset : Option UInt64) :
    (limits limit offset).forget = limits limit offset := by
  cases limit <;> cases offset <;> rfl

@[simp] theorem forget_top (limit : Option UInt64) : (top t limit).forget = top t limit := by
  unfold top
  split <;> rfl

theorem forget_order (sc : Scope) (limited : Bool) (ds : List Draft) :
    (order t sc limited ds).forget = order t sc limited (ds.map Draft.forget) := by
  simp only [order]
  split <;> simp

theorem forget_withClause (ctes : List Cte) (ds : List Draft) :
    (withClause t ctes ds).forget = withClause t (ctesForget ctes) (ds.map Draft.forget) := by
  have hRecursive : ∀ cs : List Cte, (ctesForget cs).any (·.recursive) = cs.any (·.recursive) := by
    intro cs
    induction cs with
    | nil => rfl
    | cons c cs ih =>
        obtain ⟨_, _, _, _⟩ := c
        simp only [ctesForget, List.any_cons, ih]
  have hEmpty : (ctesForget ctes).isEmpty = ctes.isEmpty := by
    rcases ctes with _ | ⟨⟨_, _, _, _⟩, _⟩ <;> rfl
  simp only [withClause, hEmpty, hRecursive]
  split <;> simp

theorem forget_cte (name : String) (columns : List String) (d : Draft) :
    (cte name columns d).forget = cte name columns d.forget := by
  simp only [cte]
  split <;> simp

theorem forget_derived (name : String) (lateral : Bool) (d : Draft) :
    (derived t name lateral d).forget = derived t name lateral d.forget := by
  simp only [derived]
  split <;> simp

theorem forget_sources (items : List FromItem) (ds : List Draft) :
    (sources t items ds).forget =
      sources t (items.map FromItem.forget) (ds.map Draft.forget) := by
  induction items generalizing ds with
  | nil => simp [sources]
  | cons item items ih =>
      cases ds with
      | nil => simp [sources]
      | cons d ds => cases items <;> simp [sources, ih]

theorem forget_apply (kind : JoinKind) (conditional : Bool) (r : Draft) :
    (apply t kind conditional r).forget = apply t kind conditional r.forget := by
  cases kind with
  | right | full => rfl
  | inner | cross | left =>
      simp only [apply]
      split <;> simp

/-- Whether a table is applied is decided by what kind of item it is, so values
play no part. -/
theorem forget_joined (kind : JoinKind) (right : FromItem) (l r : Draft)
    (condition : Option Draft) :
    (joined t kind right l r condition).forget =
      joined t kind right.forget l.forget r.forget (condition.map Draft.forget) := by
  simp only [joined, FromItem.isLateral_forget, isJoin_forget, Option.isSome_map]
  split <;> simp [forget_apply]

end Draft

section Headings

variable {rules : IdentifierRules}

/-- The heading of an expression other than a star: its name with a number that
makes it free, or none at all. A label is always written, a column only gets one
if its name was taken. -/
theorem Expr.heading_of_ne_star (star : Option ColumnSource → List Field) (taken : List String)
    {e : Expr} (h : ∀ source, e ≠ .star source) :
    e.heading rules star taken =
      match e.outputName? with
      | none => .ok ⟨none, [⟨none, e.type⟩]⟩
      | some base => do
        let name ← rules.fresh base taken 0
        return ⟨if e.isLabel ∨ name ≠ base then some name else none, [⟨some name, e.type⟩]⟩ := by
  cases e with
  | star source => exact absurd rfl (h source)
  | literal | column | param | binary | unary | call | caseOf | cast | extract | isNull | inList
  | inQuery | between | existsIn | scalar | label | tuple | raw => rfl

@[simp] theorem Expr.isLabel_forget (e : Expr) : e.forget.isLabel = e.isLabel := by
  cases e <;> rfl

/-- Headings are made from names and types, so they are the same without the
values of parameters. -/
theorem Expr.heading_forget (star : Option ColumnSource → List Field) (taken : List String)
    (e : Expr) : e.forget.heading rules star taken = e.heading rules star taken := by
  by_cases hStar : ∃ source, e = .star source
  · obtain ⟨source, rfl⟩ := hStar
    rfl
  · have hNot : ∀ source, e ≠ .star source := fun source he => hStar ⟨source, he⟩
    have hForget : ∀ source, e.forget ≠ .star source := by
      intro source he
      cases e <;> simp only [forget, reduceCtorEq] at he
      exact hNot _ rfl
    rw [heading_of_ne_star star taken hForget, heading_of_ne_star star taken hNot]
    simp only [outputName?_forget, type_forget, isLabel_forget]

@[simp] theorem headings_forget (star : Option ColumnSource → List Field) (taken : List String)
    (es : List Expr) :
    headings rules star taken (es.map Expr.forget) = headings rules star taken es := by
  induction es generalizing taken with
  | nil => rfl
  | cons e es ih => simp only [List.map_cons, headings, Expr.heading_forget, ih]

@[simp] theorem starView_forget (outermost : Bool) (is : List FromItem) :
    starView outermost (is.map FromItem.forget) = starView outermost is := by
  funext source
  simp [starView]

end Headings

section Scopes

@[simp] theorem Scope.implied_forget (sc : Scope) (columns : List Expr) (condition : Option Expr) :
    sc.implied (columns.map Expr.forget) (condition.map Expr.forget) =
      sc.implied columns condition := by
  have hBoth : columns.map Expr.forget ++ (condition.map Expr.forget).toList =
      (columns ++ condition.toList).map Expr.forget := by
    cases condition <;> simp
  rw [implied, implied, hBoth, mentionedTables_forget]

/-- Which tables a SELECT without a FROM clause implies does not depend on
values. -/
theorem Scope.sources_forget (sc : Scope) (s : Select) :
    sc.sources s.forget = (sc.sources s).map FromItem.forget := by
  obtain ⟨_, _, columns, sources, condition, _, _, _, _, _, _⟩ := s
  cases sources with
  | nil =>
      simp [Scope.sources, Select.forget, sourcesForget, FromItem.forget, Function.comp_def]
  | cons i is => simp [Scope.sources, Select.forget]

@[simp] theorem Scope.providing_forget (sc : Scope) (is : List FromItem) :
    sc.providing (is.map FromItem.forget) = sc.providing is := by
  simp [providing, List.flatMap_map, FromItem.tables_forget]

theorem Select.headings_forget (t : Target) (sc : Scope) (outermost : Bool) (s : Select) :
    s.forget.headings t sc outermost = s.headings t sc outermost := by
  rw [headings, headings, Scope.sources_forget, starView_forget]
  obtain ⟨_, _, columns, _, _, _, _, _, _, _, _⟩ := s
  rw [forget, exprsForget_eq, SqlStatements.headings_forget]

end Scopes

section Tree

variable {t : Target} (pager pager' : Pager)

mutual

/-- To draft an expression without the values of its parameters is to draft it
and forget them. Pages by row numbers are left out, since distinct columns are
found by comparing whole expressions. -/
theorem Expr.draft_forget (ht : t.strategy ≠ .rowNumber) : (e : Expr) → (sc : Scope) →
    e.forget.draft t pager' sc = (e.draft t pager sc).forget
  | .literal _, _ | .column _, _ | .param _, _ | .star none, _ | .star (some _), _ | .raw _, _ => by
      simp [Expr.forget, Expr.draft]
  | .binary _ l r, sc => by
      simp only [Expr.forget, Expr.draft, Draft.forget_binary, Expr.draft_forget ht l sc,
        Expr.draft_forget ht r sc]
  | .unary _ e, sc => by
      simp [Expr.forget, Expr.draft, Draft.unary, Expr.draft_forget ht e sc]
  | .call _ args _ w _, sc => by
      simp only [Expr.forget, Expr.draft, Draft.forget_call, exprDrafts_forget ht args sc,
        windowDraft_forget ht w sc]
  | .caseOf o bs e, sc => by
      simp only [Expr.forget, Expr.draft, optionDraft_forget ht o sc,
        branchDrafts_forget ht bs sc, optionDraft_forget ht e sc, Draft.forget_cons,
        Draft.forget_append, Draft.forget_clause, Draft.forget_text, Draft.forget_nil]
  | .cast e _, sc => by
      simp [Expr.forget, Expr.draft, Expr.draft_forget ht e sc]
  | .extract _ e, sc => by
      simp [Expr.forget, Expr.draft, Draft.extract, Expr.draft_forget ht e sc]
  | .isNull e _, sc => by
      simp only [Expr.forget, Expr.draft, Draft.forget_isNull, Expr.draft_forget ht e sc]
  | .inList e items _, sc => by
      simp only [Expr.forget, Expr.draft, Draft.forget_inList, Expr.draft_forget ht e sc,
        exprDrafts_forget ht items sc]
  | .inQuery e q _, sc => by
      simp only [Expr.forget, Expr.draft, Draft.forget_inQuery, Expr.draft_forget ht e sc,
        Query.draft_forget ht q sc.nested false]
  | .between e l u _, sc => by
      simp only [Expr.forget, Expr.draft, Draft.forget_between, Expr.draft_forget ht e sc,
        Expr.draft_forget ht l sc, Expr.draft_forget ht u sc]
  | .existsIn q _, sc | .scalar q, sc => by
      simp [Expr.forget, Expr.draft, Query.draft_forget ht q sc.nested false]
  | .label e _, sc => by
      simp only [Expr.forget, Expr.draft, Expr.draft_forget ht e sc]
  | .tuple items, sc => by
      simp only [Expr.forget, Expr.draft, exprDrafts_forget ht items sc, Draft.forget_cons,
        Draft.forget_append, Draft.forget_join, Draft.forget_text, Draft.forget_nil]

theorem exprDrafts_forget (ht : t.strategy ≠ .rowNumber) : (es : List Expr) → (sc : Scope) →
    exprDrafts t pager' sc (exprsForget es) = (exprDrafts t pager sc es).map Draft.forget
  | [], _ => rfl
  | e :: es, sc => by
      simp only [exprsForget, exprDrafts, Expr.draft_forget ht e sc, exprDrafts_forget ht es sc,
        List.map_cons]

theorem optionDraft_forget (ht : t.strategy ≠ .rowNumber) : (o : Option Expr) → (sc : Scope) →
    optionDraft t pager' sc (optionForget o) = (optionDraft t pager sc o).map Draft.forget
  | none, _ => rfl
  | some e, sc => by
      simp only [optionForget, optionDraft, Expr.draft_forget ht e sc, Option.map_some]

theorem branchDrafts_forget (ht : t.strategy ≠ .rowNumber) : (bs : List Branch) → (sc : Scope) →
    branchDrafts t pager' sc (branchesForget bs) = (branchDrafts t pager sc bs).forget
  | [], _ => rfl
  | ⟨c, r⟩ :: bs, sc => by
      simp only [branchesForget, branchDrafts, Expr.draft_forget ht c sc,
        Expr.draft_forget ht r sc, branchDrafts_forget ht bs sc, Draft.forget_cons,
        Draft.forget_append, Draft.forget_text]

theorem orderDrafts_forget (ht : t.strategy ≠ .rowNumber) : (os : List OrderTerm) →
    (sc : Scope) →
    orderDrafts t pager' sc (ordersForget os) = (orderDrafts t pager sc os).map Draft.forget
  | [], _ => rfl
  | ⟨e, _, _⟩ :: os, sc => by
      simp only [ordersForget, orderDrafts, Expr.draft_forget ht e sc,
        orderDrafts_forget ht os sc, List.map_cons, Draft.forget_append, Draft.forget_cons,
        Draft.forget_text, Draft.forget_nil]

theorem windowDraft_forget (ht : t.strategy ≠ .rowNumber) : (w : Option Window) → (sc : Scope) →
    windowDraft t pager' sc (windowForget w) = (windowDraft t pager sc w).map Draft.forget
  | none, _ => rfl
  | some ⟨p, o⟩, sc => by
      simp only [windowForget, windowDraft, exprDrafts_forget ht p sc, orderDrafts_forget ht o sc,
        Option.map_some, Draft.forget_window]

theorem FromItem.draft_forget (ht : t.strategy ≠ .rowNumber) : (i : FromItem) → (sc : Scope) →
    i.forget.draft t pager' sc = (i.draft t pager sc).forget
  | .table _, _ | .cte _, _ => by
      simp [FromItem.forget, FromItem.draft]
  | .derived q _ _, sc => by
      simp only [FromItem.forget, FromItem.draft, Draft.forget_derived, Query.draft_forget ht q _ _]
  | .join _ l r c, sc => by
      simp only [FromItem.forget, FromItem.draft, Draft.forget_joined,
        FromItem.draft_forget ht l sc, FromItem.draft_forget ht r sc, optionDraft_forget ht c sc]

theorem sourceDrafts_forget (ht : t.strategy ≠ .rowNumber) : (is : List FromItem) →
    (sc : Scope) →
    sourceDrafts t pager' sc (sourcesForget is) = (sourceDrafts t pager sc is).map Draft.forget
  | [], _ => rfl
  | i :: is, sc => by
      simp only [sourcesForget, sourceDrafts, FromItem.draft_forget ht i sc,
        sourceDrafts_forget ht is sc, List.map_cons]

theorem cteDrafts_forget (ht : t.strategy ≠ .rowNumber) : (cs : List Cte) → (sc : Scope) →
    cteDrafts t pager' sc (ctesForget cs) = (cteDrafts t pager sc cs).map Draft.forget
  | [], _ => rfl
  | ⟨_, _, q, _⟩ :: cs, sc => by
      simp only [ctesForget, cteDrafts, Query.draft_forget ht q sc.nested false,
        cteDrafts_forget ht cs sc, List.map_cons, Draft.forget_cte]

/-- The same for a SELECT, clause by clause. It is drafted as it stands, since
pages by row numbers are left out. -/
theorem Select.draft_forget (ht : t.strategy ≠ .rowNumber) : (s : Select) → (sc : Scope) →
    (outermost : Bool) →
    s.forget.draft t pager' sc outermost = (s.draft t pager sc outermost).forget
  | ⟨ctes, distinct, columns, sources, condition, groupBy, having, orderBy, limit, offset,
      numbered⟩, sc, outermost => by
      have hItems := Scope.sources_forget sc ⟨ctes, distinct, columns, sources, condition, groupBy,
        having, orderBy, limit, offset, numbered⟩
      have hHeadings := Select.headings_forget t sc outermost ⟨ctes, distinct, columns, sources,
        condition, groupBy, having, orderBy, limit, offset, numbered⟩
      simp only [Select.forget] at hItems hHeadings
      have hItemDrafts : ∀ sc', (if (sourcesForget sources).isEmpty then
            (sc.implied (exprsForget columns) (optionForget condition)).map TableRef.draft
          else sourceDrafts t pager' sc' (sourcesForget sources)) =
          (if sources.isEmpty then (sc.implied columns condition).map TableRef.draft
          else sourceDrafts t pager sc' sources).map Draft.forget := by
        intro sc'
        rw [sourceDrafts_forget ht sources sc', sourcesForget_eq, List.isEmpty_map,
          exprsForget_eq, optionForget_eq, Scope.implied_forget]
        split
        · simp [Function.comp_def]
        · rfl
      have hEmpty : (exprsForget columns).isEmpty = columns.isEmpty := by
        rw [exprsForget_eq, List.isEmpty_map]
      -- With `ht` there is no page to make, and the two pagers need not agree.
      simp only [Select.forget, Select.draft, Select.skipsRows, ht, and_false, if_false, hItems,
        hHeadings, hItemDrafts, hEmpty, Scope.providing_forget, cteDrafts_forget ht ctes _,
        exprDrafts_forget ht columns _, optionDraft_forget ht condition _,
        exprDrafts_forget ht groupBy _, optionDraft_forget ht having _,
        orderDrafts_forget ht orderBy _, List.isEmpty_map, ← Draft.forget_sources]
      split
      · rfl
      · split
        · rfl
        · simp only [Draft.forget_append, Draft.forget_cons, Draft.forget_text, Draft.forget_nil,
            Draft.forget_withClause, Draft.forget_top, Draft.forget_columns, Draft.forget_ite,
            Draft.forget_clause, Draft.forget_listClause, Draft.forget_order, Draft.forget_limits]

theorem Query.draft_forget (ht : t.strategy ≠ .rowNumber) : (q : Query) → (sc : Scope) →
    (outermost : Bool) →
    q.forget.draft t pager' sc outermost = (q.draft t pager sc outermost).forget
  | .select s, sc, outermost => by
      simp only [Query.forget, Query.draft, Select.draft_forget ht s sc outermost]
  | .compound _ members orderBy _ _, sc, outermost => by
      simp only [Query.forget, Query.draft, memberDrafts_forget ht members sc outermost 1,
        orderDrafts_forget ht orderBy sc]
      split
      · rfl
      · simp [Draft.forget_order]

theorem memberDrafts_forget (ht : t.strategy ≠ .rowNumber) : (qs : List Query) → (sc : Scope) →
    (outermost : Bool) → (number : Nat) →
    memberDrafts t pager' sc outermost number (queriesForget qs) =
      (memberDrafts t pager sc outermost number qs).map Draft.forget
  | [], _, _, _ => rfl
  | q :: qs, sc, outermost, number => by
      simp only [queriesForget, memberDrafts, Query.isRestricted_forget, Query.isCompound_forget,
        Query.draft_forget ht q sc.isolated false, Query.draft_forget ht q sc outermost,
        memberDrafts_forget ht qs sc false (number + 1), List.map_cons]
      split <;> simp

end

end Tree

section Changes

variable {t : Target} (pager pager' : Pager)

theorem Draft.forget_returning (ht : t.strategy ≠ .rowNumber) (es : List Expr) :
    Draft.returning t pager' (exprsForget es) = (Draft.returning t pager es).forget := by
  have hEmpty : (exprsForget es).isEmpty = es.isEmpty := by
    rw [exprsForget_eq, List.isEmpty_map]
  have hHeadings : headings t.rules (starView true []) [] (exprsForget es) =
      headings t.rules (starView true []) [] es := by
    rw [exprsForget_eq, headings_forget]
  simp only [Draft.returning, hEmpty, hHeadings, exprDrafts_forget pager pager' ht es]
  split
  · rfl
  · split
    · rw [forget_cons, forget_columns]
      rfl
    · rfl

theorem Insert.cellDraft_forget (ht : t.strategy ≠ .rowNumber) (generated : Bool) (e : Expr) :
    cellDraft t pager' generated e.forget = (cellDraft t pager generated e).forget := by
  cases e with
  | param p => rfl
  | literal | column | binary | unary | call | caseOf | cast | extract | isNull | inList
  | inQuery | between | existsIn | scalar | label | star | tuple | raw =>
      exact Expr.draft_forget pager pager' ht _ .outermost

theorem Insert.rowDraft_forget (ht : t.strategy ≠ .rowNumber) (generated : Option Nat)
    (row : List Expr) :
    rowDraft t pager' generated (exprsForget row) = (rowDraft t pager generated row).forget := by
  have hCells : (exprsForget row).mapIdx (fun i e => cellDraft t pager' (generated = some i) e) =
      (row.mapIdx fun i e => cellDraft t pager (generated = some i) e).map Draft.forget := by
    refine List.ext_getElem? fun i => ?_
    rw [exprsForget_eq]
    simp only [List.getElem?_mapIdx, List.getElem?_map, Option.map_map]
    congr 1
    funext e
    exact cellDraft_forget pager pager' ht _ e
  rw [rowDraft, rowDraft, hCells, Draft.forget_parens, Draft.forget_join]

theorem Insert.sourceDraft_forget (ht : t.strategy ≠ .rowNumber) (table : Table)
    (source : InsertSource) :
    sourceDraft t pager' table source.forget = (sourceDraft t pager table source).forget := by
  cases source with
  | defaults =>
      simp only [InsertSource.forget, sourceDraft]
      split_ifs <;> rfl
  | rows columns cells =>
      have hRows : ∀ generated, (cells.map exprsForget).map (rowDraft t pager' generated) =
          (cells.map (rowDraft t pager generated)).map Draft.forget := by
        intro generated
        simp only [List.map_map]
        congr 1
        funext row
        exact rowDraft_forget pager pager' ht generated row
      simp only [InsertSource.forget, sourceDraft, List.length_map, hRows]
      split <;> simp
  | query columns q =>
      simp [InsertSource.forget, sourceDraft, Query.draft_forget pager pager' ht q]

/-- Forgetting values and drafting an insertion can be exchanged. Which cells
are marked depends on their columns only. -/
theorem Insert.draft_forget (ht : t.strategy ≠ .rowNumber) (s : Insert) :
    s.forget.draft t pager' = (s.draft t pager).forget := by
  have hSource := sourceDraft_forget pager pager' ht s.table s.source
  have hReturning := Draft.forget_returning pager pager' ht s.returning
  simp only [Insert.forget, Insert.draft, hSource, hReturning]
  simp

theorem Update.assignments_forget (ht : t.strategy ≠ .rowNumber) (s : Update) :
    (s.forget.assignments.map fun (name, e) =>
        Piece.name name :: Piece.text " = " :: e.draft t pager' .outermost) =
      (s.assignments.map fun (name, e) =>
        Piece.name name :: Piece.text " = " :: e.draft t pager .outermost).map Draft.forget := by
  simp only [Update.forget, List.map_map]
  refine List.map_congr_left fun assignment _ => ?_
  obtain ⟨name, e⟩ := assignment
  simp [Expr.draft_forget pager pager' ht e]

theorem Update.draft_forget (ht : t.strategy ≠ .rowNumber) (s : Update) :
    s.forget.draft t pager' = (s.draft t pager).forget := by
  have hCondition := optionDraft_forget pager pager' ht s.condition .outermost
  have hReturning := Draft.forget_returning pager pager' ht s.returning
  simp only [Update.draft, assignments_forget pager pager' ht s]
  simp only [Update.forget, hCondition, hReturning]
  simp

theorem Delete.draft_forget (ht : t.strategy ≠ .rowNumber) (s : Delete) :
    s.forget.draft t pager' = (s.draft t pager).forget := by
  have hCondition := optionDraft_forget pager pager' ht s.condition .outermost
  have hReturning := Draft.forget_returning pager pager' ht s.returning
  simp only [Delete.forget, Delete.draft, hCondition, hReturning]
  simp

end Changes

/-- A draft without parameters has nothing to forget. -/
theorem Draft.forget_eq_self {d : Draft} (h : d.params = []) : d.forget = d := by
  induction d with
  | nil => rfl
  | cons piece d ih =>
      cases piece with
      | param p generated => cases h
      | text | name | table | source | qualifier | stop => exact congrArg _ (ih h)

/-- The draft of a statement takes no notice of values, unless pages are picked
by row numbers. Then equal columns may be told by their values. -/
theorem Statement.draft_forget {t : Target} (ht : t.strategy ≠ .rowNumber) (s : Statement) :
    s.forget.draft t = (s.draft t).forget := by
  have hDefinition : s.binds = [] → (s.draft t).forget = s.draft t := by
    intro hBinds
    refine Draft.forget_eq_self (List.subset_nil.mp ?_)
    rw [← hBinds]
    exact s.params_draft_subset t
  cases s with
  | query q => exact Query.draft_forget _ _ ht q .outermost true
  | insert s => exact Insert.draft_forget _ _ ht s
  | update s => exact Update.draft_forget _ _ ht s
  | delete s => exact Delete.draft_forget _ _ ht s
  | createTable | dropTable | createIndex | dropIndex => exact (hDefinition rfl).symm

section Outputs

variable {t : Target}

theorem Select.plainOutputs_forget (s : Select) : s.forget.plainOutputs t = s.plainOutputs t := by
  rw [plainOutputs, plainOutputs, headings_forget]

/-- The columns of the result row are known without values, except where pages
go by row numbers. -/
theorem Select.outputs_forget (ht : t.strategy ≠ .rowNumber) (s : Select) :
    s.forget.outputs t = s.outputs t := by
  have hPlain : ∀ s : Select, s.outputs t = s.plainOutputs t := fun _ => if_neg fun h => ht h.2
  rw [hPlain, hPlain, plainOutputs_forget]

theorem Query.outputs_forget (ht : t.strategy ≠ .rowNumber) : (q : Query) →
    q.forget.outputs t = q.outputs t
  | .select s => s.outputs_forget ht
  | .compound _ [] _ _ _ => rfl
  | .compound _ (first :: _) _ _ _ => by
      have hWrapped : first.forget.wrapped = first.wrapped.forget := rfl
      simp only [Query.forget, queriesForget, Query.outputs, isRestricted_forget, hWrapped,
        Select.plainOutputs_forget, Query.outputs_forget ht first]

theorem returnedOutputs_forget (es : List Expr) :
    returnedOutputs t (exprsForget es) = returnedOutputs t es := by
  rw [returnedOutputs, returnedOutputs, exprsForget_eq, headings_forget]

/-- The columns of the rows that a statement yields take no notice of values,
with the same exception. -/
theorem Statement.outputs_forget (ht : t.strategy ≠ .rowNumber) (s : Statement) :
    s.forget.outputs t = s.outputs t := by
  cases s with
  | query q => exact q.outputs_forget ht
  | insert s => exact returnedOutputs_forget s.returning
  | update s => exact returnedOutputs_forget s.returning
  | delete s => exact returnedOutputs_forget s.returning
  | createTable | dropTable | createIndex | dropIndex => rfl

end Outputs

end SqlStatements
