import SqlStatements.Draft.Operand
import SqlStatements.Draft.Paging
import SqlStatements.Draft.Scope

/-! Drafts of expressions and queries. A SELECT whose page has to be picked by
row numbers is first turned into one that does so; how that one is drafted is a
parameter of the recursion, which is then applied once for every such SELECT. -/
namespace SqlStatements

/-- How a SELECT with row numbers is drafted, given its place and whether it is
the outermost query. -/
abbrev Pager := Scope → Bool → Select → Draft

namespace Draft

/-- A row limit at the end of a query. -/
def limits (limit offset : Option UInt64) : Draft :=
  (limit.map fun n => Piece.text (" LIMIT " ++ toString n.toNat)).toList ++
    (offset.map fun n => Piece.text (" OFFSET " ++ toString n.toNat)).toList

/-- A row limit in front of the columns. -/
def top (t : Target) (limit : Option UInt64) : Draft :=
  match limit, t.strategy with
  | some _, .limitOffset => []
  | some n, _ => [.text ("TOP " ++ toString n.toNat ++ " ")]
  | none, _ => []

/-- An order, where it is kept. -/
def order (t : Target) (sc : Scope) (limited : Bool) (terms : List Draft) : Draft :=
  if sc.keepsOrder t limited then listClause " ORDER BY " terms else []

/-- Common table expressions in front of a SELECT. -/
def withClause (t : Target) (ctes : List Cte) (ds : List Draft) : Draft :=
  if ctes.isEmpty then []
  else
    let word :=
      if (ctes.any (·.recursive)) && t.profile.recursiveWord then "WITH RECURSIVE " else "WITH "
    .text word :: (join ", " ds ++ [.text " "])

def cte (name : String) (columns : List String) (query : Draft) : Draft :=
  .name name :: ((if columns.isEmpty then [] else .text " (" :: (names columns ++ [.text ")"])) ++
    .text " AS (" :: (query ++ [.text ")"]))

/-- A derived table. One that sees its neighbours may need a word for that. -/
def derived (t : Target) (name : String) (lateral : Bool) (query : Draft) : Draft :=
  if lateral ∧ t.caps.lateral = .unsupported then [.stop (t.unsupported (.lateral name))]
  else
    .text (if lateral ∧ t.caps.lateral = .keyword then "LATERAL (" else "(") ::
      (query ++ [.text ") AS ", .name name])

/-- The items of a FROM clause. A derived table that sees those before it may
have to be applied to them. -/
def sources (t : Target) : List FromItem → List Draft → Draft
  | _ :: items, d :: ds =>
    let next :=
      match items with
      | [] => []
      | other :: _ =>
        [.text (if other.isLateral ∧ t.caps.lateral = .apply then " CROSS APPLY " else ", ")]
    d ++ next ++ sources t items ds
  | _, _ => []

/-- The right-hand side of a join with a table that is applied to the left. -/
def apply (t : Target) (kind : JoinKind) (conditional : Bool) (right : Draft) : Draft :=
  match kind with
  | .right | .full => [.stop (t.unsupported (.lateralJoin kind.sql))]
  | .inner | .cross | .left =>
    if conditional then [.stop (t.unsupported .lateralCondition)]
    else .text (if kind = .left then " OUTER APPLY " else " CROSS APPLY ") :: right

def isJoin : FromItem → Bool
  | .join _ _ _ _ => true
  | _ => false

def joined (t : Target) (kind : JoinKind) (right : FromItem) (l r : Draft)
    (condition : Option Draft) : Draft :=
  l ++
    if right.isLateral ∧ t.caps.lateral = .apply then apply t kind condition.isSome r
    else .text (" " ++ kind.sql ++ " ") :: (r.parens (isJoin right) ++ clause " ON " condition)

end Draft

/-- Whether the query is a single SELECT with an order or a limit of its own. -/
def Query.isRestricted : Query → Bool
  | .select s => s.isRestricted
  | .compound _ _ _ _ _ => false

/-- Whether the query has members. -/
def Query.isCompound : Query → Bool
  | .compound _ _ _ _ _ => true
  | .select _ => false

mutual

def Expr.draft (t : Target) (pager : Pager) (sc : Scope) : Expr → Draft
  | .literal v => Draft.ofExcept (t.profile.literalText t.caps v.type v)
  | .column ref => ref.draft
  | .param bind => [.param bind false]
  | .binary op l r => Draft.binary t op l r (l.draft t pager sc) (r.draft t pager sc)
  | .unary op e => Draft.unary op e (e.draft t pager sc)
  | .call name args distinct w _ =>
    Draft.call t name (exprDrafts t pager sc args) distinct (windowDraft t pager sc w)
  | .caseOf o bs e =>
    .text "CASE" :: (Draft.clause " " (optionDraft t pager sc o) ++ branchDrafts t pager sc bs ++
      Draft.clause " ELSE " (optionDraft t pager sc e) ++ [.text " END"])
  | .cast e type =>
    .text "CAST(" :: (e.draft t pager sc ++
      [.text (" AS " ++ t.profile.typeName t.caps type ++ ")")])
  | .extract field e => Draft.extract t field (e.draft t pager sc)
  | .isNull e negated => Draft.isNull e (e.draft t pager sc) negated
  | .inList e items negated =>
    Draft.inList e (e.draft t pager sc) (exprDrafts t pager sc items) negated
  | .inQuery e q negated =>
    Draft.inQuery e (e.draft t pager sc) (q.draft t pager sc.nested false) negated
  | .between e l h negated =>
    Draft.between e l h (e.draft t pager sc) (l.draft t pager sc) (h.draft t pager sc) negated
  | .existsIn q negated =>
    .text (negation negated ++ "EXISTS (") :: (q.draft t pager sc.nested false ++ [.text ")"])
  | .scalar q => .text "(" :: (q.draft t pager sc.nested false ++ [.text ")"])
  | .label e _ => e.draft t pager sc
  | .star none => [.text "*"]
  | .star (some source) => source.draft ++ [.text ".*"]
  | .tuple items => .text "(" :: (Draft.join ", " (exprDrafts t pager sc items) ++ [.text ")"])
  | .raw sql => [.text sql]

def exprDrafts (t : Target) (pager : Pager) (sc : Scope) : List Expr → List Draft
  | [] => []
  | e :: es => e.draft t pager sc :: exprDrafts t pager sc es

def optionDraft (t : Target) (pager : Pager) (sc : Scope) : Option Expr → Option Draft
  | none => none
  | some e => some (e.draft t pager sc)

def branchDrafts (t : Target) (pager : Pager) (sc : Scope) : List Branch → Draft
  | [] => []
  | ⟨c, r⟩ :: bs =>
    .text " WHEN " :: (c.draft t pager sc ++ .text " THEN " :: (r.draft t pager sc ++
      branchDrafts t pager sc bs))

def orderDrafts (t : Target) (pager : Pager) (sc : Scope) : List OrderTerm → List Draft
  | [] => []
  | ⟨e, direction, nulls⟩ :: rest =>
    (e.draft t pager sc ++ [.text (OrderTerm.suffix direction nulls)]) ::
      orderDrafts t pager sc rest

def windowDraft (t : Target) (pager : Pager) (sc : Scope) : Option Window → Option Draft
  | none => none
  | some ⟨partitionBy, orderBy⟩ =>
    some (Draft.window (exprDrafts t pager sc partitionBy) (orderDrafts t pager sc orderBy))

def FromItem.draft (t : Target) (pager : Pager) (sc : Scope) : FromItem → Draft
  | .table ref => ref.draft
  | .derived q name lateral =>
    Draft.derived t name lateral
      (q.draft t pager (if lateral then sc.nested else sc.isolated) false)
  | .join kind l r condition =>
    Draft.joined t kind r (l.draft t pager sc) (r.draft t pager sc)
      (optionDraft t pager sc condition)
  | .cte name => [.name name]

def sourceDrafts (t : Target) (pager : Pager) (sc : Scope) : List FromItem → List Draft
  | [] => []
  | item :: items => item.draft t pager sc :: sourceDrafts t pager sc items

def cteDrafts (t : Target) (pager : Pager) (sc : Scope) : List Cte → List Draft
  | [] => []
  | ⟨name, columns, q, _⟩ :: rest =>
    Draft.cte name columns (q.draft t pager sc.nested false) :: cteDrafts t pager sc rest

def Select.draft (t : Target) (pager : Pager) (sc : Scope) (outermost : Bool) : Select → Draft
  | ⟨ctes, distinct, columns, sources, condition, groupBy, having, orderBy, limit, offset,
      numbered⟩ =>
    let s : Select := ⟨ctes, distinct, columns, sources, condition, groupBy, having, orderBy,
      limit, offset, numbered⟩
    if s.skipsRows ∧ t.strategy = .top then [.stop (t.unsupported .offsetWithoutWindows)]
    else if s.skipsRows ∧ t.strategy = .rowNumber then
      match s.paged t.profile.name with
      | .ok page => pager sc outermost page
      | .error e => [.stop e]
    else if columns.isEmpty then [.stop (.conflict .emptySelect)]
    else
      let items := sc.sources s
      let sc' := sc.providing items
      let itemDrafts :=
        if sources.isEmpty then (sc.implied columns condition).map TableRef.draft
        else sourceDrafts t pager sc' sources
      Draft.withClause t ctes (cteDrafts t pager sc' ctes) ++
        .text (if distinct then "SELECT DISTINCT " else "SELECT ") :: (Draft.top t limit ++
        Draft.columns (s.headings t sc outermost) (exprDrafts t pager sc' columns) ++
        (if items.isEmpty then [] else .text " FROM " :: Draft.sources t items itemDrafts) ++
        Draft.clause " WHERE " (optionDraft t pager sc' condition) ++
        Draft.listClause " GROUP BY " (exprDrafts t pager sc' groupBy) ++
        Draft.clause " HAVING " (optionDraft t pager sc' having) ++
        Draft.order t sc (limit.isSome || offset.isSome) (orderDrafts t pager sc' orderBy) ++
        if t.strategy = .limitOffset then Draft.limits limit offset else [])

def Query.draft (t : Target) (pager : Pager) (sc : Scope) (outermost : Bool) : Query → Draft
  | .select s => s.draft t pager sc outermost
  | .compound op members orderBy limit offset =>
    let limited := limit.isSome || offset.isSome
    if limited ∧ t.strategy ≠ .limitOffset then
      [.stop (t.unsupported (.compoundLimit op.sql))]
    else
      Draft.join (" " ++ op.sql ++ " ") (memberDrafts t pager sc outermost 1 members) ++
        Draft.order t sc limited (orderDrafts t pager sc orderBy) ++ Draft.limits limit offset

/-- The drafts of the members of a compound query, counted from a given number.
Only the first is outermost. The order and the limit of a member are its own
when it stands in a derived table. -/
def memberDrafts (t : Target) (pager : Pager) (sc : Scope) (outermost : Bool) (number : Nat) :
    List Query → List Draft
  | [] => []
  | q :: qs =>
    (if q.isRestricted then
      .text "SELECT * FROM (" :: (q.draft t pager sc.isolated false ++
        [.text ") AS ", .name ("anon_" ++ toString number)])
    else Draft.parens q.isCompound (q.draft t pager sc outermost)) ::
      memberDrafts t pager sc false (number + 1) qs

end

/-- How SELECTs with row numbers are drafted, up to a depth of such SELECTs in
each other. -/
def pager (t : Target) : Nat → Pager
  | 0 => fun _ _ _ => [.stop (.conflict .unboundedPaging)]
  | depth + 1 => fun sc outermost s => s.draft t (pager t depth) sc outermost

end SqlStatements
