import SqlStatements.Tree.Basic

/-! Everything met on a walk through a tree, in the order of the clauses. A node
comes before its parts. Whether queries inside expressions are entered is left
to the caller. -/
namespace SqlStatements

/-- What a walk meets. -/
inductive Visit where
  | expr (e : Expr)
  | bind (p : BindParam)
  | table (t : Table)
  | select (s : Select)

/-- The table behind a qualifier, as something met. -/
def ColumnSource.visits : Option ColumnSource → List Visit
  | some (.table ref) => [.table ref.table]
  | _ => []

mutual

/-- A walk through an expression. -/
def Expr.visits (enter : Bool) : Expr → List Visit
  | .literal v => [.expr (.literal v)]
  | .raw sql => [.expr (.raw sql)]
  | .column ref => .expr (.column ref) :: ColumnSource.visits ref.source
  | .star source => .expr (.star source) :: ColumnSource.visits source
  | .param bind => [.expr (.param bind), .bind bind]
  | .binary op l r => .expr (.binary op l r) :: (l.visits enter ++ r.visits enter)
  | .unary op e => .expr (.unary op e) :: e.visits enter
  | .call n args d w t =>
    .expr (.call n args d w t) :: (exprsVisits enter args ++ windowVisits enter w)
  | .caseOf o bs e =>
    .expr (.caseOf o bs e) ::
      (optionVisits enter o ++ branchesVisits enter bs ++ optionVisits enter e)
  | .cast e t => .expr (.cast e t) :: e.visits enter
  | .extract f e => .expr (.extract f e) :: e.visits enter
  | .isNull e n => .expr (.isNull e n) :: e.visits enter
  | .label e n => .expr (.label e n) :: e.visits enter
  | .inList e items n => .expr (.inList e items n) :: (e.visits enter ++ exprsVisits enter items)
  | .inQuery e q n =>
    .expr (.inQuery e q n) :: (e.visits enter ++ if enter then q.visits enter else [])
  | .between e l h n =>
    .expr (.between e l h n) :: (e.visits enter ++ l.visits enter ++ h.visits enter)
  | .existsIn q n => .expr (.existsIn q n) :: (if enter then q.visits enter else [])
  | .scalar q => .expr (.scalar q) :: (if enter then q.visits enter else [])
  | .tuple items => .expr (.tuple items) :: exprsVisits enter items

def exprsVisits (enter : Bool) : List Expr → List Visit
  | [] => []
  | e :: es => e.visits enter ++ exprsVisits enter es

def optionVisits (enter : Bool) : Option Expr → List Visit
  | none => []
  | some e => e.visits enter

def branchesVisits (enter : Bool) : List Branch → List Visit
  | [] => []
  | ⟨c, r⟩ :: bs => c.visits enter ++ r.visits enter ++ branchesVisits enter bs

def ordersVisits (enter : Bool) : List OrderTerm → List Visit
  | [] => []
  | ⟨e, _, _⟩ :: os => e.visits enter ++ ordersVisits enter os

def windowVisits (enter : Bool) : Option Window → List Visit
  | none => []
  | some ⟨p, o⟩ => exprsVisits enter p ++ ordersVisits enter o

def FromItem.visits (enter : Bool) : FromItem → List Visit
  | .table ref => [.table ref.table]
  | .derived q _ _ => q.visits enter
  | .join _ l r c => l.visits enter ++ r.visits enter ++ optionVisits enter c
  | .cte _ => []

def sourcesVisits (enter : Bool) : List FromItem → List Visit
  | [] => []
  | i :: is => i.visits enter ++ sourcesVisits enter is

def ctesVisits (enter : Bool) : List Cte → List Visit
  | [] => []
  | ⟨_, _, q, _⟩ :: rest => q.visits enter ++ ctesVisits enter rest

/-- A walk through a SELECT, clause by clause. -/
def Select.visits (enter : Bool) : Select → List Visit
  | ⟨ctes, distinct, columns, sources, condition, groupBy, having, orderBy, limit, offset,
      numbered⟩ =>
    .select ⟨ctes, distinct, columns, sources, condition, groupBy, having, orderBy, limit, offset,
      numbered⟩ ::
      (ctesVisits enter ctes ++ exprsVisits enter columns ++ sourcesVisits enter sources ++
        optionVisits enter condition ++ exprsVisits enter groupBy ++ optionVisits enter having ++
        ordersVisits enter orderBy)

def Query.visits (enter : Bool) : Query → List Visit
  | .select s => s.visits enter
  | .compound _ members orderBy _ _ => queriesVisits enter members ++ ordersVisits enter orderBy

def queriesVisits (enter : Bool) : List Query → List Visit
  | [] => []
  | q :: qs => q.visits enter ++ queriesVisits enter qs

end

def Expr.word : Expr → String
  | .literal _ => "literal"
  | .column _ => "column"
  | .param _ => "bind"
  | .binary _ _ _ => "binary"
  | .unary _ _ => "unary"
  | .call _ _ _ _ _ => "function"
  | .caseOf _ _ _ => "case"
  | .cast _ _ => "cast"
  | .extract _ _ => "extract"
  | .isNull _ _ => "is_null"
  | .inList _ _ _ => "in_list"
  | .inQuery _ _ _ => "in_subquery"
  | .between _ _ _ _ => "between"
  | .existsIn _ _ => "exists"
  | .scalar _ => "subquery"
  | .label _ _ => "label"
  | .star _ => "wildcard"
  | .tuple _ => "tuple"
  | .raw _ => "raw"

def Visit.line : Visit → String
  | .expr e => "expr " ++ e.word
  | .bind p => "bind " ++ p.key ++ " " ++ toString p.unique
  | .table t => "table " ++ t.key.text
  | .select s => "select " ++ toString s.columns.length

def Visit.bind? : Visit → Option BindParam
  | .bind p => some p
  | _ => none

def Visit.select? : Visit → Option Select
  | .select s => some s
  | _ => none

/-- The table that a column or a star belongs to, if the expression met is
one. -/
def Visit.tableRef? : Visit → Option TableRef
  | .expr (.column ⟨some (.table ref), _, _⟩) => some ref
  | .expr (.star (some (.table ref))) => some ref
  | _ => none

/-- The tables that expressions refer to, in the order of their first mention,
without those mentioned only inside nested queries. -/
def mentionedTables (exprs : List Expr) : List TableRef :=
  ((exprsVisits false exprs).filterMap Visit.tableRef?).foldl
    (fun refs ref => if refs.contains ref then refs else refs ++ [ref]) []

end SqlStatements
