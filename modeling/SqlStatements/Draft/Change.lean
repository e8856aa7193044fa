import SqlStatements.Draft.Query

/-! Drafts of insertions, updates and deletions. -/
namespace SqlStatements

/-- The clause that hands back values. -/
def Draft.returning (t : Target) (pager : Pager) (exprs : List Expr) : Draft :=
  if exprs.isEmpty then []
  else if t.caps.returning then
    .text " RETURNING " :: Draft.columns (headings t.rules (starView true []) [] exprs)
      (exprDrafts t pager .outermost exprs)
  else [.stop (t.unsupported .returning)]

namespace Insert

/-- The place of the generated column among the columns of an insertion. -/
def generatedAt (table : Table) (columns : List String) : Option Nat :=
  table.autoIncrementColumn?.bind fun c => columns.findIdx? (· == c.name)

/-- A cell. A parameter for the generated column is marked. -/
def cellDraft (t : Target) (pager : Pager) (generated : Bool) : Expr → Draft
  | .param bind => [.param bind generated]
  | e => e.draft t pager .outermost

def rowDraft (t : Target) (pager : Pager) (generated : Option Nat) (row : List Expr) : Draft :=
  Draft.parens true <| Draft.join ", " <|
    row.mapIdx fun i e => cellDraft t pager (generated = some i) e

def sourceDraft (t : Target) (pager : Pager) (table : Table) : InsertSource → Draft
  | .defaults =>
    if t.caps.defaultValues then [.text " DEFAULT VALUES"]
    else if t.caps.emptyInsert then [.text " () VALUES ()"]
    else [.stop (t.unsupported (.defaultValues table.name))]
  | .rows columns cells =>
    if 1 < cells.length ∧ t.caps.multiRow = false then
      [.stop (t.unsupported (.multiRow cells.length))]
    else
      .text " (" :: (Draft.names columns ++ .text ") VALUES " ::
        Draft.join ", " (cells.map (rowDraft t pager (generatedAt table columns))))
  | .query columns q =>
    .text " (" :: (Draft.names columns ++ .text ") " :: q.draft t pager .outermost false)

def draft (t : Target) (pager : Pager) (s : Insert) : Draft :=
  .text "INSERT INTO " :: .table s.table ::
    (sourceDraft t pager s.table s.source ++ Draft.returning t pager s.returning)

end Insert

def Update.draft (t : Target) (pager : Pager) (s : Update) : Draft :=
  let assignments := s.assignments.map fun (name, e) =>
    .name name :: .text " = " :: e.draft t pager .outermost
  .text "UPDATE " :: .table s.table :: .text " SET " :: (Draft.join ", " assignments ++
    Draft.clause " WHERE " (optionDraft t pager .outermost s.condition) ++
    Draft.returning t pager s.returning)

def Delete.draft (t : Target) (pager : Pager) (s : Delete) : Draft :=
  .text "DELETE FROM " :: .table s.table ::
    (Draft.clause " WHERE " (optionDraft t pager .outermost s.condition) ++
      Draft.returning t pager s.returning)

end SqlStatements
