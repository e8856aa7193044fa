import SqlStatements.Draft.Change
import SqlStatements.Draft.Definition

/-! Drafts of whole statements, and the columns of the rows they yield. -/
namespace SqlStatements

namespace Select

/-- The columns of a SELECT that is drafted as it stands. -/
def plainOutputs (t : Target) (s : Select) : List OutputField :=
  match s.headings t .outermost true with
  | .ok hs => hs.flatMap (·.fields)
  | .error _ => []

/-- The columns of an outermost SELECT. -/
def outputs (t : Target) (s : Select) : List OutputField :=
  if s.skipsRows ∧ t.strategy = .rowNumber then
    match s.paged t.profile.name with
    | .ok page => page.plainOutputs t
    | .error _ => []
  else s.plainOutputs t

end Select

/-- The SELECT of all columns of a query in a derived table. -/
def Query.wrapped (q : Query) : Select :=
  { Select.ofColumns [.star none] with sources := [.derived q "anon_1" false] }

/-- The columns of an outermost query: those of its first member. -/
def Query.outputs (t : Target) : Query → List OutputField
  | .select s => s.outputs t
  | .compound _ [] _ _ _ => []
  | .compound _ (first :: _) _ _ _ =>
    if first.isRestricted then first.wrapped.plainOutputs t else first.outputs t

/-- The columns that a change of rows hands back. -/
def returnedOutputs (t : Target) (exprs : List Expr) : List OutputField :=
  match headings t.rules (starView true []) [] exprs with
  | .ok hs => hs.flatMap (·.fields)
  | .error _ => []

namespace Statement

/-- The columns of the rows that a statement yields. -/
def outputs (t : Target) : Statement → List OutputField
  | .query q => q.outputs t
  | .insert s => returnedOutputs t s.returning
  | .update s => returnedOutputs t s.returning
  | .delete s => returnedOutputs t s.returning
  | .createTable _ _ | .dropTable _ _ | .createIndex _ | .dropIndex _ => []

/-- The number of SELECTs that skip rows. Each gets row numbers at most once. -/
def pages (s : Statement) : Nat := s.selects.countP Select.skipsRows

def draft (t : Target) (s : Statement) : Draft :=
  let pager := pager t s.pages
  match s with
  | .query q => q.draft t pager .outermost true
  | .insert s => s.draft t pager
  | .update s => s.draft t pager
  | .delete s => s.draft t pager
  | .createTable table ifNotExists => table.createDraft t ifNotExists
  | .dropTable table ifExists => table.dropDraft ifExists
  | .createIndex index => index.createDraft t
  | .dropIndex index => index.dropDraft t

end Statement

end SqlStatements
