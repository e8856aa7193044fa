import SqlStatements.Draft.Piece

/-! The names of the columns in a result row. No two columns share one: a name
that is taken gets a number, and the column is labelled with the result. -/
namespace SqlStatements

/-- A column of a result row. Expressions without a name have none there. -/
structure OutputField where
  name : Option String
  type : SqlType
deriving DecidableEq

/-- What one selected expression contributes to the result row, and the label it
is given in the text. -/
structure Heading where
  label : Option String
  fields : List OutputField
deriving DecidableEq

/-- The names that are taken by a heading. -/
def Heading.names (h : Heading) : List String := h.fields.filterMap (·.name)

/-- Free names for several columns, one after the other. -/
def IdentifierRules.freshAll (rules : IdentifierRules) (taken : List String) :
    List String → Except Error (List String)
  | [] => .ok []
  | base :: rest => do
    let name ← rules.fresh base taken 0
    return name :: (← rules.freshAll (name :: taken) rest)

def Expr.isLabel : Expr → Bool
  | .label _ _ => true
  | _ => false

/-- The heading of a selected expression, next to names that are taken. A label
is always written; a column is labelled when its own name is taken. -/
def Expr.heading (rules : IdentifierRules) (star : Option ColumnSource → List Field)
    (taken : List String) : Expr → Except Error Heading
  | .star source => do
    let fields := star source
    let names ← rules.freshAll taken (fields.map (·.1))
    return ⟨none, List.zipWith (fun name field => ⟨some name, field.2⟩) names fields⟩
  | e =>
    match e.outputName? with
    | none => .ok ⟨none, [⟨none, e.type⟩]⟩
    | some base => do
      let name ← rules.fresh base taken 0
      return ⟨if e.isLabel ∨ name ≠ base then some name else none, [⟨some name, e.type⟩]⟩

def headings (rules : IdentifierRules) (star : Option ColumnSource → List Field)
    (taken : List String) : List Expr → Except Error (List Heading)
  | [] => .ok []
  | e :: es => do
    let h ← e.heading rules star taken
    return h :: (← headings rules star (h.names ++ taken) es)

/-- What a star stands for in the outermost query. In a nested one nobody
asks. -/
def starView (outermost : Bool) (sources : List FromItem) (source : Option ColumnSource) :
    List Field :=
  if outermost then starFields source sources else []

/-- A selected expression under its heading. -/
def Heading.draft (h : Heading) (d : Draft) : Draft :=
  match h.label with
  | some label => d ++ [.text " AS ", .name label]
  | none => d

def Draft.columns (hs : Except Error (List Heading)) (ds : List Draft) : Draft :=
  match hs with
  | .ok hs => join ", " (List.zipWith Heading.draft hs ds)
  | .error e => [.stop e]

end SqlStatements
