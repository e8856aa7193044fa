import SqlStatements.Tree.Basic

/-! The logical type of an expression, and the name it has in a result row. -/
namespace SqlStatements

def Value.type : Value → SqlType
  | .null => .null
  | .bool _ => .of .boolean
  | .int _ => .of .integer
  | .float _ => .of .float
  | .decimal _ => .of .numeric
  | .text _ => .of .string
  | .blob _ => .of .binary
  | .date _ => .of .date
  | .dateTime _ => .of .dateTime
  | .time _ => .of .time

mutual

/-- The type of an expression, as far as its parts tell. -/
def Expr.type : Expr → SqlType
  | .literal value => value.type
  | .column ref => ref.type
  | .param bind => bind.type
  | .binary op left _ =>
    if op.isComparison then .of .boolean
    else if op = .concat then .of .string
    else left.type
  | .unary .not _ => .of .boolean
  | .unary _ operand => operand.type
  | .call _ _ _ _ type => type
  | .caseOf _ (⟨_, result⟩ :: _) _ => result.type
  | .caseOf _ [] (some otherwise) => otherwise.type
  | .caseOf _ [] none => .null
  | .cast _ type => type
  | .extract _ _ => .of .integer
  | .isNull _ _ | .inList _ _ _ | .inQuery _ _ _ | .between _ _ _ _ | .existsIn _ _ => .of .boolean
  | .scalar query => query.firstType
  | .label operand _ => operand.type
  | .star _ | .tuple _ | .raw _ => .null

def Query.firstType : Query → SqlType
  | .select ⟨_, _, column :: _, _, _, _, _, _, _, _, _⟩ => column.type
  | .select ⟨_, _, [], _, _, _, _, _, _, _, _⟩ => .null
  | .compound _ (first :: _) _ _ _ => first.firstType
  | .compound _ [] _ _ _ => .null

end

/-- The name an expression has in a result row. -/
def Expr.outputName? : Expr → Option String
  | .column ref => some ref.name
  | .label _ name => some name
  | _ => none

/-- A name and a type of a column that a FROM item offers. -/
abbrev Field := String × SqlType

def Table.fields (t : Table) : List Field := t.columns.map fun c => (c.name, c.type)

/-- The named columns of a query. -/
def Query.fields (q : Query) : List Field :=
  q.selected.filterMap fun e => e.outputName?.map fun name => (name, e.type)

/-- The columns that a FROM item contributes to `*`. -/
def FromItem.fields : FromItem → List Field
  | .table ref => ref.table.fields
  | .derived query _ _ => query.fields
  | .join _ left right _ => left.fields ++ right.fields
  | .cte _ => []

/-- The columns of the derived table of a given name inside an item. -/
def FromItem.derivedFields? (name : String) : FromItem → Option (List Field)
  | .derived query n _ => if n = name then some query.fields else none
  | .join _ left right _ => (left.derivedFields? name).or (right.derivedFields? name)
  | .table _ | .cte _ => none

/-- The columns that `*` stands for, bare or behind a qualifier. -/
def starFields (source : Option ColumnSource) (sources : List FromItem) : List Field :=
  match source with
  | some (.table ref) => ref.table.fields
  | some (.derived name) => (sources.findSome? (FromItem.derivedFields? name)).getD []
  | none => sources.flatMap FromItem.fields

end SqlStatements
