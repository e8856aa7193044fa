import SqlStatements.Tree.Typing

/-! Expressions built from tables and from plain values. A plain value becomes
a parameter named after the expression it is compared with. -/
namespace SqlStatements

/-- The right-hand side of a comparison or an assignment. -/
inductive Operand where
  | expr (e : Expr)
  | value (v : Value)
deriving Inhabited

/-- The column of a table that has a given key. A key that names no column
yields an untyped column of that name. -/
def TableRef.column (ref : TableRef) (key : String) : Expr :=
  match ref.table.column? key with
  | some c => .column ⟨some (.table ref), c.name, c.type⟩
  | none => .column ⟨some (.table ref), key, .null⟩

/-- The column of a derived table that has a given name. -/
def Query.column (query : Query) (source name : String) : Expr :=
  let type := ((query.selected.find? fun e => e.outputName? == some name).map Expr.type).getD .null
  .column ⟨some (.derived source), name, type⟩

def Cte.column (cte : Cte) (name : String) : Expr := cte.query.column cte.name name

/-- The column of a derived table in a FROM clause; other items have none. -/
def FromItem.column? : FromItem → String → Option Expr
  | .derived query source _, name => some (query.column source name)
  | _, _ => none

namespace Expr

/-- The key of a parameter compared with the expression. -/
def bindKey : Expr → String
  | .column ref => ref.name
  | .label _ name => name
  | .param bind => bind.key
  | _ => "param"

/-- An operand as an expression; a plain value takes the key and the type of the
left-hand side. -/
def operand (left : Expr) : Operand → Expr
  | .expr e => e
  | .value v => .param ⟨left.bindKey, some v, left.type, true⟩

def compare (left : Expr) (op : BinaryOp) (right : Operand) : Expr :=
  .binary op left (left.operand right)

def both (left right : Expr) : Expr := .binary .and left right

/-- All conditions one after the other, if there are any. -/
def all? : List Expr → Option Expr
  | [] => none
  | e :: es => some (es.foldl both e)

def countStar : Expr := .call "count" [.star none] false none (.of .integer)

def rowNumber (window : Option Window) : Expr :=
  .call "ROW_NUMBER" [] false window (.of .bigInteger)

/-- Whether the expression is the missing value, written out. -/
def isNullLiteral : Expr → Bool
  | .literal .null => true
  | _ => false

end Expr

end SqlStatements
