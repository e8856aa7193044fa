import SqlStatements.Schema.Table
import SqlStatements.Tree.Operator

/-! Expressions and queries. The two are defined together: an expression may
hold a query, and every clause of a query holds expressions. -/
namespace SqlStatements

/-- A table under its own name or under another one. -/
inductive TableRef where
  | plain (table : Table)
  | aliased (table : Table) (name : String)
deriving DecidableEq

def TableRef.table : TableRef → Table
  | .plain table | .aliased table _ => table

/-- What a column is qualified by. -/
inductive ColumnSource where
  | table (ref : TableRef)
  /-- A derived table or a common table expression, by name. -/
  | derived (name : String)
deriving DecidableEq

def ColumnSource.table? : ColumnSource → Option Table
  | .table ref => some ref.table
  | .derived _ => none

/-- A column of an expression. -/
structure ColumnRef where
  source : Option ColumnSource
  name : String
  type : SqlType
deriving DecidableEq

/-- A parameter. Parameters that are not unique share one placeholder with those
of the same key; unique ones are renamed when names collide. -/
structure BindParam where
  key : String
  value : Option Value
  type : SqlType
  unique : Bool
deriving DecidableEq

mutual

inductive Expr where
  | literal (value : Value)
  | column (ref : ColumnRef)
  | param (bind : BindParam)
  | binary (op : BinaryOp) (left right : Expr)
  | unary (op : UnaryOp) (operand : Expr)
  | call (name : String) (args : List Expr) (distinct : Bool) (window : Option Window)
      (type : SqlType)
  | caseOf (operand : Option Expr) (branches : List Branch) (otherwise : Option Expr)
  | cast (operand : Expr) (type : SqlType)
  | extract (field : String) (operand : Expr)
  | isNull (operand : Expr) (negated : Bool)
  | inList (operand : Expr) (items : List Expr) (negated : Bool)
  | inQuery (operand : Expr) (query : Query) (negated : Bool)
  | between (operand low high : Expr) (negated : Bool)
  | existsIn (query : Query) (negated : Bool)
  | scalar (query : Query)
  | label (operand : Expr) (name : String)
  | star (source : Option ColumnSource)
  | tuple (items : List Expr)
  | raw (sql : String)

structure Branch where
  condition : Expr
  result : Expr

/-- One entry of an order. -/
structure OrderTerm where
  expr : Expr
  direction : Option Direction
  nulls : Option NullsPlace

/-- The rows that a window function looks at. -/
structure Window where
  partitionBy : List Expr
  orderBy : List OrderTerm

inductive FromItem where
  | table (ref : TableRef)
  | derived (query : Query) (name : String) (lateral : Bool)
  | join (kind : JoinKind) (left right : FromItem) (condition : Option Expr)
  | cte (name : String)

structure Cte where
  name : String
  columns : List String
  query : Query
  recursive : Bool

/-- A single SELECT. The mark `numbered` says that its rows have been selected
by number already. -/
structure Select where
  ctes : List Cte
  distinct : Bool
  columns : List Expr
  sources : List FromItem
  condition : Option Expr
  groupBy : List Expr
  having : Option Expr
  orderBy : List OrderTerm
  limit : Option UInt64
  offset : Option UInt64
  numbered : Bool

/-- A query: a single SELECT, or several members under one set operator. -/
inductive Query where
  | select (select : Select)
  | compound (op : SetOp) (members : List Query) (orderBy : List OrderTerm)
      (limit offset : Option UInt64)

end

instance : Inhabited Expr := ⟨.star none⟩

/-- The SELECT of some columns, with no other clause. -/
def Select.ofColumns (columns : List Expr) : Select :=
  { ctes := [], distinct := false, columns, sources := [], condition := none, groupBy := []
    having := none, orderBy := [], limit := none, offset := none, numbered := false }

instance : Inhabited Select := ⟨.ofColumns []⟩
instance : Inhabited Query := ⟨.select default⟩
instance : Inhabited OrderTerm := ⟨⟨default, none, none⟩⟩
instance : Inhabited Window := ⟨⟨[], []⟩⟩
instance : Inhabited FromItem := ⟨.cte ""⟩
instance : Inhabited Cte := ⟨⟨"", [], default, false⟩⟩

/-- Whether rows are to be skipped and nothing has been done about it yet. -/
def Select.skipsRows (s : Select) : Bool := s.offset.isSome && !s.numbered

def Select.isRestricted (s : Select) : Bool :=
  !s.orderBy.isEmpty || s.limit.isSome || s.offset.isSome

/-- The tables of a FROM item, from left to right. Derived tables hide
theirs. -/
def FromItem.tables : FromItem → List TableRef
  | .table ref => [ref]
  | .join _ left right _ => left.tables ++ right.tables
  | .derived _ _ _ | .cte _ => []

/-- Whether the item is a derived table that sees its neighbours. -/
def FromItem.isLateral : FromItem → Bool
  | .derived _ _ lateral => lateral
  | _ => false

/-- Whether a derived table or a common table expression occurs in the item. -/
def FromItem.hasDerived : FromItem → Bool
  | .derived _ _ _ | .cte _ => true
  | .join _ left right _ => left.hasDerived || right.hasDerived
  | .table _ => false

/-- The expressions that a query selects: those of its first member. -/
def Query.selected : Query → List Expr
  | .select s => s.columns
  | .compound _ [] _ _ _ => []
  | .compound _ (first :: _) _ _ _ => first.selected

end SqlStatements
