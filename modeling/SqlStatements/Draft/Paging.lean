import SqlStatements.Statement.Basic
import SqlStatements.Identifier.Fresh
import SqlStatements.Tree.Construct

/-! Row offsets by row numbers. A SELECT with an offset becomes a SELECT over
itself: the inner one gains the number of each row in the given order, and the
outer one keeps the numbers of the page. Duplicates are removed after rows are
numbered, so a DISTINCT SELECT is numbered one level further out. -/
namespace SqlStatements

namespace Paging

def numberedRows : String := "anon_1"

def distinctRows : String := "anon_2"

/-- The name of the row number, unless it is taken. -/
def rowNumberName : String := "rn"

/-- A column under a label of its own. -/
structure Labelled where
  expr : Expr
  name : String

def Labelled.column (c : Labelled) : Expr := .label c.expr c.name

/-- The column as seen through a derived table. -/
def Labelled.through (c : Labelled) (source : String) : Expr :=
  .column ⟨some (.derived source), c.name, c.expr.type⟩

def tableColumns (ref : TableRef) : List Expr :=
  ref.table.columns.map fun c => .column ⟨some (.table ref), c.name, c.type⟩

/-- The columns that a star stands for. Those of derived tables are not
known. -/
def starColumns (source : Option ColumnSource) (sources : List FromItem) :
    Except Error (List Expr) :=
  match source with
  | some (.derived _) => .error (.conflict .starOverDerived)
  | some (.table ref) => .ok (tableColumns ref)
  | none =>
    if sources.any FromItem.hasDerived then .error (.conflict .starOverDerived)
    else .ok ((sources.flatMap FromItem.tables).flatMap tableColumns)

/-- The selected columns with every star written out. -/
def expanded (sources : List FromItem) : List Expr → Except Error (List Expr)
  | [] => .ok []
  | .star source :: rest => do
    let columns ← starColumns source sources
    return columns ++ (← expanded sources rest)
  | e :: rest => do return e :: (← expanded sources rest)

/-- Gives every column a label of its own: its label, its name, or `anon` with
the number of the unnamed column. -/
def labelled (taken : List String) (unnamed : Nat) : List Expr → List Labelled
  | [] => []
  | .label e base :: rest =>
    let name := freshName base taken
    ⟨e, name⟩ :: labelled (name :: taken) unnamed rest
  | .column ref :: rest =>
    let name := freshName ref.name taken
    ⟨.column ref, name⟩ :: labelled (name :: taken) unnamed rest
  | e :: rest =>
    let name := freshName ("anon_" ++ toString (unnamed + 1)) taken
    ⟨e, name⟩ :: labelled (name :: taken) (unnamed + 1) rest

def isBareName (name : String) : Expr → Bool
  | .column ⟨none, n, _⟩ => n == name
  | _ => false

/-- The order of a DISTINCT SELECT, in terms of its columns. -/
def distinctOrder (columns : List Labelled) : List OrderTerm → Except Error (List OrderTerm)
  | [] => .ok []
  | term :: rest =>
    match columns.find? fun c => decide (c.expr = term.expr) || isBareName c.name term.expr with
    | some c => do
      return { term with expr := c.through distinctRows } :: (← distinctOrder columns rest)
    | none => .error (.conflict .distinctOrder)

/-- The numbers of the rows in a given order. -/
def numberColumn (orderBy : List OrderTerm) (name : String) : Expr :=
  .label (.rowNumber (some ⟨[], orderBy⟩)) name

/-- The rows before paging: selected as before, without order and limits. -/
def rows (s : Select) (columns : List Expr) : Select :=
  { s with ctes := [], columns, orderBy := [], limit := none, offset := none, numbered := false }

def withNumbers (s : Select) (columns : List Labelled) (name : String) : Except Error Select :=
  if s.distinct then do
    let order ← distinctOrder columns s.orderBy
    let distinct := rows s (columns.map Labelled.column)
    return { Select.ofColumns
        (columns.map (·.through distinctRows) ++ [numberColumn order name]) with
      sources := [.derived (.select distinct) distinctRows false] }
  else return rows s (columns.map Labelled.column ++ [numberColumn s.orderBy name])

/-- A bound on row numbers, if it is one of sixty-four bits with a sign. -/
def bound (n : UInt64) : Except Error Value :=
  if n.toNat < Nat.pow 2 63 then .ok (.int n.toNat) else .error (.conflict (.rowBound n.toNat))

/-- The sum of an offset and a limit, or else the largest number there is. -/
def lastRow (offset limit : UInt64) : UInt64 :=
  if offset.toNat + limit.toNat < UInt64.size then offset + limit
  else UInt64.ofNat (UInt64.size - 1)

def filter (name : String) (offset : UInt64) (limit : Option UInt64) : Except Error Expr := do
  let number : Expr := .column ⟨none, name, .of .bigInteger⟩
  let after : Expr := .binary .gt number (.literal (← bound offset))
  match limit with
  | none => return after
  | some limit =>
    return after.both (.binary .ltEq number (.literal (← bound (lastRow offset limit))))

end Paging

/-- A SELECT that picks its page by row numbers, for a dialect of the given
name. One that does so already stays as it is. -/
def Select.paged (dialect : String) (s : Select) : Except Error Select :=
  if s.numbered then .ok s
  else if s.orderBy.isEmpty then .error (.unsupported dialect .offsetWithoutOrder)
  else do
    let columns := Paging.labelled [] 0 (← Paging.expanded s.sources s.columns)
    let name := freshName Paging.rowNumberName (columns.map (·.name))
    let inner ← Paging.withNumbers s columns name
    let condition ← Paging.filter name (s.offset.getD 0) s.limit
    return { Select.ofColumns (columns.map (·.through Paging.numberedRows)) with
      ctes := s.ctes
      sources := [.derived (.select inner) Paging.numberedRows false]
      condition := some condition
      numbered := true }

end SqlStatements
