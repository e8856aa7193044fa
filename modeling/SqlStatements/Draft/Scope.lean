import SqlStatements.Draft.Heading
import SqlStatements.Tree.Visit

/-! Where a query stands: how deeply it is nested, and which tables the queries
around it provide. A SELECT without a FROM clause is given one with the tables
it mentions, except for those. -/
namespace SqlStatements

/-- The place of a query. -/
structure Scope where
  depth : Nat
  /-- The tables that enclosing queries provide. -/
  visible : List TableRef
deriving DecidableEq

namespace Scope

def outermost : Scope := ⟨0, []⟩

def nested (sc : Scope) : Scope := { sc with depth := sc.depth + 1 }

/-- One level deeper, with the tables around out of sight. -/
def isolated (sc : Scope) : Scope := ⟨sc.depth + 1, []⟩

/-- With the tables of a FROM clause in sight. -/
def providing (sc : Scope) (sources : List FromItem) : Scope :=
  { sc with visible := sc.visible ++ sources.flatMap FromItem.tables }

def keepsOrder (sc : Scope) (t : Target) (limited : Bool) : Bool :=
  sc.depth = 0 || limited || t.caps.subqueryOrder

/-- The tables that the columns and the condition of a SELECT imply. -/
def implied (sc : Scope) (columns : List Expr) (condition : Option Expr) : List TableRef :=
  (mentionedTables (columns ++ condition.toList)).filter fun ref => !sc.visible.contains ref

/-- The FROM items of a SELECT: those given, or else the tables implied. -/
def sources (sc : Scope) (s : Select) : List FromItem :=
  if s.sources.isEmpty then (sc.implied s.columns s.condition).map .table else s.sources

end Scope

def Select.headings (t : Target) (sc : Scope) (outermost : Bool) (s : Select) :
    Except Error (List Heading) :=
  SqlStatements.headings t.rules (starView outermost (sc.sources s)) [] s.columns

end SqlStatements
