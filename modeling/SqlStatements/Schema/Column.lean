import SqlStatements.SqlType.Basic
import SqlStatements.Value

/-! Columns of a table. -/
namespace SqlStatements

/-- What is declared about missing values. -/
inductive Nullability where
  | notNull
  | null
  | unspecified
deriving DecidableEq

/-- Whether the server generates the values. -/
inductive AutoIncrement where
  /-- It does for the only integer column of a primary key. -/
  | auto
  | enabled
  | disabled
deriving DecidableEq

/-- The first generated value and the step to the next. -/
structure Identity where
  start : Int
  increment : Int
deriving DecidableEq

/-- One, two, three and so on. -/
def Identity.natural : Identity := ⟨1, 1⟩

/-- Where a column takes its value from when none is given. -/
inductive ColumnDefault where
  | value (v : Value)
  | expression (sql : String)
  | sequence (identity : Identity)
deriving DecidableEq

/-- The column of another table that a column refers to. -/
structure Reference where
  table : String
  column : String
deriving DecidableEq

/-- A column. The key is its name in the application. -/
structure Column where
  name : String
  key : String
  type : SqlType
  nullability : Nullability := .unspecified
  initial : Option ColumnDefault := none
  primaryKey : Bool := false
  autoIncrement : AutoIncrement := .auto
  unique : Bool := false
  references : Option Reference := none
deriving DecidableEq

namespace Column

def named (name : String) (type : SqlType) : Column := { name, key := name, type }

/-- Makes the server generate the values, from a start and with a step. -/
def withIdentity (c : Column) (identity : Identity) : Column :=
  { c with autoIncrement := .enabled, initial := some (.sequence identity) }

def identity? (c : Column) : Option Identity :=
  match c.initial with
  | some (.sequence identity) => some identity
  | _ => none

end Column

end SqlStatements
