import SqlStatements.Error
import SqlStatements.Schema.Column
import SqlStatements.Text.NameMap

/-! Tables, their constraints, and the checks a definition has to pass. -/
namespace SqlStatements

inductive ReferentialAction where
  | noAction
  | restrict
  | cascade
  | setNull
  | setDefault
deriving DecidableEq

def ReferentialAction.sql : ReferentialAction → String
  | .noAction => "NO ACTION"
  | .restrict => "RESTRICT"
  | .cascade => "CASCADE"
  | .setNull => "SET NULL"
  | .setDefault => "SET DEFAULT"

def ReferentialAction.all : List ReferentialAction :=
  [.noAction, .restrict, .cascade, .setNull, .setDefault]

inductive Constraint where
  | primaryKey (name : Option String) (columns : List String)
  | foreignKey (name : Option String) (columns : List String) (table : String)
      (targets : List String) (onDelete onUpdate : Option ReferentialAction)
  | unique (name : Option String) (columns : List String)
  | check (name : Option String) (condition : String)
deriving DecidableEq

namespace Constraint

/-- The columns of the table that the constraint names. -/
def columns : Constraint → List String
  | .primaryKey _ columns | .foreignKey _ columns _ _ _ _ | .unique _ columns => columns
  | .check _ _ => []

def named (label : String) : Constraint → Constraint
  | .primaryKey _ columns => .primaryKey (some label) columns
  | .foreignKey _ columns table targets onDelete onUpdate =>
    .foreignKey (some label) columns table targets onDelete onUpdate
  | .unique _ columns => .unique (some label) columns
  | .check _ condition => .check (some label) condition

/-- Sets what a foreign key does on deletion. Other constraints stay as they
are. -/
def onDelete (action : ReferentialAction) : Constraint → Constraint
  | .foreignKey name columns table targets _ onUpdate =>
    .foreignKey name columns table targets (some action) onUpdate
  | c => c

def onUpdate (action : ReferentialAction) : Constraint → Constraint
  | .foreignKey name columns table targets onDelete _ =>
    .foreignKey name columns table targets onDelete (some action)
  | c => c

end Constraint

/-- What tells tables apart: an optional schema and a name. -/
structure TableKey where
  schema : Option String
  name : String
deriving DecidableEq

/-- The name, behind its schema if it has one. -/
def TableKey.text (k : TableKey) : String :=
  match k.schema with
  | some schema => schema ++ "." ++ k.name
  | none => k.name

structure Table where
  name : String
  schema : Option String := none
  columns : List Column := []
  constraints : List Constraint := []
  options : NameMap String := {}
deriving DecidableEq

namespace Table

def key (t : Table) : TableKey := ⟨t.schema, t.name⟩

def column? (t : Table) (key : String) : Option Column :=
  t.columns.find? fun c => c.key == key

/-- The first column, in order, whose key occurs before it. -/
def duplicate? (seen : List String) : List Column → Option String
  | [] => none
  | c :: rest => if seen.contains c.key then some c.key else duplicate? (c.key :: seen) rest

/-- The names in constraints that are no columns, in alphabetical order. -/
def unknownNames (t : Table) : List String :=
  sortedNames <| (t.constraints.flatMap Constraint.columns).filter fun name =>
    !(t.columns.any fun c => c.name == name)

/-- The columns declared to be generated by the server. -/
def generatedNames (t : Table) : List String :=
  (t.columns.filter fun c => c.autoIncrement = .enabled).map (·.name)

/-- The table, if its keys differ, its constraints name its columns and at most
one column is declared to be generated. -/
def checked (t : Table) : Except Error Table :=
  match duplicate? [] t.columns with
  | some key => .error (.conflict (.duplicateKey key t.name))
  | none =>
    if t.unknownNames ≠ [] then .error (.unconsumed t.unknownNames)
    else if 1 < t.generatedNames.length then
      .error (.conflict (.severalGenerated t.name t.generatedNames))
    else .ok t

/-- The names of the primary key: first the columns that say so themselves, then
those that a constraint adds. -/
def primaryKeyNames (t : Table) : List String :=
  let flagged := (t.columns.filter (·.primaryKey)).map (·.name)
  t.constraints.foldl
    (fun names c =>
      match c with
      | .primaryKey _ columns =>
        columns.foldl (fun names n => if names.contains n then names else names ++ [n]) names
      | _ => names)
    flagged

def primaryKey (t : Table) : List Column :=
  t.primaryKeyNames.filterMap fun name => t.columns.find? fun c => c.name == name

/-- The column whose values the server generates: the one that is declared, or
else a single integer primary key that refers to nothing and has no default. -/
def autoIncrementColumn? (t : Table) : Option Column :=
  match t.columns.find? (fun c => c.autoIncrement = .enabled) with
  | some c => some c
  | none =>
    match t.primaryKey with
    | [c] =>
      let free :=
        match c.initial with
        | none | some (.sequence _) => true
        | _ => false
      if c.autoIncrement = .auto && c.type.kind.isInteger && c.references.isNone && free
      then some c else none
    | _ => none

end Table

end SqlStatements
