import SqlStatements.Draft.Piece

/-! Drafts of the statements that define and drop tables and indexes. -/
namespace SqlStatements

/-- What is declared about missing values. A primary key has none. -/
def Column.nullText (c : Column) : String :=
  match c.nullability with
  | .notNull => " NOT NULL"
  | .null => if c.primaryKey then " NOT NULL" else " NULL"
  | .unspecified => if c.primaryKey then " NOT NULL" else ""

/-- The default of a column that the server does not generate. -/
def Column.defaultDraft (t : Target) (c : Column) : Draft :=
  match c.initial with
  | some (.value v) => .text " DEFAULT " :: Draft.ofExcept (t.profile.literalText t.caps c.type v)
  | some (.expression sql) => [.text " DEFAULT ", .text sql]
  | some (.sequence _) | none => []

/-- The type of a generated column and what follows the column. -/
def Column.generatedTexts (t : Target) (c : Column) : String × String :=
  match t.profile.generated.type? c with
  | some type => (type, "")
  | none =>
    (t.profile.typeName t.caps c.type,
      ((t.profile.generated.clause? c).map fun clause => " " ++ clause).getD "")

def Column.draft (t : Target) (generated : Bool) (c : Column) : Draft :=
  if generated then
    let (type, clause) := c.generatedTexts t
    [.name c.name, .text (" " ++ type ++ c.nullText ++ clause)]
  else
    .name c.name :: .text (" " ++ t.profile.typeName t.caps c.type ++ c.nullText) ::
      c.defaultDraft t

namespace Constraint

def nameDraft (t : Target) : Option String → Draft
  | some name => [.text "CONSTRAINT ", .name (t.rules.truncate name), .text " "]
  | none => []

def foreignKeyDraft (t : Target) (columns : List String) (table : String) (targets : List String)
    (onDelete onUpdate : Option ReferentialAction) : Draft :=
  .text "FOREIGN KEY(" :: (Draft.names columns ++
    .text (") REFERENCES " ++ t.rules.dotted table ++ " (") :: (Draft.names targets ++
    [.text (")" ++ ((onDelete.map fun a => " ON DELETE " ++ a.sql).getD "") ++
      (onUpdate.map fun a => " ON UPDATE " ++ a.sql).getD "")]))

/-- A constraint. The primary key is written once for the whole table. -/
def draft? (t : Target) : Constraint → Option Draft
  | .primaryKey _ _ => none
  | .foreignKey name columns table targets onDelete onUpdate =>
    some (nameDraft t name ++ foreignKeyDraft t columns table targets onDelete onUpdate)
  | .unique name columns =>
    some (nameDraft t name ++ .text "UNIQUE (" :: (Draft.names columns ++ [.text ")"]))
  | .check name condition =>
    some (nameDraft t name ++ [.text "CHECK (", .text condition, .text ")"])

def primaryKeyName? : Constraint → Option String
  | .primaryKey name _ => name
  | _ => none

end Constraint

namespace Table

def primaryKeyDrafts (t : Target) (table : Table) : List Draft :=
  match table.primaryKey with
  | [] => []
  | columns =>
    [Constraint.nameDraft t (table.constraints.findSome? Constraint.primaryKeyName?) ++
      .text "PRIMARY KEY (" :: (Draft.names (columns.map (·.name)) ++ [.text ")"])]

/-- All constraints: the primary key, those of single columns, and the
others. -/
def constraintDrafts (t : Target) (table : Table) : List Draft :=
  table.primaryKeyDrafts t ++
    (table.columns.filterMap fun c => c.references.map fun r =>
      Constraint.foreignKeyDraft t [c.name] r.table [r.column] none none) ++
    ((table.columns.filter (·.unique)).map fun c =>
      [.text "UNIQUE (", .name c.name, .text ")"]) ++
    table.constraints.filterMap (Constraint.draft? t)

def createDraft (t : Target) (table : Table) (ifNotExists : Bool) : Draft :=
  let generated := table.autoIncrementColumn?.map (·.name)
  let columns := table.columns.map fun c => c.draft t (generated = some c.name)
  .text (if ifNotExists then "CREATE TABLE IF NOT EXISTS " else "CREATE TABLE ") ::
    .table table :: .text " (\n\t" ::
    (Draft.join ",\n\t" (columns ++ table.constraintDrafts t) ++ [.text "\n)"])

def dropDraft (table : Table) (ifExists : Bool) : Draft :=
  [.text (if ifExists then "DROP TABLE IF EXISTS " else "DROP TABLE "), .table table]

end Table

def Index.createDraft (t : Target) (index : Index) : Draft :=
  .text (if index.unique then "CREATE UNIQUE INDEX " else "CREATE INDEX ") ::
    .name (t.rules.truncate index.name) :: .text " ON " :: .table index.table :: .text " (" ::
    (Draft.names index.columns ++ [.text ")"])

def Index.dropDraft (t : Target) (index : Index) : Draft :=
  [.text "DROP INDEX ", .text (t.profile.dropIndexTarget t.rules index)]

end SqlStatements
