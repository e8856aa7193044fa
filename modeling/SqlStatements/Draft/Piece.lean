import SqlStatements.Dialect.Profile
import SqlStatements.Tree.Construct

/-! A draft is a statement for one target in which the choices that depend on
what stands further to the left are still open: the names of parameters and the
aliases of tables. It lists its pieces from left to right. Where a statement
cannot be expressed, the draft stops with the reason, so that of two faults the
one further to the left is reported. -/
namespace SqlStatements

/-- What a statement is written for. -/
structure Target where
  profile : Profile
  caps : Capabilities

namespace Target

def rules (t : Target) : IdentifierRules := t.profile.rules t.caps

def strategy (t : Target) : LimitStrategy := t.profile.limits.strategy t.caps

def unsupported (t : Target) (feature : Feature) : Error := .unsupported t.profile.name feature

end Target

inductive Piece where
  /-- Text that is fixed. -/
  | text (s : String)
  /-- A name, to be quoted if it has to be. -/
  | name (ident : String)
  /-- The full name of a table. -/
  | table (table : Table)
  /-- A table in a FROM clause, with its alias if it gets one. -/
  | source (table : Table)
  /-- A table in front of a column, by its alias if it has one. -/
  | qualifier (table : Table)
  /-- A parameter. The mark says that it is the value for a generated column. -/
  | param (bind : BindParam) (generated : Bool)
  /-- The reason why the draft goes no further. -/
  | stop (error : Error)
deriving DecidableEq

/-- The pieces of a statement, from left to right. -/
abbrev Draft := List Piece

namespace Draft

/-- Drafts one after the other, with a text between neighbours. -/
def join (separator : String) : List Draft → Draft
  | [] => []
  | [d] => d
  | d :: ds => d ++ .text separator :: join separator ds

/-- A draft between parentheses, if asked for. -/
def parens (wanted : Bool) (d : Draft) : Draft :=
  if wanted then .text "(" :: (d ++ [.text ")"]) else d

/-- A word in front of a draft, where there is one. -/
def clause (word : String) : Option Draft → Draft
  | some d => .text word :: d
  | none => []

/-- A word in front of drafts in a list, if there are any. -/
def listClause (word : String) (ds : List Draft) : Draft :=
  if ds.isEmpty then [] else .text word :: join ", " ds

def names (idents : List String) : Draft := join ", " (idents.map fun n => [.name n])

/-- A text that may fail to exist. -/
def ofExcept : Except Error String → Draft
  | .ok s => [.text s]
  | .error e => [.stop e]

def params (d : Draft) : List BindParam :=
  d.filterMap fun
    | .param bind _ => some bind
    | _ => none

end Draft

/-- What stands before the point of a qualified column. -/
def ColumnSource.draft : ColumnSource → Draft
  | .table (.plain t) => [.qualifier t]
  | .table (.aliased _ name) => [.name name]
  | .derived name => [.name name]

def ColumnRef.draft (ref : ColumnRef) : Draft :=
  match ref.source with
  | some source => source.draft ++ [.text ".", .name ref.name]
  | none => [.name ref.name]

def TableRef.draft : TableRef → Draft
  | .plain t => [.source t]
  | .aliased t name => [.table t, .text " AS ", .name name]

end SqlStatements
