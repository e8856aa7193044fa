import SqlStatements.Compiled.Basic

/-! Values for the parameters of a compiled statement, and conversion of the
rows it yields. -/
namespace SqlStatements

/-- Values by the name or the key of a parameter. -/
abbrev Params := NameMap Value

abbrev Bound := List (String × Value)

namespace Compiled

/-- The names of values that belong to no parameter. -/
def unconsumed (c : Compiled) (params : Params) : List String :=
  params.names.filter fun n => !(c.binds.any fun b => b.name == n || b.key == n)

end Compiled

namespace BindInfo

/-- The value of a parameter: the one given under its name, else the one given
under its key, else the one it was made with. -/
def given? (b : BindInfo) (params : Params) : Option Value :=
  ((params.find? b.name).or (params.find? b.key)).or b.value

def bind (b : BindInfo) (params : Params) : Except Error (String × Value) :=
  match b.given? params with
  | none => .error (.missingValue b.name)
  | some v => do return (b.name, ← convert b.conversion v)

end BindInfo

namespace Compiled

def bind (c : Compiled) (params : Params) : Except Error Bound :=
  let rest := c.unconsumed params
  if rest.isEmpty then c.binds.mapM (·.bind params) else .error (.unconsumed rest)

/-- The values of the placeholders, from left to right. -/
def positionalValues (c : Compiled) (bound : Bound) : List Value :=
  c.positional.filterMap fun name => bound.lookup name

def decodeRow (c : Compiled) (row : Row) : Except Error Row :=
  (row.mapIdx fun i v => convert (c.columns[i]?.bind (·.conversion)) v).mapM id

end Compiled

end SqlStatements
