import SqlStatements.Execution.Session

/-! Running a compiled statement. Whatever happens after the values have been
bound, the session restores what it changed. -/
namespace SqlStatements

structure Outcome where
  rows : List Row
  /-- The ids of new rows, as far as they are known. -/
  ids : Option (List Value)
deriving DecidableEq

def Plan.run (plan : Plan) (session : Session) (c : Compiled) : Dialogue Outcome := do
  Cursor.setTimeout plan.timeout
  plan.preamble.forM fun sql => discard (Cursor.execute sql [])
  let rows ← Cursor.execute plan.sql plan.values
  let ids ← session.ids c plan rows
  let rows ← if plan.inBatch then pure [] else (rows.mapM c.decodeRow : Except Error _)
  return ⟨rows, ids⟩

/-- Runs a compiled statement for a dialect with values for its parameters. -/
def Compiled.execute (c : Compiled) (d : Dialect) (params : Params) :
    StateM Cursor (Except Error Outcome) :=
  match c.bind params with
  | .error e => return .error e
  | .ok bound => do
    let (plan, session) := d.openSession.prepare c bound
    let outcome ← (plan.run session c).run
    let _ ← session.restore
    return outcome

end SqlStatements
