import SqlStatements.Error
import SqlStatements.Value

/-! The driver, as far as a program can see it: it answers each statement from
a script, and keeps a log of what it was asked for. -/
namespace SqlStatements

inductive Reply where
  | rows (rows : List Row)
  | failure (message : String)
deriving DecidableEq

/-- What the driver was asked for. -/
inductive Event where
  /-- To run a statement with values for its placeholders. -/
  | execute (sql : String) (values : List Value)
  /-- To give up statements after some seconds. -/
  | timeout (seconds : Option Nat)
deriving DecidableEq

/-- A driver with its script and its log. -/
structure Cursor where
  script : List Reply
  log : List Event := []
deriving DecidableEq

/-- A dialogue with the driver. The log survives a failure. -/
abbrev Dialogue := ExceptT Error (StateM Cursor)

namespace Cursor

/-- Notes an event. -/
def record (c : Cursor) (e : Event) : Cursor := { c with log := c.log ++ [e] }

/-- Sets the time after which statements are given up. -/
def setTimeout (seconds : Option Nat) : Dialogue Unit :=
  modify fun c => c.record (.timeout seconds)

/-- Runs a statement. A script that has come to its end yields no rows. -/
def execute (sql : String) (values : List Value) : Dialogue (List Row) := do
  let c ← get
  let reply := c.script.head?.getD (.rows [])
  set ({ c with script := c.script.tail }.record (.execute sql values))
  match reply with
  | .rows rows => return rows
  | .failure message => throw (.driver message)

end Cursor

def firstValue (rows : List Row) : Option Value := rows.head?.bind List.head?

/-- Runs a query and yields its first value, if there is one. -/
def fetchValue (query : String) : Dialogue (Option Value) := do
  return firstValue (← Cursor.execute query [])

end SqlStatements
