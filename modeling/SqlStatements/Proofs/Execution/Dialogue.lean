import SqlStatements.Execution.Cursor

/-! What a dialogue does to the driver. Every statement takes one answer off the
script and adds one entry to the log, whether it succeeds or fails. -/
namespace SqlStatements

/-- What the program makes of an answer. -/
def Reply.result : Reply → Except Error (List Row)
  | .rows answer => .ok answer
  | .failure message => .error (.driver message)

/-- The answer to the statement with the given number, from zero on. -/
def replyAt (script : List Reply) (i : Nat) : Reply := (script[i]?).getD (.rows [])

/-- The answers behind the first one are those with the next numbers. A script
that is over keeps yielding no rows. -/
theorem replyAt_tail (script : List Reply) (i : Nat) :
    replyAt script.tail i = replyAt script (i + 1) := by
  rw [replyAt, replyAt, List.getElem?_tail]

/-- The statement that an event is about. -/
def Event.sql? : Event → Option String
  | .execute sql _ => some sql
  | .timeout _ => none

/-- The statements of a log, in the order in which they were sent. -/
def sent (log : List Event) : List String := log.filterMap Event.sql?

namespace Cursor

/-- The driver after it was asked to run a statement. -/
def after (cur : Cursor) (sql : String) (values : List Value) : Cursor :=
  ⟨cur.script.tail, cur.log ++ [.execute sql values]⟩

theorem run_setTimeout (seconds : Option Nat) (cur : Cursor) :
    (setTimeout seconds).run.run cur = (.ok (), cur.record (.timeout seconds)) := rfl

/-- A statement is answered by the next reply of the script. It is in the log
also if the reply is a failure. -/
theorem run_execute (sql : String) (values : List Value) (cur : Cursor) :
    (execute sql values).run.run cur =
      ((replyAt cur.script 0).result, cur.after sql values) := by
  obtain ⟨script, log⟩ := cur
  cases script with
  | nil => rfl
  | cons reply script => cases reply <;> rfl

end Cursor

/-- A query for one value takes the first of the first row. An empty answer has
none, which is no failure. -/
theorem run_fetchValue (query : String) (cur : Cursor) :
    (fetchValue query).run.run cur =
      ((replyAt cur.script 0).result.map firstValue, cur.after query []) := by
  obtain ⟨script, log⟩ := cur
  cases script with
  | nil => rfl
  | cons reply script => cases reply <;> rfl

namespace Dialogue

variable {α β : Type}

theorem run_pure (a : α) (cur : Cursor) : (pure a : Dialogue α).run.run cur = (.ok a, cur) := rfl

/-- A dialogue goes on where its first part left off. -/
theorem run_bind_ok {x : Dialogue α} {f : α → Dialogue β} {cur cur' : Cursor} {a : α}
    (h : x.run.run cur = (.ok a, cur')) : (x >>= f).run.run cur = (f a).run.run cur' := by
  rw [ExceptT.run_bind, StateT.run_bind, h]
  rfl

/-- A dialogue ends at its first failure. -/
theorem run_bind_error {x : Dialogue α} {f : α → Dialogue β} {cur cur' : Cursor} {e : Error}
    (h : x.run.run cur = (.error e, cur')) : (x >>= f).run.run cur = (.error e, cur') := by
  rw [ExceptT.run_bind, StateT.run_bind, h]
  rfl

/-- What is done with an answer afterwards leaves the driver as it is, and a
failure stays what it is. -/
theorem run_bind_pure (x : Dialogue α) (f : α → β) (cur : Cursor) :
    (x >>= fun a => pure (f a)).run.run cur = ((x.run.run cur).1.map f, (x.run.run cur).2) := by
  generalize hx : x.run.run cur = answer
  obtain ⟨result, cur'⟩ := answer
  cases result with
  | ok a => exact run_bind_ok hx
  | error e => exact run_bind_error hx

end Dialogue

end SqlStatements
