import SqlStatements.Compiled.Params
import SqlStatements.Dialect.Basic
import SqlStatements.Execution.Cursor

/-! What is done around the execution of a statement. SQL Server refuses values
for a generated column unless they have been permitted for its table; a session
permits them before an insertion that has some, and withdraws the permission
afterwards. -/
namespace SqlStatements

/-- What is sent to the driver. -/
structure Plan where
  /-- Statements that come first. -/
  preamble : List String := []
  sql : String
  values : List Value
  /-- The statement yields the generated id itself. -/
  inBatch : Bool := false
  timeout : Option Nat := none
deriving DecidableEq

def Compiled.plan (c : Compiled) (bound : Bound) : Plan :=
  { sql := c.sql, values := c.positionalValues bound }

/-- How generated ids are fetched. -/
inductive IdFetch where
  /-- By a query of its own. -/
  | separate (query : String)
  /-- In the batch of the insertion. -/
  | batched
deriving DecidableEq

/-- Whether values for a generated column are permitted. -/
inductive IdentityState where
  | normal
  | permitted
  /-- They were, and are no longer. -/
  | restored
deriving DecidableEq

/-- What a session needs to permit values for generated columns. -/
structure IdentitySession where
  rules : IdentifierRules
  /-- Permit them without being asked. -/
  auto : Bool
  fetch : IdFetch
  timeout : Option Nat
  state : IdentityState := .normal
  /-- The table for which the permission has to be withdrawn. -/
  pending : Option String := none
  /-- The values of the last insertion that had some, as far as they were known
  before. They are kept when the permission is withdrawn. -/
  known : Option (List Value) := none

inductive Session where
  /-- Fetches generated ids with a query, if there is one. -/
  | plain (lastIdQuery : Option String) (timeout : Option Nat)
  | identity (session : IdentitySession)

/-- Whether the id of a new row is to be fetched. -/
def Compiled.wantsId (c : Compiled) : Bool :=
  match c.insert with
  | some info => info.fetchesId
  | none => false

/-- The values given for the generated column. Those written into the text are
not known. -/
def InsertInfo.explicitIds? (info : InsertInfo) (bound : Bound) : Option (List Value) :=
  match info.identity with
  | none => none
  | some .inline => some []
  | some (.bound names) =>
    let ids := (names.filterMap fun name => bound.lookup name).filter fun v => !v.isNull
    if ids.isEmpty then none else some ids

namespace IdentitySession

/-- What an insertion ends in when it yields the generated id itself. -/
def batchSuffix : String := "; SELECT scope_identity() AS lastrowid"

def permit (table : String) : String := "SET IDENTITY_INSERT " ++ table ++ " ON"

def withdraw (table : String) : String := "SET IDENTITY_INSERT " ++ table ++ " OFF"

def prepare (s : IdentitySession) (c : Compiled) (bound : Bound) : Plan × IdentitySession :=
  let plan := { c.plan bound with timeout := s.timeout }
  match c.insert with
  | none => (plan, s)
  | some info =>
    match info.explicitIds? bound with
    | some ids =>
      if s.auto then
        let table := s.rules.table info.table true
        ({ plan with preamble := [permit table] },
          { s with state := .permitted, pending := some table, known := some ids })
      else (plan, s)
    | none =>
      if info.fetchesId ∧ s.fetch = .batched then
        ({ plan with sql := plan.sql ++ batchSuffix, inBatch := true }, s)
      else (plan, s)

/-- The ids of the rows that an insertion has made, as far as they are known. -/
def ids (s : IdentitySession) (c : Compiled) (plan : Plan) (rows : List Row) :
    Dialogue (Option (List Value)) :=
  match c.insert with
  | none => return none
  | some info =>
    if s.state = .permitted then return s.known.filter fun ids => !ids.isEmpty
    else if plan.inBatch then return (firstValue rows).map ([·])
    else
      match s.fetch with
      | .separate query =>
        if info.fetchesId then return (← fetchValue query).map ([·]) else return none
      | .batched => return none

/-- Withdraws a permission. Whether that works is not asked. -/
def restore (s : IdentitySession) : StateM Cursor IdentitySession :=
  if s.state = .permitted then do
    if let some table := s.pending then
      let _ ← (Cursor.execute (withdraw table) []).run
    return { s with state := .restored, pending := none }
  else return s

end IdentitySession

namespace Session

def prepare (s : Session) (c : Compiled) (bound : Bound) : Plan × Session :=
  match s with
  | .plain query timeout => ({ c.plan bound with timeout }, .plain query timeout)
  | .identity s =>
    let (plan, s) := s.prepare c bound
    (plan, .identity s)

def ids (s : Session) (c : Compiled) (plan : Plan) (rows : List Row) :
    Dialogue (Option (List Value)) :=
  match s with
  | .plain (some query) _ =>
    if c.wantsId then return (← fetchValue query).map ([·]) else return none
  | .plain none _ => return none
  | .identity s => s.ids c plan rows

def restore (s : Session) : StateM Cursor Session :=
  match s with
  | .plain query timeout => return .plain query timeout
  | .identity s => return .identity (← s.restore)

end Session

/-- The session in which the statements of a dialect are run. -/
def Dialect.openSession (d : Dialect) : Session :=
  match d.session with
  | .plain => .plain d.lastIdQuery d.timeout
  | .identityInsert auto batched =>
    .identity
      { rules := d.rules, auto, timeout := d.timeout
        fetch := if batched then .batched else .separate (d.lastIdQuery.getD "") }

end SqlStatements
