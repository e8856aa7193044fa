import SqlStatements.Dialect.Profile

/-! A dialect in use: its profile, what its server can do as far as that is
known, and how its statements are run. -/
namespace SqlStatements

/-- What is done around an execution. -/
inductive SessionStyle where
  /-- Nothing but fetching the id of a new row. -/
  | plain
  /-- Values for a generated column are permitted around an insertion if `auto`
  is set, and ids are fetched in the batch of the insertion if `batched` is. -/
  | identityInsert (auto batched : Bool)
deriving DecidableEq

structure Dialect where
  profile : Profile
  /-- Differs between dialects that write statements differently. -/
  identity : String
  cell : CapabilityCell
  /-- What a server version says about the capabilities; a dialect without
  such a rule never asks the server. -/
  derive : Option (Capabilities → ServerVersion → Capabilities) := none
  lastIdQuery : Option String := none
  defaultSchema : Option String := none
  timeout : Option Nat := none
  session : SessionStyle := .plain

namespace CapabilityCell

/-- The probed record, or the defaults before a probe. -/
def get (cell : CapabilityCell) : Capabilities := cell.probed.getD cell.defaults

/-- Asks the server, unless that has been done with success. Tells whether the
server was asked; a failed probe changes nothing. -/
def probe (cell : CapabilityCell) (derive : Capabilities → ServerVersion → Capabilities)
    (p : Probe) : Except Error CapabilityCell × Bool :=
  match cell.probed, p with
  | some _, _ => (.ok cell, false)
  | none, .version v => (.ok { cell with probed := some (derive cell.defaults v) }, true)
  | none, .failure message => (.error (.driver message), true)

end CapabilityCell

namespace Dialect

def name (d : Dialect) : String := d.profile.name

def capabilities (d : Dialect) : Capabilities := d.cell.get

def rules (d : Dialect) : IdentifierRules := d.profile.rules d.capabilities

/-- Asks the server for its version, where the dialect cares. -/
def probe (d : Dialect) (p : Probe) : Except Error Dialect :=
  match d.derive with
  | none => .ok d
  | some derive => (d.cell.probe derive p).1.map fun cell => { d with cell }

/-- The statements for a savepoint: to create it, to roll back to it and, where
there is such a statement, to release it. -/
def savepoint (d : Dialect) (name : String) : String × String × Option String :=
  let quoted := d.rules.quote name
  let words := d.profile.savepoints
  (words.create ++ quoted, words.rollback ++ quoted, words.release.map (· ++ quoted))

end Dialect

end SqlStatements
