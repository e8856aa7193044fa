import SqlStatements.Dialect.Postgres
import SqlStatements.Dialect.SqlServer
import SqlStatements.Text.NameMap
import SqlStatements.Text.Visible

/-! Dialects under the schemes of connection addresses. -/
namespace SqlStatements

def Dialect.standard : Dialect :=
  { profile := .standard, identity := "generic", cell := { defaults := {} } }

inductive Family where
  | standard
  | postgres
  | sqlServer (driver : SqlServer.Driver)
deriving DecidableEq

def Family.build : Family → Options → Except Error Dialect
  | .standard, _ => .ok .standard
  | .postgres, o => .ok (Postgres.dialect o)
  | .sqlServer driver, o => SqlServer.dialect driver o

/-- Families of dialects under schemes, which are kept in lower case. -/
structure Registry where
  families : NameMap Family := {}

namespace Registry

/-- Files a family; an earlier one under the scheme is replaced. -/
def register (r : Registry) (scheme : String) (family : Family) : Registry :=
  ⟨r.families.insert (Text.lower scheme) family⟩

/-- The dialects that need nothing else. -/
def builtin : Registry :=
  (({} : Registry).register "generic" .standard |>.register "postgresql" .postgres).register
    "postgres" .postgres

def withSqlServer (r : Registry) : Registry :=
  ((r.register "mssql" (.sqlServer .odbc)).register "mssql+odbc" (.sqlServer .odbc)).register
    "mssql+tds" (.sqlServer .tds)

def full : Registry := builtin.withSqlServer

def get? (r : Registry) (scheme : String) : Option Family :=
  r.families.find? (Text.lower scheme)

def load (r : Registry) (scheme : String) (o : Options) : Except Error Dialect :=
  match r.get? scheme with
  | some family => family.build o
  | none => .error (.unknownDialect scheme)

/-- The dialect that a connection address asks for. -/
def ofUrl (r : Registry) (url : String) : Except Error Dialect := do
  let (scheme, options) ← Options.ofUrl url
  r.load scheme options

/-- The schemes in alphabetical order. -/
def schemes (r : Registry) : List String := r.families.names

/-- A character of a scheme between quotes. Characters that cannot be seen are
given by their number. -/
def shown (c : Char) : String :=
  match c with
  | '"' => "\\\""
  | '\\' => "\\\\"
  | '\n' => "\\n"
  | '\r' => "\\r"
  | '\t' => "\\t"
  | c =>
    if c.toNat = 0 then "\\0"
    else if Text.isVisible c then c.toString
    else "\\u\x7b" ++ String.ofList (Nat.toDigits 16 c.toNat) ++ "\x7d"

/-- The schemes as text: each between quotes, all between braces. -/
def text (r : Registry) : String :=
  "\x7b" ++ Text.join ", "
    (r.schemes.map fun s => "\"" ++ String.join (s.toList.map shown) ++ "\"") ++ "\x7d"

end Registry

end SqlStatements
