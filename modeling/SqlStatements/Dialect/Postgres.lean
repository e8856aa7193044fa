import SqlStatements.Dialect.Basic
import SqlStatements.Dialect.Options

/-! PostgreSQL: numbered placeholders, values handed back by the statement,
serial columns and names of at most sixty-three characters. -/
namespace SqlStatements.Postgres

/-- The types with a spelling of their own. -/
def types : List TypeSpelling :=
  [{ kind := .float
     render := fun t _ =>
      match t.precision with
      | some p => if p ≤ 24 then "REAL" else "DOUBLE PRECISION"
      | none => "DOUBLE PRECISION" },
   { kind := .binary, render := fun _ _ => "BYTEA" },
   { kind := .dateTime
     render := fun t _ =>
      if t.zoned then "TIMESTAMP WITH TIME ZONE" else "TIMESTAMP WITHOUT TIME ZONE" }]

/-- The catalog names beyond those of standard SQL. -/
def catalogNames : List (String × Kind) :=
  [("bigserial", .bigInteger), ("bool", .boolean), ("bytea", .binary),
   ("character varying", .string), ("int2", .smallInteger), ("int4", .integer),
   ("int8", .bigInteger), ("serial", .integer), ("timestamp with time zone", .dateTime),
   ("timestamp without time zone", .dateTime), ("timestamptz", .dateTime)]

def profile : Profile :=
  { name := "postgresql", placeholders := .dollar, types, catalogNames, generated := .serial }

def maxIdentifierLength : Nat := 63

def defaults (o : Options) : Capabilities :=
  { returning := true
    maxIdentifierLength := min o.maxIdentifierLength maxIdentifierLength }

/-- Values are handed back, and several rows inserted, from version 8.2 on. -/
def derive (caps : Capabilities) (version : ServerVersion) : Capabilities :=
  let modern := version.atLeast ⟨8, 2, 0⟩
  { caps with returning := modern, multiRow := modern }

def dialect (o : Options) : Dialect :=
  { profile
    identity := "postgresql/" ++ toString (defaults o).maxIdentifierLength
    cell := { defaults := defaults o }
    derive := some derive
    defaultSchema := some "public" }

end SqlStatements.Postgres
