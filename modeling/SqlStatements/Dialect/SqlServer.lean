import SqlStatements.Dialect.Basic
import SqlStatements.Dialect.Options

/-! SQL Server: names in brackets, `TOP` for limits and row numbers for
offsets, generated aliases for tables of a schema, `APPLY` for lateral tables,
and ids fetched after the insertion. -/
namespace SqlStatements.SqlServer

inductive Driver where
  | odbc
  /-- Takes no binary parameters and miscounts rows. -/
  | tds
deriving DecidableEq

def Driver.name : Driver → String
  | .odbc => "odbc"
  | .tds => "tds"

/-- A type name with its length, or with the largest. -/
def sizedOrMax (name : String) : Option Nat → String
  | some n => name ++ "(" ++ toString n ++ ")"
  | none => name ++ "(max)"

/-- The types with a spelling of their own. -/
def types (textAsVarchar : Bool) : List TypeSpelling :=
  [{ kind := .tinyInteger, render := fun _ _ => "TINYINT" },
   { kind := .dateTime, render := fun _ _ => "DATETIME" },
   { kind := .date, render := fun _ caps => if caps.nativeDate then "DATE" else "SMALLDATETIME" },
   { kind := .time, render := fun _ caps => if caps.nativeDate then "TIME" else "DATETIME" },
   { kind := .string, render := fun t _ => sizedOrMax "VARCHAR" t.length },
   { kind := .unicode, render := fun t _ => sizedOrMax "NVARCHAR" t.length },
   { kind := .text, render := fun _ _ => if textAsVarchar then "VARCHAR(max)" else "TEXT" },
   { kind := .unicodeText
     render := fun _ _ => if textAsVarchar then "NVARCHAR(max)" else "NTEXT" },
   { kind := .binary
     render := fun t _ =>
      match t.length with
      | some n => "VARBINARY(" ++ toString n ++ ")"
      | none => "IMAGE" },
   { kind := .boolean, render := fun _ _ => "BIT" }]

/-- The catalog names beyond those of standard SQL. -/
def catalogNames : List (String × Kind) :=
  [("binary", .binary), ("bit", .boolean), ("datetime", .dateTime), ("datetime2", .dateTime),
   ("image", .binary), ("money", .numeric), ("ntext", .unicodeText), ("nvarchar", .unicode),
   ("smalldatetime", .date), ("tinyint", .tinyInteger)]

/-- The conversion of bytes for a family of drivers. -/
def bytes : Driver → Option Conversion
  | .odbc => none
  | .tds => some .blobToHex

/-- The profile, which depends on the driver and on one option. -/
def profile (driver : Driver) (textAsVarchar : Bool) : Profile :=
  { name := "mssql", opening := '[', closing := ']', reserved := transactReserved
    foldsCase := false, limits := .byWindows, operators := [(.concat, "+")]
    functions :=
      [("now", .keyword "CURRENT_TIMESTAMP"), ("length", .rename "LEN"),
       ("char_length", .rename "LEN")]
    extract := .datePart, recursiveWord := false, types := types textAsVarchar, catalogNames
    datesAsText := true, bytes := bytes driver, generated := .seeded, qualifiedIndex := true
    savepoints :=
      { create := "SAVE TRANSACTION ", rollback := "ROLLBACK TRANSACTION ", release := none }
    transactions :=
      { start := "BEGIN TRANSACTION", commit := "IF @@TRANCOUNT > 0 COMMIT TRAN"
        rollback := "IF @@TRANCOUNT > 0 ROLLBACK TRAN" } }

def maxIdentifierLength : Nat := 128

def defaults (driver : Driver) (o : Options) : Capabilities :=
  { returning := false, multiRow := false, nativeBoolean := false, nativeDate := false
    defaultValues := true, emptyInsert := false, scalarComparison := false
    subqueryOrder := false, aliasQualified := true, windowFunctions := o.hasWindowFunctions
    lateral := .apply, fetchesLastId := true, saneRowCount := driver = .odbc
    maxIdentifierLength := o.maxIdentifierLength }

/-- Window functions come with version 9, a type of days and insertions of
several rows with version 10. -/
def derive (o : Options) (caps : Capabilities) (version : ServerVersion) : Capabilities :=
  { caps with
    windowFunctions := o.hasWindowFunctions || 9 ≤ version.major
    nativeDate := 10 ≤ version.major
    multiRow := 10 ≤ version.major }

def lastIdQuery : String := "SELECT @@IDENTITY AS lastrowid"

/-- The schema of unqualified names. -/
def schemaName (o : Options) : String := o.schemaName.getD "dbo"

/-- The dialect for a driver, whatever the length of names. -/
def build (driver : Driver) (o : Options) : Dialect :=
  { profile := profile driver o.textAsVarchar
    identity := "mssql+" ++ driver.name ++ "/text_as_varchar=" ++ toString o.textAsVarchar ++
      "/schema=" ++ schemaName o
    cell := { defaults := defaults driver o }
    derive := some (derive o)
    lastIdQuery := some lastIdQuery
    defaultSchema := some (schemaName o)
    timeout := o.queryTimeout
    session := .identityInsert o.autoIdentityInsert o.useScopeIdentity }

/-- The dialect for a driver, if the length of names suits the server. -/
def dialect (driver : Driver) (o : Options) : Except Error Dialect :=
  if o.maxIdentifierLength = 0 ∨ maxIdentifierLength < o.maxIdentifierLength then
    .error (.invalidOption "max_identifier_length" (toString o.maxIdentifierLength))
  else .ok (build driver o)

end SqlStatements.SqlServer
