import SqlStatements.SqlType.Basic
import SqlStatements.Text.Blank
import SqlStatements.Text.Letters

/-! Column specifications of standard SQL, and types read back from the names
that a database catalog reports. -/
namespace SqlStatements.SqlType

def sizedName (name : String) : Option Nat → String
  | some n => name ++ "(" ++ toString n ++ ")"
  | none => name

/-- A type name with an optional precision and, behind one, an optional
scale. -/
def scaledName (name : String) : Option Nat → Option Nat → String
  | some p, some s => name ++ "(" ++ toString p ++ ", " ++ toString s ++ ")"
  | some p, none => name ++ "(" ++ toString p ++ ")"
  | none, _ => name

def standardName (t : SqlType) : String :=
  match t.kind with
  | .integer => "INTEGER"
  | .smallInteger | .tinyInteger => "SMALLINT"
  | .bigInteger => "BIGINT"
  | .numeric => scaledName "NUMERIC" t.precision t.scale
  | .float => sizedName "FLOAT" t.precision
  | .string | .unicode => sizedName "VARCHAR" t.length
  | .text | .unicodeText => "TEXT"
  | .char => sizedName "CHAR" t.length
  | .nchar => sizedName "NCHAR" t.length
  | .date => "DATE"
  | .dateTime => if t.zoned then "TIMESTAMP WITH TIME ZONE" else "TIMESTAMP"
  | .time => "TIME"
  | .boolean => "BOOLEAN"
  | .binary =>
    match t.length with
    | some n => "VARBINARY(" ++ toString n ++ ")"
    | none => "BLOB"
  | .null => "NULL"

def standardNames : List (String × Kind) :=
  [("bigint", .bigInteger), ("blob", .binary), ("boolean", .boolean), ("char", .char),
   ("date", .date), ("decimal", .numeric), ("double precision", .float), ("float", .float),
   ("int", .integer), ("integer", .integer), ("nchar", .nchar), ("numeric", .numeric),
   ("real", .float), ("smallint", .smallInteger), ("text", .text), ("time", .time),
   ("timestamp", .dateTime), ("varbinary", .binary), ("varchar", .string)]

/-- The type of a kind with the numbers that the catalog gives: a precision and
a scale for numbers, a length for strings. -/
def ofCatalog (kind : Kind) (args : List Nat) : SqlType :=
  match kind, args with
  | .numeric, p :: s :: _ => numeric p s
  | .numeric, [p] => numeric p 0
  | .numeric, [] => of .numeric
  | .float, args => float args.head?
  | kind, n :: _ => (of kind).withLength n
  | kind, [] => of kind

/-- The type of a catalog name; the names given first take precedence, and an
unknown name has the unknown type. -/
def lookup (names : List (String × Kind)) (name : String) (args : List Nat) : SqlType :=
  let key := String.ofList ((Text.trim name.toList).map Char.toLower)
  match (names ++ standardNames).lookup key with
  | some kind => ofCatalog kind args
  | none => null

end SqlStatements.SqlType
