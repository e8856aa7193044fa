import SqlStatements.Dialect.Capabilities
import SqlStatements.Dialect.Conversion
import SqlStatements.Dialect.Placeholder
import SqlStatements.Identifier.Fresh
import SqlStatements.SqlType.Spelling
import SqlStatements.Statement.Basic

/-! A profile is all that a dialect decides about the text of a statement,
whatever the server can do. Together with a record of capabilities it fixes the
text. The profile of standard SQL is the default of every field. -/
namespace SqlStatements

/-- How row limits and offsets are written. -/
inductive LimitStrategy where
  /-- `LIMIT` and `OFFSET` at the end. -/
  | limitOffset
  /-- `TOP` in front of the columns; no offsets. -/
  | top
  /-- `TOP` for limits; offsets select rows by their number. -/
  | rowNumber
deriving DecidableEq

/-- How a profile chooses its strategy. -/
inductive LimitRule where
  | fixed (strategy : LimitStrategy)
  /-- Row numbers where there are window functions, `TOP` alone elsewhere. -/
  | byWindows
deriving DecidableEq

def LimitRule.strategy : LimitRule → Capabilities → LimitStrategy
  | .fixed strategy, _ => strategy
  | .byWindows, caps => if caps.windowFunctions then .rowNumber else .top

/-- A replacement for a function call. -/
inductive FunctionSpelling where
  /-- A call under another name. -/
  | rename (name : String)
  /-- A word without arguments. -/
  | keyword (word : String)
deriving DecidableEq

/-- How a part of a date is taken. -/
inductive ExtractStyle where
  | extractFrom
  | datePart
deriving DecidableEq

/-- What stands before and after the operand when a part of a date is taken. -/
def ExtractStyle.frame (style : ExtractStyle) (field : String) : String × String :=
  match style with
  | .extractFrom => ("EXTRACT(" ++ field ++ " FROM ", ")")
  | .datePart =>
    let part :=
      match Text.lower field with
      | "doy" => "dayofyear"
      | "dow" => "weekday"
      | "milliseconds" => "millisecond"
      | other => other
    ("DATEPART(" ++ part ++ ", ", ")")

inductive GeneratedStyle where
  /-- With a standard identity clause. -/
  | identity
  /-- With a serial type. -/
  | serial
  /-- With a clause that names start and step. -/
  | seeded
deriving DecidableEq

/-- The type that replaces the type of a generated column. -/
def GeneratedStyle.type? (style : GeneratedStyle) (c : Column) : Option String :=
  match style with
  | .serial =>
    if c.type.kind = .bigInteger then some "BIGSERIAL"
    else if c.type.kind.isInteger then some "SERIAL"
    else none
  | .identity | .seeded => none

/-- The clause behind a generated column. -/
def GeneratedStyle.clause? (style : GeneratedStyle) (c : Column) : Option String :=
  match style with
  | .identity => some "GENERATED BY DEFAULT AS IDENTITY"
  | .serial => none
  | .seeded =>
    let seed := c.identity?.getD .natural
    some ("IDENTITY(" ++ toString seed.start ++ "," ++ toString seed.increment ++ ")")

/-- The words in front of the name of a savepoint. -/
structure SavepointWords where
  create : String := "SAVEPOINT "
  rollback : String := "ROLLBACK TO SAVEPOINT "
  release : Option String := some "RELEASE SAVEPOINT "

structure TransactionWords where
  start : String := "BEGIN"
  commit : String := "COMMIT"
  rollback : String := "ROLLBACK"

/-- A kind of type with a spelling of its own. -/
structure TypeSpelling where
  kind : Kind
  render : SqlType → Capabilities → String

/-- The decisions of a dialect about its text. -/
structure Profile where
  name : String
  opening : Char := '"'
  closing : Char := '"'
  reserved : List String := standardReserved
  foldsCase : Bool := true
  placeholders : PlaceholderStyle := .questionMark
  limits : LimitRule := .fixed .limitOffset
  operators : List (BinaryOp × String) := []
  functions : List (String × FunctionSpelling) := []
  extract : ExtractStyle := .extractFrom
  /-- Recursion is announced by a word of its own. -/
  recursiveWord : Bool := true
  types : List TypeSpelling := []
  catalogNames : List (String × Kind) := []
  /-- Days, dates and times travel as text. -/
  datesAsText : Bool := false
  /-- The conversion of bytes, where the driver does not take them. -/
  bytes : Option Conversion := none
  generated : GeneratedStyle := .identity
  /-- An index is dropped under the name of its table. -/
  qualifiedIndex : Bool := false
  savepoints : SavepointWords := {}
  transactions : TransactionWords := {}

namespace Profile

def rules (p : Profile) (caps : Capabilities) : IdentifierRules :=
  { opening := p.opening, closing := p.closing, reserved := p.reserved, foldsCase := p.foldsCase
    maxLength := caps.maxIdentifierLength }

def operator (p : Profile) (op : BinaryOp) : String := (p.operators.lookup op).getD op.token

/-- The native column specification of a type. -/
def typeName (p : Profile) (caps : Capabilities) (t : SqlType) : String :=
  let spec :=
    match p.types.find? fun s => s.kind = t.kind with
    | some s => s.render t caps
    | none =>
      if t.kind = .boolean ∧ caps.nativeBoolean = false then "SMALLINT" else t.standardName
  match t.collation with
  | some collation => spec ++ " COLLATE " ++ collation
  | none => spec

def bindConversion (p : Profile) (caps : Capabilities) (t : SqlType) : Option Conversion :=
  match t.kind with
  | .dateTime => if p.datesAsText then some .dateTimeToText else none
  | .date => if p.datesAsText then some .dateToText else none
  | .binary => p.bytes
  | .boolean => if caps.nativeBoolean then none else some .boolToInt
  | _ => none

def resultConversion (p : Profile) (caps : Capabilities) (t : SqlType) : Option Conversion :=
  match t.kind with
  | .dateTime => if p.datesAsText then some .addMidnight else none
  | .date => if p.datesAsText then some .dropTime else none
  | .boolean => if caps.nativeBoolean then none else some .intToBool
  | .numeric | .float =>
    match t.mode with
    | .decimal => some .toDecimal
    | .float => some .toDouble
  | _ => none

/-- The way to write values of a type. The unknown type has none. -/
def literalStyle (p : Profile) (caps : Capabilities) (t : SqlType) : Option LiteralStyle :=
  match t.kind with
  | .dateTime => some (if p.datesAsText then .dateTimes else .standard)
  | .date => some (if p.datesAsText then .dates else .standard)
  | .null => none
  | .boolean => some (if caps.nativeBoolean then .standard else .bits)
  | _ => some .standard

/-- A value of a type as written; without a style of its own in the standard
form, and a missing value by its word. -/
def literalText (p : Profile) (caps : Capabilities) (t : SqlType) (v : Value) :
    Except Error String :=
  if v.isNull then .ok "NULL"
  else ((p.literalStyle caps t).getD .standard).render v

/-- What names an index when it is dropped. -/
def dropIndexTarget (p : Profile) (rules : IdentifierRules) (index : Index) : String :=
  if p.qualifiedIndex then rules.table index.table true ++ "." ++ rules.quote index.name
  else rules.quote index.name

end Profile

def Profile.standard : Profile := { name := "generic" }

end SqlStatements
