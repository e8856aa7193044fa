import SqlStatements.Text.Letters

/-! Why a statement cannot be built, compiled or run. Every cause is a
constructor; the wording is in `Error.message` alone. -/
namespace SqlStatements

/-- What a dialect is asked for and cannot express. -/
inductive Feature where
  /-- A row limit on a compound query. -/
  | compoundLimit (operator : String)
  /-- Rows to skip, where rows can only be cut off. -/
  | offsetWithoutWindows
  /-- Rows to skip by number, without an order to number them in. -/
  | offsetWithoutOrder
  /-- A derived table that refers to its neighbours. -/
  | lateral (name : String)
  /-- A right or full join with such a table. -/
  | lateralJoin (join : String)
  /-- A join condition on such a table. -/
  | lateralCondition
  /-- A function over a window. -/
  | windowFunction (function : String)
  /-- A row of nothing but defaults. -/
  | defaultValues (table : String)
  /-- Several rows in one insertion. -/
  | multiRow (rows : Nat)
  /-- Values handed back by the statement itself. -/
  | returning
  /-- Anything else, described by the caller. -/
  | other (capability detail : String)
deriving DecidableEq

def Feature.capability : Feature → String
  | .compoundLimit _ => "LIMIT/OFFSET on compound SELECT"
  | .offsetWithoutWindows | .offsetWithoutOrder => "OFFSET"
  | .lateral _ | .lateralJoin _ | .lateralCondition => "LATERAL"
  | .windowFunction _ => "window functions"
  | .defaultValues _ => "DEFAULT VALUES"
  | .multiRow _ => "multi-row VALUES"
  | .returning => "RETURNING"
  | .other capability _ => capability

def Feature.detail : Feature → String
  | .compoundLimit operator => operator ++ " with a row limit"
  | .offsetWithoutWindows => "TOP cannot skip rows and the server has no window functions"
  | .offsetWithoutOrder => "emulating OFFSET with ROW_NUMBER() requires an ORDER BY"
  | .lateral name => "lateral subquery " ++ name
  | .lateralJoin join => join ++ " against a lateral subquery"
  | .lateralCondition => "APPLY takes no ON condition; filter inside the subquery"
  | .windowFunction function => function ++ "() OVER (...)"
  | .defaultValues table => "INSERT into " ++ table ++ " without values"
  | .multiRow rows => toString rows ++ " rows in one INSERT"
  | .returning => "generated values are fetched after the statement instead"
  | .other _ detail => detail

/-- Two parts of a definition or a statement that contradict each other. -/
inductive Conflict where
  | duplicateKey (key table : String)
  | severalGenerated (table : String) (columns : List String)
  | redefined (table : String)
  | rowsAndQuery
  | rowShape (row : Nat)
  | emptyUpdate
  | emptySelect
  | starOverDerived
  | distinctOrder
  | rowBound (bound : Nat)
  /-- The depth of nested row offsets was underestimated. -/
  | unboundedPaging
deriving DecidableEq

def Conflict.message : Conflict → String
  | .duplicateKey key table => "duplicate column key '" ++ key ++ "' in table '" ++ table ++ "'"
  | .severalGenerated table columns =>
    "table '" ++ table ++ "' declares more than one auto-increment column (" ++
      Text.join ", " columns ++ "); only one generated column per table is supported"
  | .redefined table =>
    "table '" ++ table ++
      "' is already defined; additional columns for an existing table are not accepted"
  | .rowsAndQuery => "an INSERT takes its rows from either VALUES or a SELECT, not both"
  | .rowShape row =>
    "multi-row VALUES row " ++ toString row ++ " names different columns than row 0"
  | .emptyUpdate => "an UPDATE needs at least one SET assignment"
  | .emptySelect => "a SELECT needs at least one column"
  | .starOverDerived =>
    "cannot expand * over a derived table when emulating OFFSET; list the columns"
  | .distinctOrder => "ORDER BY of a DISTINCT SELECT with an OFFSET must use selected columns"
  | .rowBound bound => "row bound " ++ toString bound ++ " is out of range"
  | .unboundedPaging => "the row offsets are nested too deeply"

/-- Why a parameter cannot be written into the text. -/
inductive LiteralFault where
  | noValue
  | noSpelling (kind : String)
  | notFinite (text : String)
deriving DecidableEq

def LiteralFault.message : LiteralFault → String
  | .noValue => "the parameter has no value"
  | .noSpelling kind => "type " ++ kind ++ " has no literal rendering"
  | .notFinite text => "float " ++ text ++ " has no SQL literal"

/-- How two parameters of one name disagree. -/
inductive BindClash where
  | types (first second : String)
  | values
deriving DecidableEq

/-- Why a value does not fit the type it is converted for. -/
inductive ConversionFault where
  | unexpected (variant : String)
  | notNumber (text : String)
deriving DecidableEq

def ConversionFault.message : ConversionFault → String
  | .unexpected variant => "unexpected " ++ variant ++ " value"
  | .notNumber text => "'" ++ text ++ "' is not a number"

/-- Why a text is no decimal number. -/
inductive DecimalFault where
  | malformed (text : String)
  | exponentRange (text : String)
deriving DecidableEq

def DecimalFault.message : DecimalFault → String
  | .malformed text => text
  | .exponentRange text => text ++ ": exponent outside of ±16384"

inductive Error where
  /-- The dialect cannot express part of the statement. -/
  | unsupported (dialect : String) (feature : Feature)
  /-- Names that belong to no column and no parameter, in alphabetical order. -/
  | unconsumed (names : List String)
  /-- Two parts contradict each other. -/
  | conflict (cause : Conflict)
  /-- A parameter cannot be written into the text. -/
  | literal (param : String) (cause : LiteralFault)
  /-- Two parameters of one name disagree. -/
  | bindConflict (name : String) (cause : BindClash)
  /-- A parameter has no value. -/
  | missingValue (name : String)
  /-- An option has an unusable value. -/
  | invalidOption (option value : String)
  /-- No dialect is filed under the scheme. -/
  | unknownDialect (scheme : String)
  /-- A value cannot be converted for its type. -/
  | conversion (type : String) (cause : ConversionFault)
  /-- A text is no decimal number. -/
  | invalidDecimal (cause : DecimalFault)
  /-- The driver reports a failure. -/
  | driver (message : String)
  /-- The identifier limit leaves no free name. -/
  | noFreeName (base : String)
deriving DecidableEq

def Error.message : Error → String
  | .unsupported dialect feature =>
    feature.capability ++ " is not supported by the " ++ dialect ++ " dialect: " ++ feature.detail
  | .unconsumed names => "unconsumed column names: " ++ Text.join ", " names
  | .conflict cause => "structural conflict: " ++ cause.message
  | .literal param cause =>
    "literal rendering not implemented for bind parameter '" ++ param ++ "': " ++ cause.message
  | .bindConflict name (.types first second) =>
    "bind parameter conflict: bind parameter '" ++ name ++ "' is used with types " ++ first ++
      " and " ++ second
  | .bindConflict name .values =>
    "bind parameter conflict: bind parameter '" ++ name ++ "' is given two different values"
  | .missingValue name => "a value is required for bind parameter '" ++ name ++ "'"
  | .invalidOption option value => "invalid value '" ++ value ++ "' for option '" ++ option ++ "'"
  | .unknownDialect scheme => "unknown dialect: " ++ scheme
  | .conversion type cause => "cannot process value for type " ++ type ++ ": " ++ cause.message
  | .invalidDecimal cause => "invalid decimal literal: " ++ cause.message
  | .driver message => "driver error: " ++ message
  | .noFreeName base => "no free name for '" ++ base ++ "' within the identifier limit"

/-- The missing capability, where that is the cause. -/
def Error.capability? : Error → Option String
  | .unsupported _ feature => some feature.capability
  | _ => none

end SqlStatements
