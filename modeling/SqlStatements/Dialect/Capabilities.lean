/-! What a database can express. A dialect starts from a record of defaults and
may replace it, once and as a whole, after asking the server for its version. -/
namespace SqlStatements

/-- How derived tables that see their neighbours are written. -/
inductive LateralStyle where
  /-- With the word `LATERAL`. -/
  | keyword
  /-- With `CROSS APPLY` and `OUTER APPLY`. -/
  | apply
  | unsupported
deriving DecidableEq

/-- What can be expressed. The defaults describe standard SQL. -/
structure Capabilities where
  /-- Changes of rows hand back values. -/
  returning : Bool := false
  /-- One insertion takes several rows. -/
  multiRow : Bool := true
  /-- There is a type of truth values. -/
  nativeBoolean : Bool := true
  /-- There is a type of days without a time. -/
  nativeDate : Bool := true
  /-- `DEFAULT VALUES` inserts a row of defaults. -/
  defaultValues : Bool := true
  /-- `() VALUES ()` inserts a row of defaults. -/
  emptyInsert : Bool := false
  /-- A query may be compared with a value; otherwise equality becomes `IN`. -/
  scalarComparison : Bool := true
  /-- Nested queries may be ordered without a row limit. -/
  subqueryOrder : Bool := true
  /-- Tables of a schema get a generated alias. -/
  aliasQualified : Bool := false
  /-- There are functions over windows. -/
  windowFunctions : Bool := true
  lateral : LateralStyle := .keyword
  /-- The id of a new row is fetched after the insertion. -/
  fetchesLastId : Bool := false
  /-- The driver counts changed rows reliably. -/
  saneRowCount : Bool := true
  /-- The longest name that the server accepts. -/
  maxIdentifierLength : Nat := 128
deriving DecidableEq

structure ServerVersion where
  major : Nat
  minor : Nat
  patch : Nat
deriving DecidableEq

namespace ServerVersion

def text (v : ServerVersion) : String :=
  toString v.major ++ "." ++ toString v.minor ++ "." ++ toString v.patch

/-- The order of versions: the first number that differs decides. -/
def order (v w : ServerVersion) : Ordering :=
  ((compare v.major w.major).then (compare v.minor w.minor)).then (compare v.patch w.patch)

def atLeast (v w : ServerVersion) : Bool := v.order w != .lt

end ServerVersion

/-- The answer of a server that is asked for its version. -/
inductive Probe where
  | version (v : ServerVersion)
  | failure (message : String)

/-- Defaults, and the record that replaces them after a probe. -/
structure CapabilityCell where
  defaults : Capabilities
  probed : Option Capabilities := none
deriving DecidableEq

end SqlStatements
