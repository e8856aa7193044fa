/-! Logical types of columns and parameters. A type is a kind with optional
facets; a facet that does not belong to the kind is never set. -/
namespace SqlStatements

/-- The families of logical types. -/
inductive Kind where
  | integer
  | smallInteger
  | tinyInteger
  | bigInteger
  | numeric
  | float
  | string
  | unicode
  | text
  | unicodeText
  | char
  | nchar
  | date
  | dateTime
  | time
  | boolean
  | binary
  | null
deriving DecidableEq

namespace Kind

def name : Kind → String
  | .integer => "Integer"
  | .smallInteger => "SmallInteger"
  | .tinyInteger => "TinyInteger"
  | .bigInteger => "BigInteger"
  | .numeric => "Numeric"
  | .float => "Float"
  | .string => "String"
  | .unicode => "Unicode"
  | .text => "Text"
  | .unicodeText => "UnicodeText"
  | .char => "Char"
  | .nchar => "NChar"
  | .date => "Date"
  | .dateTime => "DateTime"
  | .time => "Time"
  | .boolean => "Boolean"
  | .binary => "Binary"
  | .null => "Null"

def all : List Kind :=
  [.integer, .smallInteger, .tinyInteger, .bigInteger, .numeric, .float, .string, .unicode, .text,
   .unicodeText, .char, .nchar, .date, .dateTime, .time, .boolean, .binary, .null]

def ofName? (s : String) : Option Kind := all.find? fun k => k.name == s

def isInteger : Kind → Bool
  | .integer | .smallInteger | .tinyInteger | .bigInteger => true
  | _ => false

def isCharacter : Kind → Bool
  | .string | .unicode | .text | .unicodeText | .char | .nchar => true
  | _ => false

/-- The kinds that may have a length. -/
def takesLength (k : Kind) : Bool := k.isCharacter || k == .binary

end Kind

/-- How numbers are handed to the application. -/
inductive NumericMode where
  | decimal
  | float
deriving DecidableEq

structure SqlType where
  kind : Kind
  length : Option Nat := none
  precision : Option Nat := none
  scale : Option Nat := none
  collation : Option String := none
  zoned : Bool := false
  mode : NumericMode := .decimal
deriving DecidableEq

namespace SqlType

/-- The type of a kind, without facets. -/
def of (kind : Kind) : SqlType :=
  { kind, mode := if kind = .float then .float else .decimal }

/-- The unknown type. -/
def null : SqlType := of .null

instance : Inhabited SqlType := ⟨null⟩

/-- Fixed point with a precision and a scale. -/
def numeric (precision scale : Nat) : SqlType :=
  { of .numeric with precision := some precision, scale := some scale }

def float (precision : Option Nat) : SqlType := { of .float with precision }

/-- A kind with a length, which may be left open. -/
def sized (kind : Kind) (length : Option Nat) : SqlType := { of kind with length }

/-- Sets the length, where the kind has one. -/
def withLength (t : SqlType) (n : Nat) : SqlType :=
  if t.kind.takesLength then { t with length := some n } else t

def withCollation (t : SqlType) (collation : String) : SqlType :=
  if t.kind.isCharacter then { t with collation := some collation } else t

/-- Makes a time of day or a date and time aware of its zone. -/
def withZone (t : SqlType) : SqlType :=
  if t.kind = .dateTime ∨ t.kind = .time then { t with zoned := true } else t

/-- Chooses how numbers are handed back. -/
def withMode (t : SqlType) (mode : NumericMode) : SqlType := { t with mode }

def isNull (t : SqlType) : Bool := t.kind == .null

end SqlType

end SqlStatements
