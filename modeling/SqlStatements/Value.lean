import SqlStatements.Calendar
import SqlStatements.Number.Decimal

/-! The values that statements carry, and their text inside a statement. -/
namespace SqlStatements

inductive Value where
  | null
  | bool (b : Bool)
  | int (n : Int)
  | float (x : Double)
  | decimal (d : Decimal)
  | text (s : String)
  | blob (bytes : List UInt8)
  | date (d : Date)
  | dateTime (t : DateTime)
  | time (t : TimeOfDay)
deriving DecidableEq

abbrev Row := List Value

/-- A string literal: quotes around the text, quotes inside it written twice. -/
def quoteString (s : String) : String :=
  String.ofList ('\'' :: (Text.double '\'' s.toList ++ ['\'']))

namespace Value

def isNull : Value → Bool
  | .null => true
  | _ => false

/-- A short name for the kind of value. -/
def variant : Value → String
  | .null => "null"
  | .bool _ => "bool"
  | .int _ => "int"
  | .float _ => "float"
  | .decimal _ => "decimal"
  | .text _ => "text"
  | .blob _ => "blob"
  | .date _ => "date"
  | .dateTime _ => "datetime"
  | .time _ => "time"

/-- The value written into the text of a statement. Infinities and values that
are no numbers have no such form. -/
def inline : Value → Except Error String
  | .null => .ok "NULL"
  | .bool b => .ok (if b then "TRUE" else "FALSE")
  | .int n => .ok (toString n)
  | .float x =>
    if x.isFinite then .ok x.literalText else .error (.literal "" (.notFinite x.plainText))
  | .decimal d => .ok d.plainText
  | .text s => .ok (quoteString s)
  | .blob bytes => .ok ("X'" ++ String.ofList (Text.hex true bytes) ++ "'")
  | .date d => .ok ("'" ++ d.text ++ "'")
  | .dateTime t => .ok ("'" ++ t.text ++ "'")
  | .time t => .ok ("'" ++ t.text ++ "'")

end Value

end SqlStatements
