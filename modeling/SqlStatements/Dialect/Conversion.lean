import SqlStatements.Value

/-! Conversions of values on their way to the driver and back, and the ways to
write a value into the text. Both are data, so that a compiled statement can
carry them. -/
namespace SqlStatements

inductive Conversion where
  /-- Truth values become one and zero. -/
  | boolToInt
  /-- Zero and other integers become truth values. -/
  | intToBool
  /-- Numbers become exact decimals. -/
  | toDecimal
  /-- Numbers become doubles. -/
  | toDouble
  /-- Dates and times become text to the second. -/
  | dateTimeToText
  /-- Days become text. -/
  | dateToText
  /-- Dates and times lose their time. -/
  | dropTime
  /-- Days become midnights. -/
  | addMidnight
  /-- Bytes become hexadecimal text in capitals. -/
  | blobToHex
deriving DecidableEq

/-- The failure to take a value for a type. -/
def unexpectedValue (type : String) (v : Value) : Error :=
  .conversion type (.unexpected v.variant)

namespace Conversion

/-- One for truth. -/
def bit (b : Bool) : Value := .int (if b then 1 else 0)

/-- The converted value. Missing values stay missing. -/
def apply : Conversion → Value → Except Error Value
  | .boolToInt, .null => .ok .null
  | .boolToInt, .bool b => .ok (bit b)
  | .boolToInt, .int n => .ok (bit (n != 0))
  | .boolToInt, v => .error (unexpectedValue "Boolean" v)
  | .intToBool, .null => .ok .null
  | .intToBool, .bool b => .ok (.bool b)
  | .intToBool, .int n => .ok (.bool (n != 0))
  | .intToBool, v => .error (unexpectedValue "Boolean" v)
  | .toDecimal, .null => .ok .null
  | .toDecimal, .decimal d => .ok (.decimal d)
  | .toDecimal, .int n => .ok (.decimal (.ofInt n))
  | .toDecimal, .text s => (Decimal.parse s).map .decimal
  | .toDecimal, .float x => (Decimal.parse x.plainText).map .decimal
  | .toDecimal, v => .error (unexpectedValue "Numeric" v)
  | .toDouble, .null => .ok .null
  | .toDouble, .float x => .ok (.float x)
  | .toDouble, .decimal d => .ok (.float d.toDouble)
  | .toDouble, .int n => .ok (.float (.ofInt n))
  | .toDouble, .text s =>
    match Double.read? s with
    | some x => .ok (.float x)
    | none => .error (.conversion "Numeric" (.notNumber s))
  | .toDouble, v => .error (unexpectedValue "Numeric" v)
  | .dateTimeToText, .dateTime t => .ok (.text t.clockText)
  | .dateTimeToText, .date d => .ok (.text (DateTime.mk d .midnight).clockText)
  | .dateTimeToText, .null => .ok .null
  | .dateTimeToText, .text s => .ok (.text s)
  | .dateTimeToText, v => .error (unexpectedValue "DateTime" v)
  | .dateToText, .date d => .ok (.text d.text)
  | .dateToText, .dateTime t => .ok (.text t.date.text)
  | .dateToText, .null => .ok .null
  | .dateToText, .text s => .ok (.text s)
  | .dateToText, v => .error (unexpectedValue "Date" v)
  | .dropTime, .dateTime t => .ok (.date t.date)
  | .dropTime, v => .ok v
  | .addMidnight, .date d => .ok (.dateTime ⟨d, .midnight⟩)
  | .addMidnight, v => .ok v
  | .blobToHex, .blob bytes => .ok (.text (String.ofList (Text.hex true bytes)))
  | .blobToHex, v => .ok v

end Conversion

def convert (conversion : Option Conversion) (v : Value) : Except Error Value :=
  match conversion with
  | some c => c.apply v
  | none => .ok v

inductive LiteralStyle where
  /-- The form of standard SQL. -/
  | standard
  /-- Truth values as one and zero. -/
  | bits
  /-- Dates and times to the second. -/
  | dateTimes
  /-- Days. -/
  | dates
deriving DecidableEq

/-- A converted value: text between quotes, all else in the standard form. -/
def inlineText : Value → Except Error String
  | .text s => .ok (quoteString s)
  | v => v.inline

def LiteralStyle.render : LiteralStyle → Value → Except Error String
  | .standard, v => v.inline
  | .bits, .bool b => .ok (if b then "1" else "0")
  | .bits, v => v.inline
  | .dateTimes, v => (Conversion.dateTimeToText.apply v).bind inlineText
  | .dates, v => (Conversion.dateToText.apply v).bind inlineText

end SqlStatements
