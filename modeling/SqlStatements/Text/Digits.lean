import SqlStatements.Text.Letters

/-! Numbers written in digits: decimal readers that accept digits and nothing
else, and bytes as pairs of hexadecimal digits. -/
namespace SqlStatements.Text

/-- The value of a run of decimal digits, read after a value already read. -/
def digitsFrom (value : Nat) : List Char → Option Nat
  | [] => some value
  | c :: r => if isDigit c then digitsFrom (value * 10 + (c.toNat - '0'.toNat)) r else none

/-- Reads one or more decimal digits. Signs, blanks and separators are
refused. -/
def readDigits? : List Char → Option Nat
  | [] => none
  | cs => digitsFrom 0 cs

/-- Reads digits after an optional plus sign. -/
def readUnsigned? : List Char → Option Nat
  | '+' :: r => readDigits? r
  | cs => readDigits? cs

/-- Reads digits after an optional sign. -/
def readSigned? : List Char → Option Int
  | '-' :: r => (readDigits? r).map fun n => -(n : Int)
  | '+' :: r => (readDigits? r).map fun n => (n : Int)
  | cs => (readDigits? cs).map fun n => (n : Int)

/-- A hexadecimal digit; the letters are capitals when asked for. -/
def hexDigit (capitals : Bool) (n : Nat) : Char :=
  if n < 10 then Char.ofNat ('0'.toNat + n)
  else Char.ofNat ((if capitals then 'A'.toNat else 'a'.toNat) + (n - 10))

/-- Two hexadecimal digits a byte. -/
def hex (capitals : Bool) (bytes : List UInt8) : List Char :=
  bytes.flatMap fun b =>
    [hexDigit capitals (b.toNat / 16), hexDigit capitals (b.toNat % 16)]

/-- The value of a hexadecimal digit of either case. -/
def hexValue? (c : Char) : Option Nat :=
  if isDigit c then some (c.toNat - '0'.toNat)
  else if 'a' ≤ c && c ≤ 'f' then some (c.toNat - 'a'.toNat + 10)
  else if 'A' ≤ c && c ≤ 'F' then some (c.toNat - 'A'.toNat + 10)
  else none

/-- Reads bytes written as pairs of hexadecimal digits. -/
def readHex? : List Char → Option (List UInt8)
  | [] => some []
  | [_] => none
  | high :: low :: r => do
    let h ← hexValue? high
    let l ← hexValue? low
    let rest ← readHex? r
    return UInt8.ofNat (h * 16 + l) :: rest

end SqlStatements.Text
