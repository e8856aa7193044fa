import SqlStatements.Number.Shortest
import SqlStatements.Text.Digits

/-! Doubles as text. Both printers show the fewest digits that read back. The
literal form keeps a point or an exponent, so that it is read as a
floating-point number again; the plain form is always positional. -/
namespace SqlStatements.Double

/-- The digits of `digits * 10 ^ exponent` in positional notation; a number
without fraction gets the given ending. -/
def positional (whole : String) (s : Shortest.Scientific) : String :=
  let ds := Nat.toDigits 10 s.digits
  let point : Int := ds.length + s.exponent
  if 0 ≤ s.exponent then String.ofList (ds ++ List.replicate s.exponent.toNat '0') ++ whole
  else if 0 < point then
    String.ofList (ds.take point.toNat) ++ "." ++ String.ofList (ds.drop point.toNat)
  else "0." ++ String.ofList (List.replicate (-point).toNat '0' ++ ds)

/-- One digit before the point, and an exponent. -/
def exponential (s : Shortest.Scientific) : String :=
  let ds := Nat.toDigits 10 s.digits
  let exponent : Int := ds.length - 1 + s.exponent
  let fraction := if ds.length ≤ 1 then "" else "." ++ String.ofList (ds.drop 1)
  String.ofList (ds.take 1) ++ fraction ++ "e" ++ toString exponent

/-- A sign for negative numbers, negative zero included. -/
def signText (x : Double) : String := if x.isNegative then "-" else ""

def specialText (x : Double) : String :=
  if x.isNaN then "NaN" else x.signText ++ "inf"

/-- Positional notation without an exponent; `1` for one. -/
def plainText (x : Double) : String :=
  if x.isFinite then
    if (x.magnitude).1 = 0 then x.signText ++ "0"
    else x.signText ++ positional "" (Shortest.ofDouble x)
  else x.specialText

/-- Positional from `0.0001` up to `10 ^ 16`, exponential outside; `1.0` for
one. -/
def literalText (x : Double) : String :=
  if x.isFinite then
    if (x.magnitude).1 = 0 then x.signText ++ "0.0"
    else
      let s := Shortest.ofDouble x
      let leading : Int := Shortest.digitCount s.digits - 1 + s.exponent
      if -4 ≤ leading ∧ leading < 16 then x.signText ++ positional ".0" s
      else x.signText ++ exponential s
  else x.specialText

/-- The double nearest to `digits * 10 ^ exponent`. Numbers far outside the
range are decided by their leading exponent. -/
def ofScientific (negative : Bool) (digits : Nat) (exponent : Int) : Double :=
  if digits = 0 then ofMagnitude negative 0
  else
    let leading : Int := Shortest.digitCount digits + exponent
    if 400 < leading then infinity negative
    else if leading < -400 then ofMagnitude negative 0
    else nearest negative (digits * Nat.pow 10 exponent.toNat) (Nat.pow 10 (-exponent).toNat)

/-- Reads digits with an optional point; gives their value and the number of
digits after the point. At least one digit is needed. -/
def readSignificand? (cs : List Char) : Option (Nat × Nat) :=
  match Text.splitOnce '.' cs with
  | none => (Text.readDigits? cs).map fun n => (n, 0)
  | some (whole, fraction) =>
    (Text.readDigits? (whole ++ fraction)).map fun n => (n, fraction.length)

def readNumber? (negative : Bool) (cs : List Char) : Option Double :=
  let isMark := fun c => c == 'e' || c == 'E'
  let base := cs.takeWhile fun c => !isMark c
  match cs.dropWhile (fun c => !isMark c) with
  | [] => (readSignificand? base).map fun (n, places) => ofScientific negative n (-places)
  | _ :: exponent => do
    let (n, places) ← readSignificand? base
    let e ← Text.readSigned? exponent
    return ofScientific negative n (e - places)

/-- Reads a number, or the name of infinity or of a value that is no number, in
any case. -/
def readMagnitude? (negative : Bool) (cs : List Char) : Option Double :=
  let word := String.ofList (cs.map Char.toLower)
  if word = "inf" ∨ word = "infinity" then some (infinity negative)
  else if word = "nan" then some nan
  else readNumber? negative cs

/-- Reads a double. Blanks and separators are refused. -/
def read? (s : String) : Option Double :=
  match s.toList with
  | '-' :: r => readMagnitude? true r
  | '+' :: r => readMagnitude? false r
  | cs => readMagnitude? false cs

end SqlStatements.Double
