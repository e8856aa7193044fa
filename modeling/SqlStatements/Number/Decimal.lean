import SqlStatements.Error
import SqlStatements.Number.DoubleText
import SqlStatements.Text.Blank

/-! Exact decimal numbers. The number of places is part of a value: `1.50` and
`1.5` are two values of one number. The power of ten is bounded, so that the
positional text of a value has a bounded number of zeros. -/
namespace SqlStatements

/-- The largest accepted magnitude of a power of ten. -/
def maxExponent : Nat := 16384

/-- The number `unscaled * 10 ^ (-scale)`. -/
structure Decimal where
  unscaled : Int
  scale : Int
  bounded : scale.natAbs ≤ maxExponent
deriving DecidableEq

namespace Decimal

/-- The number, if its power of ten is within the bound. -/
def ofScaled? (unscaled scale : Int) : Option Decimal :=
  if h : scale.natAbs ≤ maxExponent then some ⟨unscaled, scale, h⟩ else none

def ofInt (n : Int) : Decimal := ⟨n, 0, by decide⟩

def isNegative (d : Decimal) : Bool := d.unscaled < 0

/-- Whether two values denote the same number. -/
def sameNumber (d e : Decimal) : Bool :=
  d.unscaled * Nat.pow 10 (e.scale - d.scale).toNat ==
    e.unscaled * Nat.pow 10 (d.scale - e.scale).toNat

/-- The digits of a magnitude in positional notation, with as many digits after
the point as there are places. -/
def plainDigits (digits : List Char) (scale : Int) : List Char :=
  if scale ≤ 0 then
    if digits = ['0'] then digits else digits ++ List.replicate (-scale).toNat '0'
  else
    let places := scale.toNat
    if places < digits.length then
      digits.take (digits.length - places) ++ '.' :: digits.drop (digits.length - places)
    else '0' :: '.' :: (List.replicate (places - digits.length) '0' ++ digits)

/-- The sign of an integer, as written. -/
def signDigits (n : Int) : List Char := if n < 0 then ['-'] else []

/-- The number in positional notation, without an exponent. -/
def plainText (d : Decimal) : String :=
  String.ofList (signDigits d.unscaled ++
    plainDigits (Nat.toDigits 10 d.unscaled.natAbs) d.scale)

/-- The nearest double. -/
def toDouble (d : Decimal) : Double :=
  Double.nearest (d.unscaled < 0) (d.unscaled.natAbs * Nat.pow 10 (-d.scale).toNat)
    (Nat.pow 10 d.scale.toNat)

/-- Digits in which underscores may separate groups; the first character is a
digit. -/
def readGrouped? : List Char → Option Nat
  | [] => none
  | '_' :: _ => none
  | cs => Text.readDigits? (cs.filter (· != '_'))

/-- An integer in grouped digits with at most one sign. -/
def readInteger? : List Char → Option Int
  | '-' :: r => (readGrouped? r).map fun n => -(n : Int)
  | '+' :: r => (readGrouped? r).map fun n => (n : Int)
  | cs => (readGrouped? cs).map fun n => (n : Int)

/-- The digits of a significand without its first point, and the number of
places behind that point. A point at the very end is dropped. -/
def withoutPoint (base : List Char) : List Char × Nat :=
  match Text.splitOnce '.' base with
  | none => (base, 0)
  | some (whole, []) => (whole, 0)
  | some (whole, fraction) => (whole ++ fraction, (fraction.filter (· != '_')).length)

/-- The exponent behind a mark; it fits one hundred and twenty-eight bits. -/
def readExponent? (cs : List Char) : Option Int :=
  (Text.readSigned? cs).filter fun e => -(Nat.pow 2 127 : Int) ≤ e ∧ e < Nat.pow 2 127

/-- Reads a significand and an exponent into an integer and its number of
places, which fits sixty-four bits. -/
def readScaled? (cs : List Char) : Option (Int × Int) := do
  let isMark := fun c => c == 'e' || c == 'E'
  let base := cs.takeWhile fun c => !isMark c
  let exponent ← match cs.dropWhile (fun c => !isMark c) with
    | [] => some 0
    | _ :: e => readExponent? e
  let (digits, places) := withoutPoint base
  let scale := (places : Int) - exponent
  guard (-(Nat.pow 2 63 : Int) ≤ scale ∧ scale < Nat.pow 2 63)
  let unscaled ← readInteger? digits
  return (unscaled, scale)

/-- Reads a decimal number between blanks. -/
def parse (s : String) : Except Error Decimal :=
  match readScaled? (Text.trim s.toList) with
  | none => .error (.invalidDecimal (.malformed s))
  | some (unscaled, scale) =>
    match ofScaled? unscaled scale with
    | none => .error (.invalidDecimal (.exponentRange s))
    | some d => .ok d

/-- The number with the given digits, sign and power of ten. -/
def ofParts (negative : Bool) (digits : String) (exponent : Int) : Except Error Decimal :=
  match Text.readDigits? digits.toList with
  | none => .error (.invalidDecimal (.malformed digits))
  | some n =>
    match ofScaled? (if negative then -(n : Int) else n) (-exponent) with
    | none => .error (.invalidDecimal (.exponentRange digits))
    | some d => .ok d

/-- The text of a number whose power of ten is far from zero: an exponent where
more than five zeros would follow the point or more than fifteen the digits. -/
def shortText (unscaled scale : Int) : String :=
  let digits := Nat.toDigits 10 unscaled.natAbs
  let sign := String.ofList (signDigits unscaled)
  if unscaled = 0 then "0"
  else if digits.length + 5 < scale then
    let fraction := if digits.length ≤ 1 then "" else "." ++ String.ofList (digits.drop 1)
    sign ++ String.ofList (digits.take 1) ++ fraction ++ "E-" ++
      toString (scale - (digits.length - 1))
  else if 15 < -scale then sign ++ String.ofList digits ++ "e+" ++ toString (-scale)
  else sign ++ String.ofList (plainDigits digits scale)

/-- A number given by its digits and its scale. -/
def ofScaled (unscaled scale : Int) : Except Error Decimal :=
  match ofScaled? unscaled scale with
  | none => .error (.invalidDecimal (.exponentRange (shortText unscaled scale)))
  | some d => .ok d

end Decimal

end SqlStatements
