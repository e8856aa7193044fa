/-! Binary floating-point numbers of double precision, held by their bits, so
that equality is equality of bits and every computation on them is exact
integer arithmetic. -/
namespace SqlStatements

/-- The sixty-four bits of a double: a sign, eleven bits of exponent and
fifty-two bits of fraction. -/
structure Double where
  bits : UInt64
deriving DecidableEq

namespace Double

def exponentField (x : Double) : Nat := (x.bits.toNat / Nat.pow 2 52) % Nat.pow 2 11

def fractionField (x : Double) : Nat := x.bits.toNat % Nat.pow 2 52

def isNegative (x : Double) : Bool := Nat.pow 2 63 ≤ x.bits.toNat

/-- Whether the bits stand for a number. -/
def isFinite (x : Double) : Bool := x.exponentField != 2047

/-- Whether the bits stand for no value at all. -/
def isNaN (x : Double) : Bool := x.exponentField == 2047 && x.fractionField != 0

/-- The magnitude of a finite double as `m * 2 ^ q`, given as `(m, q)`. -/
def magnitude (x : Double) : Nat × Int :=
  if x.exponentField = 0 then (x.fractionField, -1074)
  else (x.fractionField + Nat.pow 2 52, (x.exponentField : Int) - 1075)

/-- The bits of a magnitude, with a sign. -/
def ofMagnitude (negative : Bool) (bits : Nat) : Double :=
  ⟨UInt64.ofNat (if negative then Nat.pow 2 63 + bits else bits)⟩

def infinityBits : Nat := 2047 * Nat.pow 2 52

def nan : Double := ofMagnitude false (infinityBits + Nat.pow 2 51)

def infinity (negative : Bool) : Double := ofMagnitude negative infinityBits

/-- The quotient `num / den` to the nearest integer; a half goes to the even
neighbour. -/
def roundEven (num den : Nat) : Nat :=
  let q := num / den
  let r := num % den
  if den < 2 * r || (2 * r == den && q % 2 == 1) then q + 1 else q

/-- The binary exponent at which `num / den` has fifty-three digits before the
point, but at least that of the smallest double. -/
def scaleOf (num den : Nat) : Int :=
  let guess : Int := (num.log2 : Int) - (den.log2 : Int) - 52
  let short : Bool :=
    if guess ≤ 0 then num * Nat.pow 2 guess.natAbs < den * Nat.pow 2 52
    else num < den * Nat.pow 2 guess.natAbs * Nat.pow 2 52
  max (if short then guess - 1 else guess) (-1074)

/-- The bits of the double nearest to `num / den`; a tie goes to the even
neighbour and what is too large becomes infinity. A carry out of the fraction
runs into the exponent, as it should. -/
def nearestBits (num den : Nat) : Nat :=
  if num = 0 then 0
  else
    let e := scaleOf num den
    let m :=
      if e ≤ 0 then roundEven (num * Nat.pow 2 e.natAbs) den
      else roundEven num (den * Nat.pow 2 e.natAbs)
    let bits :=
      if m < Nat.pow 2 52 then m else (e + 1075).toNat * Nat.pow 2 52 + (m - Nat.pow 2 52)
    min bits infinityBits

/-- The double nearest to a quotient of naturals, with a sign. -/
def nearest (negative : Bool) (num den : Nat) : Double :=
  ofMagnitude negative (nearestBits num den)

def ofInt (n : Int) : Double := nearest (n < 0) n.natAbs 1

end Double

end SqlStatements
