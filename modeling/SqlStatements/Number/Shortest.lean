import SqlStatements.Number.Double

/-! The fewest decimal digits that read back as a given double. For one, two,
up to seventeen digits the two neighbours of the value on that decimal grid
are tried; the first grid with a neighbour inside the rounding interval wins. -/
namespace SqlStatements.Shortest

/-- A decimal number `digits * 10 ^ exponent`. -/
structure Scientific where
  digits : Nat
  exponent : Int
deriving DecidableEq

/-- The order of `c * 10 ^ e` and `b * 2 ^ q`, both scaled to integers. -/
def compareGrid (c : Nat) (e : Int) (b : Nat) (q : Int) : Ordering :=
  compare (c * Nat.pow 10 e.toNat * Nat.pow 2 (-q).toNat)
    (b * Nat.pow 2 q.toNat * Nat.pow 10 (-e).toNat)

def digitCount (n : Nat) : Nat := (Nat.toDigits 10 n).length

/-- The decimal exponent of the first digit of `num / den`, a positive
number. -/
def leadingExponent (num den : Nat) : Int :=
  if den ≤ num then (digitCount (num / den) : Int) - 1
  else -(digitCount ((den + num - 1) / num - 1) : Int)

/-- A double as the rounding interval around it, in quarters of its last place:
the value is `4 * m` of them, the interval ends two above and two below, or one
below where the doubles below are twice as dense. -/
structure Target where
  m : Nat
  q : Int
  narrow : Bool

/-- Whether a decimal reads back as the double. The ends of the interval belong
to it when the significand is even. -/
def Target.accepts (t : Target) (c : Nat) (e : Int) : Bool :=
  let low := if t.narrow then 4 * t.m - 1 else 4 * t.m - 2
  let aboveLow := compareGrid c e low (t.q - 2)
  let belowHigh := compareGrid c e (4 * t.m + 2) (t.q - 2)
  (aboveLow == .gt || (aboveLow == .eq && t.m % 2 == 0)) &&
    (belowHigh == .lt || (belowHigh == .eq && t.m % 2 == 0))

/-- The lower neighbour of the value on the grid of `10 ^ e`. -/
def Target.floor (t : Target) (e : Int) : Nat :=
  (t.m * Nat.pow 2 t.q.toNat * Nat.pow 10 (-e).toNat) /
    (Nat.pow 2 (-t.q).toNat * Nat.pow 10 e.toNat)

/-- Whether the upper neighbour `c + 1` is at most as far from the value as the
lower one `c`. -/
def Target.upperNearer (t : Target) (c : Nat) (e : Int) : Bool :=
  compareGrid (2 * c + 1) e (2 * t.m) t.q != .gt

/-- The neighbour on one grid that reads back, the nearer one if both do; a tie
goes to the larger. -/
def Target.onGrid? (t : Target) (e : Int) : Option Scientific :=
  let c := t.floor e
  let low := t.accepts c e
  let high := t.accepts (c + 1) e
  if low && high then some ⟨if t.upperNearer c e then c + 1 else c, e⟩
  else if low then some ⟨c, e⟩
  else if high then some ⟨c + 1, e⟩
  else none

/-- The first grid that has a hit, from `count` digits on. -/
def Target.search (t : Target) (leading : Int) : (fuel count : Nat) → Scientific
  | 0, count => ⟨t.floor (leading - count), leading - count⟩
  | fuel + 1, count =>
    match t.onGrid? (leading - count) with
    | some hit => hit
    | none => t.search leading fuel (count + 1)

/-- Moves the zeros at the end of the digits into the exponent. -/
def Scientific.trimmed : (fuel : Nat) → Scientific → Scientific
  | 0, s => s
  | fuel + 1, s =>
    if s.digits ≠ 0 ∧ s.digits % 10 = 0 then trimmed fuel ⟨s.digits / 10, s.exponent + 1⟩ else s

/-- The fewest digits that read back as a finite double that is not zero. -/
def ofDouble (x : Double) : Scientific :=
  let (m, q) := x.magnitude
  let t : Target := ⟨m, q, x.fractionField == 0 && 1 < x.exponentField⟩
  let leading := leadingExponent (m * Nat.pow 2 q.toNat) (Nat.pow 2 (-q).toNat)
  (t.search leading 17 0).trimmed 20

end SqlStatements.Shortest
