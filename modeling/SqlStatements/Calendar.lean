import SqlStatements.Text.Letters

/-! Days of the proleptic Gregorian calendar and times of day, and their
texts. -/
namespace SqlStatements

structure Date where
  year : Int
  month : Nat
  day : Nat
deriving DecidableEq

/-- A time of day. In a leap second the nanoseconds run past `10 ^ 9`. -/
structure TimeOfDay where
  hour : Nat
  minute : Nat
  second : Nat
  nano : Nat
deriving DecidableEq

def TimeOfDay.midnight : TimeOfDay := ⟨0, 0, 0, 0⟩

/-- A day and a time, without a zone. -/
structure DateTime where
  date : Date
  time : TimeOfDay
deriving DecidableEq

/-- At least four digits; a sign in front of years beyond four digits and of
years before the year zero. -/
def yearText (year : Int) : String :=
  if year < 0 then "-" ++ Text.padded 4 year.natAbs
  else if 9999 < year then "+" ++ toString year
  else Text.padded 4 year.natAbs

def Date.text (d : Date) : String :=
  yearText d.year ++ "-" ++ Text.padded 2 d.month ++ "-" ++ Text.padded 2 d.day

/-- Hour, minute and second; a leap second is second sixty. -/
def TimeOfDay.clockText (t : TimeOfDay) : String :=
  Text.padded 2 t.hour ++ ":" ++ Text.padded 2 t.minute ++ ":" ++
    Text.padded 2 (t.second + t.nano / 1_000_000_000)

/-- The fraction of the second in three, six or nine digits, whichever is exact;
nothing for a whole second. -/
def TimeOfDay.fractionText (t : TimeOfDay) : String :=
  let n := t.nano % 1_000_000_000
  if n = 0 then ""
  else if n % 1_000_000 = 0 then "." ++ Text.padded 3 (n / 1_000_000)
  else if n % 1_000 = 0 then "." ++ Text.padded 6 (n / 1_000)
  else "." ++ Text.padded 9 n

def TimeOfDay.text (t : TimeOfDay) : String := t.clockText ++ t.fractionText

def DateTime.clockText (t : DateTime) : String := t.date.text ++ " " ++ t.time.clockText

def DateTime.text (t : DateTime) : String := t.date.text ++ " " ++ t.time.text

end SqlStatements
