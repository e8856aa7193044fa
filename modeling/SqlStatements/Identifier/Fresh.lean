import SqlStatements.Identifier.Rules

/-! Names that are not in use yet: a base name, or else the base with the first
number that makes it free. -/
namespace SqlStatements

/-- The base itself, then the base with one, two and so on. -/
def numbered (base : String) : Nat → String
  | 0 => base
  | n + 1 => base ++ "_" ++ toString (n + 1)

/-- The first candidate, from a given one on, that is not taken. -/
def firstFree? (candidate : Nat → String) (taken : List String) : (fuel start : Nat) → Option String
  | 0, _ => none
  | fuel + 1, n =>
    if taken.contains (candidate n) then firstFree? candidate taken fuel (n + 1)
    else some (candidate n)

/-- How many candidates are tried. One more than there are names taken is enough
as long as candidates differ; names cut down to a short limit repeat, so more
are tried. -/
def searchLength (taken : List String) : Nat := 64 * (taken.length + 1)

namespace IdentifierRules

/-- The first name within the limit, made from a base, that is not taken. -/
def fresh? (rules : IdentifierRules) (base : String) (taken : List String) (start : Nat) :
    Option String :=
  firstFree? (fun n => rules.truncate (numbered base n)) taken (searchLength taken) start

/-- A free name made from a base; there is none when the limit is too short. -/
def fresh (rules : IdentifierRules) (base : String) (taken : List String) (start : Nat) :
    Except Error String :=
  match rules.fresh? base taken start with
  | some name => .ok name
  | none => .error (.noFreeName base)

end IdentifierRules

/-- A free name made from a base, of any length. The candidates differ, so one
of the first `taken.length + 1` is free. -/
def freshName (base : String) (taken : List String) : String :=
  (firstFree? (numbered base) taken (taken.length + 1) 0).getD base

end SqlStatements
