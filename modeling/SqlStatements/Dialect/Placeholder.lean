/-! How parameters are written in the text of a statement. -/
namespace SqlStatements

inductive PlaceholderStyle where
  /-- `?` -/
  | questionMark
  /-- `:name` -/
  | named
  /-- `:1` -/
  | numeric
  /-- `%s` -/
  | format
  /-- `%(name)s` -/
  | namedFormat
  /-- `$1` -/
  | dollar
deriving DecidableEq

namespace PlaceholderStyle

/-- The placeholder of a parameter with a name and a position, counted from
one. -/
def placeholder (style : PlaceholderStyle) (name : String) (position : Nat) : String :=
  match style with
  | .questionMark => "?"
  | .named => ":" ++ name
  | .numeric => ":" ++ toString position
  | .format => "%s"
  | .namedFormat => "%(" ++ name ++ ")s"
  | .dollar => "$" ++ toString position

/-- Whether every occurrence takes a value of its own. -/
def repeats : PlaceholderStyle → Bool
  | .questionMark | .format => true
  | .named | .numeric | .namedFormat | .dollar => false

end PlaceholderStyle

end SqlStatements
