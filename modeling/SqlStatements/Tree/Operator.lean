/-! Operators of expressions, with their spelling and their binding strength. -/
namespace SqlStatements

/-- Operators between two operands. -/
inductive BinaryOp where
  | add
  | sub
  | mul
  | div
  | mod
  | eq
  | notEq
  | lt
  | ltEq
  | gt
  | gtEq
  | and
  | or
  | concat
  | like
  | notLike
  | bitAnd
  | bitOr
  | shiftLeft
  | shiftRight
deriving DecidableEq

namespace BinaryOp

/-- The spelling in standard SQL. -/
def token : BinaryOp → String
  | .add => "+"
  | .sub => "-"
  | .mul => "*"
  | .div => "/"
  | .mod => "%"
  | .eq => "="
  | .notEq => "<>"
  | .lt => "<"
  | .ltEq => "<="
  | .gt => ">"
  | .gtEq => ">="
  | .and => "AND"
  | .or => "OR"
  | .concat => "||"
  | .like => "LIKE"
  | .notLike => "NOT LIKE"
  | .bitAnd => "&"
  | .bitOr => "|"
  | .shiftLeft => "<<"
  | .shiftRight => ">>"

def all : List BinaryOp :=
  [.add, .sub, .mul, .div, .mod, .eq, .notEq, .lt, .ltEq, .gt, .gtEq, .and, .or, .concat, .like,
   .notLike, .bitAnd, .bitOr, .shiftLeft, .shiftRight]

def ofToken? (s : String) : Option BinaryOp := all.find? fun op => op.token == s

/-- How strongly the operator binds its operands. -/
def precedence : BinaryOp → Nat
  | .or => 1
  | .and => 2
  | .eq | .notEq | .lt | .ltEq | .gt | .gtEq | .like | .notLike => 4
  | .bitOr => 5
  | .bitAnd => 6
  | .shiftLeft | .shiftRight => 7
  | .add | .sub | .concat => 8
  | .mul | .div | .mod => 9

/-- Whether a chain of the operator means the same however it is grouped. -/
def isAssociative : BinaryOp → Bool
  | .and | .or | .add | .mul | .concat | .bitAnd | .bitOr => true
  | _ => false

/-- Whether the result is a truth value. -/
def isComparison (op : BinaryOp) : Bool := op.precedence ≤ 4

end BinaryOp

/-- Operators in front of one operand. -/
inductive UnaryOp where
  | neg
  | not
  | bitNot
deriving DecidableEq

namespace UnaryOp

/-- The spelling, with the blank that a word needs. -/
def token : UnaryOp → String
  | .neg => "-"
  | .not => "NOT "
  | .bitNot => "~"

/-- How strongly the operator binds its operand. -/
def precedence : UnaryOp → Nat
  | .neg => 10
  | .not => 3
  | .bitNot => 10

end UnaryOp

inductive Direction where
  | asc
  | desc
deriving DecidableEq

def Direction.sql : Direction → String
  | .asc => "ASC"
  | .desc => "DESC"

/-- Where an order puts missing values. -/
inductive NullsPlace where
  | first
  | last
deriving DecidableEq

def NullsPlace.sql : NullsPlace → String
  | .first => "NULLS FIRST"
  | .last => "NULLS LAST"

inductive JoinKind where
  | inner
  | left
  | right
  | full
  | cross
deriving DecidableEq

def JoinKind.sql : JoinKind → String
  | .inner => "JOIN"
  | .left => "LEFT OUTER JOIN"
  | .right => "RIGHT OUTER JOIN"
  | .full => "FULL OUTER JOIN"
  | .cross => "CROSS JOIN"

/-- The operators between queries. -/
inductive SetOp where
  | union
  | unionAll
  | intersect
  | except
deriving DecidableEq

def SetOp.sql : SetOp → String
  | .union => "UNION"
  | .unionAll => "UNION ALL"
  | .intersect => "INTERSECT"
  | .except => "EXCEPT"

end SqlStatements
