import SqlStatements.Draft.Piece

/-! How the drafts of operands make up the draft of an expression: operators and
the parentheses around their operands, predicates, and function calls. -/
namespace SqlStatements

namespace Expr

/-- The strength of an expression that no operator can take apart. -/
def atomStrength : Nat := 255

/-- The strength of predicates and comparisons. -/
def predicateStrength : Nat := 4

/-- How strongly the outermost operator binds. -/
def strength : Expr → Nat
  | .binary op _ _ => op.precedence
  | .unary op _ => op.precedence
  | .isNull _ _ | .inList _ _ _ | .inQuery _ _ _ | .between _ _ _ _ => predicateStrength
  | .label operand _ => operand.strength
  | _ => atomStrength

/-- Whether the expression is itself an application of the given operator. -/
def applies (op : BinaryOp) : Expr → Bool
  | .binary op' _ _ => op' = op
  | _ => false

/-- Whether an operand of a binary operator needs parentheses. Among equals only
a chain of one associative operator does without. -/
def needsParens (operand : Expr) (op : BinaryOp) : Bool :=
  if operand.strength = op.precedence then !(operand.applies op && op.isAssociative)
  else operand.strength < op.precedence

/-- Whether the operand of a unary operator needs parentheses. -/
def needsParensUnder (operand : Expr) : UnaryOp → Bool
  | .not => operand.strength ≠ atomStrength
  | op => operand.strength < op.precedence

def isScalar : Expr → Bool
  | .scalar _ => true
  | _ => false

end Expr

/-- The word of a negated predicate. -/
def negation (negated : Bool) : String := if negated then "NOT " else ""

namespace Draft

def operand (e : Expr) (d : Draft) : Draft := d.parens (e.strength ≤ Expr.predicateStrength)

def isNull (e : Expr) (d : Draft) (negated : Bool) : Draft :=
  operand e d ++ [.text (" IS " ++ negation negated ++ "NULL")]

/-- A binary operation. A comparison with the missing value is a test for it,
and where queries cannot be compared, equality with one is membership. -/
def binary (t : Target) (op : BinaryOp) (left right : Expr) (l r : Draft) : Draft :=
  let equality := op = .eq ∨ op = .notEq
  let negated := op = .notEq
  if equality ∧ right.isNullLiteral then isNull left l negated
  else if equality ∧ t.caps.scalarComparison = false ∧ right.isScalar then
    operand left l ++ .text (" " ++ negation negated ++ "IN ") :: r
  else if equality ∧ t.caps.scalarComparison = false ∧ left.isScalar then
    operand right r ++ .text (" " ++ negation negated ++ "IN ") :: l
  else
    l.parens (left.needsParens op) ++ .text (" " ++ t.profile.operator op ++ " ") ::
      r.parens (right.needsParens op)

def unary (op : UnaryOp) (e : Expr) (d : Draft) : Draft :=
  .text op.token :: d.parens (e.needsParensUnder op)

/-- Membership in a list. The empty list has no members, whatever is asked. -/
def inList (e : Expr) (d : Draft) (items : List Draft) (negated : Bool) : Draft :=
  if items.isEmpty then [.text (if negated then "(1 = 1)" else "(1 = 0)")]
  else operand e d ++ .text (" " ++ negation negated ++ "IN (") :: (join ", " items ++ [.text ")"])

/-- Membership in the result of a query. -/
def inQuery (e : Expr) (d query : Draft) (negated : Bool) : Draft :=
  operand e d ++ .text (" " ++ negation negated ++ "IN (") :: (query ++ [.text ")"])

def between (e low high : Expr) (d l h : Draft) (negated : Bool) : Draft :=
  operand e d ++ .text (" " ++ negation negated ++ "BETWEEN ") ::
    (operand low l ++ .text " AND " :: operand high h)

def extract (t : Target) (field : String) (d : Draft) : Draft :=
  let (before, after) := t.profile.extract.frame field
  .text before :: (d ++ [.text after])

def window (partitionBy orderBy : List Draft) : Draft :=
  join " " ([listClause "PARTITION BY " partitionBy, listClause "ORDER BY " orderBy].filter
    fun d => !d.isEmpty)

/-- What follows the arguments of a function over a window. -/
def overWindow (t : Target) (name : String) : Option Draft → Draft
  | none => []
  | some window =>
    if t.caps.windowFunctions then .text " OVER (" :: (window ++ [.text ")"])
    else [.stop (t.unsupported (.windowFunction name))]

/-- A function call. Some functions have another name, and some are a word that
takes no arguments. -/
def call (t : Target) (name : String) (args : List Draft) (distinct : Bool)
    (window : Option Draft) : Draft :=
  match t.profile.functions.lookup (Text.lower name) with
  | some (.keyword word) => [.text word]
  | spelling =>
    let written :=
      match spelling with
      | some (.rename other) => other
      | _ => name
    .text (written ++ "(" ++ if distinct then "DISTINCT " else "") ::
      (join ", " args ++ .text ")" :: overWindow t name window)

end Draft

/-- What follows the expression in an order. -/
def OrderTerm.suffix (direction : Option Direction) (nulls : Option NullsPlace) : String :=
  (direction.map fun d => " " ++ d.sql).getD "" ++ (nulls.map fun n => " " ++ n.sql).getD ""

end SqlStatements
