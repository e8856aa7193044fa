import SqlStatements.Tree.Operator

/-! The grammar of operators in standard SQL, on tokens. Every rule has a level:
1 for `OR`, 2 for `AND`, 3 for `NOT`, 4 for comparisons and the other predicates,
5 for `|`, 6 for `&`, 7 for shifts, 8 for `+`, `-` and `||`, 9 for `*`, `/` and `%`,
10 for the signs in front of an operand, and 11 for names and parentheses. Operators
of one level are grouped from the left. -/
namespace SqlStatements

/-- A formula over leaves of some kind. The members of a list are a first one
and the others. -/
inductive Formula (α : Type) where
  | leaf (a : α)
  | binary (op : BinaryOp) (left right : Formula α)
  | unary (op : UnaryOp) (operand : Formula α)
  | isNull (operand : Formula α) (negated : Bool)
  | inList (operand first : Formula α) (rest : List (Formula α)) (negated : Bool)
  | between (operand low high : Formula α) (negated : Bool)

/-- Induction on a formula, with a hypothesis for each member of a list. -/
@[induction_eliminator]
theorem Formula.induction {α : Type} {motive : Formula α → Prop} (leaf : ∀ a, motive (.leaf a))
    (binary : ∀ op left right, motive left → motive right → motive (.binary op left right))
    (unary : ∀ op operand, motive operand → motive (.unary op operand))
    (isNull : ∀ operand negated, motive operand → motive (.isNull operand negated))
    (inList : ∀ operand first rest negated, motive operand → motive first →
      (∀ f ∈ rest, motive f) → motive (.inList operand first rest negated))
    (between : ∀ operand low high negated, motive operand → motive low → motive high →
      motive (.between operand low high negated))
    (f : Formula α) : motive f := by
  refine @Formula.rec α motive (fun fs => ∀ f ∈ fs, motive f) leaf binary unary isNull inList
    between ?_ ?_ f
  · intro f hf
    cases hf
  · intro first rest hFirst hRest f hf
    rcases List.mem_cons.mp hf with rfl | hf
    · exact hFirst
    · exact hRest f hf

/-- A piece of text that belongs together. -/
inductive Token where
  | name (x : String)
  /-- A word with a meaning of its own, in capitals. -/
  | keyword (word : String)
  | sign (text : String)
deriving DecidableEq

namespace BinaryOp

def level : BinaryOp → Nat
  | .or => 1
  | .and => 2
  | .eq | .notEq | .lt | .ltEq | .gt | .gtEq | .like | .notLike => 4
  | .bitOr => 5
  | .bitAnd => 6
  | .shiftLeft | .shiftRight => 7
  | .add | .sub | .concat => 8
  | .mul | .div | .mod => 9

def tokens : BinaryOp → List Token
  | .and => [.keyword "AND"]
  | .or => [.keyword "OR"]
  | .like => [.keyword "LIKE"]
  | .notLike => [.keyword "NOT", .keyword "LIKE"]
  | .add => [.sign "+"]
  | .sub => [.sign "-"]
  | .mul => [.sign "*"]
  | .div => [.sign "/"]
  | .mod => [.sign "%"]
  | .eq => [.sign "="]
  | .notEq => [.sign "<>"]
  | .lt => [.sign "<"]
  | .ltEq => [.sign "<="]
  | .gt => [.sign ">"]
  | .gtEq => [.sign ">="]
  | .concat => [.sign "||"]
  | .bitAnd => [.sign "&"]
  | .bitOr => [.sign "|"]
  | .shiftLeft => [.sign "<<"]
  | .shiftRight => [.sign ">>"]

end BinaryOp

namespace UnaryOp

def level : UnaryOp → Nat
  | .not => 3
  | .neg | .bitNot => 10

def sign : UnaryOp → Token
  | .not => .keyword "NOT"
  | .neg => .sign "-"
  | .bitNot => .sign "~"

end UnaryOp

/-- What may follow an operand. -/
inductive Suffix where
  | operator (op : BinaryOp)
  | isNull (negated : Bool)
  | inList (negated : Bool)
  | between (negated : Bool)

namespace Suffix

def level : Suffix → Nat
  | .operator op => op.level
  | .isNull _ | .inList _ | .between _ => 4

/-- The tokens between an operand and what comes next. -/
def tokens : Suffix → List Token
  | .operator op => op.tokens
  | .isNull false => [.keyword "IS", .keyword "NULL"]
  | .isNull true => [.keyword "IS", .keyword "NOT", .keyword "NULL"]
  | .inList false => [.keyword "IN", .sign "("]
  | .inList true => [.keyword "NOT", .keyword "IN", .sign "("]
  | .between false => [.keyword "BETWEEN"]
  | .between true => [.keyword "NOT", .keyword "BETWEEN"]

end Suffix

/-- The tokens are a formula of the given level. -/
inductive Derives : Nat → List Token → Formula String → Prop where
  | name (x : String) : Derives 11 [.name x] (.leaf x)
  | parens {ts f} (inner : Derives 1 ts f) : Derives 11 (.sign "(" :: (ts ++ [.sign ")"])) f
  | tighter {n ts f} (level : n < 11) (inner : Derives (n + 1) ts f) : Derives n ts f
  | unary {op : UnaryOp} {ts f} (operand : Derives op.level ts f) :
      Derives op.level (op.sign :: ts) (.unary op f)
  | binary {op : BinaryOp} {ls rs f g} (left : Derives op.level ls f)
      (right : Derives (op.level + 1) rs g) :
      Derives op.level (ls ++ (op.tokens ++ rs)) (.binary op f g)
  | isNull {ts f negated} (operand : Derives 4 ts f) :
      Derives 4 (ts ++ (Suffix.isNull negated).tokens) (.isNull f negated)
  | inList {ts fs f g negated} {rest : List (List Token × Formula String)}
      (operand : Derives 4 ts f) (first : Derives 1 fs g)
      (others : ∀ item ∈ rest, Derives 1 item.1 item.2) :
      Derives 4 (ts ++ ((Suffix.inList negated).tokens ++
        (fs ++ (rest.flatMap (fun item => .sign "," :: item.1) ++ [.sign ")"]))))
        (.inList f g (rest.map (·.2)) negated)
  | between {ts ls hs f g h negated} (operand : Derives 4 ts f) (low : Derives 5 ls g)
      (high : Derives 5 hs h) :
      Derives 4 (ts ++ ((Suffix.between negated).tokens ++ (ls ++ .keyword "AND" :: hs)))
        (.between f g h negated)

/-- What is a formula of some level is one of every lower level. -/
theorem Derives.loosen {m n : Nat} {ts : List Token} {f : Formula String} (h : Derives n ts f)
    (hLevel : m ≤ n) (hTop : n ≤ 11) : Derives m ts f := by
  obtain ⟨k, rfl⟩ := Nat.exists_eq_add_of_le hLevel
  induction k with
  | zero => exact h
  | succ k ih => exact ih (.tighter (by omega) h) (by omega) (by omega)

end SqlStatements
