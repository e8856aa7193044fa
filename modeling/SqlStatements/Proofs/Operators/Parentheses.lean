import SqlStatements.Draft.Operand
import SqlStatements.Proofs.Operators.Regrouping

/-! The tokens of a formula with the parentheses that its operands are given. The
grammar reads them as the formula with its chains grouped from the left. -/
namespace SqlStatements

/-- A column without a qualifier, under a name that needs no quotes. -/
structure PlainColumn where
  name : String
  type : SqlType
  plain : (Profile.standard.rules {}).requiresQuotes name = false

namespace Formula

mutual

def names : Formula PlainColumn → Formula String
  | .leaf c => .leaf c.name
  | .binary op l r => .binary op l.names r.names
  | .unary op f => .unary op f.names
  | .isNull f negated => .isNull f.names negated
  | .inList f first rest negated => .inList f.names first.names (namesAll rest) negated
  | .between f low high negated => .between f.names low.names high.names negated

def namesAll : List (Formula PlainColumn) → List (Formula String)
  | [] => []
  | f :: fs => f.names :: namesAll fs

end

mutual

def expr : Formula PlainColumn → Expr
  | .leaf c => .column ⟨none, c.name, c.type⟩
  | .binary op l r => .binary op l.expr r.expr
  | .unary op f => .unary op f.expr
  | .isNull f negated => .isNull f.expr negated
  | .inList f first rest negated => .inList f.expr (first.expr :: exprs rest) negated
  | .between f low high negated => .between f.expr low.expr high.expr negated

def exprs : List (Formula PlainColumn) → List Expr
  | [] => []
  | f :: fs => f.expr :: exprs fs

end

def parens (wanted : Bool) (ts : List Token) : List Token :=
  if wanted then .sign "(" :: (ts ++ [.sign ")"]) else ts

@[simp] theorem parens_false (ts : List Token) : parens false ts = ts := rfl

mutual

def tokens : Formula PlainColumn → List Token
  | .leaf c => [.name c.name]
  | .binary op l r =>
    parens (l.expr.needsParens op) l.tokens ++
      (op.tokens ++ parens (r.expr.needsParens op) r.tokens)
  | .unary op f => op.sign :: parens (f.expr.needsParensUnder op) f.tokens
  | .isNull f negated =>
    parens (f.expr.strength ≤ Expr.predicateStrength) f.tokens ++ (Suffix.isNull negated).tokens
  | .inList f first rest negated =>
    parens (f.expr.strength ≤ Expr.predicateStrength) f.tokens ++
      ((Suffix.inList negated).tokens ++ (first.tokens ++ (memberTokens rest ++ [.sign ")"])))
  | .between f low high negated =>
    parens (f.expr.strength ≤ Expr.predicateStrength) f.tokens ++
      ((Suffix.between negated).tokens ++
        (parens (low.expr.strength ≤ Expr.predicateStrength) low.tokens ++
          .keyword "AND" :: parens (high.expr.strength ≤ Expr.predicateStrength) high.tokens))

def memberTokens : List (Formula PlainColumn) → List Token
  | [] => []
  | f :: fs => .sign "," :: (f.tokens ++ memberTokens fs)

end

/-- The level of the outermost rule. -/
def rank {α : Type} : Formula α → Nat
  | .leaf _ => 11
  | .binary op _ _ => op.level
  | .unary op _ => op.level
  | .isNull _ _ | .inList _ _ _ _ | .between _ _ _ _ => 4

end Formula

/-- The strengths that parentheses go by are the levels of the grammar. -/
theorem BinaryOp.precedence_eq_level (op : BinaryOp) : op.precedence = op.level := by
  cases op <;> rfl

/-- The operators that go without parentheses among equals are those whose
chains may be regrouped. -/
theorem BinaryOp.isAssociative_iff {op : BinaryOp} :
    op.isAssociative = true ↔ op ∈ BinaryOp.chains := by
  cases op <;> decide

namespace Formula

variable {f : Formula PlainColumn} {op : BinaryOp}

/-- Every formula is of one of the eleven levels. -/
theorem rank_bounds (f : Formula PlainColumn) : 1 ≤ f.rank ∧ f.rank ≤ 11 := by
  cases f with
  | binary op l r =>
      show 1 ≤ op.level ∧ op.level ≤ 11
      cases op <;> decide
  | unary op f =>
      show 1 ≤ op.level ∧ op.level ≤ 11
      cases op <;> decide
  | _ => simp [rank]

/-- Strength and level are the same, except that names are a class of their
own. -/
theorem strength_expr (f : Formula PlainColumn) :
    f.rank = 11 ∧ f.expr.strength = 255 ∨ f.rank ≠ 11 ∧ f.expr.strength = f.rank := by
  cases f with
  | leaf c => exact .inl ⟨rfl, rfl⟩
  | binary op l r =>
      right
      cases op <;> exact ⟨by simp [rank, BinaryOp.level], rfl⟩
  | unary op f =>
      right
      cases op <;> exact ⟨by simp [rank, UnaryOp.level], rfl⟩
  | _ => exact .inr ⟨by simp [rank], rfl⟩

/-- Which operator is outermost is the same in the formula and in the
expression. -/
theorem applies_expr (f : Formula PlainColumn) (op : BinaryOp) :
    f.expr.applies op = f.applies op := by
  cases f <;> rfl

theorem applies_names (f : Formula PlainColumn) (op : BinaryOp) :
    f.names.applies op = f.applies op := by
  cases f <;> rfl

/-- An operand without parentheses is of a higher level than its operator, or it
continues a chain. -/
theorem rank_of_needsParens (h : f.expr.needsParens op = false) :
    op.level < f.rank ∨ f.applies op = true ∧ op ∈ BinaryOp.chains := by
  have hLevel : op.level ≤ 9 := by cases op <;> decide
  have hStrength := f.strength_expr
  rw [Expr.needsParens, BinaryOp.precedence_eq_level, applies_expr] at h
  by_cases hSame : f.expr.strength = op.level
  · rw [if_pos hSame] at h
    right
    simpa [BinaryOp.isAssociative_iff] using h
  · rw [if_neg hSame] at h
    have hNotBelow : ¬f.expr.strength < op.level := of_decide_eq_false h
    left
    omega

/-- An operand without parentheses below a sign is of a level that the sign
takes. -/
theorem rank_of_needsParensUnder {op : UnaryOp} (h : f.expr.needsParensUnder op = false) :
    op.level ≤ f.rank := by
  have hRank := f.rank_bounds
  have hStrength := f.strength_expr
  cases op with
  | not =>
      have hAtom : f.expr.strength = 255 := not_not.mp (of_decide_eq_false h)
      simp only [UnaryOp.level]
      omega
  | neg | bitNot =>
      have hNotBelow : ¬f.expr.strength < 10 := of_decide_eq_false h
      simp only [UnaryOp.level]
      omega

theorem rank_of_operand (h : decide (f.expr.strength ≤ Expr.predicateStrength) = false) :
    5 ≤ f.rank := by
  have hStrength := f.strength_expr
  have hAbove : ¬f.expr.strength ≤ 4 := of_decide_eq_false h
  omega

/-- The grammar reads the tokens as the formula with its chains grouped from the
left. Behind a formula and an operator whose chains may be regrouped, it reads
them as the end of the chain. -/
structure Reads (f : Formula PlainColumn) : Prop where
  own : Derives f.rank f.tokens f.names.leftward
  chain : ∀ op ∈ BinaryOp.chains, ∀ ts g, Derives op.level ts g →
    Derives op.level (ts ++ (op.tokens ++ parens (f.expr.needsParens op) f.tokens))
      (graft op g f.names.leftward)

/-- A formula is also one of every looser level. -/
theorem derives_of_le_rank {n : Nat} (h : Derives f.rank f.tokens f.names.leftward)
    (hLevel : n ≤ f.rank) :
    Derives n f.tokens f.names.leftward :=
  h.loosen hLevel f.rank_bounds.2

/-- An operand is of a level if it is so without parentheses. -/
theorem derives_parens {n : Nat} {wanted : Bool} (hOwn : Derives f.rank f.tokens f.names.leftward)
    (hLevel : n ≤ 11) (h : wanted = false → n ≤ f.rank) :
    Derives n (parens wanted f.tokens) f.names.leftward := by
  cases wanted with
  | true =>
      have hInside := derives_of_le_rank hOwn f.rank_bounds.1
      exact (Derives.parens hInside).loosen hLevel (Nat.le_refl _)
  | false => exact derives_of_le_rank hOwn (h rfl)

/-- The operand of a predicate, in parentheses if it needs them, is of the level
that the predicate asks for. -/
theorem derives_operand (hOwn : Derives f.rank f.tokens f.names.leftward) :
    Derives 5 (parens (f.expr.strength ≤ Expr.predicateStrength) f.tokens) f.names.leftward :=
  derives_parens hOwn (by decide) rank_of_operand

/-- An operand that does not continue a chain is of a higher level, between
parentheses if it is not by itself. -/
theorem derives_side (hOwn : Derives f.rank f.tokens f.names.leftward)
    (hNew : f.applies op = true → op ∉ BinaryOp.chains) :
    Derives (op.level + 1) (parens (f.expr.needsParens op) f.tokens) f.names.leftward := by
  refine derives_parens hOwn (by cases op <;> decide) ?_
  intro hBare
  rcases rank_of_needsParens hBare with hAbove | ⟨hApplies, hChain⟩
  · exact hAbove
  · exact absurd hChain (hNew hApplies)

/-- The left operand may continue a chain, since chains are grouped from the
left. -/
theorem derives_left (hOwn : Derives f.rank f.tokens f.names.leftward) :
    Derives op.level (parens (f.expr.needsParens op) f.tokens) f.names.leftward := by
  refine derives_parens hOwn (by cases op <;> decide) ?_
  intro hBare
  rcases rank_of_needsParens hBare with hAbove | ⟨hApplies, _⟩
  · exact Nat.le_of_lt hAbove
  · cases f with
    | binary op' l r =>
        have hSame : op' = op := by simpa [applies] using hApplies
        rw [← hSame]
        exact Nat.le_refl _
    | _ => cases hApplies

/-- What is no application of the operator itself ends a chain as its last
operand. -/
theorem chain_of_own {op : BinaryOp} (hOwn : Derives f.rank f.tokens f.names.leftward)
    (hNew : f.applies op = false) {ts : List Token} {g : Formula String}
    (h : Derives op.level ts g) :
    Derives op.level (ts ++ (op.tokens ++ parens (f.expr.needsParens op) f.tokens))
      (graft op g f.names.leftward) := by
  have hEnd : f.names.leftward.applies op = false := by rw [applies_leftward, applies_names, hNew]
  rw [graft_of_not_applies g hEnd]
  refine .binary h (derives_side hOwn ?_)
  intro hApplies
  rw [hNew] at hApplies
  cases hApplies

/-- A formula that is no chain is read as itself. -/
theorem Reads.of_own (hOwn : Derives f.rank f.tokens f.names.leftward)
    (hNew : ∀ op, f.applies op = false) : f.Reads :=
  ⟨hOwn, fun op _ _ _ h => chain_of_own hOwn (hNew op) h⟩

/-- Two operands that are read as they should be make a binary operation that
is. This is where chains are regrouped. -/
theorem Reads.binary {l r : Formula PlainColumn} (hl : l.Reads) (hr : r.Reads) :
    (Formula.binary op l r).Reads := by
  by_cases hChain : op ∈ BinaryOp.chains
  · have hLeftward : (Formula.binary op l r).names.leftward =
        graft op l.names.leftward r.names.leftward := by
      rw [names, leftward, if_pos hChain]
    have hOwn : Derives (Formula.binary op l r).rank (Formula.binary op l r).tokens
        (Formula.binary op l r).names.leftward := by
      rw [hLeftward, tokens]
      exact hr.chain op hChain _ _ (derives_left hl.own)
    refine ⟨hOwn, ?_⟩
    intro op' hChain' ts g h
    by_cases hSame : op' = op
    · -- The operands of the chain follow one after the other.
      subst hSame
      have hBare : (Formula.binary op' l r).expr.needsParens op' = false := by
        simp [expr, Expr.needsParens, Expr.strength, Expr.applies,
          BinaryOp.isAssociative_iff.mpr hChain]
      have hFirst := hl.chain op' hChain ts g h
      have hSecond := hr.chain op' hChain _ _ hFirst
      rw [hLeftward, hBare, parens_false, graft_assoc, tokens]
      simpa only [List.append_assoc] using hSecond
    · exact chain_of_own hOwn (decide_eq_false (Ne.symm hSame)) h
  · have hLeftward : (Formula.binary op l r).names.leftward =
        .binary op l.names.leftward r.names.leftward := by
      rw [names, leftward, if_neg hChain]
    have hOwn : Derives (Formula.binary op l r).rank (Formula.binary op l r).tokens
        (Formula.binary op l r).names.leftward := by
      rw [hLeftward, tokens]
      exact .binary (derives_left hl.own) (derives_side hr.own fun _ => hChain)
    refine ⟨hOwn, ?_⟩
    intro op' hChain' ts g h
    refine chain_of_own hOwn (decide_eq_false ?_) h
    rintro rfl
    exact hChain hChain'

/-- The further members of a list, each with what the grammar reads it as. -/
def members (fs : List (Formula PlainColumn)) : List (List Token × Formula String) :=
  fs.map fun f => (f.tokens, f.names.leftward)

theorem memberTokens_eq (fs : List (Formula PlainColumn)) :
    memberTokens fs = (members fs).flatMap fun item => .sign "," :: item.1 := by
  induction fs with
  | nil => rfl
  | cons f fs ih =>
      rw [memberTokens, ih]
      rfl

theorem leftwardAll_namesAll (fs : List (Formula PlainColumn)) :
    leftwardAll (namesAll fs) = (members fs).map (·.2) := by
  induction fs with
  | nil => rfl
  | cons f fs ih =>
      rw [namesAll, leftwardAll, ih]
      rfl

/-- Every formula is read as itself with its chains grouped from the left, by
induction on the formula. -/
theorem reads (f : Formula PlainColumn) : f.Reads := by
  induction f with
  | leaf c => exact .of_own (.name c.name) fun _ => rfl
  | binary op l r ihLeft ihRight => exact .binary ihLeft ihRight
  | unary op f ih =>
      refine .of_own ?_ fun _ => rfl
      rw [names, leftward, tokens]
      exact .unary (derives_parens ih.own (by cases op <;> decide) rank_of_needsParensUnder)
  | isNull f negated ih =>
      refine .of_own ?_ fun _ => rfl
      rw [names, leftward, tokens]
      exact .isNull (.tighter (by decide) (derives_operand ih.own))
  | inList f first rest negated ih ihFirst ihRest =>
      refine .of_own ?_ fun _ => rfl
      rw [names, leftward, tokens, memberTokens_eq, leftwardAll_namesAll]
      refine .inList (.tighter (by decide) (derives_operand ih.own))
        (derives_of_le_rank ihFirst.own first.rank_bounds.1) ?_
      intro item hItem
      obtain ⟨g, hg, rfl⟩ := List.mem_map.mp hItem
      exact derives_of_le_rank (ihRest g hg).own g.rank_bounds.1
  | between f low high negated ih ihLow ihHigh =>
      refine .of_own ?_ fun _ => rfl
      rw [names, leftward, tokens]
      exact .between (.tighter (by decide) (derives_operand ih.own)) (derives_operand ihLow.own)
        (derives_operand ihHigh.own)

end Formula

end SqlStatements
