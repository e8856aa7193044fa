import SqlStatements.Proofs.Operators.Grammar
import Mathlib.Data.List.Forall2

/-! Chains of one operator, and how they may be grouped. -/
namespace SqlStatements

/-- The operators whose chains mean the same however they are grouped. -/
def BinaryOp.chains : List BinaryOp := [.and, .or, .add, .mul, .concat, .bitAnd, .bitOr]

namespace Formula

variable {α : Type}

/-- Whether the formula is itself an application of the given operator. -/
def applies (op : BinaryOp) : Formula α → Bool
  | .binary op' _ _ => op' = op
  | _ => false

/-- Puts a formula in front of a chain of the operator that is grouped from the
left, such that all of it is. -/
def graft (op : BinaryOp) (f : Formula α) : Formula α → Formula α
  | .binary op' l r =>
    if op' = op then .binary op (graft op f l) r else .binary op f (.binary op' l r)
  | g => .binary op f g

mutual

/-- The formula with its chains grouped from the left. -/
def leftward : Formula α → Formula α
  | .leaf a => .leaf a
  | .binary op l r =>
    if op ∈ BinaryOp.chains then graft op l.leftward r.leftward
    else .binary op l.leftward r.leftward
  | .unary op f => .unary op f.leftward
  | .isNull f negated => .isNull f.leftward negated
  | .inList f first rest negated =>
    .inList f.leftward first.leftward (leftwardAll rest) negated
  | .between f low high negated => .between f.leftward low.leftward high.leftward negated

def leftwardAll : List (Formula α) → List (Formula α)
  | [] => []
  | f :: fs => f.leftward :: leftwardAll fs

end

/-- In front of anything but a chain of the operator, grafting is applying the
operator. -/
theorem graft_of_not_applies {op : BinaryOp} {g : Formula α} (f : Formula α)
    (h : g.applies op = false) : graft op f g = .binary op f g := by
  cases g with
  | binary op' l r =>
      have hOther : op' ≠ op := by simpa [applies] using h
      rw [graft, if_neg hOther]
  | _ => rfl

/-- It does not matter in which order chains are put together. -/
theorem graft_assoc (op : BinaryOp) (f g h : Formula α) :
    graft op f (graft op g h) = graft op (graft op f g) h := by
  induction h with
  | binary op' l r ihLeft ihRight =>
      by_cases hSame : op' = op
      · simp only [graft, hSame, if_true, ihLeft]
      · simp only [graft, hSame, if_false, if_true]
  | _ => simp only [graft, if_true]

/-- The outermost operator of a grafted chain is that of the chain. -/
theorem applies_graft {op op' : BinaryOp} (f g : Formula α) :
    (graft op f g).applies op' = decide (op = op') := by
  cases g with
  | binary other l r =>
      by_cases hSame : other = op
      · rw [graft, if_pos hSame]
        rfl
      · rw [graft, if_neg hSame]
        rfl
  | _ => rfl

/-- Grouping keeps the outermost operator. -/
theorem applies_leftward (op : BinaryOp) (f : Formula α) :
    f.leftward.applies op = f.applies op := by
  cases f with
  | binary op' l r =>
      by_cases hChain : op' ∈ BinaryOp.chains
      · rw [leftward, if_pos hChain, applies_graft]
        rfl
      · rw [leftward, if_neg hChain]
        rfl
  | _ => rfl

end Formula

/-- Two formulas that differ only in how chains of one operator are grouped. -/
inductive Regrouped {α : Type} : Formula α → Formula α → Prop where
  | refl (f : Formula α) : Regrouped f f
  | symm {f g : Formula α} (h : Regrouped f g) : Regrouped g f
  | trans {f g h : Formula α} (first : Regrouped f g) (second : Regrouped g h) : Regrouped f h
  | chain {op : BinaryOp} (hOp : op ∈ BinaryOp.chains) (f g h : Formula α) :
      Regrouped (.binary op f (.binary op g h)) (.binary op (.binary op f g) h)
  | binary {op : BinaryOp} {f f' g g' : Formula α} (left : Regrouped f f')
      (right : Regrouped g g') : Regrouped (.binary op f g) (.binary op f' g')
  | unary {op : UnaryOp} {f f' : Formula α} (operand : Regrouped f f') :
      Regrouped (.unary op f) (.unary op f')
  | isNull {f f' : Formula α} {negated : Bool} (operand : Regrouped f f') :
      Regrouped (.isNull f negated) (.isNull f' negated)
  | inList {f f' first first' : Formula α} {rest rest' : List (Formula α)} {negated : Bool}
      (operand : Regrouped f f') (one : Regrouped first first')
      (others : List.Forall₂ Regrouped rest rest') :
      Regrouped (.inList f first rest negated) (.inList f' first' rest' negated)
  | between {f f' low low' high high' : Formula α} {negated : Bool} (operand : Regrouped f f')
      (left : Regrouped low low') (right : Regrouped high high') :
      Regrouped (.between f low high negated) (.between f' low' high' negated)

namespace Regrouped

variable {α : Type}

theorem graft {op : BinaryOp} (hOp : op ∈ BinaryOp.chains) (f g : Formula α) :
    Regrouped (.binary op f g) (Formula.graft op f g) := by
  induction g with
  | binary op' l r ihLeft ihRight =>
      by_cases hSame : op' = op
      · subst hSame
        rw [Formula.graft, if_pos rfl]
        exact (chain hOp f l r).trans (.binary ihLeft (.refl r))
      · rw [Formula.graft, if_neg hSame]
        exact .refl _
  | _ => exact .refl _

/-- Grouping chains from the left changes nothing but the grouping. -/
theorem leftward (f : Formula α) : Regrouped f f.leftward := by
  induction f with
  | leaf a => exact .refl _
  | binary op l r ihLeft ihRight =>
      rw [Formula.leftward]
      split
      · rename_i hOp
        exact (Regrouped.binary ihLeft ihRight).trans (graft hOp _ _)
      · exact .binary ihLeft ihRight
  | unary op f ih => exact .unary ih
  | isNull f negated ih => exact .isNull ih
  | inList f first rest negated ih ihFirst ihRest =>
      refine .inList ih ihFirst ?_
      induction rest with
      | nil => exact .nil
      | cons g rest ihMore =>
          refine .cons (ihRest g (List.mem_cons_self ..)) (ihMore ?_)
          intro h hMem
          exact ihRest h (List.mem_cons_of_mem _ hMem)
  | between f low high negated ih ihLow ihHigh => exact .between ih ihLow ihHigh

end Regrouped

end SqlStatements
