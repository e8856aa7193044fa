import Mathlib.Data.List.Forall2
import Mathlib.Tactic.SplitIfs
import SqlStatements.Proofs.Draft.Nodes

/-! Drafts and their frames. The frame of a draft is what is left of it without the drafts
of some parts. All that puts drafts together puts their frames together in the same way. -/
namespace SqlStatements

namespace Draft

/-- The draft is its frame with drafts of a kind put in, anywhere. -/
inductive Filled (D : Draft → Prop) : (frame d : Draft) → Prop where
  | nil : Filled D [] []
  | piece {p : Piece} {frame d : Draft} (h : Filled D frame d) : Filled D (p :: frame) (p :: d)
  | part {part frame d : Draft} (hPart : D part) (h : Filled D frame d) : Filled D frame (part ++ d)

/-- The place of a piece in a draft lies in a part of a kind. -/
def InPart (D : Draft → Prop) (before : Draft) (p : Piece) (after : Draft) : Prop :=
  ∃ part left right front back, D part ∧ part = left ++ p :: right ∧ before = front ++ left ∧
    after = right ++ back

/-- What lies in a part still does so with more in front of the whole draft. -/
theorem InPart.prepend {D : Draft → Prop} {before after : Draft} {p : Piece}
    (h : InPart D before p after) (front : Draft) : InPart D (front ++ before) p after := by
  obtain ⟨part, left, right, front', back, hPart, hSplit, rfl, hAfter⟩ := h
  exact ⟨part, left, right, front ++ front', back, hPart, hSplit, (List.append_assoc ..).symm,
    hAfter⟩

/-- A place in two drafts in a row is in the first or in the second. A piece
that occurs twice has two places. -/
theorem cut_append {d e before after : Draft} {p : Piece} (h : d ++ e = before ++ p :: after) :
    (∃ more, d = before ++ p :: more ∧ after = more ++ e) ∨
      ∃ more, before = d ++ more ∧ e = more ++ p :: after := by
  rcases List.append_eq_append_iff.mp h with ⟨more, hBefore, hRest⟩ | ⟨more, hOwn, hRest⟩
  · exact .inr ⟨more, hBefore, hRest⟩
  · cases more with
    | nil => exact .inr ⟨[], by simpa using hOwn.symm, hRest.symm⟩
    | cons q more =>
        cases hRest
        exact .inl ⟨more, hOwn, rfl⟩

namespace Filled

variable {D : Draft → Prop} {f g d e : Draft} {fs gs ds es : List Draft} {t : Target}

/-- Two frames one after the other are filled by filling each of them. -/
theorem append (h : Filled D f d) (h' : Filled D g e) : Filled D (f ++ g) (d ++ e) := by
  induction h with
  | nil => exact h'
  | piece _ ih => exact .piece ih
  | part hPart _ ih =>
      rw [List.append_assoc]
      exact .part hPart ih

/-- The whole draft put into an empty frame. -/
theorem whole (h : D d) : Filled D [] d := by
  have hPart := Filled.part h .nil
  rwa [List.append_nil] at hPart

/-- A draft without parts is its own frame. -/
theorem own (d : Draft) : Filled D d d := by
  induction d with
  | nil => exact .nil
  | cons p d ih => exact .piece ih

/-- A frame that is filled with drafts of one kind is filled with drafts of any
kind that has all of those. -/
theorem mono {E : Draft → Prop} (hKind : ∀ d, D d → E d) (h : Filled D f d) : Filled E f d := by
  induction h with
  | nil => exact .nil
  | piece _ ih => exact .piece ih
  | part hPart _ ih => exact .part (hKind _ hPart) ih

/-- Filling a frame adds pieces and takes none away. -/
theorem subset (h : Filled D f d) : f ⊆ d := by
  induction h with
  | nil => exact List.Subset.refl _
  | piece _ ih => exact List.cons_subset_cons _ ih
  | part _ _ ih => exact List.Subset.trans ih (List.subset_append_right _ _)

/-- What is put into a draft stands in it as one piece, with nothing of the
frame in between. -/
theorem within (h : Filled D f d) : Filled (fun e => D e ∧ e <:+: d) f d := by
  induction h with
  | nil => exact .nil
  | piece _ ih => exact .piece (ih.mono fun _ h => ⟨h.1, infix_cons h.2⟩)
  | part hPart _ ih =>
      exact .part ⟨hPart, (List.prefix_append _ _).isInfix⟩
        (ih.mono fun _ h => ⟨h.1, infix_append_right h.2⟩)

/-- In a draft that goes to its end, all parts do so as well. -/
theorem complete (h : Filled D f d) (hComplete : d.Complete) :
    Filled (fun e => D e ∧ e.Complete) f d :=
  h.within.mono fun _ h => ⟨h.1, hComplete.of_part h.2⟩

/-- What a piece of the frame and what each part has, the whole draft has, if it
passes from two drafts to both in a row. -/
theorem induct {P : Draft → Prop} (h : Filled D f d) (hNil : P [])
    (hAppend : ∀ d e, P d → P e → P (d ++ e)) (hPiece : ∀ p ∈ f, P [p])
    (hPart : ∀ d, D d → P d) : P d := by
  induction h with
  | nil => exact hNil
  | piece _ ih =>
      obtain ⟨hFirst, hRest⟩ := List.forall_mem_cons.mp hPiece
      exact hAppend [_] _ hFirst (ih hRest)
  | part hOwn _ ih => exact hAppend _ _ (hPart _ hOwn) (ih hPiece)

/-- A piece of the draft stands in a part, or it is one of the frame, at its
place. Pieces that look alike are told apart by their places. -/
theorem cut (h : Filled D f d) {p : Piece} {before after : Draft}
    (hCut : d = before ++ p :: after) :
    InPart D before p after ∨
      ∃ l r, f = l ++ p :: r ∧ Filled D l before ∧ Filled D r after := by
  induction h generalizing before with
  | nil => cases before <;> cases hCut
  | @piece q frame d h ih =>
      cases before with
      | nil =>
          cases hCut
          exact .inr ⟨[], frame, rfl, .nil, h⟩
      | cons r before =>
          cases hCut
          rcases ih rfl with hPart | ⟨l, r, rfl, hl, hr⟩
          · exact .inl (hPart.prepend [q])
          · exact .inr ⟨q :: l, r, rfl, .piece hl, hr⟩
  | @part part frame d hPart _ ih =>
      rcases cut_append hCut with ⟨more, hOwn, rfl⟩ | ⟨more, rfl, hRest⟩
      · exact .inl ⟨part, before, more, [], d, hPart, hOwn, rfl, rfl⟩
      · rcases ih hRest with hInner | ⟨l, r, rfl, hl, hr⟩
        · exact .inl (hInner.prepend part)
        · exact .inr ⟨l, r, rfl, .part hPart hl, hr⟩

/-- A list is filled item by item. The texts between neighbours belong to the
frame. -/
theorem join {separator : String} (h : List.Forall₂ (Filled D) fs ds) :
    Filled D (Draft.join separator fs) (Draft.join separator ds) := by
  induction h with
  | nil => exact .nil
  | cons hFirst hRest ih =>
      cases hRest with
      | nil => exact hFirst
      | cons => exact hFirst.append (.piece ih)

theorem parens {wanted : Bool} (h : Filled D f d) :
    Filled D (f.parens wanted) (d.parens wanted) := by
  cases wanted with
  | false => exact h
  | true => exact .piece (h.append (own _))

theorem clause {word : String} {o p : Option Draft} (h : Option.Rel (Filled D) o p) :
    Filled D (Draft.clause word o) (Draft.clause word p) := by
  cases h with
  | none => exact .nil
  | some h => exact .piece h

theorem isEmpty_eq (h : List.Forall₂ (Filled D) fs ds) : fs.isEmpty = ds.isEmpty := by
  cases h <;> rfl

theorem listClause {word : String} (h : List.Forall₂ (Filled D) fs ds) :
    Filled D (Draft.listClause word fs) (Draft.listClause word ds) := by
  rw [Draft.listClause, Draft.listClause, isEmpty_eq h]
  split
  · exact .nil
  · exact .piece (join h)

theorem operand {e : Expr} (h : Filled D f d) :
    Filled D (Draft.operand e f) (Draft.operand e d) := parens h

theorem isNull {e : Expr} {negated : Bool} (h : Filled D f d) :
    Filled D (Draft.isNull e f negated) (Draft.isNull e d negated) := (operand h).append (own _)

/-- A binary operation is filled through both operands. A comparison with the
missing value has the frame of a test instead, and only one operand. -/
theorem binary {op : BinaryOp} {left right : Expr} (h : Filled D f d) (h' : Filled D g e) :
    Filled D (Draft.binary t op left right f g) (Draft.binary t op left right d e) := by
  simp only [Draft.binary]
  split_ifs
  · exact isNull h
  · exact (operand h).append (.piece h')
  · exact (operand h').append (.piece h)
  · exact (parens h).append (.piece (parens h'))

theorem inList {operand : Expr} {negated : Bool} (h : Filled D f d)
    (hItems : List.Forall₂ (Filled D) fs ds) :
    Filled D (Draft.inList operand f fs negated) (Draft.inList operand d ds negated) := by
  rw [Draft.inList, Draft.inList, isEmpty_eq hItems]
  split
  · exact own _
  · exact (parens h).append (.piece ((join hItems).append (own _)))

theorem window (h : List.Forall₂ (Filled D) fs ds) (h' : List.Forall₂ (Filled D) gs es) :
    Filled D (Draft.window fs gs) (Draft.window ds es) := by
  cases h with
  | nil =>
      cases h' with
      | nil => exact .nil
      | cons hFirst hRest => exact listClause (.cons hFirst hRest)
  | cons hFirst hRest =>
      cases h' with
      | nil => exact listClause (.cons hFirst hRest)
      | cons hFirst' hRest' =>
          exact (listClause (.cons hFirst hRest)).append
            (.piece (listClause (.cons hFirst' hRest')))

/-- A function call is filled through its arguments and its window, unless it is
a single word; then it is all frame. -/
theorem call {name : String} {distinct : Bool} {o p : Option Draft}
    (h : List.Forall₂ (Filled D) fs ds) (hWindow : Option.Rel (Filled D) o p) :
    Filled D (Draft.call t name fs distinct o) (Draft.call t name ds distinct p) := by
  have hOver : Filled D (overWindow t name o) (overWindow t name p) := by
    cases hWindow with
    | none => exact .nil
    | some h =>
        rw [overWindow, overWindow]
        split
        · exact .piece (h.append (own _))
        · exact own _
  unfold Draft.call
  split
  · exact own _
  · exact .piece ((join h).append (.piece hOver))

theorem columns {hs : Except Error (List Heading)} (h : List.Forall₂ (Filled D) fs ds) :
    Filled D (Draft.columns hs fs) (Draft.columns hs ds) := by
  cases hs with
  | error => exact own _
  | ok hs =>
      refine join ?_
      induction h generalizing hs with
      | nil => cases hs <;> exact .nil
      | cons hFirst _ ih =>
          cases hs with
          | nil => exact .nil
          | cons heading hs =>
              refine .cons ?_ (ih hs)
              rw [Heading.draft, Heading.draft]
              split
              · exact hFirst.append (own _)
              · exact hFirst

theorem withClause {ctes : List Cte} (h : List.Forall₂ (Filled D) fs ds) :
    Filled D (Draft.withClause t ctes fs) (Draft.withClause t ctes ds) := by
  rw [Draft.withClause, Draft.withClause]
  split
  · exact .nil
  · exact .piece ((join h).append (own _))

theorem cte {name : String} {columns : List String} (h : Filled D f d) :
    Filled D (Draft.cte name columns f) (Draft.cte name columns d) :=
  .piece ((own _).append (.piece (h.append (own _))))

theorem derived {name : String} {lateral : Bool} (h : Filled D f d) :
    Filled D (Draft.derived t name lateral f) (Draft.derived t name lateral d) := by
  rw [Draft.derived, Draft.derived]
  split
  · exact own _
  · exact .piece (h.append (own _))

theorem sources {items : List FromItem} (h : List.Forall₂ (Filled D) fs ds) :
    Filled D (Draft.sources t items fs) (Draft.sources t items ds) := by
  induction h generalizing items with
  | nil => cases items <;> exact .nil
  | cons hFirst _ ih =>
      cases items with
      | nil => exact .nil
      | cons item items => exact (hFirst.append (own _)).append ih

/-- A join is filled through its two sides and its condition. That a lateral
table is applied is decided by the item alone, so it is the same for both. -/
theorem joined {kind : JoinKind} {right : FromItem} {o p : Option Draft} (h : Filled D f d)
    (h' : Filled D g e) (hCondition : Option.Rel (Filled D) o p) :
    Filled D (Draft.joined t kind right f g o) (Draft.joined t kind right d e p) := by
  have hSome : o.isSome = p.isSome := by cases hCondition <;> rfl
  rw [Draft.joined, Draft.joined, hSome]
  refine h.append ?_
  split
  · rw [apply.eq_def, apply.eq_def]
    split
    · exact own _
    · exact own _
    all_goals
      split
      · exact own _
      · exact .piece h'
  · exact .piece ((parens h').append (clause hCondition))

end Filled

end Draft

end SqlStatements
