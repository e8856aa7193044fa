import SqlStatements.Proofs.Draft.StatementFrames

/-! Who writes a piece. Every piece of a draft belongs to the frame of one part of the
statement, or to the frame of the statement itself. -/
namespace SqlStatements

/-- The piece, at its place in the draft of the node, is one that the node
writes itself. -/
def Node.Owns (t : Target) (depth : Nat) (n : Node) (left : Draft) (p : Piece) (right : Draft) :
    Prop :=
  n.draft t (pager t depth) = left ++ p :: right ∧
    ∃ l r, n.frame t = l ++ p :: r ∧ Draft.Filled (n.Inner t depth) l left ∧
      Draft.Filled (n.Inner t depth) r right

variable {t : Target} {before after : Draft} {p : Piece}

/-- What a node writes itself is in its frame. -/
theorem Node.Owns.mem_frame {depth : Nat} {n : Node} {left right : Draft}
    (h : n.Owns t depth left p right) : p ∈ n.frame t := by
  obtain ⟨-, l, r, hFrame, -⟩ := h
  rw [hFrame]
  exact List.mem_append_right _ (List.mem_cons_self ..)

/-- A piece in the draft of a node is written by the node or by a part of it, at
any depth. -/
theorem Node.exists_owner {depth : Nat} {n : Node}
    (hComplete : (n.draft t (pager t depth)).Complete) :
    ∀ before after, n.draft t (pager t depth) = before ++ p :: after →
      ∃ m inner left right front back, Relation.ReflTransGen (Part t) n m ∧
        m.Owns t inner left p right ∧ before = front ++ left ∧ after = right ++ back := by
  refine induction (t := t) (P := fun depth n => ∀ before after,
    n.draft t (pager t depth) = before ++ p :: after →
      ∃ m inner left right front back, Relation.ReflTransGen (Part t) n m ∧
        m.Owns t inner left p right ∧ before = front ++ left ∧ after = right ++ back)
    ?_ depth n hComplete
  intro depth n hComplete ih before after hCut
  rcases ((filled hComplete).complete hComplete).cut hCut with
    ⟨d, left, right, front, back, ⟨⟨m, inner, hPart, hLess, rfl⟩, hInner⟩, hDraft, rfl, rfl⟩ |
    ⟨l, r, hFrame, hl, hr⟩
  · obtain ⟨o, depth', left', right', front', back', hParts, hOwns, rfl, rfl⟩ :=
      ih inner m hPart hLess hInner left right hDraft
    exact ⟨o, depth', left', right', front ++ front', back' ++ back, .head hPart hParts, hOwns,
      (List.append_assoc ..).symm, List.append_assoc ..⟩
  · exact ⟨n, depth, before, after, [], [], .refl, ⟨hCut, l, r, hFrame,
      hl.mono fun _ h => h.1, hr.mono fun _ h => h.1⟩, rfl, (List.append_nil _).symm⟩

/-- A piece in the draft of a statement is written by the statement or by a part
of it, at the place where it stands. -/
theorem Statement.exists_owner {s : Statement} (hComplete : (s.draft t).Complete)
    (hCut : s.draft t = before ++ p :: after) :
    p ∈ s.frame t ∨ ∃ n depth left right front back, s.Writes t n ∧
      n.Owns t depth left p right ∧ before = front ++ left ∧ after = right ++ back := by
  rcases ((filled hComplete).complete hComplete).cut hCut with
    ⟨d, left, right, front, back, ⟨⟨n, hRoot, rfl⟩, hInner⟩, hDraft, rfl, rfl⟩ |
    ⟨l, r, hFrame, -⟩
  · obtain ⟨m, depth, left', right', front', back', hParts, hOwns, rfl, rfl⟩ :=
      Node.exists_owner hInner left right hDraft
    exact .inr ⟨m, depth, left', right', front ++ front', back' ++ back, ⟨n, hRoot, hParts⟩, hOwns,
      (List.append_assoc ..).symm, List.append_assoc ..⟩
  · rw [hFrame]
    exact .inl (List.mem_append_right _ (List.mem_cons_self ..))

end SqlStatements
