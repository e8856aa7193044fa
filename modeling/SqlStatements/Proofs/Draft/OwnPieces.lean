import SqlStatements.Proofs.Draft.Frames
import SqlStatements.Proofs.Draft.Pieces

/-! What the parts of a statement write themselves, piece by piece. Around its parts a part writes
words that it has in common with others, and pieces of its own: literals, names, operators,
functions, and text that is taken over. If the pieces of its own are of a kind that has the words,
then so is all that it writes. -/
namespace SqlStatements

section Own

variable (t : Target) (K : Piece → Prop)

/-- The pieces of its own that an expression writes are of the kind. The words
of an order count as its own, where it has a window with an order. -/
def Expr.OwnAll : Expr → Prop
  | .literal v => ∀ x, t.profile.literalText t.caps v.type v = .ok x → K (.text x)
  | .column ref => ref.draft.All K
  | .param bind => K (.param bind false)
  | .binary op _ _ => K (.text (" " ++ t.profile.operator op ++ " "))
  | .unary op _ => K (.text op.token)
  | .call name _ distinct w _ =>
    (∀ word, t.profile.functions.lookup (Text.lower name) = some (.keyword word) →
      K (.text word)) ∧
    (∀ written, written = name ∨
      t.profile.functions.lookup (Text.lower name) = some (.rename written) →
      K (.text (written ++ "(" ++ if distinct then "DISTINCT " else ""))) ∧
    ∀ window, w = some window → window.orderBy ≠ [] → K (.text "ORDER BY ")
  | .cast _ type => K (.text (" AS " ++ t.profile.typeName t.caps type ++ ")"))
  | .extract field _ =>
    K (.text (t.profile.extract.frame field).1) ∧ K (.text (t.profile.extract.frame field).2)
  | .star (some source) => source.draft.All K
  | .raw sql => K (.text sql)
  | .caseOf _ _ _ | .isNull _ _ | .inList _ _ _ | .inQuery _ _ _ | .between _ _ _ _
  | .existsIn _ _ | .scalar _ | .label _ _ | .star none | .tuple _ => True

def FromItem.OwnAll : FromItem → Prop
  | .table ref => ref.draft.All K
  | .derived _ name _ | .cte name => K (.name name)
  | .join _ _ _ _ => True

/-- The pieces of its own that a SELECT writes, if it is written as it
stands. -/
structure Select.OwnAll (sc : Scope) (outermost : Bool) (s : Select) : Prop where
  ctes : ∀ c ∈ s.ctes, K (.name c.name) ∧ ∀ column ∈ c.columns, K (.name column)
  labels : ∀ hs, s.headings t sc outermost = .ok hs → ∀ heading ∈ hs, ∀ label,
    heading.label = some label → K (.name label)
  order : sc.keepsOrder t (s.limit.isSome || s.offset.isSome) = true → s.orderBy ≠ [] →
    K (.text " ORDER BY ")

/-- The pieces of its own that a query writes. A SELECT that leaves everything
to its page has none, and the tables around members are named by a compound
query. -/
def Query.OwnAll (sc : Scope) (outermost : Bool) : Query → Prop
  | .select s => s.Direct t → s.OwnAll t K sc outermost
  | .compound _ _ orderBy limit offset =>
    (∀ number : Nat, K (.name ("anon_" ++ toString number))) ∧
    (sc.keepsOrder t (limit.isSome || offset.isSome) = true → orderBy ≠ [] →
      K (.text " ORDER BY "))

def Node.OwnAll : Node → Prop
  | .expr _ e => e.OwnAll t K
  | .item _ source => source.OwnAll K
  | .query sc outermost q => q.OwnAll t K sc outermost

end Own

section Frames

variable {t : Target} {K : Piece → Prop}

theorem Draft.all_blanks {α : Type} (xs : List α) : ∀ d ∈ blanks xs, All K d :=
  List.forall_mem_map.mpr fun _ _ => all_nil

/-- A clause with nothing put in is its word alone, or nothing at all. -/
theorem Draft.all_blank {α : Type} {word : String} (hWord : K (.text word)) (o : Option α) :
    All K (clause word (o.map fun _ => [])) := by
  cases o <;> simp [clause, hWord]

variable (hK : Piece.Kind K)

include hK

theorem all_orderFrames (terms : List OrderTerm) : ∀ d ∈ orderFrames terms, d.All K :=
  List.forall_mem_map.mpr fun _ _ =>
    Draft.all_cons.mpr ⟨hK.word (OrderTerm.isWord_suffix ..), Draft.all_nil⟩

theorem Window.all_frame {w : Window} (hOrder : w.orderBy ≠ [] → K (.text "ORDER BY ")) :
    w.frame.All K :=
  hK.window (Draft.all_blanks _) (fun hSome => hOrder fun hNone => hSome (by rw [hNone]; rfl))
    (all_orderFrames hK _)

/-- The frame of an expression has pieces of a kind if what the expression
writes itself is of that kind. Its operands play no part. -/
theorem Expr.all_frame {e : Expr} (h : e.OwnAll t K) : (e.frame t).All K := by
  cases e with
  | literal v => exact hK.ofExcept (t.profile.errorsInDraft_literalText _ _ _) h
  | column ref => exact h
  | param bind => exact Draft.all_cons.mpr ⟨h, Draft.all_nil⟩
  | binary op l r =>
      refine hK.binary h Draft.all_nil ?_
      split <;> simp +decide [hK.word]
  | unary op e => exact Draft.all_cons.mpr ⟨h, hK.parens Draft.all_nil⟩
  | call name args distinct w type =>
      refine hK.call h.1 h.2.1 (Draft.all_blanks _) ?_
      cases w with
      | none =>
          intro d hd
          cases hd
      | some w => exact fun _ hd => Option.mem_some.mp hd ▸ w.all_frame hK (h.2.2 w rfl)
  | caseOf o bs e =>
      have hBranches : Draft.All K
          (bs.flatMap fun _ => [Piece.text " WHEN ", .text " THEN "]) := by
        intro piece hPiece
        obtain ⟨b, -, hPiece⟩ := List.mem_flatMap.mp hPiece
        rcases List.mem_pair.mp hPiece with rfl | rfl <;> exact hK.word (by decide)
      have hOperand := Draft.all_blank (hK.word (show Text.IsWord " " by decide)) o
      have hElse := Draft.all_blank (hK.word (show Text.IsWord " ELSE " by decide)) e
      simp +decide [frame, hBranches, hOperand, hElse, hK.word]
  | cast e type =>
      have hType : K (.text (" AS " ++ t.profile.typeName t.caps type ++ ")")) := h
      simp +decide [frame, hType, hK.word]
  | extract field e => simp [frame, Draft.extract, h.1, h.2]
  | isNull e negated => exact hK.isNull Draft.all_nil
  | inList e items negated => exact hK.inList Draft.all_nil (Draft.all_blanks _)
  | inQuery e q negated => exact hK.inQuery Draft.all_nil Draft.all_nil
  | between e l u negated => exact hK.between Draft.all_nil Draft.all_nil Draft.all_nil
  | existsIn q negated => exact hK.existsIn Draft.all_nil
  | scalar q => exact hK.group Draft.all_nil
  | label e name => exact Draft.all_nil
  | star source =>
      cases source with
      | none => simp +decide [frame, hK.word]
      | some source =>
          have hSource : source.draft.All K := h
          simp +decide [frame, hSource, hK.word]
  | tuple items => exact hK.group (hK.list (Draft.all_blanks _))
  | raw sql => exact Draft.all_cons.mpr ⟨h, Draft.all_nil⟩

theorem FromItem.all_frame {item : FromItem} (h : item.OwnAll K) : (item.frame t).All K := by
  cases item with
  | table ref => exact h
  | derived q name lateral => exact hK.derived h Draft.all_nil
  | join kind l r condition =>
      refine hK.joined Draft.all_nil Draft.all_nil fun d hd => ?_
      obtain ⟨_, _, rfl⟩ := Option.map_eq_some_iff.mp hd
      exact Draft.all_nil
  | cte name => exact Draft.all_cons.mpr ⟨h, Draft.all_nil⟩

/-- The same for a SELECT up to its order. All of its words belong to the kind
anyway. -/
theorem Select.all_bodyFrame {sc : Scope} {outermost : Bool} {s : Select}
    (h : s.OwnAll t K sc outermost) : (s.bodyFrame t sc outermost).All K := by
  have hSelect : Text.IsWord (if s.distinct then "SELECT DISTINCT " else "SELECT ") := by
    split <;> decide
  have hCtes : ∀ d ∈ s.ctes.map fun c => Draft.cte c.name c.columns [], d.All K :=
    List.forall_mem_map.mpr fun c hc => hK.cte (h.ctes c hc).1 (h.ctes c hc).2 Draft.all_nil
  simp only [bodyFrame, Draft.all_append, Draft.all_cons]
  refine ⟨⟨⟨hK.withClause hCtes, hK.word hSelect, hK.top _,
    hK.columns (errorsInDraft_headings _ _) h.labels (Draft.all_blanks _)⟩, ?_⟩,
    ⟨Draft.all_blank (hK.word (by decide)) _,
      hK.listClause (fun _ => hK.word (by decide)) (Draft.all_blanks _)⟩,
    Draft.all_blank (hK.word (by decide)) _⟩
  split
  · exact Draft.all_nil
  · exact Draft.all_cons.mpr ⟨hK.word (by decide), hK.sources (Draft.all_blanks _)⟩

/-- The frames of members have words and the names of derived tables, which are
numbered. -/
theorem all_memberFrames (hName : ∀ number : Nat, K (.name ("anon_" ++ toString number)))
    (number : Nat) (members : List Query) : ∀ d ∈ memberFrames number members, d.All K := by
  induction members generalizing number with
  | nil => exact List.forall_mem_nil _
  | cons q members ih =>
      refine List.forall_mem_cons.mpr ⟨?_, ih (number + 1)⟩
      split
      · exact Draft.all_cons.mpr ⟨hK.word (by decide), Draft.all_cons.mpr
          ⟨hK.word (by decide), Draft.all_cons.mpr ⟨hName number, Draft.all_nil⟩⟩⟩
      · exact hK.parens Draft.all_nil

/-- The frame of a query has pieces of a kind if what the query writes itself is
of that kind. Where a page takes the place of a SELECT, the frame is empty. -/
theorem Query.all_frame {q : Query} {sc : Scope} {outermost : Bool}
    (h : q.OwnAll t K sc outermost) : (q.frame t sc outermost).All K := by
  have hKept : ∀ {terms : List OrderTerm}, (terms ≠ [] → K (.text " ORDER BY ")) →
      orderFrames terms ≠ [] → K (.text " ORDER BY ") := fun hOrder hSome =>
    hOrder fun hNone => hSome (by rw [hNone]; rfl)
  cases q with
  | select s =>
      rw [frame]
      split
      · exact Draft.all_nil
      · rename_i hDirect
        have hOwn := h fun hSkips => by_contra fun hOther => hDirect ⟨hSkips, hOther⟩
        refine Draft.all_append.mpr ⟨Draft.all_append.mpr ⟨s.all_bodyFrame hK hOwn,
          hK.order (fun hScope => hKept (hOwn.order hScope)) (all_orderFrames hK _)⟩, ?_⟩
        split
        · exact hK.limits _ _
        · exact Draft.all_nil
  | compound op members orderBy limit offset =>
      have hOp : Text.IsWord (" " ++ op.sql ++ " ") := by cases op <;> decide
      exact Draft.all_append.mpr ⟨Draft.all_append.mpr
        ⟨Draft.all_join (hK.word hOp) (all_memberFrames hK h.1 1 members),
          hK.order (fun hScope => hKept (h.2 hScope)) (all_orderFrames hK _)⟩, hK.limits _ _⟩

/-- If the pieces of its own are of a kind, then all that a part writes is, its
own parts left out. -/
theorem Node.all_frame {n : Node} (h : n.OwnAll t K) : (n.frame t).All K := by
  cases n with
  | expr sc e => exact Expr.all_frame hK h
  | item sc source => exact FromItem.all_frame hK h
  | query sc outermost q => exact Query.all_frame hK h

end Frames

end SqlStatements
