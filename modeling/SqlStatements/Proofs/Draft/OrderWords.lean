import SqlStatements.Proofs.Dialect.LiteralTexts
import SqlStatements.Proofs.Draft.OwnPieces

/-! The words in front of an order. Only windows and queries that keep their order write
them, and text that is taken over as it is. -/
namespace SqlStatements

open Text

/-- No operator and no function is written with the words of an order. -/
structure Profile.Unordered (p : Profile) : Prop where
  operator : ∀ op, isOrder (" " ++ p.operator op ++ " ") = false
  function : ∀ entry ∈ p.functions, isOrder entry.2.word = false

/-- The language of SQL Server has no such operators and functions. -/
theorem SqlServer.profile_unordered (driver : Driver) (textAsVarchar : Bool) :
    (profile driver textAsVarchar).Unordered where
  operator := by
    intro op
    show isOrder
      (" " ++ (([(.concat, "+")] : List (BinaryOp × String)).lookup op |>.getD op.token) ++ " ") =
        false
    cases op <;> decide
  function := by
    intro entry h
    simp only [profile, List.mem_cons, List.not_mem_nil, or_false] at h
    rcases h with rfl | rfl | rfl <;> decide

/-- A literal is never taken for the words of an order. -/
theorem Text.Opening.isOrder {negative : Bool} {x : String} (h : Opening negative x) :
    isOrder x = false := by
  obtain ⟨first, rest, hList, hFirst⟩ := h
  refine isOrder_of_mem (c := first) (by simp [hList]) ?_
  have hOpens : " ORDER BY ".toList.any opensLiteral = false := by decide
  exact fun hMem => List.any_eq_false.mp hOpens first hMem hFirst

/-- The piece is not the words of an order. -/
@[simp] def Piece.Mute : Piece → Prop
  | .text x => isOrder x = false
  | .name _ | .table _ | .source _ | .qualifier _ | .param _ _ | .stop _ => True

/-- All words other than those of an order are mute by themselves. -/
theorem Piece.kind_mute : Kind Mute where
  word hWord := hWord.2
  stop _ := trivial

/-- What may write the words of an order: text taken over, a window with an
order, and a query that keeps its order. -/
inductive Node.Orders (t : Target) (word : String) : Node → Prop where
  | taken {sc : Scope} : Orders t word (.expr sc (.raw word))
  | window {sc : Scope} {name : String} {args : List Expr} {distinct : Bool} {w : Window}
      {type : SqlType} (hOrder : w.orderBy ≠ []) :
      Orders t word (.expr sc (.call name args distinct (some w) type))
  | select {sc : Scope} {outermost : Bool} {s : Select} (hDirect : s.Direct t)
      (hOrder : s.orderBy ≠ [])
      (hKept : sc.keepsOrder t (s.limit.isSome || s.offset.isSome) = true) :
      Orders t word (.query sc outermost (.select s))
  | compound {sc : Scope} {outermost : Bool} {op : SetOp} {members : List Query}
      {orderBy : List OrderTerm} {limit offset : Option UInt64} (hOrder : orderBy ≠ [])
      (hKept : sc.keepsOrder t (limit.isSome || offset.isSome) = true) :
      Orders t word (.query sc outermost (.compound op members orderBy limit offset))

section Frames

variable {t : Target} {word : String}

/-- An expression writes the words of an order only if it is text taken over, or
has a window with an order. -/
theorem Expr.own_mute (hp : t.profile.Unordered) {e : Expr}
    (hRaw : ∀ sql, e = .raw sql → isOrder sql = false)
    (hWindow : ∀ name args distinct w type, e = .call name args distinct (some w) type →
      w.orderBy = []) : e.OwnAll t Piece.Mute := by
  have hSource : ∀ source : ColumnSource, source.draft.All Piece.Mute := by
    intro source
    cases source with
    | table ref => cases ref <;> simp [ColumnSource.draft]
    | derived => simp [ColumnSource.draft]
  cases e with
  | literal v => exact fun _ hText => (Profile.opening_literalText hText).isOrder
  | column ref =>
      have hPoint : Piece.Mute (.text ".") := show isOrder "." = false by decide
      exact Draft.all_column hPoint trivial fun source _ => hSource source
  | binary op l r => exact hp.operator op
  | unary op e =>
      show isOrder op.token = false
      cases op <;> decide
  | call name args distinct w type =>
      refine ⟨fun word hWord => ?_, fun written _ => ?_, fun window hSome hOrder => ?_⟩
      · obtain ⟨before, after, hSplit, -⟩ := List.lookup_eq_some_iff.mp hWord
        exact hp.function (lower name, .keyword word) (by rw [hSplit]; simp)
      · exact isOrder_append_left (c := '(') (by simp) (by decide)
      · subst hSome
        exact absurd (hWindow _ _ _ window _ rfl) hOrder
  | cast e type => exact isOrder_append_right (c := ')') (by decide) (by decide)
  | extract field e =>
      show isOrder _ = false ∧ isOrder _ = false
      cases t.profile.extract with
      | extractFrom | datePart =>
          exact ⟨isOrder_of_mem (c := '(') (by simp [ExtractStyle.frame]) (by decide), rfl⟩
  | star source =>
      cases source with
      | none => trivial
      | some source => exact hSource source
  | raw sql => exact hRaw sql rfl
  | param | caseOf | isNull | inList | inQuery | between | existsIn | scalar | label | tuple =>
      trivial

/-- Items of a FROM clause write no words of an order; a derived table may do
so, but that is not its own. -/
theorem FromItem.own_mute (item : FromItem) : item.OwnAll Piece.Mute := by
  cases item with
  | table ref =>
      show ref.draft.All Piece.Mute
      cases ref <;> simp +decide [TableRef.draft]
  | derived | join | cte => trivial

/-- A query writes the words of an order only if it has an order and keeps it.
Orders of its parts are not its own. -/
theorem Query.own_mute {sc : Scope} {outermost : Bool} {q : Query}
    (h : ¬(Node.query sc outermost q).Orders t word) : q.OwnAll t Piece.Mute sc outermost := by
  cases q with
  | select s =>
      exact fun hDirect => ⟨fun _ _ => ⟨trivial, fun _ _ => trivial⟩, fun _ _ _ _ _ _ => trivial,
        fun hKept hOrder => absurd (.select hDirect hOrder hKept) h⟩
  | compound op members orderBy limit offset =>
      exact ⟨fun _ => trivial, fun hKept hOrder => absurd (.compound hOrder hKept) h⟩

end Frames

/-- Nothing else has these words in its frame. Names cannot be mistaken for
them, since they are no texts of a draft. -/
theorem Node.orders_of_mem_frame {t : Target} (hp : t.profile.Unordered) {n : Node}
    {word : String} (h : .text word ∈ n.frame t) (hWord : isOrder word = true) :
    n.Orders t word := by
  by_contra hNone
  suffices hOwn : n.OwnAll t Piece.Mute by
    have hMute : isOrder word = false := Node.all_frame Piece.kind_mute hOwn _ h
    rw [hMute] at hWord
    cases hWord
  cases n with
  | expr sc e =>
      refine Expr.own_mute hp ?_ ?_
      · rintro sql rfl
        obtain rfl : word = sql := by simpa [frame, Expr.frame] using h
        exact absurd .taken hNone
      · rintro name args distinct w type rfl
        by_contra hOrder
        exact hNone (.window hOrder)
  | item sc source => exact source.own_mute
  | query sc outermost q => exact Query.own_mute hNone

end SqlStatements
