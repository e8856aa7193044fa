import Mathlib.Logic.Relation
import SqlStatements.Proofs.Draft.Subqueries

/-! The parts of a statement that are written out, at any depth and each at its
place. The draft of a part stands in the draft of what it belongs to, and so in the
draft of the statement. -/
namespace SqlStatements

/-- A part of a statement at its place. -/
inductive Node where
  | expr (sc : Scope) (e : Expr)
  /-- An item of a FROM clause. -/
  | item (sc : Scope) (source : FromItem)
  | query (sc : Scope) (outermost : Bool) (q : Query)

namespace Node

def draft (t : Target) (pager : Pager) : Node → Draft
  | .expr sc e => e.draft t pager sc
  | .item sc source => source.draft t pager sc
  | .query sc outermost q => q.draft t pager sc outermost

/-- The immediate parts that are written out. The page of a SELECT takes its
place where it is picked by row numbers, and a SELECT without a FROM clause has
the items implied. A member of a compound query with an order or a limit stands
in a derived table. -/
inductive Part (t : Target) : Node → Node → Prop where
  | operand {sc : Scope} {e part : Expr} (hPart : part ∈ e.parts t) :
      Part t (.expr sc e) (.expr sc part)
  | asked {sc : Scope} {e : Expr} {q : Query} (hQuery : e.query? = some q) :
      Part t (.expr sc e) (.query sc.nested false q)
  | derived {sc : Scope} {q : Query} {name : String} {lateral : Bool} :
      Part t (.item sc (.derived q name lateral))
        (.query (if lateral then sc.nested else sc.isolated) false q)
  | left {sc : Scope} {kind : JoinKind} {l r : FromItem} {condition : Option Expr} :
      Part t (.item sc (.join kind l r condition)) (.item sc l)
  | right {sc : Scope} {kind : JoinKind} {l r : FromItem} {condition : Option Expr} :
      Part t (.item sc (.join kind l r condition)) (.item sc r)
  | condition {sc : Scope} {kind : JoinKind} {l r : FromItem} {e : Expr} :
      Part t (.item sc (.join kind l r (some e))) (.expr sc e)
  | page {sc : Scope} {outermost : Bool} {s page : Select} (hSkips : s.skipsRows = true)
      (hNumbers : t.strategy = .rowNumber) (hPage : s.paged t.profile.name = .ok page) :
      Part t (.query sc outermost (.select s)) (.query sc outermost (.select page))
  | cte {sc : Scope} {outermost : Bool} {s : Select} {cte : Cte} (hDirect : s.Direct t)
      (hCte : cte ∈ s.ctes) :
      Part t (.query sc outermost (.select s))
        (.query (sc.providing (sc.sources s)).nested false cte.query)
  | clause {sc : Scope} {outermost : Bool} {s : Select} {e : Expr} (hDirect : s.Direct t)
      (hPart : e ∈ s.parts t) :
      Part t (.query sc outermost (.select s)) (.expr (sc.providing (sc.sources s)) e)
  | source {sc : Scope} {outermost : Bool} {s : Select} {item : FromItem} (hDirect : s.Direct t)
      (hItem : item ∈ sc.sources s) :
      Part t (.query sc outermost (.select s)) (.item (sc.providing (sc.sources s)) item)
  | order {sc : Scope} {outermost : Bool} {s : Select} {e : Expr} (hDirect : s.Direct t)
      (hKept : sc.keepsOrder t (s.limit.isSome || s.offset.isSome) = true)
      (hPart : e ∈ s.orderBy.map (·.expr)) :
      Part t (.query sc outermost (.select s)) (.expr (sc.providing (sc.sources s)) e)
  | member {sc : Scope} {outermost : Bool} {op : SetOp} {members : List Query}
      {orderBy : List OrderTerm} {limit offset : Option UInt64} {i : Nat} {q : Query}
      (hMember : members[i]? = some q) :
      Part t (.query sc outermost (.compound op members orderBy limit offset))
        (if q.isRestricted then .query sc.isolated false q
        else .query sc (outermost && i == 0) q)
  | compoundOrder {sc : Scope} {outermost : Bool} {op : SetOp} {members : List Query}
      {orderBy : List OrderTerm} {limit offset : Option UInt64} {e : Expr}
      (hKept : sc.keepsOrder t (limit.isSome || offset.isSome) = true)
      (hPart : e ∈ orderBy.map (·.expr)) :
      Part t (.query sc outermost (.compound op members orderBy limit offset)) (.expr sc e)

end Node

variable {t : Target} {pager : Pager} {sc : Scope}

namespace Draft

/-- A derived table that is written at all has its query as one piece of the
text. -/
theorem infix_derived {name : String} {lateral : Bool} {d : Draft}
    (hComplete : (derived t name lateral d).Complete) : d <:+: derived t name lateral d := by
  rw [derived] at hComplete ⊢
  split at hComplete
  · exact absurd (List.mem_singleton_self _) (hComplete _)
  · rename_i hSupported
    rw [if_neg hSupported]
    exact infix_cons (List.prefix_append _ _).isInfix

theorem infix_apply {kind : JoinKind} {conditional : Bool} {d : Draft}
    (hComplete : (apply t kind conditional d).Complete) : d <:+: apply t kind conditional d := by
  cases conditional with
  | true => exact absurd hComplete (not_complete_apply t kind d)
  | false =>
      cases kind with
      | right | full => exact absurd (List.mem_singleton_self _) (hComplete _)
      | inner | cross | left => exact infix_cons List.infix_rfl

theorem infix_joined_right {kind : JoinKind} {right : FromItem} {l r : Draft}
    {condition : Option Draft} (hComplete : (joined t kind right l r condition).Complete) :
    r <:+: joined t kind right l r condition := by
  rw [joined] at hComplete ⊢
  split at hComplete
  · rename_i hApply
    rw [if_pos hApply]
    have hPart := hComplete.of_part (List.suffix_append _ _).isInfix
    exact infix_append_right (infix_apply hPart)
  · rename_i hApply
    rw [if_neg hApply]
    exact infix_append_right (infix_cons (infix_append_left (infix_parens _ _)))

end Draft

namespace Select

variable {s : Select} {outermost : Bool}

/-- Each entry of an order that is kept is found in the draft of the SELECT.
Nothing is said where the order is left out. -/
theorem infix_order (hDirect : s.Direct t) {e : Expr}
    (hComplete : (s.draft t pager sc outermost).Complete)
    (hKept : sc.keepsOrder t (s.limit.isSome || s.offset.isSome) = true)
    (h : e ∈ s.orderBy.map (·.expr)) :
    e.draft t pager (sc.providing (sc.sources s)) <:+: s.draft t pager sc outermost := by
  rw [draft_direct hDirect (columns_of_complete hDirect hComplete)]
  exact Draft.infix_append_right (Draft.infix_append_left
    (Draft.infix_append_right (Draft.infix_order_kept hKept h)))

/-- The items of a FROM clause, given or implied, stand in the draft. -/
theorem infix_source (hDirect : s.Direct t) {item : FromItem}
    (hComplete : (s.draft t pager sc outermost).Complete) (h : item ∈ sc.sources s) :
    item.draft t pager (sc.providing (sc.sources s)) <:+: s.draft t pager sc outermost := by
  rw [draft_direct hDirect (columns_of_complete hDirect hComplete)]
  refine Draft.infix_append_left (Draft.infix_append_right ?_)
  by_cases hFrom : s.sources = []
  · have hImplied : sc.sources s = (sc.implied s.columns s.condition).map .table := by
      rw [Scope.sources, hFrom]
      rfl
    rw [hImplied] at h
    obtain ⟨ref, hRef, rfl⟩ := List.mem_map.mp h
    rw [fromDraft_inferred hFrom]
    exact Draft.infix_listClause (List.mem_map_of_mem hRef)
  · have hGiven : sc.sources s = s.sources := if_neg (by simpa using hFrom)
    rw [fromDraft_given hFrom]
    rw [hGiven] at h ⊢
    exact Draft.infix_cons
      (Draft.infix_sources t (length_sourceDrafts _).symm (mem_sourceDrafts h))

end Select

namespace Node

variable {n m : Node} {depth : Nat}

theorem draft_select (t : Target) (pager : Pager) (sc : Scope) (outermost : Bool) (s : Select) :
    (query sc outermost (.select s)).draft t pager = s.draft t pager sc outermost := by
  rw [draft, Query.draft]

/-- The draft of a part stands in the draft of the whole. Only for the page of a
SELECT the depth changes. -/
theorem Part.within (h : Part t n m)
    (hComplete : (n.draft t (SqlStatements.pager t depth)).Complete) :
    ∃ inner, m.draft t (SqlStatements.pager t inner) <:+:
      n.draft t (SqlStatements.pager t depth) := by
  cases h with
  | operand hPart => exact ⟨depth, Expr.infix_part hComplete hPart⟩
  | asked hQuery => exact ⟨depth, Expr.infix_query hQuery⟩
  | derived =>
      rw [draft, FromItem.draft] at hComplete
      refine ⟨depth, ?_⟩
      rw [draft, draft, FromItem.draft]
      exact Draft.infix_derived hComplete
  | left =>
      refine ⟨depth, ?_⟩
      rw [draft, draft, FromItem.draft, Draft.joined]
      exact (List.prefix_append _ _).isInfix
  | right =>
      rw [draft, FromItem.draft] at hComplete
      refine ⟨depth, ?_⟩
      rw [draft, draft, FromItem.draft]
      exact Draft.infix_joined_right hComplete
  | condition =>
      exact ⟨depth, FromItem.infix_condition hComplete
        (List.mem_append_right _ (List.mem_singleton_self _))⟩
  | page hSkips hNumbers hPage =>
      rw [draft_select] at hComplete ⊢
      obtain ⟨page, inner, hSame, -, hDraft⟩ := Select.exists_draft_page hSkips hNumbers hComplete
      rw [hPage] at hSame
      cases hSame
      refine ⟨inner, ?_⟩
      rw [draft_select, hDraft]
  | cte hDirect hCte =>
      rw [draft_select] at hComplete ⊢
      exact ⟨depth, Select.infix_cte hDirect hComplete hCte⟩
  | clause hDirect hPart =>
      rw [draft_select] at hComplete ⊢
      exact ⟨depth, Select.infix_part hDirect hComplete hPart⟩
  | source hDirect hItem =>
      rw [draft_select] at hComplete ⊢
      exact ⟨depth, Select.infix_source hDirect hComplete hItem⟩
  | order hDirect hKept hPart =>
      rw [draft_select] at hComplete ⊢
      exact ⟨depth, Select.infix_order hDirect hComplete hKept hPart⟩
  | @member sc outermost op members orderBy limit offset i q hMember =>
      have hInfix := Query.infix_compound_at hComplete hMember
      refine ⟨depth, ?_⟩
      by_cases hRestricted : q.isRestricted = true
      · rw [if_pos hRestricted] at hInfix ⊢
        exact hInfix
      · rw [if_neg hRestricted] at hInfix ⊢
        exact hInfix
  | compoundOrder hKept hPart =>
      refine ⟨depth, ?_⟩
      rw [draft, draft, Query.draft_compound hComplete]
      exact Draft.infix_append_left (Draft.infix_append_right (Draft.infix_order_kept hKept hPart))

/-- So does the draft of a part at any depth. Pages on the way are drafted with
less depth left, which is why one is claimed to exist. -/
theorem within (h : Relation.ReflTransGen (Part t) n m)
    (hComplete : (n.draft t (SqlStatements.pager t depth)).Complete) :
    ∃ inner, m.draft t (SqlStatements.pager t inner) <:+:
      n.draft t (SqlStatements.pager t depth) := by
  induction h with
  | refl => exact ⟨depth, List.infix_rfl⟩
  | tail _ hPart ih =>
      obtain ⟨outer, hOuter⟩ := ih
      obtain ⟨inner, hInner⟩ := hPart.within (hComplete.of_part hOuter)
      exact ⟨inner, hInner.trans hOuter⟩

/-- The SELECT in the only derived table of another one is a part of a part of
it, two steps away. -/
theorem derived_of_sources {sc : Scope} {outermost : Bool} {s inner : Select} {name : String}
    (hDirect : s.Direct t) (hFrom : s.sources = [.derived (.select inner) name false]) :
    Relation.ReflTransGen (Part t) (.query sc outermost (.select s))
      (.query sc.isolated false (.select inner)) := by
  have hGiven : sc.sources s = s.sources := if_neg (by rw [hFrom]; exact Bool.false_ne_true)
  have hItem : .derived (.select inner) name false ∈ sc.sources s := by
    rw [hGiven, hFrom]
    exact List.mem_singleton_self _
  exact .tail (.single (.source hDirect hItem)) .derived

end Node

def Expr.isParam : Expr → Bool
  | .param _ => true
  | _ => false

/-- The largest parts of the rows of an insertion. A cell that is a parameter is
left out, since it may be marked; it has no parts. -/
def InsertSource.roots : InsertSource → List Node
  | .defaults => []
  | .rows _ cells => (cells.flatten.filter fun e => !e.isParam).map (.expr .outermost)
  | .query _ q => [.query .outermost false q]

def Statement.roots : Statement → List Node
  | .query q => [.query .outermost true q]
  | .insert s => s.source.roots ++ s.returning.map (.expr .outermost)
  | .update s =>
    (s.assignments.map (·.2) ++ s.condition.toList ++ s.returning).map (.expr .outermost)
  | .delete s => (s.condition.toList ++ s.returning).map (.expr .outermost)
  | .createTable _ _ | .dropTable _ _ | .createIndex _ | .dropIndex _ => []

/-- The part is written out with the statement. -/
def Statement.Writes (t : Target) (s : Statement) (n : Node) : Prop :=
  ∃ root ∈ s.roots, Relation.ReflTransGen (Node.Part t) root n

theorem Draft.infix_returning {exprs : List Expr} {e : Expr}
    (hComplete : (returning t pager exprs).Complete) (h : e ∈ exprs) :
    e.draft t pager .outermost <:+: returning t pager exprs := by
  rw [returning, if_neg (by simp [List.ne_nil_of_mem h])] at hComplete ⊢
  split at hComplete
  · rename_i hReturning
    rw [if_pos hReturning]
    refine infix_cons (infix_columns (hComplete.of_part (List.suffix_cons _ _).isInfix) ?_
      (mem_exprDrafts h))
    intro hs hHeadings
    rw [length_headings hHeadings, length_exprDrafts]
  · exact absurd (List.mem_singleton_self _) (hComplete _)

namespace Insert

/-- A cell is drafted as any other expression unless it is a parameter. Marks
exist for parameters only. -/
theorem cellDraft_of_not_param {generated : Bool} {e : Expr} (h : e.isParam = false) :
    cellDraft t pager generated e = e.draft t pager .outermost := by
  cases e with
  | param => cases h
  | _ => rfl

theorem infix_row {generated : Option Nat} {row : List Expr} {e : Expr} (h : e ∈ row)
    (hCell : e.isParam = false) :
    e.draft t pager .outermost <:+: rowDraft t pager generated row := by
  obtain ⟨i, hi, rfl⟩ := List.getElem_of_mem h
  refine List.IsInfix.trans (Draft.infix_join ?_) (Draft.infix_parens _ true)
  rw [List.mem_mapIdx]
  exact ⟨i, hi, cellDraft_of_not_param hCell⟩

/-- The largest parts of the rows are found in the draft as they are drafted by
themselves. -/
theorem infix_source {table : Table} {source : InsertSource} {n : Node}
    (hComplete : (sourceDraft t pager table source).Complete) (h : n ∈ source.roots) :
    n.draft t pager <:+: sourceDraft t pager table source := by
  cases source with
  | defaults => cases h
  | query columns q =>
      rw [List.mem_singleton.mp h]
      exact Draft.infix_cons (Draft.infix_append_right (Draft.infix_cons List.infix_rfl))
  | rows columns cells =>
      obtain ⟨e, he, rfl⟩ := List.mem_map.mp h
      obtain ⟨hCells, hParam⟩ := List.mem_filter.mp he
      obtain ⟨row, hRow, he⟩ := List.mem_flatten.mp hCells
      rw [sourceDraft] at hComplete ⊢
      split at hComplete
      · exact absurd (List.mem_singleton_self _) (hComplete _)
      · rename_i hRows
        rw [if_neg hRows]
        refine Draft.infix_cons (Draft.infix_append_right (Draft.infix_cons ?_))
        exact (infix_row he (by simpa using hParam)).trans
          (Draft.infix_join (List.mem_map_of_mem hRow))

end Insert

/-- The expressions of a change stand in its draft, with no table in sight. -/
theorem Update.infix_rowExpr {s : Update} {e : Expr}
    (h : e ∈ s.assignments.map (·.2) ++ s.condition.toList) :
    e.draft t pager .outermost <:+: s.draft t pager := by
  refine Draft.infix_cons (Draft.infix_cons (Draft.infix_cons (Draft.infix_append_left ?_)))
  rcases List.mem_append.mp h with h | h
  · obtain ⟨assignment, hAssignment, rfl⟩ := List.mem_map.mp h
    exact Draft.infix_append_left ((Draft.infix_cons (Draft.infix_cons List.infix_rfl)).trans
      (Draft.infix_join (List.mem_map_of_mem hAssignment)))
  · exact Draft.infix_append_right (Draft.infix_clause (mem_optionDraft h))

theorem Delete.infix_rowExpr {s : Delete} {e : Expr} (h : e ∈ s.condition.toList) :
    e.draft t pager .outermost <:+: s.draft t pager :=
  Draft.infix_cons (Draft.infix_cons (Draft.infix_append_left
    (Draft.infix_clause (mem_optionDraft h))))

namespace Statement

/-- The parts of what is written out are written out. -/
theorem Writes.trans {s : Statement} {n m : Node} (h : s.Writes t n)
    (hParts : Relation.ReflTransGen (Node.Part t) n m) : s.Writes t m := by
  obtain ⟨root, hRoot, hFirst⟩ := h
  exact ⟨root, hRoot, Relation.ReflTransGen.trans hFirst hParts⟩

/-- The largest parts stand in the draft of the statement, at the depth that the
statement starts with. -/
theorem infix_root {s : Statement} {n : Node} (hComplete : (s.draft t).Complete)
    (h : n ∈ s.roots) : n.draft t (SqlStatements.pager t s.pages) <:+: s.draft t := by
  cases s with
  | query q =>
      rw [List.mem_singleton.mp h]
      exact List.infix_rfl
  | insert s =>
      rcases List.mem_append.mp h with h | h
      · have hSource : Insert.sourceDraft t (SqlStatements.pager t (Statement.insert s).pages)
            s.table s.source <:+: (Statement.insert s).draft t :=
          Draft.infix_cons (Draft.infix_cons (List.prefix_append _ _).isInfix)
        exact (Insert.infix_source (hComplete.of_part hSource) h).trans hSource
      · obtain ⟨e, he, rfl⟩ := List.mem_map.mp h
        have hReturning : Draft.returning t (SqlStatements.pager t (Statement.insert s).pages)
            s.returning <:+: (Statement.insert s).draft t :=
          Draft.infix_cons (Draft.infix_cons (List.suffix_append _ _).isInfix)
        exact (Draft.infix_returning (hComplete.of_part hReturning) he).trans hReturning
  | update s =>
      obtain ⟨e, he, rfl⟩ := List.mem_map.mp h
      rcases List.mem_append.mp he with he | he
      · exact Update.infix_rowExpr he
      · have hReturning : Draft.returning t (SqlStatements.pager t (Statement.update s).pages)
            s.returning <:+: (Statement.update s).draft t :=
          Draft.infix_cons (Draft.infix_cons (Draft.infix_cons (List.suffix_append _ _).isInfix))
        exact (Draft.infix_returning (hComplete.of_part hReturning) he).trans hReturning
  | delete s =>
      obtain ⟨e, he, rfl⟩ := List.mem_map.mp h
      rcases List.mem_append.mp he with he | he
      · exact Delete.infix_rowExpr he
      · have hReturning : Draft.returning t (SqlStatements.pager t (Statement.delete s).pages)
            s.returning <:+: (Statement.delete s).draft t :=
          Draft.infix_cons (Draft.infix_cons (List.suffix_append _ _).isInfix)
        exact (Draft.infix_returning (hComplete.of_part hReturning) he).trans hReturning
  | createTable | dropTable | createIndex | dropIndex => cases h

/-- The draft of a part that is written out stands in the draft of the
statement. Nothing is said about how often. -/
theorem Writes.within {s : Statement} {n : Node} (h : s.Writes t n)
    (hComplete : (s.draft t).Complete) :
    ∃ depth, n.draft t (SqlStatements.pager t depth) <:+: s.draft t := by
  obtain ⟨root, hRoot, hParts⟩ := h
  have hInfix := infix_root hComplete hRoot
  obtain ⟨depth, hWithin⟩ := Node.within hParts (hComplete.of_part hInfix)
  exact ⟨depth, hWithin.trans hInfix⟩

end Statement

end SqlStatements
