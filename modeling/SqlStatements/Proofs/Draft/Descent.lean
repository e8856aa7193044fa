import Mathlib.Data.Prod.Lex
import SqlStatements.Proofs.Draft.Frames
import SqlStatements.Proofs.Draft.PageDepth
import SqlStatements.Proofs.Draft.Visits

/-! Writing out a statement goes down. A page is larger than its SELECT, but it skips rows in fewer
places; every other part is smaller and skips rows in no more places. So the bound on the depth
of pages is never felt: pages are drafted as by the same equations without a bound. -/
namespace SqlStatements

section Rank

variable {t : Target} {n m : Node}

/-- A part has no more places where rows are skipped than what it belongs to. A
page has even fewer than its SELECT, but that is not needed here. -/
theorem Node.Part.skips_le (h : n.Part t m) : skips m.visits ≤ skips n.visits := by
  rcases h.sublist_visits with ⟨_, _, s, page, rfl, rfl, hSkips, hPage⟩ | ⟨_, ref, rfl⟩ | hSublist
  · rw [Node.visits, Node.visits, Query.visits, Query.visits]
    exact (Select.skips_paged_lt hSkips hPage).le
  · rw [Node.visits, FromItem.visits]
    exact Nat.zero_le _
  · exact hSublist.countP_le

theorem Node.size_select (sc : Scope) (outermost : Bool) (s : Select) :
    sizeOf s < (Node.query sc outermost (.select s)).size := by
  rw [Node.size, Query.select.sizeOf_spec]
  omega

/-- The conditions of joins are smaller than the item they are in, however deep
the join is nested. -/
theorem FromItem.sizeOf_condition {e : Expr} : (item : FromItem) → e ∈ item.conditions →
    sizeOf e < sizeOf item
  | .join kind l r condition, h => by
      rw [FromItem.join.sizeOf_spec]
      rcases List.mem_append.mp h with h | h
      · rcases List.mem_append.mp h with h | h
        · have hSize := FromItem.sizeOf_condition l h
          omega
        · have hSize := FromItem.sizeOf_condition r h
          omega
      · have hSize := sizeOf_mem_toList h
        omega
  | .table _, h | .derived _ _ _, h | .cte _, h => by cases h

/-- Expressions that are written out with a SELECT are smaller than it. Those of
its page are not among them. -/
theorem Select.sizeOf_part {s : Select} {e : Expr} (h : e ∈ s.parts t) : sizeOf e < sizeOf s := by
  have hFields := s.sizeOf_fields
  have hBody := s.sizeOf_bodyExpr (e := e)
  simp only [bodyExprs, parts, List.mem_append] at h hBody
  rcases h with ((((h | h) | h) | h) | h) | h
  · exact hBody (.inl (.inl (.inl h)))
  · obtain ⟨item, hItem, h⟩ := List.mem_flatMap.mp h
    have hCondition := FromItem.sizeOf_condition item h
    have hSize := List.sizeOf_lt_of_mem hItem
    omega
  · exact hBody (.inl (.inl (.inr h)))
  · exact hBody (.inl (.inr h))
  · exact hBody (.inr h)
  · rw [keptOrder] at h
    split at h
    · have hSize := OrderTerm.sizeOf_expr h
      omega
    · cases h

/-- A part is smaller, unless it is a page. A page has fewer places where rows
are skipped than the SELECT it stands for. -/
theorem Node.Part.skips_lt_or_size_lt (h : n.Part t m) :
    skips m.visits < skips n.visits ∨ m.size < n.size := by
  cases h with
  | page hSkips _ hPage =>
      rw [Node.visits, Node.visits, Query.visits, Query.visits]
      exact .inl (Select.skips_paged_lt hSkips hPage)
  | operand hPart => exact .inr (Expr.sizeOf_part hPart)
  | asked hQuery => exact .inr (Expr.sizeOf_query hQuery)
  | derived =>
      simp only [Node.size, FromItem.derived.sizeOf_spec]
      omega
  | @left sc kind l r condition =>
      have hLe := Node.size_item_le sc l
      have hSize := Node.size_join sc kind l r condition
      omega
  | @right sc kind l r condition =>
      have hLe := Node.size_item_le sc r
      have hSize := Node.size_join sc kind l r condition
      omega
  | condition =>
      simp only [Node.size, FromItem.join.sizeOf_spec, Option.some.sizeOf_spec]
      omega
  | @cte sc outermost s c _ hCte =>
      have hSize := Cte.sizeOf_query hCte
      exact .inr ((hSize.trans s.sizeOf_fields.1).trans (Node.size_select sc outermost s))
  | @clause sc outermost s e _ hPart =>
      exact .inr ((Select.sizeOf_part hPart).trans (Node.size_select sc outermost s))
  | @source sc outermost s item _ hItem =>
      exact .inr ((Select.size_source _ hItem).trans (Node.size_select sc outermost s))
  | @order sc outermost s e _ _ hPart =>
      have hSize := OrderTerm.sizeOf_expr hPart
      exact .inr ((hSize.trans s.sizeOf_fields.2.2.2.2.2.2).trans
        (Node.size_select sc outermost s))
  | @member _ _ _ members _ _ _ _ q hMember =>
      have hSize := List.sizeOf_lt_of_mem (List.mem_of_getElem? hMember)
      refine .inr ?_
      split <;> simp only [Node.size, Query.compound.sizeOf_spec] <;> omega
  | compoundOrder _ hPart =>
      have hSize := OrderTerm.sizeOf_expr hPart
      simp only [Node.size, Query.compound.sizeOf_spec]
      omega

/-- What goes down with every part: first the places where rows are skipped,
then the size. -/
noncomputable def Node.rank (n : Node) : Nat ×ₗ Nat := toLex (skips n.visits, n.size)

/-- Every part has a smaller rank. For a page it is the places where rows are
skipped that get fewer, for any other part it is the size. -/
theorem Node.Part.rank_lt (h : n.Part t m) : m.rank < n.rank :=
  Prod.Lex.toLex_lt_toLex'.mpr
    ⟨h.skips_le, fun hSame => h.skips_lt_or_size_lt.resolve_left hSame.not_lt⟩

/-- No statement is written out forever: from part to part one comes to an end,
through pages and wrappers too. -/
theorem Node.wellFounded_part (t : Target) : WellFounded fun m n : Node => n.Part t m :=
  Subrelation.wf (fun h => h.rank_lt) (InvImage.wf Node.rank wellFounded_lt)

end Rank

namespace Pager

/-- Pages are drafted by the equations of the tree, at any depth. -/
def Closed (t : Target) (pages : Pager) : Prop :=
  ∀ sc outermost s, pages sc outermost s = s.draft t pages sc outermost

variable {t : Target} {pages : Pager}

/-- A depth that covers the places where rows are skipped is as good as no
bound: the drafts are the same. -/
theorem Closed.agrees (hClosed : pages.Closed t) {n depth : Nat} (h : n ≤ depth) :
    (pager t depth).Agrees n pages := by
  induction n generalizing depth with
  | zero => exact fun _ _ _ hNone => absurd hNone (Nat.not_lt_zero _)
  | succ n ih =>
      intro sc outermost page hPage
      obtain ⟨depth, rfl⟩ := Nat.exists_eq_succ_of_ne_zero (Nat.ne_zero_of_lt h)
      rw [hClosed]
      exact Select.draft_congr (ih (Nat.le_of_succ_le_succ h)) page sc outermost
        (Nat.le_of_lt_succ hPage)

/-- The pages of a target, each drafted at the depth that it needs. -/
def ofTarget (t : Target) : Pager := fun sc outermost s =>
  s.draft t (pager t (skips (s.visits true))) sc outermost

/-- A depth that is enough for each page by itself gives drafts that satisfy the
equations of the tree with no bound on the depth. -/
theorem closed_ofTarget (t : Target) : (ofTarget t).Closed t := by
  intro sc outermost s
  refine Select.draft_congr (fun sc outermost page hPage => ?_) s sc outermost le_rfl
  obtain ⟨depth, hDepth⟩ := Nat.exists_eq_succ_of_ne_zero (Nat.ne_zero_of_lt hPage)
  rw [hDepth] at hPage ⊢
  exact Select.draft_congr (pager_agrees t (Nat.le_of_lt_succ hPage) le_rfl) page sc outermost
    le_rfl

/-- The equations of the tree have one solution. They ask nothing about the
depth of pages in each other. -/
theorem existsUnique_closed (t : Target) : ∃! pages : Pager, pages.Closed t := by
  refine ⟨ofTarget t, closed_ofTarget t, fun pages hClosed => ?_⟩
  funext sc outermost s
  rw [hClosed]
  exact (Select.draft_congr (hClosed.agrees le_rfl) s sc outermost le_rfl).symm

end Pager

section Statements

variable {t : Target} {n : Nat} {pager pager' : Pager}

theorem skips_le_of_mem {e : Expr} {es : List Expr} (h : e ∈ es) :
    skips (e.visits true) ≤ skips (exprsVisits true es) := by
  rw [exprsVisits_eq_flatMap]
  exact (sublist_flatMap h).countP_le

/-- The clause that hands back values depends on pages only as far as its
expressions skip rows. -/
theorem Draft.returning_congr (hPager : pager.Agrees n pager') {exprs : List Expr}
    (h : skips (exprsVisits true exprs) ≤ n) :
    Draft.returning t pager exprs = Draft.returning t pager' exprs := by
  rw [Draft.returning, Draft.returning, exprDrafts_congr hPager exprs .outermost h]

namespace Insert

theorem cellDraft_congr (hPager : pager.Agrees n pager') (generated : Bool) {e : Expr}
    (h : skips (e.visits true) ≤ n) :
    cellDraft t pager generated e = cellDraft t pager' generated e := by
  cases e with
  | param bind => rfl
  | _ => exact Expr.draft_congr hPager _ .outermost h

theorem rowDraft_congr (hPager : pager.Agrees n pager') (generated : Option Nat)
    {row : List Expr} (h : skips (exprsVisits true row) ≤ n) :
    rowDraft t pager generated row = rowDraft t pager' generated row := by
  rw [rowDraft, rowDraft]
  congr 2
  exact List.mapIdx_eq_mapIdx_iff.mpr fun i hi =>
    cellDraft_congr hPager _ ((skips_le_of_mem (List.getElem_mem hi)).trans h)

/-- The rows of an insertion depend on pages only as far as they skip rows. A
query among them counts. -/
theorem sourceDraft_congr (hPager : pager.Agrees n pager') (table : Table) {source : InsertSource}
    (h : skips (source.visits true) ≤ n) :
    sourceDraft t pager table source = sourceDraft t pager' table source := by
  cases source with
  | defaults => rfl
  | rows columns cells =>
      have hRows : ∀ row ∈ cells, rowDraft t pager (generatedAt table columns) row =
          rowDraft t pager' (generatedAt table columns) row := fun row hRow =>
        rowDraft_congr hPager _ ((sublist_flatMap hRow).countP_le.trans h)
      rw [sourceDraft, sourceDraft, List.map_congr_left hRows]
  | query columns q => rw [sourceDraft, sourceDraft, q.draft_congr hPager .outermost false h]

end Insert

/-- The draft of a statement, given how pages are drafted. -/
def Statement.draftBy (t : Target) (pages : Pager) : Statement → Draft
  | .query q => q.draft t pages .outermost true
  | .insert s => s.draft t pages
  | .update s => s.draft t pages
  | .delete s => s.draft t pages
  | .createTable table ifNotExists => table.createDraft t ifNotExists
  | .dropTable table ifExists => table.dropDraft ifExists
  | .createIndex index => index.createDraft t
  | .dropIndex index => index.dropDraft t

/-- A statement with few places where rows are skipped is drafted alike with any
two ways to draft pages that agree so far. -/
theorem Statement.draftBy_congr (hPager : pager.Agrees n pager') (s : Statement)
    (h : skips (s.visits true) ≤ n) : s.draftBy t pager = s.draftBy t pager' := by
  -- the changed table comes first on a walk, and it skips no rows
  have hTable (table : Table) (vs : List Visit) : skips (.table table :: vs) = skips vs :=
    List.countP_cons_of_neg (by simp [Visit.skips])
  cases s with
  | query q => exact q.draft_congr hPager .outermost true h
  | insert s =>
      simp only [visits, hTable, skips_append] at h
      rw [draftBy, draftBy, Insert.draft, Insert.draft,
        Insert.sourceDraft_congr hPager s.table (by omega),
        Draft.returning_congr hPager (by omega)]
  | update s =>
      simp only [visits, hTable, skips_append] at h
      have hAssignments : ∀ a ∈ s.assignments,
          Piece.name a.1 :: .text " = " :: a.2.draft t pager .outermost =
            .name a.1 :: .text " = " :: a.2.draft t pager' .outermost := by
        intro a ha
        have hValue := skips_le_of_mem (List.mem_map_of_mem (f := (·.2)) ha)
        rw [a.2.draft_congr hPager .outermost (by omega)]
      rw [draftBy, draftBy, Update.draft, Update.draft, List.map_congr_left hAssignments,
        optionDraft_congr hPager s.condition .outermost (by omega),
        Draft.returning_congr hPager (by omega)]
  | delete s =>
      simp only [visits, hTable, skips_append] at h
      rw [draftBy, draftBy, Delete.draft, Delete.draft,
        optionDraft_congr hPager s.condition .outermost (by omega),
        Draft.returning_congr hPager (by omega)]
  | createTable | dropTable | createIndex | dropIndex => rfl

/-- A statement is drafted as if there were no bound, since the bound is the
number of places where it skips rows. -/
theorem Pager.Closed.draft_eq {pages : Pager} (hClosed : pages.Closed t) (s : Statement) :
    s.draft t = s.draftBy t pages := by
  have hDraft : s.draft t = s.draftBy t (SqlStatements.pager t s.pages) := by cases s <;> rfl
  rw [hDraft, s.pages_eq]
  exact s.draftBy_congr (hClosed.agrees le_rfl) le_rfl

end Statements

end SqlStatements
