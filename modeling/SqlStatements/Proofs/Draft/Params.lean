import Mathlib.Data.List.Basic
import Mathlib.Tactic.SplitIfs
import SqlStatements.Proofs.Draft.Pieces
import SqlStatements.Proofs.Draft.Visits

/-! The parameters of a draft are parameters of the tree it was made from. A
draft may leave some out, and paging moves them, but none comes from elsewhere.
Only the cells of an insertion mark parameters. The property `B` of parameters and
their marks is arbitrary throughout. The same walk over the tree shows what a draft
stops with. -/
namespace SqlStatements

/-- All parameters met on a walk have a property without a mark. -/
def Visit.Binds (B : BindParam → Bool → Prop) (vs : List Visit) : Prop :=
  ∀ p, .bind p ∈ vs → B p false

namespace Visit

variable {B : BindParam → Bool → Prop}

@[simp] theorem binds_nil : Binds B [] := by simp [Binds]

@[simp] theorem binds_append {vs ws : List Visit} :
    Binds B (vs ++ ws) ↔ Binds B vs ∧ Binds B ws := by
  simp only [Binds, List.mem_append, or_imp, forall_and]

@[simp] theorem binds_expr {e : Expr} {vs : List Visit} : Binds B (.expr e :: vs) ↔ Binds B vs := by
  simp [Binds]

@[simp] theorem binds_table {t : Table} {vs : List Visit} :
    Binds B (.table t :: vs) ↔ Binds B vs := by
  simp [Binds]

@[simp] theorem binds_select {s : Select} {vs : List Visit} :
    Binds B (.select s :: vs) ↔ Binds B vs := by
  simp [Binds]

@[simp] theorem binds_bind {p : BindParam} {vs : List Visit} :
    Binds B (.bind p :: vs) ↔ B p false ∧ Binds B vs := by
  simp [Binds]

end Visit

theorem Draft.mem_params {d : Draft} {p : BindParam} {generated : Bool}
    (h : .param p generated ∈ d) : p ∈ d.params :=
  List.mem_filterMap.mpr ⟨_, h, rfl⟩

/-- The list of parameters forgets the marks, and that is all it forgets. -/
theorem Draft.exists_mem_of_mem_params {d : Draft} {p : BindParam} (h : p ∈ d.params) :
    ∃ generated, .param p generated ∈ d := by
  obtain ⟨piece, hPiece, hParam⟩ := List.mem_filterMap.mp h
  cases piece with
  | param q generated =>
      cases hParam
      exact ⟨generated, hPiece⟩
  | text | name | table | source | qualifier | stop => cases hParam

/-- A parameter with a property, or a reason to stop that a draft may have. -/
@[simp] def Piece.Drawn (B : BindParam → Bool → Prop) : Piece → Prop
  | .param p generated => B p generated
  | .stop e => e.InDraft
  | .text _ | .name _ | .table _ | .source _ | .qualifier _ => True

/-- All parameters of a draft have a property with their marks, and it stops
only for reasons that a draft may have. -/
abbrev Draft.Draws (B : BindParam → Bool → Prop) (d : Draft) : Prop := d.All (Piece.Drawn B)

/-- Texts and names bring no parameters, so nothing has to be shown about
words. -/
theorem Piece.kind_drawn (B : BindParam → Bool → Prop) : Kind (Drawn B) where
  word _ := trivial
  stop h := h

namespace Draft

variable {B : BindParam → Bool → Prop}

@[simp] theorem draws_columnSource (source : ColumnSource) : Draws B source.draft := by
  cases source with
  | table ref => cases ref <;> simp [ColumnSource.draft]
  | derived name => simp [ColumnSource.draft]

@[simp] theorem draws_tableRef (ref : TableRef) : Draws B ref.draft := by
  cases ref <;> simp [TableRef.draft]

@[simp] theorem draws_names (idents : List String) : Draws B (names idents) :=
  (Piece.kind_drawn B).names fun _ _ => trivial

end Draft

section Paging

variable {B : BindParam → Bool → Prop}

/-- The same as a statement about everything met, most of which is no
parameter. -/
theorem Visit.binds_iff {vs : List Visit} :
    Binds B vs ↔ ∀ v ∈ vs, ∀ p, v = .bind p → B p false :=
  ⟨fun h _ hv p hp => h p (hp ▸ hv), fun h p hp => h _ hp p rfl⟩

theorem binds_exprs_iff {es : List Expr} :
    Visit.Binds B (exprsVisits true es) ↔ ∀ e ∈ es, Visit.Binds B (e.visits true) := by
  simp only [Visit.binds_iff]
  exact forall_exprsVisits

/-- Paging brings no parameters along: all it adds are columns, row numbers and
bounds. -/
theorem Select.binds_paged {dialect : String} {s page : Select} (h : s.paged dialect = .ok page)
    (hs : Visit.Binds B (s.visits true)) : Visit.Binds B (page.visits true) := by
  rw [Visit.binds_iff] at hs ⊢
  refine forall_paged (fun v hv p hp => ?_) h hs
  rw [hp] at hv
  exact hv.elim

end Paging

section Tree

variable {B : BindParam → Bool → Prop} {t : Target} {pager : Pager}

/-- A SELECT with row numbers is drafted from parameters of its tree. -/
def Pager.Draws (B : BindParam → Bool → Prop) (pager : Pager) : Prop :=
  ∀ sc outermost s, Visit.Binds B (s.visits true) → (pager sc outermost s).Draws B

mutual

/-- The parameters of the draft of an expression are met on a walk through it,
nested queries included. The converse fails: some operands are not written. -/
theorem Expr.draft_draws (hPager : pager.Draws B) : (e : Expr) → (sc : Scope) →
    Visit.Binds B (e.visits true) → (e.draft t pager sc).Draws B
  | .literal _, _, _ =>
      (Piece.kind_drawn B).ofExcept (t.profile.errorsInDraft_literalText _ _ _) fun _ _ => trivial
  | .column _, _, _ => Draft.all_column trivial trivial fun source _ => Draft.draws_columnSource source
  | .param _, _, h => by simpa [Expr.draft, Expr.visits] using h
  | .binary _ l r, sc, h => by
      simp only [Expr.visits, Visit.binds_expr, Visit.binds_append] at h
      exact (Piece.kind_drawn B).binary trivial (Expr.draft_draws hPager l sc h.1)
        (Expr.draft_draws hPager r sc h.2)
  | .unary _ e, sc, h => by
      simp only [Expr.visits, Visit.binds_expr] at h
      exact Draft.all_cons.mpr
        ⟨trivial, (Piece.kind_drawn B).parens (Expr.draft_draws hPager e sc h)⟩
  | .call _ args _ w _, sc, h => by
      simp only [Expr.visits, Visit.binds_expr, Visit.binds_append] at h
      exact (Piece.kind_drawn B).call (fun _ _ => trivial) (fun _ _ => trivial)
        (exprDrafts_draws hPager args sc h.1) (windowDraft_draws hPager w sc h.2)
  | .caseOf o bs e, sc, h => by
      simp only [Expr.visits, Visit.binds_expr, Visit.binds_append] at h
      simpa [Expr.draft] using
        ⟨Draft.all_clause trivial (optionDraft_draws hPager o sc h.1.1),
          branchDrafts_draws hPager bs sc h.1.2,
          Draft.all_clause trivial (optionDraft_draws hPager e sc h.2)⟩
  | .cast e _, sc, h => by
      simp only [Expr.visits, Visit.binds_expr] at h
      simpa [Expr.draft] using Expr.draft_draws hPager e sc h
  | .extract _ e, sc, h => by
      simp only [Expr.visits, Visit.binds_expr] at h
      simpa [Expr.draft, Draft.extract] using Expr.draft_draws hPager e sc h
  | .isNull e _, sc, h => by
      simp only [Expr.visits, Visit.binds_expr] at h
      exact (Piece.kind_drawn B).isNull (Expr.draft_draws hPager e sc h)
  | .inList e items _, sc, h => by
      simp only [Expr.visits, Visit.binds_expr, Visit.binds_append] at h
      exact (Piece.kind_drawn B).inList (Expr.draft_draws hPager e sc h.1)
        (exprDrafts_draws hPager items sc h.2)
  | .inQuery e q _, sc, h => by
      simp only [Expr.visits, Visit.binds_expr, Visit.binds_append, if_true] at h
      exact (Piece.kind_drawn B).inQuery (Expr.draft_draws hPager e sc h.1)
        (Query.draft_draws hPager q sc.nested false h.2)
  | .between e l u _, sc, h => by
      simp only [Expr.visits, Visit.binds_expr, Visit.binds_append] at h
      exact (Piece.kind_drawn B).between (Expr.draft_draws hPager e sc h.1.1)
        (Expr.draft_draws hPager l sc h.1.2) (Expr.draft_draws hPager u sc h.2)
  | .existsIn q _, sc, h => by
      simp only [Expr.visits, Visit.binds_expr, if_true] at h
      simpa [Expr.draft] using Query.draft_draws hPager q sc.nested false h
  | .scalar q, sc, h => by
      simp only [Expr.visits, Visit.binds_expr, if_true] at h
      simpa [Expr.draft] using Query.draft_draws hPager q sc.nested false h
  | .label e _, sc, h => by
      simp only [Expr.visits, Visit.binds_expr] at h
      exact Expr.draft_draws hPager e sc h
  | .star none, _, _ => by simp [Expr.draft]
  | .star (some _), _, _ => by simp [Expr.draft]
  | .tuple items, sc, h => by
      simp only [Expr.visits, Visit.binds_expr] at h
      exact (Piece.kind_drawn B).group
        ((Piece.kind_drawn B).list (exprDrafts_draws hPager items sc h))
  | .raw _, _, _ => by simp [Expr.draft]

theorem exprDrafts_draws (hPager : pager.Draws B) : (es : List Expr) → (sc : Scope) →
    Visit.Binds B (exprsVisits true es) → ∀ d ∈ exprDrafts t pager sc es, d.Draws B
  | [], _, _ => by simp [exprDrafts]
  | e :: es, sc, h => by
      simp only [exprsVisits, Visit.binds_append] at h
      simpa only [exprDrafts, List.forall_mem_cons] using
        ⟨Expr.draft_draws hPager e sc h.1, exprDrafts_draws hPager es sc h.2⟩

theorem optionDraft_draws (hPager : pager.Draws B) : (o : Option Expr) → (sc : Scope) →
    Visit.Binds B (optionVisits true o) → ∀ d ∈ optionDraft t pager sc o, d.Draws B
  | none, _, _ => by simp [optionDraft]
  | some e, sc, h => by
      simp only [optionVisits] at h
      simpa [optionDraft] using Expr.draft_draws hPager e sc h

theorem branchDrafts_draws (hPager : pager.Draws B) : (bs : List Branch) → (sc : Scope) →
    Visit.Binds B (branchesVisits true bs) → (branchDrafts t pager sc bs).Draws B
  | [], _, _ => by simp [branchDrafts]
  | ⟨c, r⟩ :: bs, sc, h => by
      simp only [branchesVisits, Visit.binds_append] at h
      simpa [branchDrafts] using
        ⟨Expr.draft_draws hPager c sc h.1.1, Expr.draft_draws hPager r sc h.1.2,
          branchDrafts_draws hPager bs sc h.2⟩

theorem orderDrafts_draws (hPager : pager.Draws B) : (os : List OrderTerm) → (sc : Scope) →
    Visit.Binds B (ordersVisits true os) → ∀ d ∈ orderDrafts t pager sc os, d.Draws B
  | [], _, _ => by simp [orderDrafts]
  | ⟨e, _, _⟩ :: os, sc, h => by
      simp only [ordersVisits, Visit.binds_append] at h
      simpa [orderDrafts] using
        ⟨Expr.draft_draws hPager e sc h.1, orderDrafts_draws hPager os sc h.2⟩

theorem windowDraft_draws (hPager : pager.Draws B) : (w : Option Window) → (sc : Scope) →
    Visit.Binds B (windowVisits true w) → ∀ d ∈ windowDraft t pager sc w, d.Draws B
  | none, _, _ => by simp [windowDraft]
  | some ⟨p, o⟩, sc, h => by
      simp only [windowVisits, Visit.binds_append] at h
      simpa [windowDraft] using (Piece.kind_drawn B).window (exprDrafts_draws hPager p sc h.1)
        (fun _ => trivial) (orderDrafts_draws hPager o sc h.2)

theorem FromItem.draft_draws (hPager : pager.Draws B) : (i : FromItem) → (sc : Scope) →
    Visit.Binds B (i.visits true) → (i.draft t pager sc).Draws B
  | .table ref, _, _ => by simp [FromItem.draft]
  | .derived q _ lateral, sc, h => by
      simp only [FromItem.visits] at h
      exact (Piece.kind_drawn B).derived trivial (Query.draft_draws hPager q _ false h)
  | .join _ l r c, sc, h => by
      simp only [FromItem.visits, Visit.binds_append] at h
      exact (Piece.kind_drawn B).joined (FromItem.draft_draws hPager l sc h.1.1)
        (FromItem.draft_draws hPager r sc h.1.2) (optionDraft_draws hPager c sc h.2)
  | .cte _, _, _ => by simp [FromItem.draft]

theorem sourceDrafts_draws (hPager : pager.Draws B) : (is : List FromItem) → (sc : Scope) →
    Visit.Binds B (sourcesVisits true is) → ∀ d ∈ sourceDrafts t pager sc is, d.Draws B
  | [], _, _ => by simp [sourceDrafts]
  | i :: is, sc, h => by
      simp only [sourcesVisits, Visit.binds_append] at h
      simpa only [sourceDrafts, List.forall_mem_cons] using
        ⟨FromItem.draft_draws hPager i sc h.1, sourceDrafts_draws hPager is sc h.2⟩

theorem cteDrafts_draws (hPager : pager.Draws B) : (cs : List Cte) → (sc : Scope) →
    Visit.Binds B (ctesVisits true cs) → ∀ d ∈ cteDrafts t pager sc cs, d.Draws B
  | [], _, _ => by simp [cteDrafts]
  | ⟨_, _, q, _⟩ :: cs, sc, h => by
      simp only [ctesVisits, Visit.binds_append] at h
      refine List.forall_mem_cons.mpr ⟨?_, cteDrafts_draws hPager cs sc h.2⟩
      exact (Piece.kind_drawn B).cte trivial (fun _ _ => trivial)
        (Query.draft_draws hPager q sc.nested false h.1)

/-- The same for a SELECT. Where a page takes its place, the parameters of the
page are those of the SELECT. -/
theorem Select.draft_draws (hPager : pager.Draws B) : (s : Select) → (sc : Scope) →
    (outermost : Bool) → Visit.Binds B (s.visits true) → (s.draft t pager sc outermost).Draws B
  | ⟨ctes, distinct, columns, sources, condition, groupBy, having, orderBy, limit, offset,
      numbered⟩, sc, outermost, h => by
      have hPaged := h
      simp only [Select.visits, Visit.binds_select, Visit.binds_append] at h
      obtain ⟨⟨⟨⟨⟨⟨hCtes, hColumns⟩, hSources⟩, hCondition⟩, hGroup⟩, hHaving⟩, hOrder⟩ := h
      simp only [Select.draft]
      split
      · simp
      · split
        · split
          · rename_i page hPage
            -- The page is not a part of the tree, so it goes through the pager.
            exact hPager sc outermost page (Select.binds_paged hPage hPaged)
          · rename_i e hStop
            simpa using Select.errorsInDraft_paged _ _ e hStop
        · split
          · simp
          · refine Draft.all_append.mpr
              ⟨(Piece.kind_drawn B).withClause (cteDrafts_draws hPager ctes _ hCtes),
                Draft.all_cons.mpr ⟨trivial, ?_⟩⟩
            simp only [Draft.all_append]
            refine ⟨⟨⟨⟨⟨⟨⟨(Piece.kind_drawn B).top _, ?_⟩, ?_⟩, ?_⟩, ?_⟩, ?_⟩, ?_⟩, ?_⟩
            · exact (Piece.kind_drawn B).columns (errorsInDraft_headings columns [])
                (fun _ _ _ _ _ _ => trivial) (exprDrafts_draws hPager columns _ hColumns)
            · split
              · exact Draft.all_nil
              · refine Draft.all_cons.mpr ⟨trivial, (Piece.kind_drawn B).sources ?_⟩
                split
                · simp
                · exact sourceDrafts_draws hPager sources _ hSources
            · exact Draft.all_clause trivial (optionDraft_draws hPager condition _ hCondition)
            · exact (Piece.kind_drawn B).listClause (fun _ => trivial)
                (exprDrafts_draws hPager groupBy _ hGroup)
            · exact Draft.all_clause trivial (optionDraft_draws hPager having _ hHaving)
            · exact (Piece.kind_drawn B).order (fun _ _ => trivial)
                (orderDrafts_draws hPager orderBy _ hOrder)
            · split
              · exact (Piece.kind_drawn B).limits _ _
              · exact Draft.all_nil

theorem Query.draft_draws (hPager : pager.Draws B) : (q : Query) → (sc : Scope) →
    (outermost : Bool) → Visit.Binds B (q.visits true) → (q.draft t pager sc outermost).Draws B
  | .select s, sc, outermost, h => by
      simp only [Query.visits] at h
      exact Select.draft_draws hPager s sc outermost h
  | .compound _ members orderBy _ _, sc, outermost, h => by
      simp only [Query.visits, Visit.binds_append] at h
      rw [Query.draft]
      split
      · simp
      · exact Draft.all_append.mpr ⟨Draft.all_append.mpr
          ⟨Draft.all_join trivial (memberDrafts_draws hPager members sc outermost 1 h.1),
            (Piece.kind_drawn B).order (fun _ _ => trivial)
              (orderDrafts_draws hPager orderBy sc h.2)⟩, (Piece.kind_drawn B).limits _ _⟩

theorem memberDrafts_draws (hPager : pager.Draws B) : (qs : List Query) → (sc : Scope) →
    (outermost : Bool) → (number : Nat) → Visit.Binds B (queriesVisits true qs) →
    ∀ d ∈ memberDrafts t pager sc outermost number qs, d.Draws B
  | [], _, _, _, _ => by simp [memberDrafts]
  | q :: qs, sc, outermost, number, h => by
      simp only [queriesVisits, Visit.binds_append] at h
      rw [memberDrafts, List.forall_mem_cons]
      refine ⟨?_, memberDrafts_draws hPager qs sc false (number + 1) h.2⟩
      split
      · simpa using Query.draft_draws hPager q sc.isolated false h.1
      · exact (Piece.kind_drawn B).parens (Query.draft_draws hPager q sc outermost h.1)

end

end Tree

/-- However deep pages are nested, their parameters are those of the tree. By
induction on the depth. -/
theorem pager_draws (B : BindParam → Bool → Prop) (t : Target) (depth : Nat) :
    (pager t depth).Draws B := by
  induction depth with
  | zero => simp [Pager.Draws, pager]
  | succ depth ih => exact fun sc outermost s h => Select.draft_draws ih s sc outermost h

section Changes

variable {B : BindParam → Bool → Prop} {t : Target} {pager : Pager}

/-- What a change hands back brings no parameters but its own, none of them
marked. -/
theorem Draft.draws_returning (hPager : pager.Draws B) {es : List Expr}
    (h : Visit.Binds B (exprsVisits true es)) : Draws B (Draft.returning t pager es) := by
  rw [Draft.returning]
  split
  · exact all_nil
  · split
    · exact all_cons.mpr ⟨trivial, (Piece.kind_drawn B).columns (errorsInDraft_headings es [])
        (fun _ _ _ _ _ _ => trivial) (exprDrafts_draws hPager es _ h)⟩
    · simp

/-- A cell may mark its parameter, so the property has to survive a mark
here. -/
theorem Insert.cellDraft_draws (hMark : ∀ p, B p false → B p true) (hPager : pager.Draws B)
    {generated : Bool} {e : Expr} (h : Visit.Binds B (e.visits true)) :
    (cellDraft t pager generated e).Draws B := by
  rw [cellDraft.eq_def]
  split
  · rename_i p
    have hp : B p false := by simpa [Expr.visits] using h
    cases generated with
    | false => simpa using hp
    | true => simpa using hMark p hp
  · exact Expr.draft_draws hPager e _ h

theorem Insert.rowDraft_draws (hMark : ∀ p, B p false → B p true) (hPager : pager.Draws B)
    {generated : Option Nat} {row : List Expr} (h : Visit.Binds B (exprsVisits true row)) :
    (rowDraft t pager generated row).Draws B := by
  refine (Piece.kind_drawn B).parens ((Piece.kind_drawn B).list fun d hd => ?_)
  obtain ⟨i, hi, rfl⟩ := List.mem_mapIdx.mp hd
  exact cellDraft_draws hMark hPager (binds_exprs_iff.mp h _ (List.getElem_mem hi))

theorem Insert.sourceDraft_draws (hMark : ∀ p, B p false → B p true) (hPager : pager.Draws B)
    {table : Table} {source : InsertSource} (h : Visit.Binds B (source.visits true)) :
    (sourceDraft t pager table source).Draws B := by
  cases source with
  | defaults =>
      simp only [sourceDraft]
      split_ifs <;> simp
  | rows columns cells =>
      simp only [sourceDraft]
      split
      · simp
      · have hRows : ∀ d ∈ cells.map (rowDraft t pager (generatedAt table columns)),
            d.Draws B := by
          rw [List.forall_mem_map]
          intro row hRow
          refine rowDraft_draws hMark hPager ?_
          exact fun p hp => h p (List.mem_flatMap.mpr ⟨row, hRow, hp⟩)
        simpa using (Piece.kind_drawn B).list hRows
  | query columns q =>
      simpa [sourceDraft] using Query.draft_draws hPager q _ false h

theorem Update.assignments_draws (hPager : pager.Draws B) {s : Update}
    (h : Visit.Binds B (exprsVisits true (s.assignments.map (·.2)))) :
    ∀ d ∈ s.assignments.map fun (name, e) =>
      Piece.name name :: Piece.text " = " :: e.draft t pager .outermost, Draft.Draws B d := by
  rw [List.forall_mem_map]
  intro assignment hAssignment
  have he := binds_exprs_iff.mp h _ (List.mem_map_of_mem hAssignment)
  simpa using Expr.draft_draws hPager assignment.2 _ he

end Changes

section Definitions

variable {B : BindParam → Bool → Prop} {t : Target}

@[simp] theorem Constraint.nameDraft_draws (name : Option String) : (nameDraft t name).Draws B := by
  cases name <;> simp [nameDraft]

@[simp] theorem Constraint.foreignKeyDraft_draws (columns targets : List String) (table : String)
    (onDelete onUpdate : Option ReferentialAction) :
    (foreignKeyDraft t columns table targets onDelete onUpdate).Draws B := by
  simp [foreignKeyDraft]

theorem Column.draft_draws (generated : Bool) (c : Column) : (c.draft t generated).Draws B := by
  rw [Column.draft]
  split
  · simp
  · refine Draft.all_cons.mpr ⟨trivial, Draft.all_cons.mpr ⟨trivial, ?_⟩⟩
    rw [Column.defaultDraft]
    split
    · exact Draft.all_cons.mpr ⟨trivial, (Piece.kind_drawn B).ofExcept
        (t.profile.errorsInDraft_literalText _ _ _) fun _ _ => trivial⟩
    all_goals simp

theorem Constraint.draft?_draws {c : Constraint} {d : Draft} (h : c.draft? t = some d) :
    d.Draws B := by
  cases c <;> simp only [Constraint.draft?, Option.some.injEq, reduceCtorEq] at h <;> subst d <;>
    simp

theorem Table.constraintDrafts_draws (table : Table) :
    ∀ d ∈ table.constraintDrafts t, d.Draws B := by
  intro d hd
  simp only [constraintDrafts, List.mem_append] at hd
  rcases hd with ((hd | hd) | hd) | hd
  · rw [primaryKeyDrafts] at hd
    split at hd
    · cases hd
    · rw [List.mem_singleton.mp hd]
      simp
  · obtain ⟨c, _, hd⟩ := List.mem_filterMap.mp hd
    obtain ⟨r, _, rfl⟩ := Option.map_eq_some_iff.mp hd
    simp
  · obtain ⟨c, _, rfl⟩ := List.mem_map.mp hd
    simp
  · obtain ⟨c, _, hd⟩ := List.mem_filterMap.mp hd
    exact Constraint.draft?_draws hd

/-- Definitions have no parameters at all: any property holds of those they
have. -/
theorem Table.createDraft_draws (table : Table) (ifNotExists : Bool) :
    (table.createDraft t ifNotExists).Draws B := by
  simp only [createDraft, Draft.all_cons, Draft.all_append, Draft.all_nil, and_true]
  refine ⟨trivial, trivial, trivial, Draft.all_join trivial fun d hd => ?_, trivial⟩
  rcases List.mem_append.mp hd with hd | hd
  · obtain ⟨c, _, rfl⟩ := List.mem_map.mp hd
    exact Column.draft_draws _ c
  · exact constraintDrafts_draws table d hd

end Definitions

/-- Every parameter of the draft of a statement has the properties that all
parameters of the statement have. -/
theorem Statement.draft_draws {B : BindParam → Bool → Prop} (hMark : ∀ p, B p false → B p true)
    (t : Target) (s : Statement) (h : Visit.Binds B (s.visits true)) : (s.draft t).Draws B := by
  have hPager := pager_draws B t s.pages
  cases s with
  | query q => exact Query.draft_draws hPager q _ true h
  | insert s =>
      simp only [visits, Visit.binds_table, Visit.binds_append] at h
      simpa [draft, Insert.draft] using
        ⟨Insert.sourceDraft_draws hMark hPager h.1, Draft.draws_returning hPager h.2⟩
  | update s =>
      simp only [visits, Visit.binds_table, Visit.binds_append] at h
      simpa [draft, Update.draft] using
        ⟨(Piece.kind_drawn B).list (Update.assignments_draws hPager h.1.1),
          Draft.all_clause trivial (optionDraft_draws hPager s.condition _ h.1.2),
          Draft.draws_returning hPager h.2⟩
  | delete s =>
      simp only [visits, Visit.binds_table, Visit.binds_append] at h
      simpa [draft, Delete.draft] using
        ⟨Draft.all_clause trivial (optionDraft_draws hPager s.condition _ h.1),
          Draft.draws_returning hPager h.2⟩
  | createTable table ifNotExists => exact Table.createDraft_draws table ifNotExists
  | dropTable table ifExists => simp [draft, Table.dropDraft]
  | createIndex index => simp [draft, Index.createDraft]
  | dropIndex index => simp [draft, Index.dropDraft]

/-- A draft has no parameters but those of its statement. It may leave some out,
or have one more often. -/
theorem Statement.params_draft_subset (t : Target) (s : Statement) :
    (s.draft t).params ⊆ s.binds := by
  have hDraws : (s.draft t).Draws fun p _ => p ∈ s.binds :=
    s.draft_draws (fun _ h => h) t fun p hp => List.mem_filterMap.mpr ⟨.bind p, hp, rfl⟩
  intro p hp
  obtain ⟨generated, hPiece⟩ := Draft.exists_mem_of_mem_params hp
  exact hDraws _ hPiece

/-- A draft stops for no clash of parameters. These come up only when it is
written out. -/
theorem Statement.inDraft_of_stop {t : Target} {s : Statement} {e : Error}
    (h : .stop e ∈ s.draft t) : e.InDraft :=
  s.draft_draws (B := fun _ _ => True) (fun _ h => h) t (fun _ _ => trivial) _ h

end SqlStatements
