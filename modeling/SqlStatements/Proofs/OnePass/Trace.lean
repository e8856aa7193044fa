import SqlStatements.Proofs.Draft.PageDepth
import SqlStatements.Proofs.Draft.PagedTour
import SqlStatements.Proofs.OnePass.Meter

/-! What rendering comes to, and how often. Rendering follows the tour through a tree, except that
the page of a SELECT may take its place, and that a member of a compound query may be put into a
derived table. So the reading of a meter is bounded by a count on the tour, if the weights of what
is rewritten make up for what the rewriting adds. -/
namespace SqlStatements

/-- The weights of a meter are covered by what is counted on a tour: each part
that is met by itself, a SELECT that is rewritten together with its page, a
member that is wrapped together with its wrapper, and an implied table not at
all. -/
structure Meter.Within (M : Meter) (f : TreePart → Bool) : Prop where
  met : ∀ part, M.met part ≤ if f part then 1 else 0
  page : ∀ {dialect : String} {s page : Select}, s.skipsRows = true → s.paged dialect = .ok page →
    M.reading { met := [.visit (.select s)], rewritten := [s] } + page.tour.countP f ≤
      s.tour.countP f
  wrapper : ∀ (q : Query) (number : Nat), q.isRestricted = true →
    M.reading { met := .member q :: (q.wrappedAs number).shell, wrapped := [(q, number)] } ≤
      ([TreePart.member q].countP f : Nat)
  implied : ∀ ref, M.reading { met := (FromItem.table ref).tour, implied := [ref] } ≤ 0

/-- Parts that are met weigh no more than is counted of them. -/
theorem Meter.Within.sum_met_le {M : Meter} {f : TreePart → Bool} (h : M.Within f)
    (parts : List TreePart) : (parts.map M.met).sum ≤ parts.countP f := by
  induction parts with
  | nil => exact Nat.le_refl _
  | cons part parts ih =>
      have hFirst := h.met part
      rw [List.map_cons, List.sum_cons, List.countP_cons]
      omega

/-- Pages are rendered once at most. -/
def PageRenderer.Adds (M : Meter) (f : TreePart → Bool) (pg : PageRenderer) : Prop :=
  ∀ outermost page, (pg outermost page).Adds M (page.tour.countP f)

section Tree

open Renderer

variable {M : Meter} {f : TreePart → Bool} {pg : PageRenderer}

/-- Meeting parts on a tour costs what is counted of them. -/
theorem Renderer.Adds.meetsAll {x : Renderer} {n : Nat} (h : x.Adds M n) (hM : M.Within f)
    (parts : List TreePart) : (Renderer.meet parts x).Adds M (n + parts.countP f) :=
  h.meet (Nat.add_le_add_left (hM.sum_met_le parts) n)

theorem Renderer.Adds.meets {x : Renderer} {n : Nat} (h : x.Adds M n) (hM : M.Within f)
    (part : TreePart) : (Renderer.meet [part] x).Adds M (n + if f part then 1 else 0) := by
  have hMeets := h.meetsAll hM [part]
  rwa [List.countP_singleton] at hMeets

/-- What has no parts of its own adds what is met with it; its pieces add
nothing. -/
theorem adds_leaf (hM : M.Within f) (parts : List TreePart) (d : Draft) :
    (meet parts (pieces d)).Adds M (parts.countP f) :=
  ((adds_pieces d).meetsAll hM parts).mono (Nat.le_of_eq (Nat.zero_add _))

/-- An implied table is on no tour, and the meter takes off what it was met
with. -/
theorem adds_impliedTable (hM : M.Within f) (ref : TableRef) : (impliedTable ref).Adds M 0 :=
  (adds_pieces ref.draft).traced (by simpa using hM.implied ref)

mutual

/-- Rendering an expression adds no more than is counted on a tour through it,
whatever the pages in it are. It may add less: some parts are not rendered, and
a failure ends it. -/
theorem Expr.adds_render (hM : M.Within f) (hPages : pg.Adds M f) :
    (e : Expr) → (e.render pg).Adds M (e.tour.countP f)
  | .literal v => by
      rw [Expr.render, Expr.tour, List.countP_cons]
      exact (adds_forTarget fun t => adds_pieces _).meets hM _
  | .column ref => by
      rw [Expr.render, Expr.tour]
      exact adds_leaf hM _ _
  | .param bind => by
      rw [Expr.render, Expr.tour]
      exact adds_leaf hM _ _
  | .binary op l r => by
      rw [Expr.render, Expr.tour, List.countP_cons, List.countP_append]
      exact (adds_forTarget fun t => (l.adds_render hM hPages).binary
        (r.adds_render hM hPages) t op l r).meets hM _
  | .unary op e => by
      rw [Expr.render, Expr.tour, List.countP_cons]
      exact (((e.adds_render hM hPages).parens _).behind _).meets hM _
  | .call name args distinct w type => by
      rw [Expr.render, Expr.tour, List.countP_cons, List.countP_append]
      exact (adds_forTarget fun t => (addsAll_exprRenderers hM hPages args).call
        (addsAll_windowRenderer hM hPages w) t name distinct).meets hM _
  | .caseOf o bs e => by
      rw [Expr.render, Expr.tour, List.countP_cons, List.countP_append, List.countP_append]
      exact (((((((addsAll_optionRenderer hM hPages o).clause _).append
        (adds_branchesRenderer hM hPages bs)).append
        ((addsAll_optionRenderer hM hPages e).clause _))).ahead _).behind _).meets hM _
  | .cast e type => by
      rw [Expr.render, Expr.tour, List.countP_cons]
      exact (adds_forTarget fun t => ((e.adds_render hM hPages).ahead _).behind _).meets hM _
  | .extract field e => by
      rw [Expr.render, Expr.tour, List.countP_cons]
      exact (adds_forTarget fun t => ((e.adds_render hM hPages).ahead _).behind _).meets hM _
  | .isNull e negated => by
      rw [Expr.render, Expr.tour, List.countP_cons]
      exact ((e.adds_render hM hPages).isNull e negated).meets hM _
  | .inList e items negated => by
      rw [Expr.render, Expr.tour, List.countP_cons, List.countP_append]
      exact ((e.adds_render hM hPages).inList (addsAll_exprRenderers hM hPages items)
        e negated).meets hM _
  | .inQuery e q negated => by
      rw [Expr.render, Expr.tour, List.countP_cons, List.countP_append]
      exact (((e.adds_render hM hPages).parens _).append
        ((((q.adds_render hM hPages false).elsewhere _ _).ahead _).behind _)).meets hM _
  | .between e l h negated => by
      rw [Expr.render, Expr.tour, List.countP_cons, List.countP_append, List.countP_append,
        Nat.add_assoc (List.countP f e.tour)]
      exact (((e.adds_render hM hPages).parens _).append
        ((((l.adds_render hM hPages).parens _).append
          (((h.adds_render hM hPages).parens _).behind _)).behind _)).meets hM _
  | .existsIn q negated => by
      rw [Expr.render, Expr.tour, List.countP_cons]
      exact ((((q.adds_render hM hPages false).elsewhere _ _).ahead _).behind _).meets hM _
  | .scalar q => by
      rw [Expr.render, Expr.tour, List.countP_cons]
      exact ((((q.adds_render hM hPages false).elsewhere _ _).ahead _).behind _).meets hM _
  | .label e name => by
      rw [Expr.render, Expr.tour, List.countP_cons]
      exact (e.adds_render hM hPages).meets hM _
  | .star none => by
      rw [Expr.render, Expr.tour, List.countP_cons]
      exact (adds_pieces _).meets hM _
  | .star (some source) => by
      rw [Expr.render, Expr.tour]
      exact adds_leaf hM _ _
  | .tuple items => by
      rw [Expr.render, Expr.tour, List.countP_cons]
      exact ((((addsAll_exprRenderers hM hPages items).join _).ahead _).behind _).meets hM _
  | .raw sql => by
      rw [Expr.render, Expr.tour, List.countP_cons]
      exact (adds_pieces _).meets hM _

theorem addsAll_exprRenderers (hM : M.Within f) (hPages : pg.Adds M f) :
    (es : List Expr) → AddsAll M ((exprsTour es).countP f) (exprRenderers pg es)
  | [] => by
      rw [exprRenderers]
      exact .nil
  | e :: es => by
      rw [exprRenderers, exprsTour, List.countP_append]
      exact .cons (e.adds_render hM hPages) (addsAll_exprRenderers hM hPages es)

theorem addsAll_optionRenderer (hM : M.Within f) (hPages : pg.Adds M f) :
    (o : Option Expr) → AddsAll M ((optionTour o).countP f) (optionRenderer pg o).toList
  | none => by
      rw [optionRenderer]
      exact .nil
  | some e => by
      rw [optionRenderer, optionTour]
      exact .cons (m := 0) (e.adds_render hM hPages) .nil

theorem adds_branchesRenderer (hM : M.Within f) (hPages : pg.Adds M f) :
    (bs : List Branch) → (branchesRenderer pg bs).Adds M ((branchesTour bs).countP f)
  | [] => by
      rw [branchesRenderer]
      exact (adds_pieces []).mono (Nat.zero_le _)
  | ⟨c, r⟩ :: bs => by
      rw [branchesRenderer, branchesTour, List.countP_append, List.countP_append, Nat.add_assoc]
      exact ((c.adds_render hM hPages).append (((r.adds_render hM hPages).append
        (adds_branchesRenderer hM hPages bs)).behind _)).behind _

theorem addsAll_orderRenderers (hM : M.Within f) (hPages : pg.Adds M f) :
    (terms : List OrderTerm) →
    AddsAll M ((ordersTour terms).countP f) (orderRenderers pg terms)
  | [] => by
      rw [orderRenderers]
      exact .nil
  | ⟨e, direction, nulls⟩ :: rest => by
      rw [orderRenderers, ordersTour, List.countP_append]
      exact .cons ((e.adds_render hM hPages).ahead _)
        (addsAll_orderRenderers hM hPages rest)

theorem addsAll_windowRenderer (hM : M.Within f) (hPages : pg.Adds M f) :
    (w : Option Window) → AddsAll M ((windowTour w).countP f) (windowRenderer pg w).toList
  | none => by
      rw [windowRenderer]
      exact .nil
  | some ⟨partitionBy, orderBy⟩ => by
      rw [windowRenderer, windowTour, List.countP_append]
      exact .cons (m := 0) ((addsAll_exprRenderers hM hPages partitionBy).window
        (addsAll_orderRenderers hM hPages orderBy)) .nil

theorem FromItem.adds_render (hM : M.Within f) (hPages : pg.Adds M f) :
    (item : FromItem) → (item.render pg).Adds M (item.tour.countP f)
  | .table ref => by
      rw [FromItem.render, FromItem.tour]
      exact adds_leaf hM _ _
  | .derived q name lateral => by
      rw [FromItem.render, FromItem.tour, List.countP_cons]
      refine Adds.meets (adds_forTarget fun t => Adds.derived ?_ t name lateral) hM _
      split
      · exact (q.adds_render hM hPages false).elsewhere _ _
      · exact ((q.adds_render hM hPages false).elsewhere _ _).elsewhere _ _
  | .join kind l r condition => by
      rw [FromItem.render, FromItem.tour, List.countP_cons, List.countP_append,
        List.countP_append]
      exact (adds_forTarget fun t => (l.adds_render hM hPages).joined (r.adds_render hM hPages)
        (addsAll_optionRenderer hM hPages condition) t kind r).meets hM _
  | .cte name => by
      rw [FromItem.render, FromItem.tour, List.countP_cons]
      exact (adds_pieces _).meets hM _

theorem addsAll_sourceRenderers (hM : M.Within f) (hPages : pg.Adds M f) :
    (items : List FromItem) →
    AddsAll M ((sourcesTour items).countP f) (sourceRenderers pg items)
  | [] => by
      rw [sourceRenderers]
      exact .nil
  | item :: items => by
      rw [sourceRenderers, sourcesTour, List.countP_append]
      exact .cons (item.adds_render hM hPages) (addsAll_sourceRenderers hM hPages items)

theorem addsAll_cteRenderers (hM : M.Within f) (hPages : pg.Adds M f) :
    (ctes : List Cte) → AddsAll M ((ctesTour ctes).countP f) (cteRenderers pg ctes)
  | [] => by
      rw [cteRenderers]
      exact .nil
  | ⟨name, columns, q, recursive⟩ :: rest => by
      rw [cteRenderers, ctesTour, List.countP_cons, List.countP_append, Nat.add_right_comm]
      exact .cons (((((q.adds_render hM hPages false).elsewhere _ _).ahead _).behind _ |>.behind
        _).meets hM _) (addsAll_cteRenderers hM hPages rest)

/-- The same for a SELECT. If it is rewritten, its page is on no tour, and the
meter makes up for the difference between the two. -/
theorem Select.adds_render (hM : M.Within f) (hPages : pg.Adds M f) :
    (s : Select) → (outermost : Bool) →
    (s.render pg outermost).Adds M (s.tour.countP f)
  | ⟨ctes, distinct, columns, sources, condition, groupBy, having, orderBy, limit, offset,
      numbered⟩, outermost => by
      rw [Select.render]
      generalize hSelect : (⟨ctes, distinct, columns, sources, condition, groupBy, having, orderBy,
        limit, offset, numbered⟩ : Select) = s
      have hCount := s.countP_tour (f := f)
      have hSelf := hM.met (.visit (.select s))
      obtain ⟨rest, hRest⟩ : ∃ rest, rest + M.met (.visit (.select s)) = s.tour.countP f :=
        ⟨_, Nat.sub_add_cancel (by omega)⟩
      refine Adds.meet (n := rest) (adds_forTarget fun t => ?_) (by simp [hRest])
      split
      · exact adds_fail _ _
      split
      · rename_i hSkips
        cases hPage : s.paged t.profile.name with
        | error e => exact adds_fail _ _
        | ok page =>
            have hPaged := hM.page hSkips.1 hPage
            refine (hPages outermost page).traced ?_
            simp only [Meter.reading, List.map_cons, List.map_nil, List.sum_cons, List.sum_nil]
              at hPaged ⊢
            omega
      split
      · exact adds_fail _ _
      refine adds_forScope fun sc => Adds.elsewhere ?_ _ _
      subst hSelect
      exact (adds_select t sc outermost _ (addsAll_cteRenderers hM hPages ctes)
        (addsAll_exprRenderers hM hPages columns) (addsAll_sourceRenderers hM hPages sources)
        (addsAll_optionRenderer hM hPages condition) (addsAll_exprRenderers hM hPages groupBy)
        (addsAll_optionRenderer hM hPages having)
        (addsAll_orderRenderers hM hPages orderBy) (adds_impliedTable hM)).mono
          (by dsimp only at hCount; omega)

/-- The same for a query. The SELECT around a restricted member is on no tour
either. -/
theorem Query.adds_render (hM : M.Within f) (hPages : pg.Adds M f) :
    (q : Query) → (outermost : Bool) →
    (q.render pg outermost).Adds M (q.tour.countP f)
  | .select s, outermost => by
      rw [Query.render, Query.tour]
      exact s.adds_render hM hPages outermost
  | .compound op members orderBy limit offset, outermost => by
      rw [Query.render, Query.tour, List.countP_cons, List.countP_append]
      refine Adds.meets (adds_forTarget fun t => ?_) hM _
      split
      · exact adds_fail _ _
      · exact (((addsAll_memberRenderers hM hPages members outermost 1).join _).append
          ((addsAll_orderRenderers hM hPages orderBy).order t _)).ahead _

theorem addsAll_memberRenderers (hM : M.Within f) (hPages : pg.Adds M f) :
    (qs : List Query) → (outermost : Bool) → (number : Nat) →
    AddsAll M ((queriesTour qs).countP f) (memberRenderers pg outermost number qs)
  | [], _, _ => by
      rw [memberRenderers]
      exact .nil
  | q :: qs, outermost, number => by
      rw [memberRenderers, queriesTour, List.countP_cons, List.countP_append, Nat.add_right_comm]
      refine .cons ?_ (addsAll_memberRenderers hM hPages qs false (number + 1))
      by_cases hRestricted : q.isRestricted = true
      · rw [if_pos hRestricted]
        have hWrapper := hM.wrapper q number hRestricted
        rw [List.countP_singleton] at hWrapper
        refine Adds.traced (n := q.tour.countP f)
          (adds_forTarget fun t => adds_forScope fun sc => ?_) (by omega)
        exact (((adds_text _).recording _).append ((((q.adds_render hM hPages false).elsewhere _
          _).elsewhere _ _).ahead _)).mono (Nat.le_of_eq (Nat.zero_add _))
      · rw [if_neg hRestricted]
        exact ((q.adds_render hM hPages outermost).parens _).meets hM _

end

/-- At every depth pages are rendered once at most. By induction on the depth,
with the balance between a SELECT and its page. -/
theorem adds_pageRenderer (hM : M.Within f) (depth : Nat) : (pageRenderer depth).Adds M f := by
  induction depth with
  | zero => exact fun _ _ => adds_fail _ _
  | succ depth ih => exact fun outermost page => page.adds_render hM ih outermost

theorem adds_returningRenderer (hM : M.Within f) (hPages : pg.Adds M f) (exprs : List Expr) :
    (returningRenderer pg exprs).Adds M ((exprsTour exprs).countP f) := by
  rw [returningRenderer]
  split
  · exact (adds_pieces []).mono (Nat.zero_le _)
  · refine adds_forTarget fun t => ?_
    split
    · exact ((addsAll_exprRenderers hM hPages exprs).columns _ true).behind _
    · exact adds_fail _ _

namespace Insert

/-- A cell that is a parameter is met as an expression and as a parameter. -/
theorem adds_cellRenderer (hM : M.Within f) (hPages : pg.Adds M f) (generated : Bool) (e : Expr) :
    (cellRenderer pg generated e).Adds M (e.tour.countP f) := by
  cases e with
  | param bind =>
      rw [cellRenderer, Expr.tour]
      exact adds_leaf hM _ _
  | _ => exact Expr.adds_render hM hPages _

theorem addsAll_cells (hM : M.Within f) (hPages : pg.Adds M f) (generated : Nat → Bool)
    (row : List Expr) : AddsAll M ((exprsTour row).countP f)
      (row.mapIdx fun i e => cellRenderer pg (generated i) e) := by
  induction row generalizing generated with
  | nil => exact .nil
  | cons e row ih =>
      rw [List.mapIdx_cons, exprsTour, List.countP_append]
      exact .cons (adds_cellRenderer hM hPages _ e) (ih fun i => generated (i + 1))

/-- Rows add no more than is counted on tours through their cells. -/
theorem addsAll_rows (hM : M.Within f) (hPages : pg.Adds M f) (generated : Option Nat)
    (cells : List (List Expr)) : AddsAll M ((cells.flatMap exprsTour).countP f)
      (cells.map (rowRenderer pg generated)) := by
  induction cells with
  | nil => exact .nil
  | cons row cells ih =>
      rw [List.map_cons, List.flatMap_cons, List.countP_append]
      exact .cons (((addsAll_cells hM hPages _ row).join _).parens _) ih

/-- An insertion of rows adds what its cells add, and one of a query what the
query adds. -/
theorem adds_sourceRenderer (hM : M.Within f) (hPages : pg.Adds M f) (table : Table)
    (source : InsertSource) :
    (sourceRenderer pg table source).Adds M (source.tour.countP f) := by
  cases source with
  | defaults =>
      rw [sourceRenderer, InsertSource.tour]
      refine adds_forTarget fun t => ?_
      split_ifs
      · exact adds_text _
      · exact adds_text _
      · exact adds_fail _ _
  | rows columns cells =>
      rw [sourceRenderer, InsertSource.tour]
      refine adds_forTarget fun t => ?_
      split
      · exact adds_fail _ _
      · exact (((((addsAll_rows hM hPages _ cells).join _).behind _).behind _).behind _)
  | query columns q =>
      rw [sourceRenderer, InsertSource.tour]
      exact (((q.adds_render hM hPages false).behind _).behind _).behind _

end Insert

theorem addsAll_assignments (hM : M.Within f) (hPages : pg.Adds M f)
    (assignments : List (String × Expr)) :
    AddsAll M ((exprsTour (assignments.map (·.2))).countP f)
      (assignments.map fun a => pieces [.name a.1, .text " = "] ++ a.2.render pg) := by
  induction assignments with
  | nil => exact .nil
  | cons a assignments ih =>
      rw [List.map_cons, List.map_cons, exprsTour, List.countP_append]
      exact .cons ((a.2.adds_render hM hPages).behind _) ih

/-- No part of a statement is rendered twice: what a meter reads afterwards is
bounded by what is counted on a tour. -/
theorem Statement.adds_render (hM : M.Within f) (hPages : pg.Adds M f) (s : Statement) :
    (s.render pg).Adds M (s.tour.countP f) := by
  cases s with
  | query q =>
      rw [render, tour]
      exact q.adds_render hM hPages true
  | insert s =>
      rw [render, Insert.render, tour, List.countP_cons, List.countP_append]
      exact (((Insert.adds_sourceRenderer hM hPages s.table s.source).append
        (adds_returningRenderer hM hPages s.returning)).behind _).meets hM _
  | update s =>
      rw [render, Update.render, tour, List.countP_cons, List.countP_append, List.countP_append]
      exact (((((addsAll_assignments hM hPages s.assignments).join _).append
        ((addsAll_optionRenderer hM hPages s.condition).clause _)).append
          (adds_returningRenderer hM hPages s.returning)).behind _).meets hM _
  | delete s =>
      rw [render, Delete.render, tour, List.countP_cons, List.countP_append]
      exact ((((addsAll_optionRenderer hM hPages s.condition).clause _).append
        (adds_returningRenderer hM hPages s.returning)).behind _).meets hM _
  | createTable | createIndex | dropIndex =>
      rw [render, tour, List.countP_cons]
      exact (adds_forTarget fun t => adds_pieces _).meets hM _
  | dropTable =>
      rw [render, tour, List.countP_cons]
      exact (adds_pieces _).meets hM _

end Tree

section Meters

/-- A wrapper is of the kinds that paging may add: a SELECT without an order, a
star and a derived table. -/
theorem Query.added_shell_wrappedAs (q : Query) (number : Nat) :
    ∀ part ∈ (q.wrappedAs number).shell, part.Added := by
  refine List.forall_mem_cons.mpr ⟨rfl, List.forall_mem_append.mpr ⟨List.forall_mem_append.mpr
    ⟨added_exprsTour (List.forall_mem_singleton.mpr (Expr.added_star none)),
      List.forall_mem_singleton.mpr trivial⟩, List.forall_mem_nil _⟩⟩

namespace Trace

/-- All that was added to the parts of a statement: by the pages of the SELECTs
that were rewritten, by the wrappers of members, and for SELECTs without a FROM
clause. -/
def additions (T : Trace) : List TreePart :=
  T.rewritten.flatMap Select.additions ++
    (T.wrapped.flatMap fun w => (w.1.wrappedAs w.2).shell) ++
    T.implied.flatMap fun ref => (FromItem.table ref).tour

/-- All that pages have left out of the SELECTs that were rewritten. -/
def omissions (T : Trace) : List TreePart := T.rewritten.flatMap Select.omissions

/-- On a walk, what was added is of few kinds, so whatever counts none of these
kinds counts nothing of it. -/
theorem countP_additions {T : Trace} {f : Visit → Bool}
    (hAdded : ∀ v : Visit, v.Added → f v = false) (hPlain : ∀ x ∈ T.rewritten, x.numbered = false) :
    (T.additions.countP fun part => (part.visit?.map f).getD false) = 0 := by
  have hNone : ∀ part : TreePart, (∀ v, part = .visit v → v.Added) →
      ¬(part.visit?.map f).getD false = true := by
    intro part hPart
    cases part with
    | visit v =>
        show ¬f v = true
        rw [hAdded v (hPart v rfl)]
        exact Bool.false_ne_true
    | item | cte | compound | member => exact Bool.false_ne_true
  refine List.countP_eq_zero.mpr fun part hPart => hNone part fun v hv => ?_
  subst hv
  rcases List.mem_append.mp hPart with hPart | hPart
  · rcases List.mem_append.mp hPart with hPart | hPart
    · obtain ⟨x, hx, hPart⟩ := List.mem_flatMap.mp hPart
      exact Select.added_additions (hPlain x hx) _ hPart
    · obtain ⟨⟨q, number⟩, -, hPart⟩ := List.mem_flatMap.mp hPart
      exact q.added_shell_wrappedAs number _ hPart
  · obtain ⟨ref, -, hPart⟩ := List.mem_flatMap.mp hPart
    rw [FromItem.tour] at hPart
    simp only [List.mem_cons, reduceCtorEq, List.not_mem_nil, or_false, false_or] at hPart
    cases hPart
    trivial

end Trace

namespace Meter

/-- Counts what is met, and makes up for what is added and left out. -/
def counting (f : TreePart → Bool) : Meter where
  met part := if f part then 1 else 0
  rewritten s := s.omissions.countP f - s.additions.countP f
  wrapped w := -(w.1.wrappedAs w.2).shell.countP f
  implied ref := -(FromItem.table ref).tour.countP f

def rewriting (p : Select → Bool) : Meter where
  met _ := 0
  rewritten s := if p s then 1 else 0
  wrapped _ := 0
  implied _ := 0

def wrapping (p : Query → Bool) : Meter where
  met _ := 0
  rewritten _ := 0
  wrapped w := if p w.1 then 1 else 0
  implied _ := 0

/-- Weights of one, summed up, are a count. -/
theorem sum_indicator {α R : Type} [AddCommMonoidWithOne R] (p : α → Bool) (l : List α) :
    (l.map fun a => if p a then (1 : R) else 0).sum = (l.countP p : R) := by
  induction l with
  | nil => exact Nat.cast_zero.symm
  | cons a l ih =>
      rw [List.map_cons, List.sum_cons, List.countP_cons, ih]
      split
      · rw [Nat.cast_succ, add_comm]
      · rw [zero_add, Nat.add_zero]

/-- What goes out less what comes in, summed up over a list. -/
theorem sum_balance (f : TreePart → Bool) {α : Type} (g h : α → List TreePart) (l : List α) :
    (l.map fun a => ((g a).countP f : Int) - (h a).countP f).sum =
      ((l.flatMap g).countP f : Int) - (l.flatMap h).countP f := by
  induction l with
  | nil => rfl
  | cons a l ih =>
      rw [List.map_cons, List.sum_cons, List.flatMap_cons, List.flatMap_cons, List.countP_append,
        List.countP_append, ih]
      omega

theorem sum_neg_countP (f : TreePart → Bool) {α : Type} (g : α → List TreePart) (l : List α) :
    (l.map fun a => -((g a).countP f : Int)).sum = -((l.flatMap g).countP f : Int) := by
  have hNothing : l.flatMap (fun _ => ([] : List TreePart)) = [] :=
    List.flatMap_eq_nil_iff.mpr fun _ _ => rfl
  simpa [hNothing] using sum_balance f (fun _ => []) g l

/-- The meter reads what is met and what pages have left out, less all that was
added. -/
theorem reading_counting (f : TreePart → Bool) (T : Trace) :
    (counting f).reading T = T.met.countP f + T.omissions.countP f - T.additions.countP f := by
  have hMet : (T.met.map (counting f).met).sum = T.met.countP f := sum_indicator f T.met
  have hRewritten : (T.rewritten.map (counting f).rewritten).sum =
      T.omissions.countP f - (T.rewritten.flatMap Select.additions).countP f :=
    sum_balance f Select.omissions Select.additions T.rewritten
  have hWrapped : (T.wrapped.map (counting f).wrapped).sum =
      -((T.wrapped.flatMap fun w => (w.1.wrappedAs w.2).shell).countP f : Int) :=
    sum_neg_countP f _ T.wrapped
  have hImplied : (T.implied.map (counting f).implied).sum =
      -((T.implied.flatMap fun ref => (FromItem.table ref).tour).countP f : Int) :=
    sum_neg_countP f _ T.implied
  rw [reading, hMet, hRewritten, hWrapped, hImplied, Trace.additions, List.countP_append,
    List.countP_append]
  omega

/-- A part weighs what is counted of it. A page weighs no more than its SELECT
once additions and omissions are set against each other, and so does the SELECT
around a member. -/
theorem within_counting (f : TreePart → Bool) : (counting f).Within f where
  met _ := Nat.le_refl _
  page hSkips hPage := by
    have hBalance := Select.countP_tour_paged (f := f) (Select.plain_of_skipsRows hSkips) hPage
    simp only [reading_counting, Trace.omissions, Trace.additions, List.flatMap_cons,
      List.flatMap_nil, List.append_nil, List.countP_singleton]
    omega
  wrapper q number _ := by
    simp only [reading_counting, Trace.omissions, Trace.additions, List.flatMap_cons,
      List.flatMap_nil, List.append_nil, List.nil_append, List.countP_cons, List.countP_nil]
    omega
  implied ref := by
    simp only [reading_counting, Trace.omissions, Trace.additions, List.flatMap_cons,
      List.flatMap_nil, List.append_nil, List.nil_append, List.countP_nil]
    omega

theorem reading_rewriting (p : Select → Bool) (T : Trace) :
    (rewriting p).reading T = T.rewritten.countP p := by
  simp [reading, rewriting, sum_indicator]

/-- A SELECT that is rewritten skips rows, and its page does not, so it is
counted once. -/
theorem within_rewriting (p : Select → Bool) : (rewriting p).Within fun part =>
    ((part.visit?.bind Visit.select?).map fun x => x.skipsRows && p x).getD false where
  met _ := Nat.zero_le _
  page {dialect s page} hSkips hPage := by
    have hCount := Select.countP_paged (f := fun part =>
      ((part.visit?.bind Visit.select?).map fun x => x.skipsRows && p x).getD false)
      (fun part hPart => by
        cases part with
        | visit v =>
            cases v with
            | select x =>
                have hPlain : x.skipsRows = false := Visit.skips_added (.select x) hPart
                show (x.skipsRows && p x) = false
                rw [hPlain, Bool.false_and]
            | expr | bind | table => rfl
        | item | cte | compound | member => rfl) (Select.plain_of_skipsRows hSkips) hPage
    have hSelf : (((TreePart.visit (.select s)).visit?.bind Visit.select?).map fun x =>
        x.skipsRows && p x).getD false = p s := by
      show (s.skipsRows && p s) = p s
      rw [hSkips, Bool.true_and]
    rw [hSelf] at hCount
    rw [reading_rewriting, List.countP_singleton]
    omega
  wrapper q number _ := by
    rw [reading_rewriting]
    exact Int.natCast_nonneg _
  implied ref := by
    rw [reading_rewriting]
    exact Int.le_refl 0

theorem reading_wrapping (p : Query → Bool) (T : Trace) :
    (wrapping p).reading T = (T.wrapped.map (·.1)).countP p := by
  simp [reading, wrapping, sum_indicator fun w : Query × Nat => p w.1, List.countP_map,
    Function.comp_def]

/-- A member that is wrapped is restricted. The SELECT around it has no members,
so it is counted once. -/
theorem within_wrapping (p : Query → Bool) : (wrapping p).Within fun part =>
    (part.member?.map fun q => q.isRestricted && p q).getD false where
  met _ := Nat.zero_le _
  page hSkips hPage := by
    have hCount := Select.countP_paged (f := fun part =>
      (part.member?.map fun q => q.isRestricted && p q).getD false)
      (fun part hPart => by
        cases part with
        | member => exact hPart.elim
        | visit | item | cte | compound => rfl) (Select.plain_of_skipsRows hSkips) hPage
    rw [reading_wrapping, List.map_nil, List.countP_nil]
    omega
  wrapper q number hRestricted := by
    rw [reading_wrapping, List.map_singleton, List.countP_singleton, List.countP_singleton]
    show ((if p q then 1 else 0 : Nat) : Int) ≤
      ((if q.isRestricted && p q then 1 else 0 : Nat) : Int)
    exact Int.le_of_eq (by rw [hRestricted, Bool.true_and])
  implied ref := by
    rw [reading_wrapping]
    exact Int.le_refl 0

end Meter

end Meters

end SqlStatements
