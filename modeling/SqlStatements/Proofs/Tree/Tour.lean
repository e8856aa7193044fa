import SqlStatements.Statement.Basic

/-! Everything that a tree is made of, in the order of the clauses. A walk meets expressions,
parameters, tables and SELECTs, and passes through the rest; a tour takes in the rest as well:
the items of FROM clauses, common table expressions, compound queries and their members. -/
namespace SqlStatements

/-- A part of a tree: something a walk meets, or something it passes through. -/
inductive TreePart where
  | visit (v : Visit)
  | item (source : FromItem)
  | cte (cte : Cte)
  | compound (q : Query)
  | member (q : Query)

namespace TreePart

def visit? : TreePart → Option Visit
  | .visit v => some v
  | _ => none

def member? : TreePart → Option Query
  | .member q => some q
  | _ => none

end TreePart

mutual

/-- A tour through an expression, with the queries in it. -/
def Expr.tour : Expr → List TreePart
  | .literal v => [.visit (.expr (.literal v))]
  | .raw sql => [.visit (.expr (.raw sql))]
  | .column ref => .visit (.expr (.column ref)) :: (ColumnSource.visits ref.source).map .visit
  | .star source => .visit (.expr (.star source)) :: (ColumnSource.visits source).map .visit
  | .param bind => [.visit (.expr (.param bind)), .visit (.bind bind)]
  | .binary op l r => .visit (.expr (.binary op l r)) :: (l.tour ++ r.tour)
  | .unary op e => .visit (.expr (.unary op e)) :: e.tour
  | .call n args d w t => .visit (.expr (.call n args d w t)) :: (exprsTour args ++ windowTour w)
  | .caseOf o bs e =>
    .visit (.expr (.caseOf o bs e)) :: (optionTour o ++ branchesTour bs ++ optionTour e)
  | .cast e t => .visit (.expr (.cast e t)) :: e.tour
  | .extract f e => .visit (.expr (.extract f e)) :: e.tour
  | .isNull e n => .visit (.expr (.isNull e n)) :: e.tour
  | .label e n => .visit (.expr (.label e n)) :: e.tour
  | .inList e items n => .visit (.expr (.inList e items n)) :: (e.tour ++ exprsTour items)
  | .inQuery e q n => .visit (.expr (.inQuery e q n)) :: (e.tour ++ q.tour)
  | .between e l h n => .visit (.expr (.between e l h n)) :: (e.tour ++ l.tour ++ h.tour)
  | .existsIn q n => .visit (.expr (.existsIn q n)) :: q.tour
  | .scalar q => .visit (.expr (.scalar q)) :: q.tour
  | .tuple items => .visit (.expr (.tuple items)) :: exprsTour items

def exprsTour : List Expr → List TreePart
  | [] => []
  | e :: es => e.tour ++ exprsTour es

def optionTour : Option Expr → List TreePart
  | none => []
  | some e => e.tour

def branchesTour : List Branch → List TreePart
  | [] => []
  | ⟨c, r⟩ :: bs => c.tour ++ r.tour ++ branchesTour bs

def ordersTour : List OrderTerm → List TreePart
  | [] => []
  | ⟨e, _, _⟩ :: os => e.tour ++ ordersTour os

def windowTour : Option Window → List TreePart
  | none => []
  | some ⟨p, o⟩ => exprsTour p ++ ordersTour o

def FromItem.tour : FromItem → List TreePart
  | .table ref => [.item (.table ref), .visit (.table ref.table)]
  | .derived q name lateral => .item (.derived q name lateral) :: q.tour
  | .join kind l r c => .item (.join kind l r c) :: (l.tour ++ r.tour ++ optionTour c)
  | .cte name => [.item (.cte name)]

def sourcesTour : List FromItem → List TreePart
  | [] => []
  | i :: is => i.tour ++ sourcesTour is

def ctesTour : List Cte → List TreePart
  | [] => []
  | ⟨name, columns, q, recursive⟩ :: rest =>
    .cte ⟨name, columns, q, recursive⟩ :: (q.tour ++ ctesTour rest)

def Select.tour : Select → List TreePart
  | ⟨ctes, distinct, columns, sources, condition, groupBy, having, orderBy, limit, offset,
      numbered⟩ =>
    .visit (.select ⟨ctes, distinct, columns, sources, condition, groupBy, having, orderBy, limit,
      offset, numbered⟩) ::
      (ctesTour ctes ++ exprsTour columns ++ sourcesTour sources ++ optionTour condition ++
        exprsTour groupBy ++ optionTour having ++ ordersTour orderBy)

def Query.tour : Query → List TreePart
  | .select s => s.tour
  | .compound op members orderBy limit offset =>
    .compound (.compound op members orderBy limit offset) ::
      (queriesTour members ++ ordersTour orderBy)

def queriesTour : List Query → List TreePart
  | [] => []
  | q :: qs => .member q :: (q.tour ++ queriesTour qs)

end

def InsertSource.tour : InsertSource → List TreePart
  | .defaults => []
  | .rows _ cells => cells.flatMap exprsTour
  | .query _ q => q.tour

/-- A tour through a statement. The changed or defined table comes first. -/
def Statement.tour : Statement → List TreePart
  | .query q => q.tour
  | .insert s => .visit (.table s.table) :: (s.source.tour ++ exprsTour s.returning)
  | .update s =>
    .visit (.table s.table) :: (exprsTour (s.assignments.map (·.2)) ++ optionTour s.condition ++
      exprsTour s.returning)
  | .delete s => .visit (.table s.table) :: (optionTour s.condition ++ exprsTour s.returning)
  | .createTable table _ | .dropTable table _ => [.visit (.table table)]
  | .createIndex index | .dropIndex index => [.visit (.table index.table)]

/-- A SELECT over something else: itself, its columns, its condition and the
items that it selects from, but not what is inside of them and not its common
table expressions. -/
def Select.shell (s : Select) : List TreePart :=
  .visit (.select s) :: (exprsTour s.columns ++ s.sources.map .item ++ optionTour s.condition)

/-- All members of compound queries in a statement. -/
def Statement.members (s : Statement) : List Query := s.tour.filterMap TreePart.member?

section Walk

/-- What a walk meets on a tour. -/
def walked (ps : List TreePart) : List Visit := ps.filterMap TreePart.visit?

@[simp] theorem walked_nil : walked [] = [] := rfl

@[simp] theorem walked_append (ps qs : List TreePart) :
    walked (ps ++ qs) = walked ps ++ walked qs := List.filterMap_append

@[simp] theorem walked_visit (v : Visit) (ps : List TreePart) :
    walked (.visit v :: ps) = v :: walked ps := rfl

@[simp] theorem walked_item (source : FromItem) (ps : List TreePart) :
    walked (.item source :: ps) = walked ps := rfl

@[simp] theorem walked_cte (c : Cte) (ps : List TreePart) : walked (.cte c :: ps) = walked ps := rfl

@[simp] theorem walked_compound (q : Query) (ps : List TreePart) :
    walked (.compound q :: ps) = walked ps := rfl

@[simp] theorem walked_member (q : Query) (ps : List TreePart) :
    walked (.member q :: ps) = walked ps := rfl

@[simp] theorem walked_visits (vs : List Visit) : walked (vs.map .visit) = vs := by
  rw [walked, List.filterMap_map]
  exact List.filterMap_some

mutual

/-- A tour meets what a walk meets, in the same order. Queries in the expression
are entered by both. -/
theorem Expr.walked_tour : (e : Expr) → walked e.tour = e.visits true
  | .literal _ | .raw _ | .column _ | .star _ | .param _ => by simp [Expr.tour, Expr.visits]
  | .binary _ l r => by simp [Expr.tour, Expr.visits, l.walked_tour, r.walked_tour]
  | .unary _ e | .cast e _ | .extract _ e | .isNull e _ | .label e _ => by
      simp [Expr.tour, Expr.visits, e.walked_tour]
  | .call _ args _ w _ => by
      simp [Expr.tour, Expr.visits, walked_exprsTour args, walked_windowTour w]
  | .caseOf o bs e => by
      simp [Expr.tour, Expr.visits, walked_optionTour o, walked_branchesTour bs,
        walked_optionTour e]
  | .inList e items _ => by simp [Expr.tour, Expr.visits, e.walked_tour, walked_exprsTour items]
  | .inQuery e q _ => by simp [Expr.tour, Expr.visits, e.walked_tour, q.walked_tour]
  | .between e l h _ => by
      simp [Expr.tour, Expr.visits, e.walked_tour, l.walked_tour, h.walked_tour]
  | .existsIn q _ | .scalar q => by simp [Expr.tour, Expr.visits, q.walked_tour]
  | .tuple items => by simp [Expr.tour, Expr.visits, walked_exprsTour items]

theorem walked_exprsTour : (es : List Expr) → walked (exprsTour es) = exprsVisits true es
  | [] => by simp [exprsTour, exprsVisits]
  | e :: es => by simp [exprsTour, exprsVisits, e.walked_tour, walked_exprsTour es]

theorem walked_optionTour : (o : Option Expr) → walked (optionTour o) = optionVisits true o
  | none => by simp [optionTour, optionVisits]
  | some e => by simp [optionTour, optionVisits, e.walked_tour]

theorem walked_branchesTour : (bs : List Branch) →
    walked (branchesTour bs) = branchesVisits true bs
  | [] => by simp [branchesTour, branchesVisits]
  | ⟨c, r⟩ :: bs => by
      simp [branchesTour, branchesVisits, c.walked_tour, r.walked_tour, walked_branchesTour bs]

theorem walked_ordersTour : (os : List OrderTerm) → walked (ordersTour os) = ordersVisits true os
  | [] => by simp [ordersTour, ordersVisits]
  | ⟨e, _, _⟩ :: os => by simp [ordersTour, ordersVisits, e.walked_tour, walked_ordersTour os]

theorem walked_windowTour : (w : Option Window) → walked (windowTour w) = windowVisits true w
  | none => by simp [windowTour, windowVisits]
  | some ⟨p, o⟩ => by simp [windowTour, windowVisits, walked_exprsTour p, walked_ordersTour o]

theorem FromItem.walked_tour : (item : FromItem) → walked item.tour = item.visits true
  | .table _ | .cte _ => by simp [FromItem.tour, FromItem.visits]
  | .derived q _ _ => by simp [FromItem.tour, FromItem.visits, q.walked_tour]
  | .join _ l r c => by
      simp [FromItem.tour, FromItem.visits, l.walked_tour, r.walked_tour, walked_optionTour c]

theorem walked_sourcesTour : (items : List FromItem) →
    walked (sourcesTour items) = sourcesVisits true items
  | [] => by simp [sourcesTour, sourcesVisits]
  | i :: is => by simp [sourcesTour, sourcesVisits, i.walked_tour, walked_sourcesTour is]

theorem walked_ctesTour : (ctes : List Cte) → walked (ctesTour ctes) = ctesVisits true ctes
  | [] => by simp [ctesTour, ctesVisits]
  | ⟨_, _, q, _⟩ :: rest => by simp [ctesTour, ctesVisits, q.walked_tour, walked_ctesTour rest]

/-- The same for a SELECT, clause by clause. -/
theorem Select.walked_tour : (s : Select) → walked s.tour = s.visits true
  | ⟨ctes, _, columns, sources, condition, groupBy, having, orderBy, _, _, _⟩ => by
      simp [Select.tour, Select.visits, walked_ctesTour ctes, walked_exprsTour columns,
        walked_sourcesTour sources, walked_optionTour condition, walked_exprsTour groupBy,
        walked_optionTour having, walked_ordersTour orderBy]

theorem Query.walked_tour : (q : Query) → walked q.tour = q.visits true
  | .select s => by simp [Query.tour, Query.visits, s.walked_tour]
  | .compound _ members orderBy _ _ => by
      simp [Query.tour, Query.visits, walked_queriesTour members, walked_ordersTour orderBy]

theorem walked_queriesTour : (qs : List Query) → walked (queriesTour qs) = queriesVisits true qs
  | [] => by simp [queriesTour, queriesVisits]
  | q :: qs => by simp [queriesTour, queriesVisits, q.walked_tour, walked_queriesTour qs]

end

theorem walked_rows (cells : List (List Expr)) :
    walked (cells.flatMap exprsTour) = cells.flatMap (exprsVisits true) := by
  induction cells with
  | nil => rfl
  | cons row cells ih => simp [walked_exprsTour, ih]

/-- A tour through a statement meets all that a walk meets, in the order of the
walk. -/
theorem Statement.walked_tour (s : Statement) : walked s.tour = s.visits true := by
  cases s with
  | query q => exact q.walked_tour
  | insert s =>
      have hSource : walked s.source.tour = s.source.visits true := by
        cases s.source with
        | defaults => rfl
        | rows columns cells => exact walked_rows cells
        | query columns q => exact q.walked_tour
      simp [tour, visits, hSource, walked_exprsTour]
  | update s => simp [tour, visits, walked_exprsTour, walked_optionTour]
  | delete s => simp [tour, visits, walked_exprsTour, walked_optionTour]
  | createTable | dropTable | createIndex | dropIndex => rfl

end Walk

end SqlStatements
