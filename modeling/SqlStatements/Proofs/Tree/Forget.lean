import SqlStatements.Statement.Basic
import SqlStatements.Tree.Typing

/-! A tree without the values of its parameters. Two trees that differ in these
values only become the same tree. Types, names and the tables mentioned are
those of the tree with its values. -/
namespace SqlStatements

/-- The parameter without its value. -/
def BindParam.forget (p : BindParam) : BindParam := { p with value := none }

mutual

/-- The expression without the values of its parameters. -/
def Expr.forget : Expr → Expr
  | .literal v => .literal v
  | .column ref => .column ref
  | .param p => .param p.forget
  | .binary op l r => .binary op l.forget r.forget
  | .unary op e => .unary op e.forget
  | .call name args distinct w type =>
    .call name (exprsForget args) distinct (windowForget w) type
  | .caseOf o bs e => .caseOf (optionForget o) (branchesForget bs) (optionForget e)
  | .cast e type => .cast e.forget type
  | .extract field e => .extract field e.forget
  | .isNull e negated => .isNull e.forget negated
  | .inList e items negated => .inList e.forget (exprsForget items) negated
  | .inQuery e q negated => .inQuery e.forget q.forget negated
  | .between e l h negated => .between e.forget l.forget h.forget negated
  | .existsIn q negated => .existsIn q.forget negated
  | .scalar q => .scalar q.forget
  | .label e name => .label e.forget name
  | .star source => .star source
  | .tuple items => .tuple (exprsForget items)
  | .raw sql => .raw sql

def exprsForget : List Expr → List Expr
  | [] => []
  | e :: es => e.forget :: exprsForget es

def optionForget : Option Expr → Option Expr
  | none => none
  | some e => some e.forget

def branchesForget : List Branch → List Branch
  | [] => []
  | ⟨c, r⟩ :: bs => ⟨c.forget, r.forget⟩ :: branchesForget bs

def ordersForget : List OrderTerm → List OrderTerm
  | [] => []
  | ⟨e, direction, nulls⟩ :: os => ⟨e.forget, direction, nulls⟩ :: ordersForget os

def windowForget : Option Window → Option Window
  | none => none
  | some ⟨p, o⟩ => some ⟨exprsForget p, ordersForget o⟩

def FromItem.forget : FromItem → FromItem
  | .table ref => .table ref
  | .derived q name lateral => .derived q.forget name lateral
  | .join kind l r c => .join kind l.forget r.forget (optionForget c)
  | .cte name => .cte name

def sourcesForget : List FromItem → List FromItem
  | [] => []
  | i :: is => i.forget :: sourcesForget is

def ctesForget : List Cte → List Cte
  | [] => []
  | ⟨name, columns, q, recursive⟩ :: rest => ⟨name, columns, q.forget, recursive⟩ :: ctesForget rest

def Select.forget : Select → Select
  | ⟨ctes, distinct, columns, sources, condition, groupBy, having, orderBy, limit, offset,
      numbered⟩ =>
    ⟨ctesForget ctes, distinct, exprsForget columns, sourcesForget sources,
      optionForget condition, exprsForget groupBy, optionForget having, ordersForget orderBy,
      limit, offset, numbered⟩

def Query.forget : Query → Query
  | .select s => .select s.forget
  | .compound op members orderBy limit offset =>
    .compound op (queriesForget members) (ordersForget orderBy) limit offset

def queriesForget : List Query → List Query
  | [] => []
  | q :: qs => q.forget :: queriesForget qs

end

def InsertSource.forget : InsertSource → InsertSource
  | .defaults => .defaults
  | .rows columns cells => .rows columns (cells.map exprsForget)
  | .query columns q => .query columns q.forget

def Insert.forget (s : Insert) : Insert :=
  { s with source := s.source.forget, returning := exprsForget s.returning }

def Update.forget (s : Update) : Update :=
  { s with
    assignments := s.assignments.map fun (name, e) => (name, e.forget)
    condition := optionForget s.condition
    returning := exprsForget s.returning }

def Delete.forget (s : Delete) : Delete :=
  { s with condition := optionForget s.condition, returning := exprsForget s.returning }

def Statement.forget : Statement → Statement
  | .query q => .query q.forget
  | .insert s => .insert s.forget
  | .update s => .update s.forget
  | .delete s => .delete s.forget
  | .createTable table ifNotExists => .createTable table ifNotExists
  | .dropTable table ifExists => .dropTable table ifExists
  | .createIndex index => .createIndex index
  | .dropIndex index => .dropIndex index

@[simp] theorem exprsForget_eq (es : List Expr) : exprsForget es = es.map Expr.forget := by
  induction es with
  | nil => rfl
  | cons e es ih => rw [exprsForget, ih, List.map_cons]

@[simp] theorem optionForget_eq (o : Option Expr) : optionForget o = o.map Expr.forget := by
  cases o <;> rfl

@[simp] theorem sourcesForget_eq (is : List FromItem) :
    sourcesForget is = is.map FromItem.forget := by
  induction is with
  | nil => rfl
  | cons i is ih => rw [sourcesForget, ih, List.map_cons]

def Visit.forget : Visit → Visit
  | .expr e => .expr e.forget
  | .bind p => .bind p.forget
  | .table t => .table t
  | .select s => .select s.forget

section Walk

@[simp] theorem visits_source_forget (source : Option ColumnSource) :
    (ColumnSource.visits source).map Visit.forget = ColumnSource.visits source := by
  rcases source with _ | _ | _ <;> rfl

mutual

/-- A walk without values meets the same things without values, in the same
order. -/
theorem Expr.visits_forget (enter : Bool) : (e : Expr) →
    e.forget.visits enter = (e.visits enter).map Visit.forget
  | .literal _ | .raw _ | .column _ | .star _ | .param _ => by
      simp [Expr.forget, Expr.visits, Visit.forget]
  | .binary _ l r => by
      simp [Expr.forget, Expr.visits, Visit.forget, Expr.visits_forget enter l,
        Expr.visits_forget enter r]
  | .call _ args _ w _ => by
      simp only [Expr.forget, Expr.visits, exprsVisits_forget enter args,
        windowVisits_forget enter w, List.map_cons, List.map_append, Visit.forget]
  | .caseOf o bs e => by
      simp only [Expr.forget, Expr.visits, optionVisits_forget enter o,
        branchesVisits_forget enter bs, optionVisits_forget enter e, List.map_cons,
        List.map_append, Visit.forget]
  | .unary _ e | .cast e _ | .extract _ e | .isNull e _ | .label e _ => by
      simp [Expr.forget, Expr.visits, Visit.forget, Expr.visits_forget enter e]
  | .inList e items _ => by
      simp only [Expr.forget, Expr.visits, Expr.visits_forget enter e,
        exprsVisits_forget enter items, List.map_cons, List.map_append, Visit.forget]
  | .inQuery e q _ => by
      cases enter <;> simp [Expr.forget, Expr.visits, Visit.forget, Expr.visits_forget _ e,
        Query.visits_forget _ q]
  | .between e l u _ => by
      simp [Expr.forget, Expr.visits, Visit.forget, Expr.visits_forget enter e,
        Expr.visits_forget enter l, Expr.visits_forget enter u]
  | .existsIn q _ | .scalar q => by
      cases enter <;> simp [Expr.forget, Expr.visits, Visit.forget, Query.visits_forget _ q]
  | .tuple items => by
      simp only [Expr.forget, Expr.visits, exprsVisits_forget enter items, List.map_cons,
        Visit.forget]

theorem exprsVisits_forget (enter : Bool) : (es : List Expr) →
    exprsVisits enter (exprsForget es) = (exprsVisits enter es).map Visit.forget
  | [] => rfl
  | e :: es => by
      simp only [exprsForget, exprsVisits, Expr.visits_forget enter e,
        exprsVisits_forget enter es, List.map_append]

theorem optionVisits_forget (enter : Bool) : (o : Option Expr) →
    optionVisits enter (optionForget o) = (optionVisits enter o).map Visit.forget
  | none => rfl
  | some e => by simp only [optionForget, optionVisits, Expr.visits_forget enter e]

theorem branchesVisits_forget (enter : Bool) : (bs : List Branch) →
    branchesVisits enter (branchesForget bs) = (branchesVisits enter bs).map Visit.forget
  | [] => rfl
  | ⟨c, r⟩ :: bs => by
      simp only [branchesForget, branchesVisits, Expr.visits_forget enter c,
        Expr.visits_forget enter r, branchesVisits_forget enter bs, List.map_append]

theorem ordersVisits_forget (enter : Bool) : (os : List OrderTerm) →
    ordersVisits enter (ordersForget os) = (ordersVisits enter os).map Visit.forget
  | [] => rfl
  | ⟨e, _, _⟩ :: os => by
      simp only [ordersForget, ordersVisits, Expr.visits_forget enter e,
        ordersVisits_forget enter os, List.map_append]

theorem windowVisits_forget (enter : Bool) : (w : Option Window) →
    windowVisits enter (windowForget w) = (windowVisits enter w).map Visit.forget
  | none => rfl
  | some ⟨p, o⟩ => by
      simp only [windowForget, windowVisits, exprsVisits_forget enter p,
        ordersVisits_forget enter o, List.map_append]

theorem FromItem.visits_forget (enter : Bool) : (i : FromItem) →
    i.forget.visits enter = (i.visits enter).map Visit.forget
  | .table _ | .cte _ => rfl
  | .derived q _ _ => by
      simp only [FromItem.forget, FromItem.visits, Query.visits_forget enter q]
  | .join _ l r c => by
      simp only [FromItem.forget, FromItem.visits, FromItem.visits_forget enter l,
        FromItem.visits_forget enter r, optionVisits_forget enter c, List.map_append]

theorem sourcesVisits_forget (enter : Bool) : (is : List FromItem) →
    sourcesVisits enter (sourcesForget is) = (sourcesVisits enter is).map Visit.forget
  | [] => rfl
  | i :: is => by
      simp only [sourcesForget, sourcesVisits, FromItem.visits_forget enter i,
        sourcesVisits_forget enter is, List.map_append]

theorem ctesVisits_forget (enter : Bool) : (cs : List Cte) →
    ctesVisits enter (ctesForget cs) = (ctesVisits enter cs).map Visit.forget
  | [] => rfl
  | ⟨_, _, q, _⟩ :: cs => by
      simp only [ctesForget, ctesVisits, Query.visits_forget enter q,
        ctesVisits_forget enter cs, List.map_append]

theorem Select.visits_forget (enter : Bool) : (s : Select) →
    s.forget.visits enter = (s.visits enter).map Visit.forget
  | ⟨ctes, _, columns, sources, condition, groupBy, having, orderBy, _, _, _⟩ => by
      simp only [Select.forget, Select.visits, ctesVisits_forget enter ctes,
        exprsVisits_forget enter columns, sourcesVisits_forget enter sources,
        optionVisits_forget enter condition, exprsVisits_forget enter groupBy,
        optionVisits_forget enter having, ordersVisits_forget enter orderBy, List.map_cons,
        List.map_append, Visit.forget]

theorem Query.visits_forget (enter : Bool) : (q : Query) →
    q.forget.visits enter = (q.visits enter).map Visit.forget
  | .select s => by simp only [Query.forget, Query.visits, Select.visits_forget enter s]
  | .compound _ members orderBy _ _ => by
      simp only [Query.forget, Query.visits, queriesVisits_forget enter members,
        ordersVisits_forget enter orderBy, List.map_append]

theorem queriesVisits_forget (enter : Bool) : (qs : List Query) →
    queriesVisits enter (queriesForget qs) = (queriesVisits enter qs).map Visit.forget
  | [] => rfl
  | q :: qs => by
      simp only [queriesForget, queriesVisits, Query.visits_forget enter q,
        queriesVisits_forget enter qs, List.map_append]

end

end Walk

/-- A parameter is met as a parameter, without its value. -/
theorem Visit.bind?_forget (v : Visit) : v.forget.bind? = v.bind?.map BindParam.forget := by
  cases v <;> rfl

/-- Tables are met unchanged. -/
theorem Visit.tableRef?_forget (v : Visit) : v.forget.tableRef? = v.tableRef? := by
  cases v with
  | expr e => cases e <;> rfl
  | bind | table | select => rfl

theorem InsertSource.visits_forget (enter : Bool) (source : InsertSource) :
    source.forget.visits enter = (source.visits enter).map Visit.forget := by
  cases source with
  | defaults => rfl
  | rows columns cells =>
      simp only [forget, visits, List.flatMap_map, List.map_flatMap, exprsVisits_forget]
  | query columns q => exact q.visits_forget enter

/-- The same for a whole statement, rows of insertions included. -/
theorem Statement.visits_forget (enter : Bool) (s : Statement) :
    s.forget.visits enter = (s.visits enter).map Visit.forget := by
  cases s with
  | query q => exact q.visits_forget enter
  | insert s =>
      simp only [forget, Insert.forget, visits, InsertSource.visits_forget, exprsVisits_forget,
        List.map_cons, List.map_append, Visit.forget]
  | update s =>
      have hValues : s.forget.assignments.map (·.2) = exprsForget (s.assignments.map (·.2)) := by
        simp [Update.forget]
      simp only [forget, visits, hValues]
      simp only [Update.forget, exprsVisits_forget, optionVisits_forget, List.map_cons,
        List.map_append, Visit.forget]
  | delete s =>
      simp only [forget, Delete.forget, visits, exprsVisits_forget, optionVisits_forget,
        List.map_cons, List.map_append, Visit.forget]
  | createTable | dropTable | createIndex | dropIndex => rfl

/-- The parameters of a statement, without their values. Their order and their
number stay. -/
theorem Statement.binds_forget (s : Statement) : s.forget.binds = s.binds.map BindParam.forget := by
  rw [binds, binds, visits_forget, List.filterMap_map, List.map_filterMap]
  congr 1
  funext v
  exact v.bind?_forget

@[simp] theorem mentionedTables_forget (es : List Expr) :
    mentionedTables (es.map Expr.forget) = mentionedTables es := by
  rw [mentionedTables, mentionedTables, ← exprsForget_eq, exprsVisits_forget, List.filterMap_map]
  congr 2
  funext v
  exact v.tableRef?_forget

section Typing

mutual

/-- The type of an expression does not depend on values. A parameter has its own
type beside its value. -/
theorem Expr.type_forget : (e : Expr) → e.forget.type = e.type
  | .literal _ | .column _ | .param _ | .call _ _ _ _ _ | .cast _ _ | .extract _ _ | .isNull _ _
  | .inList _ _ _ | .inQuery _ _ _ | .between _ _ _ _ | .existsIn _ _ | .star _ | .tuple _
  | .raw _ => rfl
  | .binary _ l _ => by simp only [Expr.forget, Expr.type, Expr.type_forget l]
  | .unary op e => by cases op <;> simp only [Expr.forget, Expr.type, Expr.type_forget e]
  | .caseOf _ (⟨_, r⟩ :: _) _ => by
      simp only [Expr.forget, branchesForget, Expr.type, Expr.type_forget r]
  | .caseOf _ [] (some e) => by
      simp only [Expr.forget, branchesForget, optionForget, Expr.type, Expr.type_forget e]
  | .caseOf _ [] none => rfl
  | .scalar q => by simp only [Expr.forget, Expr.type, Query.firstType_forget q]
  | .label e _ => by simp only [Expr.forget, Expr.type, Expr.type_forget e]

theorem Query.firstType_forget : (q : Query) → q.forget.firstType = q.firstType
  | .select ⟨_, _, e :: _, _, _, _, _, _, _, _, _⟩ => by
      simp only [Query.forget, Select.forget, exprsForget, Query.firstType, Expr.type_forget e]
  | .select ⟨_, _, [], _, _, _, _, _, _, _, _⟩ => rfl
  | .compound _ (q :: _) _ _ _ => by
      simp only [Query.forget, queriesForget, Query.firstType, Query.firstType_forget q]
  | .compound _ [] _ _ _ => rfl

end

attribute [simp] Expr.type_forget

@[simp] theorem Expr.outputName?_forget (e : Expr) : e.forget.outputName? = e.outputName? := by
  cases e <;> rfl

/-- A query selects the same expressions, without values. -/
theorem Query.selected_forget : (q : Query) → q.forget.selected = q.selected.map Expr.forget
  | .select ⟨_, _, columns, _, _, _, _, _, _, _, _⟩ => exprsForget_eq columns
  | .compound _ [] _ _ _ => rfl
  | .compound _ (q :: _) _ _ _ => by
      simp only [Query.forget, queriesForget, Query.selected, Query.selected_forget q]

@[simp] theorem Query.fields_forget (q : Query) : q.forget.fields = q.fields := by
  rw [fields, fields, selected_forget, List.filterMap_map]
  congr 1
  funext e
  simp

theorem FromItem.fields_forget : (i : FromItem) → i.forget.fields = i.fields
  | .table _ | .cte _ => rfl
  | .derived q _ _ => q.fields_forget
  | .join _ l r _ => by
      simp only [FromItem.forget, FromItem.fields, FromItem.fields_forget l,
        FromItem.fields_forget r]

theorem FromItem.derivedFields?_forget (name : String) : (i : FromItem) →
    i.forget.derivedFields? name = i.derivedFields? name
  | .table _ | .cte _ => rfl
  | .derived q _ _ => by
      simp only [FromItem.forget, FromItem.derivedFields?, Query.fields_forget]
  | .join _ l r _ => by
      simp only [FromItem.forget, FromItem.derivedFields?, FromItem.derivedFields?_forget name l,
        FromItem.derivedFields?_forget name r]

@[simp] theorem starFields_forget (source : Option ColumnSource) (is : List FromItem) :
    starFields source (is.map FromItem.forget) = starFields source is := by
  cases source with
  | none => simp [starFields, List.flatMap_map, FromItem.fields_forget]
  | some source =>
      cases source with
      | table ref => rfl
      | derived name =>
          simp [starFields, List.findSome?_map, Function.comp_def, FromItem.derivedFields?_forget]

/-- The tables of an item are the same. Derived tables hide theirs, with or
without values. -/
theorem FromItem.tables_forget : (i : FromItem) → i.forget.tables = i.tables
  | .table _ | .cte _ | .derived _ _ _ => rfl
  | .join _ l r _ => by
      simp only [FromItem.forget, FromItem.tables, FromItem.tables_forget l,
        FromItem.tables_forget r]

@[simp] theorem FromItem.isLateral_forget (i : FromItem) : i.forget.isLateral = i.isLateral := by
  cases i <;> rfl

end Typing

end SqlStatements
