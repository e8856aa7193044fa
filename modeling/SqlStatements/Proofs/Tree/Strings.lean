import SqlStatements.Statement.Basic
import SqlStatements.Proofs.Tree.Mentions

/-! The strings of a statement that may get into its text: names, labels, text
taken over as it is, string literals and collations. Keys and values of
parameters are not among them. -/
namespace SqlStatements

def SqlType.strings (type : SqlType) : List String := type.collation.toList

def Value.strings : Value → List String
  | .text s => [s]
  | _ => []

def ColumnDefault.strings : ColumnDefault → List String
  | .value v => v.strings
  | .expression sql => [sql]
  | .sequence _ => []

def Column.strings (c : Column) : List String :=
  c.name :: (c.type.strings ++ c.initial.toList.flatMap ColumnDefault.strings ++
    c.references.toList.flatMap fun r => [r.table, r.column])

def Constraint.strings : Constraint → List String
  | .primaryKey name columns | .unique name columns => name.toList ++ columns
  | .foreignKey name columns table targets _ _ => name.toList ++ columns ++ table :: targets
  | .check name condition => name.toList ++ [condition]

/-- The name and the schema. -/
def Table.titles (t : Table) : List String := t.name :: t.schema.toList

def Table.strings (t : Table) : List String :=
  t.titles ++ t.columns.flatMap Column.strings ++ t.constraints.flatMap Constraint.strings

def TableRef.strings : TableRef → List String
  | .plain table => table.strings
  | .aliased table name => name :: table.strings

def ColumnSource.strings : ColumnSource → List String
  | .table ref => ref.strings
  | .derived name => [name]

def ColumnRef.strings (ref : ColumnRef) : List String :=
  ref.name :: ref.source.toList.flatMap ColumnSource.strings

mutual

/-- The strings of an expression. -/
def Expr.strings : Expr → List String
  | .literal v => v.strings
  | .column ref => ref.strings
  | .param _ => []
  | .binary _ l r => l.strings ++ r.strings
  | .unary _ e => e.strings
  | .call name args _ w _ => name :: (exprsStrings args ++ windowStrings w)
  | .caseOf o bs e => optionStrings o ++ branchesStrings bs ++ optionStrings e
  | .cast e type => e.strings ++ type.strings
  | .extract field e => field :: e.strings
  | .isNull e _ => e.strings
  | .inList e items _ => e.strings ++ exprsStrings items
  | .inQuery e q _ => e.strings ++ q.strings
  | .between e l h _ => e.strings ++ l.strings ++ h.strings
  | .existsIn q _ => q.strings
  | .scalar q => q.strings
  | .label e name => name :: e.strings
  | .star source => source.toList.flatMap ColumnSource.strings
  | .tuple items => exprsStrings items
  | .raw sql => [sql]

def exprsStrings : List Expr → List String
  | [] => []
  | e :: es => e.strings ++ exprsStrings es

def optionStrings : Option Expr → List String
  | none => []
  | some e => e.strings

def branchesStrings : List Branch → List String
  | [] => []
  | ⟨c, r⟩ :: bs => c.strings ++ r.strings ++ branchesStrings bs

def ordersStrings : List OrderTerm → List String
  | [] => []
  | ⟨e, _, _⟩ :: os => e.strings ++ ordersStrings os

def windowStrings : Option Window → List String
  | none => []
  | some ⟨p, o⟩ => exprsStrings p ++ ordersStrings o

def FromItem.strings : FromItem → List String
  | .table ref => ref.strings
  | .derived q name _ => name :: q.strings
  | .join _ l r c => l.strings ++ r.strings ++ optionStrings c
  | .cte name => [name]

def sourcesStrings : List FromItem → List String
  | [] => []
  | i :: is => i.strings ++ sourcesStrings is

def ctesStrings : List Cte → List String
  | [] => []
  | ⟨name, columns, q, _⟩ :: rest => name :: (columns ++ q.strings ++ ctesStrings rest)

def Select.strings : Select → List String
  | ⟨ctes, _, columns, sources, condition, groupBy, having, orderBy, _, _, _⟩ =>
    ctesStrings ctes ++ exprsStrings columns ++ sourcesStrings sources ++
      optionStrings condition ++ exprsStrings groupBy ++ optionStrings having ++
      ordersStrings orderBy

def Query.strings : Query → List String
  | .select s => s.strings
  | .compound _ members orderBy _ _ => queriesStrings members ++ ordersStrings orderBy

def queriesStrings : List Query → List String
  | [] => []
  | q :: qs => q.strings ++ queriesStrings qs

end

def InsertSource.strings : InsertSource → List String
  | .defaults => []
  | .rows columns cells => columns ++ cells.flatMap exprsStrings
  | .query columns q => columns ++ q.strings

def Statement.strings : Statement → List String
  | .query q => q.strings
  | .insert s => s.table.strings ++ s.source.strings ++ exprsStrings s.returning
  | .update s =>
    s.table.strings ++ s.assignments.map (·.1) ++ exprsStrings (s.assignments.map (·.2)) ++
      optionStrings s.condition ++ exprsStrings s.returning
  | .delete s => s.table.strings ++ optionStrings s.condition ++ exprsStrings s.returning
  | .createTable table _ | .dropTable table _ => table.strings
  | .createIndex index | .dropIndex index => index.name :: (index.table.strings ++ index.columns)

/-- The expressions met on a walk have no strings but the given ones. -/
def Visit.Within (ys : List String) (vs : List Visit) : Prop := ∀ e, .expr e ∈ vs → e.strings ⊆ ys

section Walk

variable {ys : List String}

@[simp] theorem Visit.within_nil : Within ys [] := by simp [Within]

@[simp] theorem Visit.within_append {vs ws : List Visit} :
    Within ys (vs ++ ws) ↔ Within ys vs ∧ Within ys ws := by
  simp only [Within, List.mem_append, or_imp, forall_and]

@[simp] theorem Visit.within_expr {e : Expr} {vs : List Visit} :
    Within ys (.expr e :: vs) ↔ e.strings ⊆ ys ∧ Within ys vs := by
  simp [Within]

@[simp] theorem Visit.within_bind {p : BindParam} {vs : List Visit} :
    Within ys (.bind p :: vs) ↔ Within ys vs := by
  simp [Within]

@[simp] theorem Visit.within_source (source : Option ColumnSource) :
    Within ys (ColumnSource.visits source) := by
  cases source with
  | none => simp [ColumnSource.visits]
  | some source => cases source <;> simp [ColumnSource.visits, Within]

mutual

/-- The strings of what is met on a walk are among those of the expression.
Nested queries are not entered here. -/
theorem Expr.visits_within : (e : Expr) → e.strings ⊆ ys → Visit.Within ys (e.visits false)
  | .literal _, h | .raw _, h | .column _, h | .star _, h | .param _, h => by
      simpa [Expr.visits] using h
  | .binary _ l r, h => by
      have hParts := h
      simp only [Expr.strings, List.append_subset] at hParts
      simp [Expr.visits, h, Expr.visits_within l hParts.1, Expr.visits_within r hParts.2]
  | .call _ args _ w _, h => by
      have hParts := h
      simp only [Expr.strings, List.cons_subset, List.append_subset] at hParts
      simp [Expr.visits, h, exprsVisits_within args hParts.2.1, windowVisits_within w hParts.2.2]
  | .caseOf o bs e, h => by
      have hParts := h
      simp only [Expr.strings, List.append_subset] at hParts
      simp [Expr.visits, h, optionVisits_within o hParts.1.1, branchesVisits_within bs hParts.1.2,
        optionVisits_within e hParts.2]
  | .cast e _, h => by
      have hParts := h
      simp only [Expr.strings, List.append_subset] at hParts
      simp [Expr.visits, h, Expr.visits_within e hParts.1]
  | .extract _ e, h | .label e _, h => by
      have hParts := h
      simp only [Expr.strings, List.cons_subset] at hParts
      simp [Expr.visits, h, Expr.visits_within e hParts.2]
  | .unary _ e, h | .isNull e _, h => by
      simp [Expr.visits, h, Expr.visits_within e h]
  | .inList e items _, h => by
      have hParts := h
      simp only [Expr.strings, List.append_subset] at hParts
      simp [Expr.visits, h, Expr.visits_within e hParts.1, exprsVisits_within items hParts.2]
  | .inQuery e _ _, h => by
      have hParts := h
      simp only [Expr.strings, List.append_subset] at hParts
      simp [Expr.visits, h, Expr.visits_within e hParts.1]
  | .between e l u _, h => by
      have hParts := h
      simp only [Expr.strings, List.append_subset] at hParts
      simp [Expr.visits, h, Expr.visits_within e hParts.1.1, Expr.visits_within l hParts.1.2,
        Expr.visits_within u hParts.2]
  | .existsIn _ _, h | .scalar _, h => by
      simp [Expr.visits, h]
  | .tuple items, h => by
      simp [Expr.visits, h, exprsVisits_within items h]

theorem exprsVisits_within : (es : List Expr) → exprsStrings es ⊆ ys →
    Visit.Within ys (exprsVisits false es)
  | [], _ => by simp [exprsVisits]
  | e :: es, h => by
      simp only [exprsStrings, List.append_subset] at h
      simp [exprsVisits, Expr.visits_within e h.1, exprsVisits_within es h.2]

theorem optionVisits_within : (o : Option Expr) → optionStrings o ⊆ ys →
    Visit.Within ys (optionVisits false o)
  | none, _ => by simp [optionVisits]
  | some e, h => by
      simp only [optionStrings] at h
      simpa [optionVisits] using Expr.visits_within e h

theorem branchesVisits_within : (bs : List Branch) → branchesStrings bs ⊆ ys →
    Visit.Within ys (branchesVisits false bs)
  | [], _ => by simp [branchesVisits]
  | ⟨c, r⟩ :: bs, h => by
      simp only [branchesStrings, List.append_subset] at h
      simp [branchesVisits, Expr.visits_within c h.1.1, Expr.visits_within r h.1.2,
        branchesVisits_within bs h.2]

theorem ordersVisits_within : (os : List OrderTerm) → ordersStrings os ⊆ ys →
    Visit.Within ys (ordersVisits false os)
  | [], _ => by simp [ordersVisits]
  | ⟨e, _, _⟩ :: os, h => by
      simp only [ordersStrings, List.append_subset] at h
      simp [ordersVisits, Expr.visits_within e h.1, ordersVisits_within os h.2]

theorem windowVisits_within : (w : Option Window) → windowStrings w ⊆ ys →
    Visit.Within ys (windowVisits false w)
  | none, _ => by simp [windowVisits]
  | some ⟨p, o⟩, h => by
      simp only [windowStrings, List.append_subset] at h
      simp [windowVisits, exprsVisits_within p h.1, ordersVisits_within o h.2]

end

end Walk

/-- A table mentioned brings no strings but those of the expressions, since its
name and columns are theirs. -/
theorem strings_mentionedTables {es : List Expr} {ref : TableRef} (h : ref ∈ mentionedTables es) :
    ref.strings ⊆ exprsStrings es := by
  rcases (mem_foldl_collect _ _).mp h with h | h
  · cases h
  · obtain ⟨v, hv, hRef⟩ := List.mem_filterMap.mp h
    have hWithin := exprsVisits_within es (List.Subset.refl _)
    unfold Visit.tableRef? at hRef
    split at hRef
    · cases hRef
      have hColumn := hWithin _ hv
      simp only [Expr.strings, ColumnRef.strings, Option.toList_some, List.flatMap_singleton,
        ColumnSource.strings, List.cons_subset] at hColumn
      exact hColumn.2
    · cases hRef
      have hStar := hWithin _ hv
      simpa [Expr.strings, ColumnSource.strings] using hStar
    · cases hRef

end SqlStatements
