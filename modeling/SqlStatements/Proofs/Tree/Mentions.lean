import SqlStatements.Tree.Visit

/-! The tables that an expression mentions. -/
namespace SqlStatements

/-- Whether the expression refers to the table outside of nested queries. -/
def Expr.Mentions (e : Expr) (ref : TableRef) : Prop :=
  ∃ v ∈ e.visits false, v.tableRef? = some ref

theorem exprsVisits_eq_flatMap (enter : Bool) (es : List Expr) :
    exprsVisits enter es = es.flatMap (·.visits enter) := by
  induction es with
  | nil => rfl
  | cons e es ih => rw [exprsVisits, List.flatMap_cons, ih]

theorem mem_ordersVisits {enter : Bool} {terms : List OrderTerm} {v : Visit} :
    v ∈ ordersVisits enter terms ↔ ∃ term ∈ terms, v ∈ term.expr.visits enter := by
  induction terms with
  | nil => simp [ordersVisits]
  | cons term terms ih =>
      obtain ⟨e, direction, nulls⟩ := term
      rw [ordersVisits, List.mem_append, ih]
      simp

/-- Tables are collected without repetition, and none is lost. -/
theorem mem_foldl_collect {ref : TableRef} (found acc : List TableRef) :
    ref ∈ found.foldl (fun refs ref => if refs.contains ref then refs else refs ++ [ref]) acc ↔
      ref ∈ acc ∨ ref ∈ found := by
  induction found generalizing acc with
  | nil => simp
  | cons first found ih =>
      rw [List.foldl_cons, ih]
      by_cases hFirst : acc.contains first = true
      · have hMem : first ∈ acc := by simpa using hFirst
        rw [if_pos hFirst, List.mem_cons]
        constructor
        · rintro (h | h)
          · exact .inl h
          · exact .inr (.inr h)
        · rintro (h | rfl | h)
          · exact .inl h
          · exact .inl hMem
          · exact .inr h
      · rw [if_neg hFirst, List.mem_append, List.mem_singleton, List.mem_cons, or_assoc]

/-- The tables mentioned are those of the columns and stars met outside of
nested queries. -/
theorem mem_mentionedTables {es : List Expr} {ref : TableRef} :
    ref ∈ mentionedTables es ↔ ∃ e ∈ es, e.Mentions ref := by
  rw [mentionedTables, mem_foldl_collect, exprsVisits_eq_flatMap]
  simp only [List.not_mem_nil, false_or, List.mem_filterMap, List.mem_flatMap, Expr.Mentions]
  constructor
  · rintro ⟨v, ⟨e, he, hv⟩, hRef⟩
    exact ⟨e, he, v, hv, hRef⟩
  · rintro ⟨e, he, v, hv, hRef⟩
    exact ⟨v, ⟨e, he, hv⟩, hRef⟩

namespace Expr

variable {e : Expr} {ref : TableRef}

theorem mentions_label {name : String} : (Expr.label e name).Mentions ref ↔ e.Mentions ref := by
  simp [Mentions, Expr.visits, Visit.tableRef?]

/-- A star mentions a table only if it is qualified by it; a bare one mentions
none. -/
theorem mentions_star {source : Option ColumnSource} :
    (Expr.star source).Mentions ref ↔ source = some (.table ref) := by
  obtain _ | _ | _ := source <;>
    simp [Mentions, Expr.visits, ColumnSource.visits, Visit.tableRef?]

theorem mentions_column {c : ColumnRef} :
    (Expr.column c).Mentions ref ↔ c.source = some (.table ref) := by
  obtain ⟨_ | _ | _, name, type⟩ := c <;>
    simp [Mentions, Expr.visits, ColumnSource.visits, Visit.tableRef?]

end Expr

end SqlStatements
