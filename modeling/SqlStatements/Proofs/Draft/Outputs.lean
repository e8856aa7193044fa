import SqlStatements.Draft.Statement
import SqlStatements.Proofs.Draft.Paging

/-! The types of result columns. They depend on the selected expressions and on
what a star stands for, but not on the names that the columns are given. -/
namespace SqlStatements

/-- The types that a selected expression contributes to a row. -/
def Expr.outputTypes (star : Option ColumnSource → List Field) : Expr → List SqlType
  | .star source => (star source).map (·.2)
  | e => [e.type]

theorem IdentifierRules.length_freshAll {rules : IdentifierRules} {taken bases names : List String}
    (h : rules.freshAll taken bases = .ok names) : names.length = bases.length := by
  induction bases generalizing taken names with
  | nil =>
      cases h
      rfl
  | cons base bases ih =>
      obtain ⟨name, _, h⟩ := exists_ok_of_bind_ok h
      obtain ⟨more, hMore, h⟩ := exists_ok_of_bind_ok h
      cases h
      exact congrArg (· + 1) (ih hMore)

theorem types_zipWith {names : List String} {fields : List Field}
    (h : names.length = fields.length) :
    (List.zipWith (fun name field => OutputField.mk (some name) field.2) names fields).map
      (·.type) = fields.map (·.2) := by
  induction names generalizing fields with
  | nil =>
      cases fields with
      | nil => rfl
      | cons => simp at h
  | cons name names ih =>
      cases fields with
      | nil => simp at h
      | cons field fields => simpa using ih (by simpa using h)

/-- A heading has the types that its expression contributes, whatever names are
found. A star contributes those of all its columns. -/
theorem Expr.types_heading {rules : IdentifierRules} {star : Option ColumnSource → List Field}
    {taken : List String} {e : Expr} {heading : Heading}
    (h : e.heading rules star taken = .ok heading) :
    heading.fields.map (·.type) = e.outputTypes star := by
  unfold Expr.heading at h
  split at h
  · obtain ⟨names, hNames, h⟩ := exists_ok_of_bind_ok h
    cases h
    have hLength := IdentifierRules.length_freshAll hNames
    rw [List.length_map] at hLength
    exact types_zipWith hLength
  · rename_i hStar
    have hOther : e.outputTypes star = [e.type] := by
      unfold Expr.outputTypes
      split
      · rename_i source
        exact absurd rfl (hStar source)
      · rfl
    rw [hOther]
    split at h
    · cases h
      rfl
    · obtain ⟨name, _, h⟩ := exists_ok_of_bind_ok h
      cases h
      rfl

/-- The types of a result row are those of the selected expressions, in their
order and independent of names. -/
theorem types_headings {rules : IdentifierRules} {star : Option ColumnSource → List Field}
    {taken : List String} {es : List Expr} {hs : List Heading}
    (h : headings rules star taken es = .ok hs) :
    (hs.flatMap (·.fields)).map (·.type) = es.flatMap (Expr.outputTypes star) := by
  induction es generalizing taken hs with
  | nil =>
      cases h
      rfl
  | cons e es ih =>
      obtain ⟨first, hFirst, h⟩ := exists_ok_of_bind_ok h
      obtain ⟨more, hMore, h⟩ := exists_ok_of_bind_ok h
      cases h
      rw [List.flatMap_cons, List.flatMap_cons, List.map_append, Expr.types_heading hFirst,
        ih hMore]

/-- Without derived tables, the columns of an item are those of its tables, from
left to right. -/
theorem FromItem.fields_eq_tables {item : FromItem} (h : item.hasDerived = false) :
    item.fields = item.tables.flatMap (·.table.fields) := by
  induction item using FromItem.tables.induct with
  | case1 ref => simp [FromItem.fields, FromItem.tables]
  | case2 kind left right condition ihLeft ihRight =>
      obtain ⟨hLeft, hRight⟩ := Bool.or_eq_false_iff.mp h
      simp only [FromItem.fields, FromItem.tables, List.flatMap_append, ihLeft hLeft,
        ihRight hRight]
  | case3 => cases h
  | case4 => cases h

/-- Without derived tables, the fields of a FROM clause are those of its tables
from left to right. -/
theorem FromItem.flatMap_fields {items : List FromItem}
    (h : ∀ item ∈ items, item.hasDerived = false) :
    items.flatMap FromItem.fields = (items.flatMap FromItem.tables).flatMap (·.table.fields) := by
  rw [List.flatMap_assoc]
  exact List.flatMap_congr fun item hItem => fields_eq_tables (h item hItem)

namespace Paging

theorem types_tableColumns (ref : TableRef) :
    (tableColumns ref).map Expr.type = ref.table.fields.map (·.2) := by
  simp [tableColumns, Table.fields, Function.comp_def, Expr.type]

/-- A star that can be written out stands for columns of the same types as one
that is left as it is. -/
theorem types_starColumns {source : Option ColumnSource} {sources : List FromItem}
    {columns : List Expr} (h : starColumns source sources = .ok columns) :
    columns.map Expr.type = (starFields source sources).map (·.2) := by
  unfold starColumns at h
  split at h
  · cases h
  · cases h
    exact types_tableColumns _
  · split at h
    · cases h
    · rename_i hDerived
      cases h
      have hPlain : ∀ item ∈ sources, item.hasDerived = false := by
        intro item hItem
        cases hItemDerived : item.hasDerived with
        | false => rfl
        | true => exact absurd (List.any_eq_true.mpr ⟨item, hItem, hItemDerived⟩) hDerived
      rw [starFields, FromItem.flatMap_fields hPlain, List.map_flatMap, List.map_flatMap]
      simp only [types_tableColumns]

/-- Writing out the stars of a SELECT keeps the types of its columns. -/
theorem types_expanded {sources : List FromItem} {es out : List Expr}
    (h : expanded sources es = .ok out) :
    out.map Expr.type = es.flatMap (Expr.outputTypes fun source => starFields source sources) := by
  fun_induction expanded sources es generalizing out with
  | case1 =>
      cases h
      rfl
  | case2 source rest ih =>
      obtain ⟨columns, hColumns, h⟩ := exists_ok_of_bind_ok h
      obtain ⟨more, hMore, h⟩ := exists_ok_of_bind_ok h
      cases h
      rw [List.map_append, List.flatMap_cons, types_starColumns hColumns, ih hMore]
      rfl
  | case3 first rest hStar ih =>
      obtain ⟨more, hMore, h⟩ := exists_ok_of_bind_ok h
      cases h
      have hFirst : (first.outputTypes fun source => starFields source sources) = [first.type] := by
        unfold Expr.outputTypes
        split
        · rename_i source
          exact absurd rfl (hStar source)
        · rfl
      rw [List.map_cons, List.flatMap_cons, ih hMore, hFirst]
      rfl

/-- Giving labels changes no type. -/
theorem types_labelled (taken : List String) (unnamed : Nat) (es : List Expr) :
    (labelled taken unnamed es).map (·.expr.type) = es.map Expr.type := by
  have hTypes := congrArg (List.map Expr.type) (exprs_labelled taken unnamed es)
  simpa only [List.map_map, Function.comp_def, Expr.type_unlabelled] using hTypes

end Paging

/-- The types of the columns of a SELECT with a FROM clause. -/
def Select.outputTypes (s : Select) : List SqlType :=
  s.columns.flatMap (Expr.outputTypes fun source => starFields source s.sources)

/-- The outer columns of a page have the types of the columns it is a page of,
stars included. -/
theorem Select.types_paged {dialect : String} {s page : Select} (hPlain : s.numbered = false)
    (h : s.paged dialect = .ok page) : page.outputTypes = s.outputTypes := by
  obtain ⟨exprs, columns, name, inner, condition, hExprs, rfl, -, -, -, rfl⟩ :=
    Select.paged_new hPlain h
  have hThrough : ∀ (star : Option ColumnSource → List Field) (cs : List Paging.Labelled),
      (cs.map (·.through Paging.numberedRows)).flatMap (Expr.outputTypes star) =
        cs.map (·.expr.type) := by
    intro star cs
    induction cs with
    | nil => rfl
    | cons c cs ih =>
        rw [List.map_cons, List.flatMap_cons, ih]
        rfl
  calc _ = (Paging.labelled [] 0 exprs).map (·.expr.type) := hThrough _ _
    _ = exprs.map Expr.type := Paging.types_labelled ..
    _ = s.outputTypes := Paging.types_expanded hExprs

end SqlStatements
