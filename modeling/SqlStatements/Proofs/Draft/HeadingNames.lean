import SqlStatements.Proofs.Draft.Outputs
import SqlStatements.Proofs.Draft.PagedSources
import SqlStatements.Proofs.Identifier.Truncate

/-! The names under which a SELECT hands on its columns, and those by which a page
refers to them. Labels are cut to the limit of the server where they are written; a
reference is written as it is. -/
namespace SqlStatements

/-- The names under which a SELECT hands on its columns where it is written out:
labels, and the names of columns without one. -/
def Select.outputNames (t : Target) (sc : Scope) (outermost : Bool) (s : Select) :
    Except Error (List String) :=
  (s.headings t sc outermost).map fun hs => hs.flatMap Heading.names

/-- Whether the expression refers to a column under the given qualifier by the
given name, outside of nested queries. -/
def Expr.RefersTo (e : Expr) (source : Option ColumnSource) (name : String) : Prop :=
  ∃ type, .expr (.column ⟨source, name, type⟩) ∈ e.visits false

namespace IdentifierRules

variable {rules : IdentifierRules} {base name : String} {taken : List String}

/-- A name that is found is within the limit, however long its base is. -/
theorem length_fresh_le {start : Nat} (h : rules.fresh base taken start = .ok name) :
    name.length ≤ rules.maxLength := by
  obtain ⟨i, rfl, -⟩ := exists_of_fresh h
  exact length_truncate_le rules _

/-- A name within the limit is kept unless it is taken. A longer one is cut,
even if it is free. -/
theorem fresh_of_fits (hFits : base.length ≤ rules.maxLength)
    (h : rules.fresh base taken 0 = .ok name) : name = base ∨ base ∈ taken := by
  obtain ⟨i, rfl, hTaken⟩ := exists_of_fresh h
  have hBase : rules.truncate (numbered base 0) = base := truncate_eq_self hFits
  cases i with
  | zero => exact .inl hBase
  | succ i =>
      have hFirst := hTaken 0 (Nat.succ_pos i)
      rw [Nat.add_zero, hBase] at hFirst
      exact .inr hFirst

theorem length_freshAll_le {bases names : List String}
    (h : rules.freshAll taken bases = .ok names) :
    ∀ name ∈ names, name.length ≤ rules.maxLength := by
  induction bases generalizing taken names with
  | nil =>
      cases h
      simp
  | cons base bases ih =>
      obtain ⟨first, hFirst, h⟩ := exists_ok_of_bind_ok h
      obtain ⟨rest, hRest, h⟩ := exists_ok_of_bind_ok h
      cases h
      intro name hName
      rcases List.mem_cons.mp hName with rfl | hName
      · exact length_fresh_le hFirst
      · exact ih hRest name hName

/-- Names given one after the other differ from each other and from those taken,
also where their bases are alike. -/
theorem nodup_freshAll {bases names : List String} (h : rules.freshAll taken bases = .ok names) :
    names.Nodup ∧ ∀ name ∈ names, name ∉ taken := by
  induction bases generalizing taken names with
  | nil =>
      cases h
      simp
  | cons base bases ih =>
      obtain ⟨first, hFirst, h⟩ := exists_ok_of_bind_ok h
      obtain ⟨rest, hRest, h⟩ := exists_ok_of_bind_ok h
      cases h
      obtain ⟨hNodup, hFree⟩ := ih hRest
      simp only [List.mem_cons, not_or] at hFree
      refine ⟨List.nodup_cons.mpr ⟨fun hAgain => (hFree _ hAgain).1 rfl, hNodup⟩, ?_⟩
      intro name hName
      rcases List.mem_cons.mp hName with rfl | hName
      · exact fresh_not_mem hFirst
      · exact (hFree name hName).2

end IdentifierRules

section Headings

open IdentifierRules

variable {rules : IdentifierRules} {star : Option ColumnSource → List Field}
  {taken : List String} {e : Expr} {base : String}

/-- A column or a label has one name, made from its own. It is the only one that
its heading takes. -/
theorem Expr.heading_named {heading : Heading} (hBase : e.outputName? = some base)
    (h : e.heading rules star taken = .ok heading) :
    ∃ name, rules.fresh base taken 0 = .ok name ∧ heading.names = [name] := by
  have hNamed : e.heading rules star taken = (rules.fresh base taken 0).map fun name =>
      ⟨if e.isLabel ∨ name ≠ base then some name else none, [⟨some name, e.type⟩]⟩ := by
    cases e with
    | column | label =>
        cases hBase
        rfl
    | _ => cases hBase
  rw [hNamed] at h
  obtain ⟨name, hFresh, rfl⟩ := exists_ok_of_map_ok h
  exact ⟨name, hFresh, rfl⟩

theorem Expr.length_heading_le {heading : Heading} (h : e.heading rules star taken = .ok heading) :
    ∀ name ∈ heading.names, name.length ≤ rules.maxLength := by
  intro name hName
  cases hBase : e.outputName? with
  | some base =>
      obtain ⟨own, hFresh, hNames⟩ := heading_named hBase h
      rw [hNames, List.mem_singleton] at hName
      rw [hName]
      exact length_fresh_le hFresh
  | none =>
      cases e with
      | star source =>
          obtain ⟨names, hAll, h⟩ := exists_ok_of_bind_ok h
          cases h
          obtain ⟨field, hField, hName⟩ := List.mem_filterMap.mp hName
          rw [← List.map_uncurry_zip_eq_zipWith] at hField
          obtain ⟨pair, hPair, rfl⟩ := List.mem_map.mp hField
          cases hName
          exact length_freshAll_le hAll _ (List.of_mem_zip hPair).1
      | column | label => cases hBase
      | _ =>
          cases h
          cases hName

/-- The columns that a star stands for go by the names chosen for them. -/
theorem names_zipWith {names : List String} {fields : List Field}
    (h : names.length = fields.length) :
    (List.zipWith (fun name field => OutputField.mk (some name) field.2) names fields).filterMap
      (·.name) = names := by
  induction names generalizing fields with
  | nil => rfl
  | cons name names ih =>
      cases fields with
      | nil => cases h
      | cons field fields => exact congrArg (name :: ·) (ih (Nat.succ.inj h))

/-- The names that an expression takes are new, and a star takes different ones
for its columns. -/
theorem Expr.nodup_heading {heading : Heading} (h : e.heading rules star taken = .ok heading) :
    heading.names.Nodup ∧ ∀ name ∈ heading.names, name ∉ taken := by
  cases hBase : e.outputName? with
  | some base =>
      obtain ⟨own, hFresh, hNames⟩ := heading_named hBase h
      rw [hNames]
      exact ⟨List.nodup_singleton own, by simpa using fresh_not_mem hFresh⟩
  | none =>
      cases e with
      | star source =>
          obtain ⟨names, hAll, h⟩ := exists_ok_of_bind_ok h
          cases h
          have hLength := length_freshAll hAll
          rw [List.length_map] at hLength
          rw [Heading.names, names_zipWith hLength]
          exact nodup_freshAll hAll
      | column | label => cases hBase
      | _ =>
          cases h
          simp [Heading.names]

/-- All names that headings take differ from each other and from those taken
before. Expressions without a name take none. -/
theorem nodup_headings {es : List Expr} {hs : List Heading}
    (h : headings rules star taken es = .ok hs) :
    (hs.flatMap Heading.names).Nodup ∧ ∀ name ∈ hs.flatMap Heading.names, name ∉ taken := by
  induction es generalizing taken hs with
  | nil =>
      cases h
      simp
  | cons e es ih =>
      obtain ⟨first, hFirst, h⟩ := exists_ok_of_bind_ok h
      obtain ⟨rest, hRest, h⟩ := exists_ok_of_bind_ok h
      cases h
      obtain ⟨hNodup, hFree⟩ := e.nodup_heading hFirst
      obtain ⟨hNodupRest, hFreeRest⟩ := ih hRest
      simp only [List.mem_append, not_or] at hFreeRest
      rw [List.flatMap_cons]
      refine ⟨hNodup.append hNodupRest ?_, ?_⟩
      · intro name hName hLater
        exact (hFreeRest name hLater).1 hName
      · intro name hName
        rcases List.mem_append.mp hName with hName | hName
        · exact hFree name hName
        · exact (hFreeRest name hName).2

/-- Each column or label has a name among those given; the columns of stars may
have given more. -/
theorem length_named_le {es : List Expr} {hs : List Heading}
    (h : headings rules star taken es = .ok hs) :
    (es.filterMap Expr.outputName?).length ≤ (hs.flatMap Heading.names).length := by
  induction es generalizing taken hs with
  | nil => exact Nat.zero_le _
  | cons e es ih =>
      obtain ⟨first, hFirst, h⟩ := exists_ok_of_bind_ok h
      obtain ⟨rest, hRest, h⟩ := exists_ok_of_bind_ok h
      cases h
      have hLater := ih hRest
      rw [List.flatMap_cons, List.length_append]
      cases hBase : e.outputName? with
      | none =>
          rw [List.filterMap_cons_none hBase]
          omega
      | some base =>
          obtain ⟨name, -, hNames⟩ := Expr.heading_named hBase hFirst
          rw [List.filterMap_cons_some hBase, hNames, List.length_cons, List.length_singleton]
          omega

/-- Every name that headings take is within the limit. -/
theorem length_headings_le {es : List Expr} {hs : List Heading}
    (h : headings rules star taken es = .ok hs) :
    ∀ name ∈ hs.flatMap Heading.names, name.length ≤ rules.maxLength := by
  induction es generalizing taken hs with
  | nil =>
      cases h
      simp
  | cons e es ih =>
      obtain ⟨first, hFirst, h⟩ := exists_ok_of_bind_ok h
      obtain ⟨rest, hRest, h⟩ := exists_ok_of_bind_ok h
      cases h
      intro name hName
      rcases List.mem_append.mp (List.flatMap_cons ▸ hName) with hName | hName
      · exact e.length_heading_le hFirst name hName
      · exact ih hRest name hName

/-- A name within the limit is among those given, if only because another column
has got it before. -/
theorem mem_headings_of_fits {es : List Expr} {hs : List Heading}
    (h : headings rules star taken es = .ok hs) (he : e ∈ es) (hBase : e.outputName? = some base)
    (hFits : base.length ≤ rules.maxLength) : base ∈ hs.flatMap Heading.names ∨ base ∈ taken := by
  induction es generalizing taken hs with
  | nil => cases he
  | cons other es ih =>
      obtain ⟨first, hFirst, h⟩ := exists_ok_of_bind_ok h
      obtain ⟨rest, hRest, h⟩ := exists_ok_of_bind_ok h
      cases h
      rw [List.flatMap_cons, List.mem_append, or_assoc]
      rcases List.mem_cons.mp he with rfl | he
      · obtain ⟨name, hFresh, hNames⟩ := Expr.heading_named hBase hFirst
        rcases fresh_of_fits hFits hFresh with rfl | hTaken
        · exact .inl (by rw [hNames]; exact List.mem_singleton_self _)
        · exact .inr (.inr hTaken)
      · -- For the columns that follow, the names of this one are taken as well.
        rcases ih hRest he with hMem | hMem
        · exact .inr (.inl hMem)
        · rcases List.mem_append.mp hMem with hMem | hMem
          · exact .inl hMem
          · exact .inr (.inr hMem)

end Headings

section References

variable {source : Option ColumnSource} {name : String}

namespace Expr

/-- A column refers to itself and to nothing else; its qualifier is part of
that. -/
theorem refersTo_column {ref : ColumnRef} :
    (column ref).RefersTo source name ↔ source = ref.source ∧ name = ref.name := by
  obtain ⟨source', name', type'⟩ := ref
  have hOther : ∀ e, .expr e ∉ ColumnSource.visits source' := by
    intro e hVisit
    unfold ColumnSource.visits at hVisit
    split at hVisit
    · cases List.mem_singleton.mp hVisit
    · cases hVisit
  simp only [RefersTo, Expr.visits, List.mem_cons, hOther, or_false, Visit.expr.injEq,
    column.injEq, ColumnRef.mk.injEq]
  constructor
  · rintro ⟨type, hSource, hName, -⟩
    exact ⟨hSource, hName⟩
  · rintro ⟨hSource, hName⟩
    exact ⟨type', hSource, hName, rfl⟩

theorem refersTo_literal {v : Value} : ¬(literal v).RefersTo source name := by
  rintro ⟨type, hVisit⟩
  cases List.mem_singleton.mp hVisit

theorem refersTo_binary {op : BinaryOp} {l r : Expr} :
    (binary op l r).RefersTo source name ↔ l.RefersTo source name ∨ r.RefersTo source name := by
  simp only [RefersTo, Expr.visits, List.mem_cons, List.mem_append, Visit.expr.injEq, reduceCtorEq,
    false_or, exists_or]

end Expr

namespace Paging

/-- A column seen through a derived table refers to the label that it has
inside. -/
theorem refersTo_through {c : Labelled} {table : String} :
    (c.through table).RefersTo source name ↔ source = some (.derived table) ∧ name = c.name :=
  Expr.refersTo_column

/-- The row number refers to what the rows are ordered by. -/
theorem refersTo_numberColumn {orderBy : List OrderTerm} {number : String} :
    (numberColumn orderBy number).RefersTo source name ↔
      ∃ term ∈ orderBy, term.expr.RefersTo source name := by
  constructor
  · rintro ⟨type, hVisit⟩
    rcases mem_visits_numberColumn.mp hVisit with hVisit | hVisit | ⟨term, hTerm, hVisit⟩
    · cases hVisit
    · cases hVisit
    · exact ⟨term, hTerm, type, hVisit⟩
  · rintro ⟨term, hTerm, type, hVisit⟩
    exact ⟨type, mem_visits_numberColumn.mpr (.inr (.inr ⟨term, hTerm, hVisit⟩))⟩

/-- The filter of a page refers to nothing but the row number, and that without
a qualifier. -/
theorem refersTo_filter {number : String} {offset : UInt64} {limit : Option UInt64} {e : Expr}
    (h : filter number offset limit = .ok e) (hRefers : e.RefersTo source name) :
    source = none ∧ name = number := by
  obtain ⟨first, -, h⟩ := exists_ok_of_bind_ok h
  cases limit with
  | none =>
      cases h
      simpa only [Expr.refersTo_binary, Expr.refersTo_column, Expr.refersTo_literal, or_false]
        using hRefers
  | some limit =>
      obtain ⟨last, -, h⟩ := exists_ok_of_bind_ok h
      cases h
      simpa only [Expr.both, Expr.refersTo_binary, Expr.refersTo_column, Expr.refersTo_literal,
        or_false, or_self] using hRefers

end Paging

end References

/-- A SELECT hands on a column under the name that it has in the tree exactly if
this name is within the limit. -/
theorem Select.mem_outputNames_iff {t : Target} {sc : Scope} {outermost : Bool} {s : Select}
    {out : List String} {e : Expr} {base : String} (h : s.outputNames t sc outermost = .ok out)
    (he : e ∈ s.columns) (hBase : e.outputName? = some base) :
    base ∈ out ↔ base.length ≤ t.rules.maxLength := by
  obtain ⟨hs, hHeadings, rfl⟩ := exists_ok_of_map_ok h
  constructor
  · exact length_headings_le hHeadings base
  · intro hFits
    rcases mem_headings_of_fits hHeadings he hBase hFits with hMem | hMem
    · exact hMem
    · cases hMem

end SqlStatements
