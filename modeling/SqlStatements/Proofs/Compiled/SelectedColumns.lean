import SqlStatements.Proofs.Compiled.Items
import SqlStatements.Proofs.Compiled.PageColumns

/-! The result columns of a SELECT that is written as it stands. They are those of its items,
from left to right, and an item with a name goes by the same name in the text. -/
namespace SqlStatements

namespace Select

/-- The tables of the FROM clause of an outermost SELECT: those of the items
given, or else the ones that its columns and its condition mention. -/
def fromTables (s : Select) : List TableRef :=
  if s.sources.isEmpty then mentionedTables (s.columns ++ s.condition.toList)
  else s.sources.flatMap FromItem.tables

/-- Stars stand for columns of tables: none is qualified by a derived table, and
where there is a bare one, the FROM clause has only tables and joins of them. -/
structure StarsOverTables (s : Select) : Prop where
  qualified : ∀ name, .star (some (.derived name)) ∉ s.columns
  bare : .star none ∈ s.columns → ∀ item ∈ s.sources, item.hasDerived = false

/-- The expression is written as the given text among the items of an outermost
SELECT. -/
def WritesItem (t : Target) (mode : ParameterMode) (s : Select) (e : Expr) (text : String) :
    Prop :=
  Draft.WrittenIn ((Statement.query (.select s)).setting t mode)
    ((Statement.query (.select s)).draft t)
    (e.draft t (pager t (Statement.query (.select s)).pages)
      (Scope.outermost.providing (Scope.outermost.sources s))) text

variable {s : Select}

/-- Nothing is in sight of an outermost query, so every table it mentions is
implied. -/
theorem implied_outermost (columns : List Expr) (condition : Option Expr) :
    Scope.outermost.implied columns condition = mentionedTables (columns ++ condition.toList) :=
  List.filter_eq_self.mpr fun _ _ => rfl

/-- At the outermost place no table is in sight, so a SELECT without a FROM
clause is given all tables that it mentions. -/
theorem tables_sources_outermost (s : Select) :
    (Scope.outermost.sources s).flatMap FromItem.tables = s.fromTables := by
  rw [Scope.sources, fromTables]
  split
  · rw [implied_outermost, List.flatMap_map]
    exact List.flatMap_singleton' _
  · rfl

/-- What a bare star stands for is in the tables of the FROM clause. -/
theorem StarsOverTables.fields (h : s.StarsOverTables) (hBare : .star none ∈ s.columns) :
    (Scope.outermost.sources s).flatMap FromItem.fields =
      s.fromTables.flatMap (·.table.fields) := by
  rw [← tables_sources_outermost]
  apply FromItem.flatMap_fields
  intro item hItem
  rw [Scope.sources] at hItem
  split at hItem
  · obtain ⟨ref, -, rfl⟩ := List.mem_map.mp hItem
    rfl
  · exact h.bare hBare item hItem

/-- Stars over tables stand for the columns of the tables in the FROM clause.
With a derived table there, nothing would be known of a bare one. -/
theorem StarsOverTables.starsOver (h : s.StarsOverTables) :
    StarsOver (starView true (Scope.outermost.sources s)) s.fromTables s.columns := by
  intro source hSource
  cases source with
  | none =>
      show ((Scope.outermost.sources s).flatMap FromItem.fields).map _ = _
      rw [h.fields hSource]
      rfl
  | some source =>
      cases source with
      | table ref => rfl
      | derived name => exact absurd hSource (h.qualified name)

/-- A SELECT with something in its FROM clause is written with that clause
behind its items. -/
theorem sources_outermost_isEmpty (h : s.sources ≠ [] ∨ s.fromTables ≠ []) :
    (Scope.outermost.sources s).isEmpty = false := by
  rw [List.isEmpty_eq_false_iff]
  intro hEmpty
  rw [← tables_sources_outermost, hEmpty] at h
  rcases h with h | h
  · rw [Scope.sources, if_neg (by simpa using h)] at hEmpty
    exact h hEmpty
  · exact h rfl

end Select

namespace Statement

variable {t : Target} {mode : ParameterMode} {s : Select} {c : Compiled}

/-- The text of a SELECT that is written as it stands: what stands in front of
its items, the items under their headings, and the rest. -/
theorem exists_select_text {texts : List String} {st : Setting} {L : Ledger} {pager : Pager}
    {hs : List Heading} (hStrategy : t.strategy = .limitOffset)
    (hHeadings : s.headings t .outermost true = .ok hs)
    (h : Ledger.write st {} (s.draft t pager .outermost true) = .ok (texts, L)) :
    ∃ front back parts,
      String.join texts = front ++ Text.join ", " parts ++ back ∧
      (∃ ctes, front = ctes ++ (if s.distinct then "SELECT DISTINCT " else "SELECT ") ∧
        (s.ctes = [] → ctes = "")) ∧
      (s.sources ≠ [] ∨ s.fromTables ≠ [] → ∃ rest, back = " FROM " ++ rest) ∧
      List.Forall₂ (Draft.WrittenIn st (s.draft t pager .outermost true))
        (List.zipWith Heading.draft hs
          (exprDrafts t pager (Scope.outermost.providing (Scope.outermost.sources s)) s.columns))
        parts := by
  have hDirect : s.Direct t := fun _ => hStrategy
  have hTop : Draft.top t s.limit = [] := by
    rw [Draft.top.eq_def, hStrategy]
    cases s.limit <;> rfl
  have hDraft : s.draft t pager .outermost true = s.headDraft t pager .outermost true ++
      s.fromDraft t pager .outermost ++ s.tailDraft t pager .outermost :=
    Select.draft_direct hDirect (Select.columns_of_write hDirect h)
  rw [Select.headDraft, hTop, hHeadings, List.append_assoc] at hDraft
  rw [hDraft] at h
  obtain ⟨head, back, M, hHead, hBack, rfl⟩ := Ledger.exists_write_append h
  obtain ⟨ctes, select, K, hCtes, hSelect, rfl⟩ := Ledger.exists_write_append hHead
  obtain ⟨word, K', items, hWord, hItems, rfl⟩ := Ledger.write_cons hSelect
  cases hWord
  -- What stands in front of the items, and the whole draft around them.
  let word : Piece := .text (if s.distinct then "SELECT DISTINCT " else "SELECT ")
  let sc := Scope.outermost.providing (Scope.outermost.sources s)
  let front := Draft.withClause t s.ctes (cteDrafts t pager sc s.ctes) ++ [word]
  have hBefore : Ledger.write st {} front =
      .ok (ctes ++ [if s.distinct then "SELECT DISTINCT " else "SELECT "], K) :=
    Ledger.write_append hCtes rfl
  have hWhole : s.draft t pager .outermost true = front ++ Draft.join ", "
      (List.zipWith Heading.draft hs (exprDrafts t pager sc s.columns)) ++
        (s.fromDraft t pager .outermost ++ s.tailDraft t pager .outermost) := by
    rw [hDraft]
    simp [front, word, sc, Draft.columns]
  obtain ⟨parts, hParts, hEach⟩ := Ledger.exists_write_join hWhole hBefore hItems
  refine ⟨String.join ctes ++ (if s.distinct then "SELECT DISTINCT " else "SELECT "),
    String.join back, parts, ?_, ⟨String.join ctes, rfl, ?_⟩, ?_, hEach⟩
  · rw [String.join_append, String.join_append, String.join_cons, hParts]
    simp only [String.append_assoc]
  · intro hNone
    rw [hNone] at hCtes
    cases hCtes
    rfl
  · intro hFrom
    rw [Select.fromDraft] at hBack
    simp only [Select.sources_outermost_isEmpty hFrom] at hBack
    obtain ⟨word, K', rest, hWord, -, rfl⟩ := Ledger.write_cons hBack
    cases hWord
    exact ⟨String.join rest, String.join_cons⟩

/-- A SELECT that compiles where offsets are written as such, and whose stars
stand for columns of tables, is written as its items with commas between them.
Its result columns are those that the items offer, one after the other and
numbered in this order from zero on: a star offers the columns of its tables,
any other item one of its own type. No two of them share a name, and none has a
name beyond the limit. An item with a name has it in the text as well. -/
theorem compile_select_columns (t : Target) (mode : ParameterMode) (s : Select) (c : Compiled)
    (hStrategy : t.strategy = .limitOffset) (hStars : s.StarsOverTables)
    (h : (Statement.query (.select s)).compile t mode = .ok c) :
    ∃ (front back : String) (items : List (String × List ResultColumn)),
      c.sql = front ++ Text.join ", " (items.map (·.1)) ++ back ∧
      (∃ ctes, front = ctes ++ (if s.distinct then "SELECT DISTINCT " else "SELECT ") ∧
        (s.ctes = [] → ctes = "")) ∧
      (s.sources ≠ [] ∨ s.fromTables ≠ [] → ∃ rest, back = " FROM " ++ rest) ∧
      c.columns = items.flatMap (·.2) ∧
      c.columns.map (·.position) = List.range c.columns.length ∧
      List.Forall₂ (ResultColumn.Shows t) (s.columns.flatMap (Expr.offers s.fromTables))
        c.columns ∧
      List.Forall₂ (Expr.Exposes t (s.WritesItem t mode) s.fromTables) s.columns items ∧
      (c.columns.filterMap (·.name)).Nodup ∧
      ∀ name ∈ c.columns.filterMap (·.name), name.length ≤ t.rules.maxLength := by
  have hPositions := positions_of_compile h
  obtain ⟨texts, L, hWrite, rfl⟩ := exists_ledger_of_compile h
  have hDirect : s.Direct t := fun _ => hStrategy
  obtain ⟨hs, hHeadings⟩ := Select.exists_headings hDirect hWrite
  obtain ⟨front, back, parts, hText, hFront, hBack, hEach⟩ :=
    exists_select_text hStrategy hHeadings hWrite
  have hTarget : ((Statement.query (.select s)).setting t mode).target = t := rfl
  obtain ⟨items, rfl, hColumns, hItems⟩ :=
    exposes_of_headings hTarget 0 hStars.starsOver hHeadings hEach
  have hOutputs : resultColumns t 0 ((Statement.query (.select s)).outputs t) =
      items.flatMap (·.2) := by
    rw [hColumns, ← hDirect.outputs_eq hHeadings]
    rfl
  refine ⟨front, back, items, hText, hFront, hBack, hOutputs, hPositions, ?_, hItems, ?_, ?_⟩
  · rw [hOutputs]
    exact List.rel_flatMap hItems fun e item hItem => hItem.columns
  · rw [hOutputs, hColumns, names_columns]
    exact (nodup_headings hHeadings).1
  · rw [hOutputs, hColumns, names_columns]
    exact length_headings_le hHeadings

/-- A row of eight columns: a bare star over two tables, a label, an expression
without a name, and a star over one of the tables. -/
theorem compile_select_columns_page :
    Sample.target.strategy = .limitOffset ∧ Sample.page.StarsOverTables ∧
    ∃ c, (Statement.query (.select Sample.page)).compile Sample.target .placeholders = .ok c ∧
      c.columns.map (·.name) = [some "id", some "balance", some "id_1", some "balance_1",
        some "rn", none, some "id_2", some "balance_2"] ∧
      (∃ front back items, c.sql = front ++ Text.join ", " (items.map Prod.fst) ++ back ∧
        List.Forall₂ (Expr.Exposes Sample.target (Sample.page.WritesItem Sample.target
          .placeholders) Sample.page.fromTables) Sample.page.columns items) ∧
      List.Forall₂ (ResultColumn.Shows Sample.target)
        (Sample.page.columns.flatMap (Expr.offers Sample.page.fromTables)) c.columns := by
  have hStars : Sample.page.StarsOverTables := by
    constructor
    · intro name hName
      simp [Sample.page, Select.ofColumns] at hName
    · intro _
      decide
  obtain ⟨c, hCompile, hNames⟩ : ∃ c,
      (Statement.query (.select Sample.page)).compile Sample.target .placeholders = .ok c ∧
        c.columns.map (·.name) = [some "id", some "balance", some "id_1", some "balance_1",
          some "rn", none, some "id_2", some "balance_2"] :=
    exists_ok_of_toOption (by decide)
  obtain ⟨front, back, items, hText, -, -, -, -, hShows, hItems, -, -⟩ :=
    compile_select_columns _ _ _ c rfl hStars hCompile
  exact ⟨rfl, hStars, c, hCompile, hNames, ⟨front, back, items, hText, hItems⟩, hShows⟩

end Statement

end SqlStatements
