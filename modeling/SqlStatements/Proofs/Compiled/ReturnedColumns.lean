import SqlStatements.Proofs.Compiled.Items
import SqlStatements.Proofs.Compiled.MemberColumns

/-! The result columns of a change that hands back values. They are those of its items, except
that nothing is recorded of a bare star, although the rows have all columns of the changed table
in its place. -/
namespace SqlStatements

namespace Sample

def raised : Expr :=
  .label (.binary .add (.column ⟨some (.table (.plain prices)), "price", .of .numeric⟩)
    (.literal (.int 1))) "raised"

def removed (exprs : List Expr) : Statement :=
  .delete { table := prices, condition := none, returning := exprs }

end Sample

/-- The table that a statement changes, and what it hands back of the changed
rows. -/
def Statement.returned? : Statement → Option (Table × List Expr)
  | .insert s => some (s.table, s.returning)
  | .update s => some (s.table, s.returning)
  | .delete s => some (s.table, s.returning)
  | _ => none

/-- The columns of a row handed back by a change of the table. A bare star
stands for the columns of the table. -/
def Table.returnedRow (table : Table) (exprs : List Expr) : List (Option String × SqlType) :=
  exprs.flatMap (Expr.offers [.plain table])

/-- Those of its columns that do not come from a bare star. -/
def Table.recordedRow (table : Table) (exprs : List Expr) : List (Option String × SqlType) :=
  table.returnedRow (exprs.filter (· ≠ .star none))

/-- The expression is written as the given text among the values that are handed
back. -/
def Statement.WritesReturned (t : Target) (mode : ParameterMode) (s : Statement) (e : Expr)
    (text : String) : Prop :=
  Draft.WrittenIn (s.setting t mode) (s.draft t) (e.draft t (pager t s.pages) .outermost) text

section Rows

variable {t : Target} {table : Table} {e : Expr} {exprs : List Expr}

/-- Only for a bare star it matters which tables there are; any other star tells
its own. -/
theorem Expr.offers_of_not_bare (h : e ≠ .star none) (tables others : List TableRef) :
    e.offers tables = e.offers others := by
  cases e with
  | star source =>
      cases source with
      | none => exact absurd rfl h
      | some source => cases source <;> rfl
  | _ => rfl

namespace Table

/-- A bare star records nothing, since nobody has told which columns it stands
for. -/
theorem recordedRow_bare : table.recordedRow (.star none :: exprs) = table.recordedRow exprs := by
  rw [recordedRow, List.filter_cons_of_neg (by simp)]
  rfl

theorem recordedRow_other (h : e ≠ .star none) :
    table.recordedRow (e :: exprs) = e.offers [.plain table] ++ table.recordedRow exprs := by
  rw [recordedRow, List.filter_cons_of_pos (by simpa using h)]
  rfl

/-- The bare star of a change stands for the columns of the changed table and of
no other. -/
theorem length_offers_bare :
    ((Expr.star none).offers [.plain table]).length = table.columns.length := by
  simp [Expr.offers, fields, TableRef.table]

/-- Where there are no tables, a bare star offers nothing. That is how the
columns of a change are recorded. -/
theorem recordedRow_eq (table : Table) (exprs : List Expr) :
    table.recordedRow exprs = exprs.flatMap (Expr.offers []) := by
  induction exprs with
  | nil => rfl
  | cons e exprs ih =>
      rw [List.flatMap_cons, ← ih]
      by_cases hBare : e = .star none
      · rw [hBare, recordedRow_bare]
        rfl
      · rw [recordedRow_other hBare, e.offers_of_not_bare hBare]

/-- The columns recorded are columns of the row, in their order; those of bare
stars are missing in between. -/
theorem recordedRow_sublist (table : Table) (exprs : List Expr) :
    (table.recordedRow exprs).Sublist (table.returnedRow exprs) := by
  induction exprs with
  | nil => exact .slnil
  | cons e exprs ih =>
      rw [returnedRow, List.flatMap_cons]
      by_cases hBare : e = .star none
      · rw [hBare, recordedRow_bare]
        exact ih.trans (List.sublist_append_right _ _)
      · rw [recordedRow_other hBare]
        exact ih.append_left _

/-- All columns are recorded unless a bare star stands for some, and over a
table without columns it stands for none. -/
theorem length_recordedRow_iff (table : Table) (exprs : List Expr) :
    (table.recordedRow exprs).length = (table.returnedRow exprs).length ↔
      .star none ∉ exprs ∨ table.columns = [] := by
  induction exprs with
  | nil => exact iff_of_true rfl (.inl List.not_mem_nil)
  | cons e exprs ih =>
      have hLe := (table.recordedRow_sublist exprs).length_le
      have hRow : table.returnedRow (e :: exprs) =
          e.offers [.plain table] ++ table.returnedRow exprs := List.flatMap_cons
      rw [hRow, List.length_append]
      by_cases hBare : e = .star none
      · rw [hBare, recordedRow_bare, length_offers_bare, ← List.length_eq_zero_iff]
        constructor
        · intro hLength
          exact .inr (by omega)
        · rintro (hNone | hEmpty)
          · exact absurd List.mem_cons_self hNone
          · have hSame := ih.2 (.inr (List.length_eq_zero_iff.mp hEmpty))
            omega
      · have hMem : (Expr.star none ∉ e :: exprs) ↔ Expr.star none ∉ exprs := by
          rw [List.mem_cons, not_or, and_iff_right (Ne.symm hBare)]
        rw [recordedRow_other hBare, List.length_append, hMem, ← ih]
        omega

end Table

/-- Columns are converted as what they show: by the type alone, whatever their
names are. -/
theorem conversions_of_shows {offers : List (Option String × SqlType)}
    {columns : List ResultColumn} (h : List.Forall₂ (ResultColumn.Shows t) offers columns) :
    columns.map (·.conversion) =
      offers.map fun offer => t.profile.resultConversion t.caps offer.2 := by
  induction h with
  | nil => rfl
  | cons hFirst hRest ih => rw [List.map_cons, List.map_cons, ih, hFirst.conversion]

/-- A change has no FROM clause, so bare stars are recorded as standing for
nothing. -/
theorem starsOver_nil (h : ∀ name, .star (some (.derived name)) ∉ exprs) :
    StarsOver (starView true []) [] exprs := by
  intro source hSource
  cases source with
  | none => rfl
  | some source =>
      cases source with
      | table ref => rfl
      | derived name => exact absurd hSource (h name)

end Rows

namespace Statement

variable {t : Target} {mode : ParameterMode} {s : Statement} {table : Table} {exprs : List Expr}

/-- What is handed back stands at the end of the statement, after all parameters
of the change itself. -/
theorem exists_draft_returned (t : Target) (h : s.returned? = some (table, exprs)) :
    ∃ front, s.draft t = front ++ Draft.returning t (pager t s.pages) exprs := by
  cases s with
  | insert s =>
      cases h
      exact ⟨.text "INSERT INTO " :: .table s.table :: _, rfl⟩
  | update s =>
      cases h
      exact ⟨.text "UPDATE " :: .table s.table :: .text " SET " :: _, rfl⟩
  | delete s =>
      cases h
      exact ⟨.text "DELETE FROM " :: .table s.table :: _, rfl⟩
  | query | createTable | dropTable | createIndex | dropIndex => cases h

/-- The columns of a change are those that it hands back, for each of the three
kinds of change. -/
theorem outputs_returned (t : Target) (h : s.returned? = some (table, exprs)) :
    s.outputs t = returnedOutputs t exprs := by
  cases s with
  | insert | update | delete =>
      cases h
      rfl
  | query | createTable | dropTable | createIndex | dropIndex => cases h

/-- A statement that is written out has found names for all that it hands back,
and is written with its items at the end. -/
theorem exists_returned_text {texts : List String} {L : Ledger} {st : Setting}
    (h : s.returned? = some (table, exprs)) (hSome : exprs ≠ [])
    (hWrite : Ledger.write st {} (s.draft t) = .ok (texts, L)) :
    t.caps.returning = true ∧ ∃ hs front parts,
      headings t.rules (starView true []) [] exprs = .ok hs ∧
      String.join texts = front ++ " RETURNING " ++ Text.join ", " parts ∧
      List.Forall₂ (Draft.WrittenIn st (s.draft t))
        (List.zipWith Heading.draft hs (exprDrafts t (pager t s.pages) .outermost exprs))
        parts := by
  obtain ⟨front, hDraft⟩ := exists_draft_returned t h
  rw [Draft.returning, if_neg (by simpa using hSome)] at hDraft
  rw [hDraft] at hWrite
  obtain ⟨xs, ys, M, hFront, hBack, rfl⟩ := Ledger.exists_write_append hWrite
  cases hReturning : t.caps.returning with
  | false =>
      rw [hReturning] at hBack
      cases hBack
  | true =>
      rw [hReturning] at hDraft hBack
      obtain ⟨word, K, rest, hWord, hItems, rfl⟩ := Ledger.write_cons hBack
      cases hWord
      cases hHeadings : headings t.rules (starView true []) [] exprs with
      | error e =>
          rw [hHeadings] at hItems
          exact absurd (List.mem_singleton_self _) (Ledger.stop_not_mem hItems e)
      | ok hs =>
          rw [hHeadings] at hItems hDraft
          have hWord : Ledger.write st {} (front ++ [.text " RETURNING "]) =
              .ok (xs ++ [" RETURNING "], M) := Ledger.write_append hFront rfl
          have hWhole : s.draft t = front ++ [.text " RETURNING "] ++ Draft.join ", "
              (List.zipWith Heading.draft hs (exprDrafts t (pager t s.pages) .outermost exprs)) ++
                [] := by
            rw [hDraft, List.append_nil, List.append_assoc]
            rfl
          obtain ⟨parts, hParts, hEach⟩ := Ledger.exists_write_join hWhole hWord hItems
          refine ⟨rfl, hs, String.join xs, parts, rfl, ?_, hEach⟩
          rw [String.join_append, String.join_cons, hParts, String.append_assoc]

/-- What a change hands back. The text ends in its items with commas between
them. The result columns are those that the items offer, one after the other,
but none for bare stars; by these columns the values of a row are converted,
each by the one at its place. So there is a column for each value exactly if
there is no bare star or the table has no columns, and then each value is
converted by the column that it comes from. -/
theorem compile_returned_columns (t : Target) (mode : ParameterMode) (s : Statement)
    (table : Table) (exprs : List Expr) (c : Compiled)
    (hReturned : s.returned? = some (table, exprs)) (hSome : exprs ≠ [])
    (hStars : ∀ name, .star (some (.derived name)) ∉ exprs) (h : s.compile t mode = .ok c) :
    t.caps.returning = true ∧
    (∃ front items, c.sql = front ++ " RETURNING " ++ Text.join ", " (items.map (·.1)) ∧
      c.columns = items.flatMap (·.2) ∧
      List.Forall₂ (Expr.Exposes t (s.WritesReturned t mode) []) exprs items) ∧
    List.Forall₂ (ResultColumn.Shows t) (table.recordedRow exprs) c.columns ∧
    (∀ row, c.decodeRow row = convertEach ((table.recordedRow exprs).map fun offer =>
      t.profile.resultConversion t.caps offer.2) row) ∧
    (c.columns.length = (table.returnedRow exprs).length ↔
      .star none ∉ exprs ∨ table.columns = []) ∧
    (.star none ∉ exprs ∨ table.columns = [] →
      table.recordedRow exprs = table.returnedRow exprs) := by
  obtain ⟨texts, L, hWrite, rfl⟩ := exists_ledger_of_compile h
  obtain ⟨hReturning, hs, front, parts, hHeadings, hText, hEach⟩ :=
    exists_returned_text hReturned hSome hWrite
  have hTarget : (s.setting t mode).target = t := rfl
  obtain ⟨items, rfl, hColumns, hItems⟩ :=
    exposes_of_headings hTarget 0 (starsOver_nil hStars) hHeadings hEach
  have hOutputs : resultColumns t 0 (s.outputs t) = items.flatMap (·.2) := by
    rw [hColumns, outputs_returned t hReturned, returnedOutputs, hHeadings]
  have hShows : List.Forall₂ (ResultColumn.Shows t) (table.recordedRow exprs)
      (resultColumns t 0 (s.outputs t)) := by
    rw [hOutputs, table.recordedRow_eq]
    exact List.rel_flatMap hItems fun e item hItem => hItem.columns
  refine ⟨hReturning, ⟨front, items, hText, hOutputs, hItems⟩, hShows, ?_, ?_, ?_⟩
  · intro row
    rw [Compiled.decodeRow_eq, conversions_of_shows hShows]
  · rw [← table.length_recordedRow_iff exprs, hShows.length_eq]
  · intro hAll
    have hLength := (table.length_recordedRow_iff exprs).2 hAll
    exact (table.recordedRow_sublist exprs).eq_of_length hLength

/-- A star behind the name of the table stands for two columns, which are both
recorded. -/
theorem compile_returned_columns_qualified :
    let exprs := [.star (some (.table (.plain Sample.prices))), Sample.raised]
    ∃ c, (Sample.removed exprs).compile Sample.target .placeholders = .ok c ∧
      c.sql = "DELETE FROM prices RETURNING prices.*, prices.price + 1 AS raised" ∧
      c.columns.length = (Sample.prices.returnedRow exprs).length ∧
      List.Forall₂ (ResultColumn.Shows Sample.target) (Sample.prices.returnedRow exprs)
        c.columns := by
  intro exprs
  have hBare : Expr.star none ∉ exprs := by simp [exprs, Sample.raised]
  have hStars : ∀ name, .star (some (.derived name)) ∉ exprs := by
    intro name hName
    simp [exprs, Sample.raised] at hName
  obtain ⟨c, hCompile, hText⟩ : ∃ c,
      (Sample.removed exprs).compile Sample.target .placeholders = .ok c ∧
        c.sql = "DELETE FROM prices RETURNING prices.*, prices.price + 1 AS raised" :=
    exists_ok_of_toOption (by decide +kernel)
  obtain ⟨-, -, hShows, -, hLength, hSame⟩ := compile_returned_columns Sample.target
    .placeholders (Sample.removed exprs) Sample.prices exprs c rfl (List.cons_ne_nil _ _) hStars
    hCompile
  rw [hSame (.inl hBare)] at hShows
  exact ⟨c, hCompile, hText, hLength.2 (.inl hBare), hShows⟩

/-- It is not true that there is a result column for each value that is handed
back: of a bare star nothing is recorded, so the price that follows it has the
first place, and the number of the item is converted as if it were a price. -/
theorem not_forall_returned_columns :
    ¬∀ (t : Target) (mode : ParameterMode) (s : Statement) (table : Table) (exprs : List Expr)
      (c : Compiled), s.returned? = some (table, exprs) → t.caps.returning = true →
      (∀ name, .star (some (.derived name)) ∉ exprs) → s.compile t mode = .ok c →
      c.columns.length = (table.returnedRow exprs).length ∧
      ∀ row, c.decodeRow row = convertEach ((table.returnedRow exprs).map fun offer =>
        t.profile.resultConversion t.caps offer.2) row := by
  intro hAll
  obtain ⟨c, hCompile, hRow⟩ : ∃ c,
      (Sample.removed [.star none, Sample.raised]).compile Sample.target .placeholders = .ok c ∧
        c.decodeRow [.int 8, .int 2, .int 9] =
          .ok [.decimal (Decimal.ofInt 8), .int 2, .int 9] :=
    exists_ok_of_toOption (by decide +kernel)
  have hStars : ∀ name, .star (some (.derived name)) ∉ [Expr.star none, Sample.raised] := by
    intro name hName
    simp [Sample.raised] at hName
  have hOwn := (hAll Sample.target .placeholders _ Sample.prices _ c rfl rfl hStars hCompile).2
    [.int 8, .int 2, .int 9]
  rw [hRow] at hOwn
  revert hOwn
  decide +kernel

end Statement

end SqlStatements
