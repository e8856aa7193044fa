import SqlStatements.Proofs.Compiled.ChangedTables
import SqlStatements.Proofs.Compiled.PageColumns
import SqlStatements.Proofs.Draft.HeadingNames
import SqlStatements.Proofs.Draft.Subqueries

/-! The result columns of a compound query are those of its first member. A member with
an order or a limit of its own is written in a derived table, and of a derived table only
the columns with a name of their own are known: other expressions and stars are left out
of the record, and what follows them moves forward. -/
namespace SqlStatements

namespace Sample

/-- A table with a column whose values are converted. -/
def prices : Table :=
  { name := "prices"
    columns := [Column.named "item" (.of .integer), Column.named "price" (.of .numeric)] }

def next : Expr :=
  .binary .add (.column ⟨some (.table (.plain prices)), "item", .of .integer⟩) (.literal (.int 1))

def priced (first : Expr) : Select :=
  { Select.ofColumns [first, .column ⟨some (.table (.plain prices)), "price", .of .numeric⟩] with
    sources := [.table (.plain prices)] }

def pricedTwice (s : Select) : Statement :=
  .query (.compound .unionAll [.select s, .select (priced next)] [] none none)

end Sample

/-- The types of the selected expressions with a name of their own. -/
def Expr.namedTypes (es : List Expr) : List SqlType :=
  (es.filter (·.outputName?.isSome)).map Expr.type

/-- The SELECT with an order and limits in place of its own. -/
def Select.restricted (s : Select) (terms : List OrderTerm) (count skip : Option UInt64) : Select :=
  { s with orderBy := terms, limit := count, offset := skip }

/-- The types of the columns that a first member brings to a compound query. -/
def Select.memberTypes (s : Select) : List SqlType :=
  if s.isRestricted then Expr.namedTypes s.columns
  else s.columns.flatMap
    (Expr.outputTypes fun source => starFields source (Scope.outermost.sources s))

/-- What is known of each column of a row: its type, and how its values are
converted. -/
def Compiled.typedColumns (c : Compiled) : List (SqlType × Option Conversion) :=
  c.columns.map fun column => (column.type, column.conversion)

section Headings

variable {rules : IdentifierRules} {taken : List String}

/-- In a nested query nothing but a name of one's own takes a name, since nobody
asks there what a star stands for. -/
theorem Expr.names_heading_nested {e : Expr} {heading : Heading} (hBase : e.outputName? = none)
    (h : e.heading rules (fun _ => []) taken = .ok heading) : heading.names = [] := by
  cases e with
  | star source =>
      cases h
      rfl
  | column | label => cases hBase
  | _ =>
      cases h
      rfl

/-- So a nested query that finds its names does so for the named columns
alone. -/
theorem exists_freshAll_of_headings {es : List Expr} {hs : List Heading}
    (h : headings rules (fun _ => []) taken es = .ok hs) :
    ∃ names, rules.freshAll taken (es.filterMap Expr.outputName?) = .ok names := by
  induction es generalizing taken hs with
  | nil => exact ⟨[], rfl⟩
  | cons e es ih =>
      obtain ⟨first, hFirst, h⟩ := exists_ok_of_bind_ok h
      obtain ⟨rest, hRest, -⟩ := exists_ok_of_bind_ok h
      obtain ⟨names, hNames⟩ := ih hRest
      cases hBase : e.outputName? with
      | none =>
          rw [e.names_heading_nested hBase hFirst] at hNames
          rw [List.filterMap_cons_none hBase]
          exact ⟨names, hNames⟩
      | some base =>
          obtain ⟨name, hFresh, hOwn⟩ := Expr.heading_named hBase hFirst
          rw [hOwn, List.singleton_append] at hNames
          refine ⟨name :: names, ?_⟩
          rw [List.filterMap_cons_some hBase, IdentifierRules.freshAll, hFresh]
          show (rules.freshAll (name :: taken) _ >>= _) = _
          rw [hNames]
          rfl

/-- A star has a heading as soon as free names are found for the columns that it
stands for. -/
theorem exists_headings_star {star : Option ColumnSource → List Field}
    {source : Option ColumnSource} {names : List String}
    (h : rules.freshAll taken ((star source).map (·.1)) = .ok names) :
    ∃ hs, headings rules star taken [.star source] = .ok hs := by
  refine ⟨[⟨none, List.zipWith (fun name field => ⟨some name, field.2⟩) names (star source)⟩], ?_⟩
  rw [headings, Expr.heading, h]
  rfl

end Headings

namespace Expr

variable {star : Option ColumnSource → List Field} {e : Expr} {es : List Expr}

/-- An expression with a name contributes its own type and nothing else. -/
theorem outputTypes_named (h : e.outputName?.isSome = true) : e.outputTypes star = [e.type] := by
  cases e with
  | column | label => rfl
  | _ => cases h

/-- Only a star contributes nothing to a row, and only where it stands for no
column. -/
theorem outputTypes_eq_nil_iff :
    e.outputTypes star = [] ↔ ∃ source, e = .star source ∧ star source = [] := by
  cases e <;> simp [outputTypes]

theorem namedTypes_cons_named (h : e.outputName?.isSome = true) :
    namedTypes (e :: es) = e.type :: namedTypes es := by
  simp [namedTypes, h]

theorem namedTypes_cons_unnamed (h : e.outputName?.isSome = false) :
    namedTypes (e :: es) = namedTypes es := by
  simp only [namedTypes, List.filter_cons, h, Bool.false_eq_true, if_false]

/-- Named columns keep their order among all columns of the row, whatever stars
stand for. -/
theorem namedTypes_sublist (star : Option ColumnSource → List Field) (es : List Expr) :
    (namedTypes es).Sublist (es.flatMap (outputTypes star)) := by
  induction es with
  | nil => exact .slnil
  | cons e es ih =>
      rw [List.flatMap_cons]
      cases hNamed : e.outputName?.isSome with
      | true =>
          rw [namedTypes_cons_named hNamed, outputTypes_named hNamed]
          exact ih.cons_cons _
      | false =>
          rw [namedTypes_cons_unnamed hNamed]
          exact ih.trans (List.sublist_append_right _ _)

/-- They are all there is if whatever has no name stands for no column, which
only a star can do. -/
theorem length_namedTypes_iff (star : Option ColumnSource → List Field) (es : List Expr) :
    (namedTypes es).length = (es.flatMap (outputTypes star)).length ↔
      ∀ e ∈ es, e.outputName?.isSome = true ∨ ∃ source, e = .star source ∧ star source = [] := by
  induction es with
  | nil => simp [namedTypes]
  | cons e es ih =>
      have hLe := (namedTypes_sublist star es).length_le
      rw [List.forall_mem_cons, ← ih, ← outputTypes_eq_nil_iff, List.flatMap_cons,
        List.length_append, ← List.length_eq_zero_iff]
      cases hNamed : e.outputName?.isSome with
      | true =>
          rw [namedTypes_cons_named hNamed, outputTypes_named hNamed, List.length_cons,
            List.length_singleton, Nat.add_comm 1, Nat.add_right_cancel_iff]
          exact (and_iff_right (.inl rfl)).symm
      | false =>
          rw [namedTypes_cons_unnamed hNamed, or_iff_right Bool.false_ne_true]
          omega

end Expr

namespace Select

variable {t : Target} {s : Select}

/-- An order, a limit or an offset each make a restricted SELECT of their
own. -/
theorem isRestricted_restricted {terms : List OrderTerm} {count skip : Option UInt64}
    (h : terms ≠ [] ∨ count ≠ none ∨ skip ≠ none) :
    (s.restricted terms count skip).isRestricted = true := by
  simpa [isRestricted, restricted, Option.isSome_iff_ne_none, or_assoc] using h

/-- What a restricted member brings is found among what it would bring
otherwise, in the same order. Columns without a name are those that are lost. -/
theorem namedTypes_sublist_memberTypes (s : Select) :
    (Expr.namedTypes s.columns).Sublist s.memberTypes := by
  rw [memberTypes]
  split
  · exact .refl _
  · exact Expr.namedTypes_sublist _ _

/-- The fields of a SELECT are the names and the types of its named columns.
Stars and unnamed expressions have none. -/
theorem fields_select (s : Select) : (Query.select s).fields.map (·.1) =
      s.columns.filterMap Expr.outputName? ∧
    (Query.select s).fields.map (·.2) = Expr.namedTypes s.columns := by
  rw [Query.fields, Query.selected]
  induction s.columns with
  | nil => exact ⟨rfl, rfl⟩
  | cons e es ih =>
      cases hBase : e.outputName? with
      | none =>
          rw [List.filterMap_cons_none (by rw [hBase]; rfl), List.filterMap_cons_none hBase,
            Expr.namedTypes_cons_unnamed (by rw [hBase]; rfl)]
          exact ih
      | some base =>
          rw [List.filterMap_cons_some (b := (base, e.type)) (by rw [hBase]; rfl),
            List.filterMap_cons_some hBase, Expr.namedTypes_cons_named (by rw [hBase]; rfl),
            List.map_cons, List.map_cons, ih.1, ih.2]
          exact ⟨rfl, rfl⟩

/-- The columns of a member that is written in a derived table are its named
ones; all others are lost on the way out. -/
theorem types_wrapped {sc : Scope} {hs : List Heading} (h : s.headings t sc false = .ok hs) :
    ((Query.select s).wrapped.plainOutputs t).map (·.type) = Expr.namedTypes s.columns := by
  obtain ⟨names, hNames⟩ := exists_freshAll_of_headings h
  rw [← (fields_select s).1] at hNames
  have hStar : starView true (Scope.outermost.sources (Query.select s).wrapped) none =
      (Query.select s).fields := List.append_nil _
  rw [← hStar] at hNames
  obtain ⟨outer, hOuter⟩ := exists_headings_star hNames
  have hHeadings : (Query.select s).wrapped.headings t .outermost true = .ok outer := hOuter
  rw [plainOutputs, hHeadings]
  show (outer.flatMap (·.fields)).map (·.type) = _
  rw [types_headings hOuter, ← (fields_select s).2, ← hStar]
  exact List.append_nil _

end Select

namespace Statement

variable {t : Target} {mode : ParameterMode} {c : Compiled} {op : SetOp} {s : Select}
  {rest : List Query} {orderBy : List OrderTerm} {limit offset : Option UInt64}

/-- The columns of a compound query that starts with a SELECT have the types of
that SELECT as a member, restricted or not. -/
theorem types_compound (hOffset : t.strategy = .limitOffset)
    (h : (Statement.query (.compound op (.select s :: rest) orderBy limit offset)).compile t mode =
      .ok c) :
    ((Statement.query (.compound op (.select s :: rest) orderBy limit offset)).outputs t).map
      (·.type) = s.memberTypes := by
  have hDirect : s.Direct t := fun _ => hOffset
  have hComplete := complete_of_compile h
  have hPart := hComplete.of_part (Query.infix_compound_at (i := 0) hComplete rfl)
  show (Query.outputs t (.compound op (.select s :: rest) orderBy limit offset)).map (·.type) = _
  rw [Query.outputs, Select.memberTypes]
  cases hOwn : s.isRestricted with
  | true =>
      rw [if_pos (show (Query.select s).isRestricted = true from hOwn)] at hPart ⊢
      obtain ⟨hs, hHeadings⟩ := Select.headings_of_complete hDirect hPart
      exact Select.types_wrapped hHeadings
  | false =>
      have hFree : ¬(Query.select s).isRestricted = true := by
        rw [Query.isRestricted, hOwn]
        exact Bool.false_ne_true
      rw [if_neg hFree] at hPart ⊢
      obtain ⟨hs, hHeadings⟩ := Select.headings_of_complete hDirect hPart
      exact hDirect.types_outputs_sources hHeadings

/-- The columns of a compound query are typed and converted as those of its
first member, whatever the others select. -/
theorem typedColumns_compound (hOffset : t.strategy = .limitOffset)
    (h : (Statement.query (.compound op (.select s :: rest) orderBy limit offset)).compile t mode =
      .ok c) :
    c.typedColumns = s.memberTypes.map fun type =>
      (type, t.profile.resultConversion t.caps type) := by
  rw [← types_compound hOffset h]
  exact columns_of_compile h

/-- An order or a limit on the first SELECT of a compound query. The result
keeps the columns that have a name of their own, with their types and
conversions, and has no others. If the SELECT had no order or limit before,
these are as many as before exactly if every expression selected has a name or
is a star that stands for no column. Only then, or if it had one before, are
columns and conversions of rows the same. -/
theorem compile_member_columns (t : Target) (hOffset : t.strategy = .limitOffset)
    (mode : ParameterMode) (op : SetOp) (s : Select) (terms : List OrderTerm)
    (count skip : Option UInt64) (hOwn : terms ≠ [] ∨ count ≠ none ∨ skip ≠ none)
    (rest : List Query) (orderBy : List OrderTerm) (limit offset : Option UInt64) (c c' : Compiled)
    (h : (Statement.query (.compound op (.select s :: rest) orderBy limit offset)).compile t mode =
      .ok c)
    (h' : (Statement.query (.compound op (.select (s.restricted terms count skip) :: rest) orderBy
      limit offset)).compile t mode = .ok c') :
    c'.typedColumns.Sublist c.typedColumns ∧
    c'.typedColumns = (Expr.namedTypes s.columns).map (fun type =>
      (type, t.profile.resultConversion t.caps type)) ∧
    (s.isRestricted = false → (c'.columns.length = c.columns.length ↔
      ∀ e ∈ s.columns, e.outputName?.isSome = true ∨
        ∃ source, e = .star source ∧ starFields source (Scope.outermost.sources s) = [])) ∧
    (s.isRestricted = true ∨ c'.columns.length = c.columns.length →
      c'.typedColumns = c.typedColumns ∧ ∀ row, c'.decodeRow row = c.decodeRow row) := by
  have hTyped := typedColumns_compound hOffset h
  have hTyped' := typedColumns_compound hOffset h'
  rw [Select.memberTypes, if_pos (Select.isRestricted_restricted hOwn)] at hTyped'
  have hSublist : c'.typedColumns.Sublist c.typedColumns := by
    rw [hTyped, hTyped']
    exact s.namedTypes_sublist_memberTypes.map _
  refine ⟨hSublist, hTyped', ?_, ?_⟩
  · intro hFree
    have hLength := congrArg List.length hTyped
    have hLength' := congrArg List.length hTyped'
    rw [Select.memberTypes, hFree] at hLength
    simp only [Compiled.typedColumns, List.length_map] at hLength hLength'
    rw [hLength, hLength']
    exact Expr.length_namedTypes_iff _ _
  · intro hSame
    have hColumns : c'.typedColumns = c.typedColumns := by
      rcases hSame with hRestricted | hLength
      · rw [hTyped, hTyped', Select.memberTypes, if_pos hRestricted]
        rfl
      · exact hSublist.eq_of_length (by simpa [Compiled.typedColumns] using hLength)
    refine ⟨hColumns, Compiled.decodeRow_congr ?_⟩
    simpa [Compiled.typedColumns, Function.comp_def] using congrArg (List.map Prod.snd) hColumns

/-- A number with a label, and a price. -/
theorem compile_member_columns_labelled :
    ∃ c c', (Sample.pricedTwice (Sample.priced (.label Sample.next "next"))).compile
        Sample.target .placeholders = .ok c ∧
      (Sample.pricedTwice ((Sample.priced (.label Sample.next "next")).restricted [] (some 10)
        none)).compile Sample.target .placeholders = .ok c' ∧
      c'.sql = "SELECT * FROM (SELECT prices.item + 1 AS next, prices.price FROM prices " ++
        "LIMIT 10) AS anon_1 UNION ALL SELECT prices.item + 1, prices.price FROM prices" ∧
      c'.typedColumns = c.typedColumns ∧ ∀ row, c'.decodeRow row = c.decodeRow row := by
  obtain ⟨c, h, -⟩ := exists_ok_of_toOption
    (x := (Sample.pricedTwice (Sample.priced (.label Sample.next "next"))).compile Sample.target
      .placeholders) (f := fun c => c.columns.length) (y := 2) (by decide)
  obtain ⟨c', h', hText⟩ := exists_ok_of_toOption
    (x := (Sample.pricedTwice ((Sample.priced (.label Sample.next "next")).restricted [] (some 10)
      none)).compile Sample.target .placeholders) (f := fun c => c.sql)
    (y := "SELECT * FROM (SELECT prices.item + 1 AS next, prices.price FROM prices " ++
      "LIMIT 10) AS anon_1 UNION ALL SELECT prices.item + 1, prices.price FROM prices")
    (by decide +kernel)
  obtain ⟨-, -, hLength, hSame⟩ := compile_member_columns Sample.target rfl .placeholders .unionAll
    (Sample.priced (.label Sample.next "next")) [] (some 10) none (by simp) _ [] none none c c' h h'
  have hNamed : ∀ e ∈ (Sample.priced (.label Sample.next "next")).columns,
      e.outputName?.isSome = true := by
    simp [Sample.priced, Select.ofColumns, Expr.outputName?]
  exact ⟨c, c', h, h', hText, hSame (.inr ((hLength rfl).mpr fun e he => .inl (hNamed e he)))⟩

/-- It is not true that an order or a limit on the first SELECT leaves the
conversions of a compound query alone: without its label, the number above is
not recorded, and is then converted as if it were a price. -/
theorem not_forall_member_columns :
    ¬∀ (t : Target), t.strategy = .limitOffset → ∀ (mode : ParameterMode) (op : SetOp) (s : Select),
      (∀ item ∈ s.sources, ∃ ref, item = .table ref) → s.isRestricted = false →
      ∀ (terms : List OrderTerm) (count skip : Option UInt64) (rest : List Query)
        (orderBy : List OrderTerm) (limit offset : Option UInt64) (c c' : Compiled),
      (Statement.query (.compound op (.select s :: rest) orderBy limit offset)).compile t mode =
        .ok c →
      (Statement.query (.compound op (.select (s.restricted terms count skip) :: rest) orderBy
        limit offset)).compile t mode = .ok c' →
      ∀ row, c'.decodeRow row = c.decodeRow row := by
  intro hAll
  obtain ⟨c, h, hRow⟩ := exists_ok_of_toOption
    (x := (Sample.pricedTwice (Sample.priced Sample.next)).compile Sample.target .placeholders)
    (f := fun c => c.decodeRow [.int 8, .int 2])
    (y := .ok [.int 8, .decimal (Decimal.ofInt 2)]) (by decide)
  obtain ⟨c', h', hRow'⟩ := exists_ok_of_toOption
    (x := (Sample.pricedTwice ((Sample.priced Sample.next).restricted [] (some 10) none)).compile
      Sample.target .placeholders) (f := fun c => c.decodeRow [.int 8, .int 2])
    (y := .ok [.decimal (Decimal.ofInt 8), .int 2]) (by decide)
  have hSame := hAll Sample.target rfl .placeholders .unionAll (Sample.priced Sample.next)
    (by simp [Sample.priced]) rfl [] (some 10) none _ [] none none c c' h h' [.int 8, .int 2]
  rw [hRow, hRow'] at hSame
  cases hSame

end Statement

end SqlStatements
