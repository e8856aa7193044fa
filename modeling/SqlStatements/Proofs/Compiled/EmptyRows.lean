import SqlStatements.Proofs.Compiled.BindNames
import SqlStatements.Proofs.Ledger.Spells
import SqlStatements.Proofs.Statement.Rows

/-! Insertions that assign no column. One empty row, or none, asks the target for defaults.
Several empty rows are kept as rows without cells, and nobody asks for them. -/
namespace SqlStatements

namespace Sample

/-- Standard SQL without words for defaults. -/
def bare : Target := ⟨Profile.standard, { defaultValues := false, emptyInsert := false }⟩

def emptyRow : Insert.Parts := { table := accounts, rows := [[]] }

def emptyRows : Insert.Parts := { table := accounts, rows := [[], []] }

end Sample

def InsertSource.columns : InsertSource → List String
  | .defaults => []
  | .rows columns _ | .query columns _ => columns

namespace Insert

variable {d : Parts} {insert : Insert} {t : Target} {mode : ParameterMode}

/-- The statement is compiled, if nothing is handed back, and it begins with the
given words after the table. Only the clause that hands back values follows. -/
def Begins (t : Target) (mode : ParameterMode) (insert : Insert) (words : String) : Prop :=
  (insert.returning = [] → ∃ c, (Statement.insert insert).compile t mode = .ok c) ∧
  ∀ c, (Statement.insert insert).compile t mode = .ok c →
    ∃ tail, c.sql = "INSERT INTO " ++ t.rules.table insert.table true ++ words ++ tail ∧
      (insert.returning = [] → tail = "") ∧
      (insert.returning ≠ [] → ∃ rest, tail = " RETURNING " ++ rest)

/-- Empty rows as they are kept: up to one of them is a row of defaults, and
several are rows without columns. -/
theorem rowsSource_empty (table : Table) (n : Nat) :
    rowsSource table (List.replicate n []) =
      .ok (if n ≤ 1 then .defaults else .rows [] (List.replicate n [])) := by
  have hNone : table.assigned [] = [] := List.filter_eq_nil_iff.mpr (by simp)
  cases n with
  | zero => rfl
  | succ n =>
      cases n with
      | zero => rfl
      | succ n =>
          have hShape : (List.replicate (n + 2) ([] : Assignments)).findIdx?
              (fun row => !sameKeys row []) = none := by
            rw [List.findIdx?_eq_none_iff]
            intro row hRow
            rw [List.eq_of_mem_replicate hRow]
            rfl
          have hCells : ((List.replicate (n + 2) ([] : Assignments)).mapIdx
              fun _ _ => ([] : List Expr)) = List.replicate (n + 2) [] := by
            rw [List.eq_replicate_iff]
            refine ⟨by simp, ?_⟩
            intro row hRow
            obtain ⟨i, _, rfl⟩ := List.mem_mapIdx.mp hRow
            rfl
          simp only [List.replicate_succ] at hShape hCells ⊢
          rw [rowsSource, hShape]
          · simp only [hNone, List.map_nil, hCells]
            rw [if_neg (by omega)]
          · simp
          · simp

/-- An insertion of rows that is built has passed the check of its keys, and its
source is that of its rows. -/
theorem build_ok (hQuery : d.query = none) (h : d.build = .ok insert) :
    d.table.checkKeys (d.rows.flatMap givenKeys) = .ok () ∧
      ∃ source, rowsSource d.table d.rows = .ok source ∧
        insert = ⟨d.table, source, d.returning⟩ := by
  rw [Parts.build, hQuery] at h
  obtain ⟨_, hKeys, h⟩ := exists_ok_of_bind_ok h
  obtain ⟨source, hSource, h⟩ := exists_ok_of_bind_ok h
  cases h
  exact ⟨hKeys, source, hSource, rfl⟩

/-- No column is assigned just if every row is empty. Rows with different keys
are refused before that. -/
theorem columns_eq_nil_iff {table : Table} {rows : List Assignments} {source : InsertSource}
    (hKeys : table.checkKeys (rows.flatMap givenKeys) = .ok ())
    (hSource : rowsSource table rows = .ok source) :
    source.columns = [] ↔ ∀ row ∈ rows, row = [] := by
  have hKnown : ∀ row ∈ rows, ∀ key ∈ givenKeys row, (table.column? key).isSome :=
    fun row hRow key hKey =>
      Table.isSome_of_checkKeys hKeys key (List.mem_flatMap.mpr ⟨row, hRow, hKey⟩)
  constructor
  · intro hNone
    unfold rowsSource at hSource
    split at hSource
    · simp
    · simp
    · rename_i row _
      cases hSource
      have hRow := (Table.assigned_eq_nil_iff (hKnown row (by simp))).mp
        (List.map_eq_nil_iff.mp hNone)
      simpa using hRow
    · rename_i first rest _ _
      split at hSource
      · cases hSource
      · rename_i hShape
        cases hSource
        have hFirst : first = [] := (Table.assigned_eq_nil_iff (hKnown first (by simp))).mp
          (List.map_eq_nil_iff.mp hNone)
        intro row hRow
        have hSame : sameKeys row first = true := by
          simpa using List.findIdx?_eq_none_iff.mp hShape row hRow
        rw [hFirst, sameKeys_iff] at hSame
        cases row with
        | nil => rfl
        | cons given rest => cases (hSame given.1).mp (List.mem_cons_self ..)
  · intro hEmpty
    rw [List.eq_replicate_iff.mpr ⟨rfl, hEmpty⟩, rowsSource_empty] at hSource
    cases hSource
    split <;> rfl

/-- The clause that hands back values begins with its word. -/
theorem exists_returning_text {st : Setting} {pager : Pager} {es : List Expr} {L L' : Ledger}
    {texts : List String} (hSome : es ≠ [])
    (h : L.write st (Draft.returning t pager es) = .ok (texts, L')) :
    ∃ rest, String.join texts = " RETURNING " ++ rest := by
  rw [Draft.returning, if_neg (by simpa using hSome)] at h
  split at h
  · obtain ⟨text, M, rest, hPiece, _, rfl⟩ := Ledger.write_cons h
    cases hPiece
    exact ⟨String.join rest, by simp⟩
  · cases h

/-- An insertion whose rows leave nothing open is written out with them. What
follows is the clause that hands back values, if there is one. -/
theorem begins_of_spells {words : String}
    (h : Draft.Spells ((Statement.insert insert).setting t mode)
      (sourceDraft t (pager t (Statement.insert insert).pages) insert.table insert.source)
      words.toList) : insert.Begins t mode words := by
  have hFront := ((Draft.spells_text "INSERT INTO ").append
    (Draft.spells_table insert.table)).append h
  have hDraft : (Statement.insert insert).draft t =
      ([.text "INSERT INTO "] ++ [.table insert.table] ++
        sourceDraft t (pager t (Statement.insert insert).pages) insert.table insert.source) ++
      Draft.returning t (pager t (Statement.insert insert).pages) insert.returning := by
    simp [Statement.draft, Insert.draft]
  obtain ⟨texts, hWrite, hText⟩ := hFront {}
  constructor
  · intro hNone
    have hRest : Draft.returning t (pager t (Statement.insert insert).pages) insert.returning =
        [] := by
      rw [hNone]
      rfl
    rw [Statement.compile, hDraft, hRest, List.append_nil, hWrite]
    exact ⟨_, rfl⟩
  · intro c hCompile
    obtain ⟨rest, L, hTail, hSql, _⟩ := (Statement.compile_after_front hDraft hWrite).2 c hCompile
    refine ⟨String.join rest, ?_, ?_, fun hSome => exists_returning_text hSome hTail⟩
    · apply String.toList_injective
      simp only [hSql, String.toList_append, hText]
      rfl
    · intro hNone
      rw [hNone] at hTail
      cases hTail
      rfl

/-- An insertion that the target refuses is refused whatever it hands back,
since the rows come first. -/
theorem compile_of_stop {e : Error}
    (h : sourceDraft t (pager t (Statement.insert insert).pages) insert.table insert.source =
      [.stop e]) : (Statement.insert insert).compile t mode = .error e := by
  have hDraft : (Statement.insert insert).draft t =
      .text "INSERT INTO " :: .table insert.table :: .stop e ::
        Draft.returning t (pager t (Statement.insert insert).pages) insert.returning := by
    simp [Statement.draft, Insert.draft, h]
  rw [Statement.compile, hDraft]
  rfl

/-- Rows without cells are written as empty pairs of parentheses, with no list
of columns in front of them. -/
theorem spells_empty_rows {st : Setting} {pager : Pager} (table : Table) {n : Nat}
    (hMany : t.caps.multiRow = true) :
    Draft.Spells st (sourceDraft t pager table (.rows [] (List.replicate n [])))
      (" () VALUES " ++ Text.join ", " (List.replicate n "()")).toList := by
  have hRow : Draft.Spells st (rowDraft t pager (generatedAt table []) []) "()".toList :=
    (Draft.spells_text "(").append (Draft.spells_text ")")
  have hEach : List.Forall₂ (fun row text => Draft.Spells st row text.toList)
      (List.replicate n (rowDraft t pager (generatedAt table []) [])) (List.replicate n "()") := by
    rw [List.forall₂_iff_get]
    refine ⟨by simp, ?_⟩
    intro i _ _
    simpa using hRow
  have hRows := Draft.spells_join ", " hEach
  rw [sourceDraft, if_neg (by simp [hMany]), List.map_replicate]
  have hWords : Draft.Spells st ([.text " ("] ++ [.text ") VALUES "]) _ :=
    (Draft.spells_text " (").append (Draft.spells_text ") VALUES ")
  simpa [Draft.names, Draft.join] using hWords.append hRows

/-- An insertion from rows assigns no column just if its rows are empty. Up to
one empty row is written with the words for defaults that the target supports,
and refused if it supports none. Several empty rows are written whatever words
it supports, if it takes several rows. -/
theorem compile_unassigned (d : Parts) (insert : Insert) (hQuery : d.query = none)
    (hBuild : d.build = .ok insert) (t : Target) (mode : ParameterMode) :
    (insert.source.columns = [] ↔ ∀ row ∈ d.rows, row = []) ∧
    (insert.source.columns = [] → d.rows.length ≤ 1 →
      (t.caps.defaultValues = true → insert.Begins t mode " DEFAULT VALUES") ∧
      (t.caps.defaultValues = false → t.caps.emptyInsert = true →
        insert.Begins t mode " () VALUES ()") ∧
      (t.caps.defaultValues = false → t.caps.emptyInsert = false →
        (Statement.insert insert).compile t mode =
          .error (t.unsupported (.defaultValues insert.table.name)))) ∧
    (insert.source.columns = [] → 2 ≤ d.rows.length →
      (t.caps.multiRow = true → insert.Begins t mode
        (" () VALUES " ++ Text.join ", " (List.replicate d.rows.length "()"))) ∧
      (t.caps.multiRow = false → (Statement.insert insert).compile t mode =
        .error (t.unsupported (.multiRow d.rows.length)))) := by
  obtain ⟨hKeys, source, hSource, rfl⟩ := build_ok hQuery hBuild
  have hColumns := columns_eq_nil_iff hKeys hSource
  have hKept : source.columns = [] →
      source = if d.rows.length ≤ 1 then .defaults
        else .rows [] (List.replicate d.rows.length []) := by
    intro hNone
    rw [List.eq_replicate_iff.mpr ⟨rfl, hColumns.mp hNone⟩, rowsSource_empty] at hSource
    exact (Except.ok.inj hSource).symm
  refine ⟨hColumns, ?_, ?_⟩
  · intro hNone hFew
    obtain rfl : source = .defaults := (hKept hNone).trans (if_pos hFew)
    refine ⟨?_, ?_, ?_⟩
    · intro hDefault
      apply begins_of_spells
      simpa [sourceDraft, hDefault] using Draft.spells_text " DEFAULT VALUES"
    · intro hDefault hEmpty
      apply begins_of_spells
      simpa [sourceDraft, hDefault, hEmpty] using Draft.spells_text " () VALUES ()"
    · intro hDefault hEmpty
      apply compile_of_stop
      simp [sourceDraft, hDefault, hEmpty]
  · intro hNone hSeveral
    obtain rfl : source = .rows [] (List.replicate d.rows.length []) :=
      (hKept hNone).trans (if_neg (by omega))
    refine ⟨fun hMany => begins_of_spells (spells_empty_rows d.table hMany), ?_⟩
    intro hMany
    apply compile_of_stop
    rw [sourceDraft, if_pos ⟨by rw [List.length_replicate]; omega, hMany⟩, List.length_replicate]

/-- On a target with neither of the words, one empty row is refused and two are
not. -/
theorem compile_unassigned_bare :
    (∃ insert, Parts.build Sample.emptyRow = .ok insert ∧ insert.source.columns = [] ∧
      (Statement.insert insert).compile Sample.bare .placeholders =
        .error (Sample.bare.unsupported (.defaultValues "accounts"))) ∧
    ∃ insert c tail, Parts.build Sample.emptyRows = .ok insert ∧ insert.source.columns = [] ∧
      (Statement.insert insert).compile Sample.bare .placeholders = .ok c ∧
      c.sql = "INSERT INTO " ++ Sample.bare.rules.table Sample.accounts true ++
        (" () VALUES " ++ Text.join ", " ["()", "()"]) ++ tail ∧ tail = "" := by
  constructor
  · obtain ⟨_, hOne, _⟩ := compile_unassigned Sample.emptyRow ⟨Sample.accounts, .defaults, []⟩
      rfl rfl Sample.bare .placeholders
    exact ⟨_, rfl, rfl, (hOne rfl (by decide)).2.2 rfl rfl⟩
  · obtain ⟨_, _, hTwo⟩ := compile_unassigned Sample.emptyRows
      ⟨Sample.accounts, .rows [] [[], []], []⟩ rfl rfl Sample.bare .placeholders
    obtain ⟨hExists, hText⟩ := (hTwo rfl (by decide)).1 rfl
    obtain ⟨c, hCompile⟩ := hExists rfl
    obtain ⟨tail, hSql, hTail, _⟩ := hText c hCompile
    exact ⟨_, c, tail, rfl, rfl, hCompile, hSql, hTail rfl⟩

/-- It is not so that every insertion without columns is refused where neither
of the words is supported. -/
theorem not_forall_unassigned :
    ¬∀ (d : Parts) (insert : Insert) (t : Target) (mode : ParameterMode), d.query = none →
      d.build = .ok insert → insert.source.columns = [] → t.caps.defaultValues = false →
      t.caps.emptyInsert = false → (Statement.insert insert).compile t mode =
        .error (t.unsupported (.defaultValues insert.table.name)) := by
  intro hAll
  have hRefused := hAll Sample.emptyRows ⟨Sample.accounts, .rows [] [[], []], []⟩ Sample.bare
    .placeholders rfl rfl rfl rfl rfl
  have hWritten : Begins Sample.bare .placeholders ⟨Sample.accounts, .rows [] [[], []], []⟩ _ :=
    begins_of_spells (spells_empty_rows (n := 2) Sample.accounts rfl)
  obtain ⟨c, hCompile⟩ := hWritten.1 rfl
  rw [hRefused] at hCompile
  cases hCompile

end Insert

end SqlStatements
