import SqlStatements.Proofs.Compiled.Positions
import SqlStatements.Proofs.Ledger.Files
import SqlStatements.Proofs.Statement.Rows

/-! The parameters of an insertion of plain rows. Every cell has one of its own, in the order
of the rows and of the columns of the table. The clause that hands back values is written
after the rows, so its parameters follow those of the cells. -/
namespace SqlStatements

namespace Sample

/-- A table with a key that looks like the key of a cell. -/
def readings : Table :=
  { name := "readings"
    columns := [Column.named "x" (.of .integer), Column.named "x_m1" (.of .integer)] }

/-- Two rows with their keys in different order, and one value given twice. -/
def readingRows : List Assignments :=
  [[("x_m1", .value (.int 9)), ("x", .value (.int 1)), ("x_m1", .value (.int 2))],
    [("x", .value (.int 3)), ("x_m1", .value (.int 4))]]

def sortedRows : List Assignments :=
  [[("x", .value (.int 1)), ("x_m1", .value (.int 2))],
    [("x", .value (.int 3)), ("x_m1", .value (.int 4))]]

/-- A value handed back that has a parameter of its own. -/
def bonus : List Expr :=
  [.binary .add (.column ⟨some (.table (.plain readings)), "x", .of .integer⟩)
    (.param ⟨"bonus", some (.int 5), .of .integer, false⟩)]

end Sample

/-- The value sent for a parameter is the one it was made with, converted. -/
def BindInfo.Sends (b : BindInfo) (v : Value) : Prop :=
  ∃ given, b.value = some given ∧ convert b.conversion given = .ok v

namespace Insert

/-- The parameters of the cells of a statement, row by row. -/
def cells (t : Target) (table : Table) (keys : List String) (rows : List Assignments) :
    List BindInfo :=
  (cellParams (table.keyed keys) rows).flatten.map fun p => p.info t p.key

/-- The target takes that many rows, and the keys of their parameters are within
its limit. -/
structure Fits (t : Target) (keys : List String) (count : Nat) : Prop where
  rows : count = 1 ∨ t.caps.multiRow = true
  keys : ∀ i < count, ∀ key ∈ keys, (cellKey count i key).length ≤ t.rules.maxLength

section Drafts

variable {st : Setting} {t : Target} {pager : Pager}

/-- The cells of a row file their parameters from left to right. They have to be
shared, with keys that the limit leaves alone. -/
theorem files_row (hMode : st.mode = .placeholders) (generated : Option Nat)
    {ps : List BindParam}
    (h : ∀ p ∈ ps, p.unique = false ∧ st.target.rules.truncate p.key = p.key) :
    (rowDraft t pager generated (ps.map .param)).Files st ps := by
  have hCells : List.Forall₂ (Draft.Files st)
      ((ps.map Expr.param).mapIdx fun i e => cellDraft t pager (generated = some i) e)
      (ps.map ([·])) := by
    rw [List.forall₂_iff_get]
    refine ⟨by simp, ?_⟩
    intro i hi hi'
    have hIndex : i < ps.length := by simpa using hi'
    have hp : ps[i] ∈ ps := List.getElem_mem hIndex
    simpa [cellDraft] using
      Draft.files_param hMode (decide (generated = some i)) (h _ hp).1 (h _ hp).2
  have hRow := (Draft.files_join ", " hCells).parens
  rwa [← List.flatMap_def, List.flatMap_singleton'] at hRow

/-- All rows of an insertion file their parameters, row by row. Several rows are
possible only where the target takes them. -/
theorem files_rows (hMode : st.mode = .placeholders) (table : Table) (columns : List String)
    {grid : List (List BindParam)} (hRows : grid.length ≤ 1 ∨ t.caps.multiRow = true)
    (h : ∀ p ∈ grid.flatten, p.unique = false ∧ st.target.rules.truncate p.key = p.key) :
    (sourceDraft t pager table (.rows columns (grid.map (·.map .param)))).Files st
      grid.flatten := by
  have hAccepted : ¬(1 < (grid.map (·.map Expr.param)).length ∧ t.caps.multiRow = false) := by
    rw [List.length_map]
    rintro ⟨hMany, hRefused⟩
    rcases hRows with hFew | hTaken
    · omega
    · rw [hTaken] at hRefused
      cases hRefused
  have hGrid : List.Forall₂ (Draft.Files st)
      ((grid.map (·.map Expr.param)).map (rowDraft t pager (generatedAt table columns))) grid := by
    rw [List.map_map, List.forall₂_map_left_iff, List.forall₂_same]
    intro ps hps
    exact files_row hMode _ fun p hp => h p (List.mem_flatten.mpr ⟨ps, hps, hp⟩)
  have hOpen : Draft.Files st [.text " ("] [] := (Draft.spells_text " (").files
  have hNames : Draft.Files st (Draft.names columns) [] := (Draft.spells_names columns).files
  have hValues : Draft.Files st [.text ") VALUES "] [] := (Draft.spells_text ") VALUES ").files
  rw [sourceDraft, if_neg hAccepted]
  simpa using hOpen.append (hNames.append (hValues.append (Draft.files_join ", " hGrid)))

end Drafts

section Compiled

variable {table : Table} {keys : List String} {rows : List Assignments} {t : Target}

/-- The keys of the cells are the names of their parameters, since they are
within the limit of the target. -/
theorem Fits.cellParams (h : Fits t keys rows.length) :
    ∀ p ∈ (cellParams (table.keyed keys) rows).flatten,
      p.unique = false ∧ t.rules.truncate p.key = p.key := by
  intro p hp
  obtain ⟨params, hParams, hp⟩ := List.mem_flatten.mp hp
  obtain ⟨i, hi, rfl⟩ := List.mem_mapIdx.mp hParams
  obtain ⟨c, hc, rfl⟩ := List.mem_map.mp hp
  have hKey : c.key ∈ keys := by simpa using (List.mem_filter.mp hc).2
  exact ⟨rfl, IdentifierRules.truncate_eq_self (h.keys i hi c.key hKey)⟩

theorem names_cells : (cells t table keys rows).map (·.name) =
    (Insert.cellParams (table.keyed keys) rows).flatten.map (·.key) := by
  simp [cells, BindParam.info, Function.comp_def]

/-- The parameters of cells have different names, since the number of the row
and the key of the column tell them apart. -/
theorem nodup_cells (hTable : table.checked = .ok table) :
    ((cells t table keys rows).map (·.name)).Nodup := by
  rw [names_cells]
  exact nodup_cellParams (Table.nodup_keyed hTable keys) rows

/-- Every cell of plain rows brings a value, so nothing has to be given when the
statement is run. -/
theorem value_cells (h : PlainRows table keys rows) :
    ∀ b ∈ cells t table keys rows, b.value.isSome := by
  intro b hb
  obtain ⟨p, hp, rfl⟩ := List.mem_map.mp hb
  exact h.value_isSome p hp

/-- The rows are written out before the clause that hands back values, and
nothing in them can fail. -/
theorem exists_write_rows (hTable : table.checked = .ok table)
    (hFits : Fits t keys rows.length) (returning : List Expr) :
    ∃ front texts L,
      (Statement.insert (ofRows table keys rows returning)).draft t =
        front ++ Draft.returning t
          (pager t (Statement.insert (ofRows table keys rows returning)).pages) returning ∧
      Ledger.write ((Statement.insert (ofRows table keys rows returning)).setting t
        .placeholders) {} front = .ok (texts, L) ∧
      L.binds = cells t table keys rows ∧
      L.positional = (cells t table keys rows).map (·.name) := by
  let insert := ofRows table keys rows returning
  let st := (Statement.insert insert).setting t .placeholders
  have hCount : (Insert.cellParams (table.keyed keys) rows).length ≤ 1 ∨
      t.caps.multiRow = true := by
    have hLength : (Insert.cellParams (table.keyed keys) rows).length = rows.length := by
      simp [Insert.cellParams]
    rw [hLength]
    exact hFits.rows.imp_left (by omega)
  have hText : Draft.Files st [.text "INSERT INTO "] [] :=
    (Draft.spells_text "INSERT INTO ").files
  have hName : Draft.Files st [.table table] [] := (Draft.spells_table table).files
  have hRows : Draft.Files st
      (sourceDraft t (pager t (Statement.insert insert).pages) table insert.source)
      (Insert.cellParams (table.keyed keys) rows).flatten :=
    files_rows rfl table _ hCount hFits.cellParams
  have hFront := hText.append (hName.append hRows)
  obtain ⟨texts, L, hWrite, hBinds, hPositional⟩ := hFront {} (by
    simpa [Ledger.names] using nodup_cellParams (Table.nodup_keyed hTable keys) rows)
  refine ⟨_, texts, L, ?_, hWrite, hBinds, ?_⟩
  · simp [Statement.draft, Insert.draft, insert, ofRows]
  · rw [names_cells]
    simpa using hPositional

/-- A clause that hands back values has no parameters but those of its
expressions. -/
theorem mem_params_returning {depth : Nat} {returning : List Expr} {p : BindParam}
    (h : p ∈ (Draft.returning t (pager t depth) returning).params) :
    Visit.bind p ∈ exprsVisits true returning := by
  have hDraws : (Draft.returning t (pager t depth) returning).Draws
      fun p _ => Visit.bind p ∈ exprsVisits true returning :=
    Draft.draws_returning (pager_draws _ t depth) fun _ hp => hp
  obtain ⟨generated, hPiece⟩ := Draft.exists_mem_of_mem_params h
  exact hDraws _ hPiece

/-- The values of the first placeholders are those of the parameters listed
first, as they were made and converted. Later ones may be given differently. -/
theorem sends_of_bind {s : Statement} {c : Compiled} {first more : List BindInfo}
    {later : List String} (h : s.compile t .placeholders = .ok c)
    (hBinds : c.binds = first ++ more)
    (hPositional : c.positional = first.map (·.name) ++ later) {bound : Bound}
    (hBound : c.bind {} = .ok bound) :
    ∃ values rest, c.positionalValues bound = values ++ rest ∧ rest.length = later.length ∧
      List.Forall₂ BindInfo.Sends first values := by
  obtain ⟨hNodup, _, _⟩ := Statement.compile_sound h
  obtain ⟨hLength, _⟩ := Statement.positionalValues_of_bind h hBound
  have hEach : ∀ b ∈ first, ∃ v, b.Sends v ∧ bound.lookup b.name = some v := by
    intro b hb
    have hb : b ∈ c.binds := by rw [hBinds]; exact List.mem_append_left _ hb
    obtain ⟨v, hBind, hFound⟩ := Compiled.lookup_bound hNodup hBound hb
    obtain ⟨given, w, hGiven, hConvert, hPair⟩ := BindInfo.bind_ok hBind
    cases hPair
    exact ⟨v, ⟨given, hGiven, hConvert⟩, hFound⟩
  have hFirst : ∀ bs : List BindInfo,
      (∀ b ∈ bs, ∃ v, b.Sends v ∧ bound.lookup b.name = some v) →
      List.Forall₂ BindInfo.Sends bs
        ((bs.map (·.name)).filterMap fun name => bound.lookup name) := by
    intro bs
    induction bs with
    | nil => exact fun _ => .nil
    | cons b bs ih =>
        intro hAll
        obtain ⟨⟨v, hSends, hFound⟩, hRest⟩ := List.forall_mem_cons.mp hAll
        rw [List.map_cons, List.filterMap_cons, hFound]
        exact .cons hSends (ih hRest)
  have hSplit : c.positionalValues bound =
      ((first.map (·.name)).filterMap fun name => bound.lookup name) ++
        later.filterMap fun name => bound.lookup name := by
    rw [Compiled.positionalValues, hPositional, List.filterMap_append]
  refine ⟨_, _, hSplit, ?_, hFirst first hEach⟩
  have hCount := (hFirst first hEach).length_eq
  rw [hSplit, hPositional, List.length_append, List.length_append, List.length_map] at hLength
  omega

end Compiled

/-- An insertion of plain rows. Keys that name no column are refused together.
Otherwise the insertion is accepted and known from the last value for each row
and key. On a target that takes the rows and their keys, every cell has a
parameter of its own with its value and the type of its column, row by row and
in the order of the table. Only the clause that hands back values can add
parameters after these, and only it can keep the statement from being compiled.
The values of the cells come first among those that are sent. -/
theorem compile_plain_rows (table : Table) (hTable : table.checked = .ok table)
    (rows : List Assignments) (returning : List Expr) :
    ((∃ key ∈ rows.flatMap givenKeys, table.column? key = none) →
      ∃ names, Parts.build ⟨table, rows, none, returning⟩ = .error (.unconsumed names) ∧
        names.Pairwise (· < ·) ∧
        ∀ key, key ∈ names ↔ key ∈ rows.flatMap givenKeys ∧ table.column? key = none) ∧
    ∀ keys, PlainRows table keys rows →
      ∃ insert, Parts.build ⟨table, rows, none, returning⟩ = .ok insert ∧
        (∀ others, List.Forall₂ SameLast rows others →
          Parts.build ⟨table, others, none, returning⟩ = .ok insert) ∧
        ∀ t, Fits t keys rows.length →
          (cells t table keys rows).length = rows.length * (table.keyed keys).length ∧
          ((cells t table keys rows).map (·.name)).Nodup ∧
          (returning = [] → ∃ c, (Statement.insert insert).compile t .placeholders = .ok c) ∧
          (∀ e, (Statement.insert insert).compile t .placeholders = .error e →
            ∃ L : Ledger, L.binds = cells t table keys rows ∧
              L.write ((Statement.insert insert).setting t .placeholders)
                (Draft.returning t (pager t (Statement.insert insert).pages) returning) =
                  .error e) ∧
          ∀ c, (Statement.insert insert).compile t .placeholders = .ok c →
            ∃ more later, c.binds = cells t table keys rows ++ more ∧
              c.positional = (cells t table keys rows).map (·.name) ++ later ∧
              (∀ b ∈ more, ∃ p, Visit.bind p ∈ exprsVisits true returning ∧
                b.key = p.key ∧ b.type = p.type) ∧
              ((∀ p, Visit.bind p ∉ exprsVisits true returning) → later = []) ∧
              ∀ bound, c.bind {} = .ok bound →
                ∃ values rest, c.positionalValues bound = values ++ rest ∧
                  rest.length = later.length ∧
                  List.Forall₂ BindInfo.Sends (cells t table keys rows) values := by
  refine ⟨?_, ?_⟩
  · intro hUnknown
    obtain ⟨names, hCheck, hNames⟩ := Table.checkKeys_error hUnknown
    refine ⟨names, ?_, hNames⟩
    show (table.checkKeys (rows.flatMap givenKeys) >>= fun _ => _) = _
    rw [hCheck]
    rfl
  · intro keys hRows
    refine ⟨_, hRows.build_eq returning, ?_, ?_⟩
    · intro others hSame
      rw [(hRows.congr hSame).build_eq returning, ofRows, ofRows, cellParams_congr _ hSame]
    · intro t hFits
      obtain ⟨front, texts, L, hDraft, hWrite, hBinds, hPositional⟩ :=
        exists_write_rows hTable hFits returning
      obtain ⟨hError, hOk⟩ := Statement.compile_after_front hDraft hWrite
      refine ⟨by rw [cells, List.length_map, length_cellParams], nodup_cells hTable, ?_,
        fun e hCompile => ⟨L, hBinds, hError e hCompile⟩, ?_⟩
      · rintro rfl
        cases hCompile : (Statement.insert (ofRows table keys rows [])).compile t .placeholders with
        | ok c => exact ⟨c, rfl⟩
        | error e => cases hError e hCompile
      · intro c hCompile
        obtain ⟨rest, L', hRest, _, hBinds', hPositional'⟩ := hOk c hCompile
        obtain ⟨more, later, hMore, hLater, hOwn, hNone⟩ :=
          Ledger.write_after (hBinds ▸ value_cells hRows) hRest
        have hAll : c.binds = _ := hBinds'.trans (hBinds ▸ hMore)
        have hPlaces : c.positional = _ := hPositional'.trans (hPositional ▸ hLater)
        refine ⟨more, later, hAll, hPlaces, ?_, ?_, ?_⟩
        · intro b hb
          obtain ⟨p, hp, hKey⟩ := hOwn b hb
          exact ⟨p, mem_params_returning hp, hKey⟩
        · intro hWithout
          refine hNone (List.eq_nil_iff_forall_not_mem.mpr ?_)
          exact fun p hp => hWithout p (mem_params_returning hp)
        · exact fun bound hBound => sends_of_bind hCompile hAll hPlaces hBound

/-- The two rows give their values in different order, and one of them twice;
both count as rows with the same keys. -/
theorem plainRows_readings :
    PlainRows Sample.readings ["x", "x_m1"] Sample.readingRows := by
  refine PlainRows.of_values (by decide) (by decide) (by decide) ?_ (by decide)
  simp only [Sample.readingRows, List.forall_mem_cons, givenKeys]
  refine ⟨fun key => ?_, fun key => ?_, by simp⟩
  · simp
    tauto
  · simp

theorem sameLast_readings : List.Forall₂ SameLast Sample.readingRows Sample.sortedRows := by
  refine .cons ?_ (.cons (fun _ => rfl) .nil)
  intro key
  by_cases hFirst : "x" = key
  · subst hFirst
    rfl
  · by_cases hSecond : "x_m1" = key
    · subst hSecond
      rfl
    · simp [lastGiven, hFirst, hSecond]

/-- The key `x_m1` of a column meets the key that the first column has in the
second row. The names differ all the same. -/
theorem compile_readings :
    ∃ c, (Statement.insert (ofRows Sample.readings ["x", "x_m1"] Sample.readingRows
        Sample.bonus)).compile Sample.target .placeholders = .ok c ∧
      c.binds.map (·.name) = ["x_m0", "x_m1_m0", "x_m1", "x_m1_m1", "bonus"] ∧
      c.bind {} = .ok [("x_m0", .int 1), ("x_m1_m0", .int 2), ("x_m1", .int 3),
        ("x_m1_m1", .int 4), ("bonus", .int 5)] := by
  obtain ⟨c, hCompile, hFound⟩ := exists_ok_of_toOption
    (x := (Statement.insert (ofRows Sample.readings ["x", "x_m1"] Sample.readingRows
      Sample.bonus)).compile Sample.target .placeholders)
    (f := fun c => (c.binds.map (·.name), c.bind {}))
    (y := (["x_m0", "x_m1_m0", "x_m1", "x_m1_m1", "bonus"],
      .ok [("x_m0", .int 1), ("x_m1_m0", .int 2), ("x_m1", .int 3), ("x_m1_m1", .int 4),
        ("bonus", .int 5)])) (by decide)
  exact ⟨c, hCompile, congrArg Prod.fst hFound, congrArg Prod.snd hFound⟩

theorem compile_plain_rows_readings :
    Sample.readings.checked = .ok Sample.readings ∧
      PlainRows Sample.readings ["x", "x_m1"] Sample.readingRows ∧
      Fits Sample.target ["x", "x_m1"] 2 ∧
      (∃ insert c bound values rest,
        Parts.build ⟨Sample.readings, Sample.readingRows, none, Sample.bonus⟩ = .ok insert ∧
        Parts.build ⟨Sample.readings, Sample.sortedRows, none, Sample.bonus⟩ = .ok insert ∧
        (Statement.insert insert).compile Sample.target .placeholders = .ok c ∧
        c.binds.map (·.name) = ["x_m0", "x_m1_m0", "x_m1", "x_m1_m1", "bonus"] ∧
        c.bind {} = .ok bound ∧ c.positionalValues bound = values ++ rest ∧
        List.Forall₂ BindInfo.Sends
          (cells Sample.target Sample.readings ["x", "x_m1"] Sample.readingRows) values) ∧
      ∃ names, Parts.build ⟨Sample.readings,
          [[("z", .value (.int 1))], [("y", .value (.int 2)), ("z", .value (.int 3))]],
          none, []⟩ = .error (.unconsumed names) ∧
        names.Pairwise (· < ·) ∧ "y" ∈ names ∧ "z" ∈ names := by
  have hTable : Sample.readings.checked = .ok Sample.readings := rfl
  have hFits : Fits Sample.target ["x", "x_m1"] 2 := ⟨by decide, by decide⟩
  obtain ⟨_, hPlain⟩ := compile_plain_rows Sample.readings hTable Sample.readingRows Sample.bonus
  obtain ⟨insert, hBuild, hSame, hTarget⟩ := hPlain _ plainRows_readings
  obtain ⟨_, _, _, _, hCompiled⟩ := hTarget Sample.target hFits
  obtain rfl : ofRows Sample.readings ["x", "x_m1"] Sample.readingRows Sample.bonus = insert :=
    Except.ok.inj ((plainRows_readings.build_eq Sample.bonus).symm.trans hBuild)
  obtain ⟨c, hCompile, hBindNames, hBound⟩ := compile_readings
  obtain ⟨_, _, _, _, _, _, hValues⟩ := hCompiled c hCompile
  obtain ⟨values, rest, hSplit, _, hSends⟩ := hValues _ hBound
  obtain ⟨hUnknown, _⟩ := compile_plain_rows Sample.readings hTable
    [[("z", .value (.int 1))], [("y", .value (.int 2)), ("z", .value (.int 3))]] []
  obtain ⟨names, hRefused, hOrder, hNames⟩ := hUnknown ⟨"z", by decide, by decide⟩
  exact ⟨hTable, plainRows_readings, hFits,
    ⟨_, c, _, values, rest, hBuild, hSame _ sameLast_readings, hCompile,
      hBindNames, hBound, hSplit, hSends⟩,
    names, hRefused, hOrder, (hNames "y").mpr ⟨by decide, by decide⟩,
    (hNames "z").mpr ⟨by decide, by decide⟩⟩

/-- The number of parameters is not that of the cells alone: a value handed back
brings its own. -/
theorem not_forall_plain_rows :
    ¬∀ (table : Table) (keys : List String) (rows : List Assignments) (returning : List Expr)
      (insert : Insert) (t : Target) (c : Compiled), table.checked = .ok table →
      PlainRows table keys rows → Fits t keys rows.length →
      Parts.build ⟨table, rows, none, returning⟩ = .ok insert →
      (Statement.insert insert).compile t .placeholders = .ok c →
      c.binds.length = rows.length * (table.keyed keys).length := by
  intro hAll
  obtain ⟨c, hCompile, hBindNames, _⟩ := compile_readings
  have hCount : c.binds.length = 5 := by simpa using congrArg List.length hBindNames
  have hCells : c.binds.length = 4 :=
    hAll Sample.readings ["x", "x_m1"] Sample.readingRows Sample.bonus _ Sample.target c rfl
      plainRows_readings ⟨by decide, by decide⟩ (plainRows_readings.build_eq Sample.bonus) hCompile
  omega

end Insert

end SqlStatements
