import SqlStatements.Proofs.Draft.Params

/-! The marks of the parameters of a draft. Only an insertion marks parameters, and
it marks those in the cells of the generated column. -/
namespace SqlStatements

namespace Draft

variable {d l r : Draft} {ds : List Draft}

def marks (d : Draft) : List Bool :=
  d.filterMap fun
    | .param _ generated => some generated
    | _ => none

@[simp] theorem marks_nil : marks [] = [] := rfl

@[simp] theorem marks_append : marks (l ++ r) = marks l ++ marks r := List.filterMap_append

@[simp] theorem marks_text {x : String} : marks (.text x :: d) = marks d := rfl

@[simp] theorem marks_name {x : String} : marks (.name x :: d) = marks d := rfl

@[simp] theorem marks_table {t : Table} : marks (.table t :: d) = marks d := rfl

@[simp] theorem marks_param {p : BindParam} {generated : Bool} :
    marks (.param p generated :: d) = generated :: marks d := rfl

@[simp] theorem marks_parens {wanted : Bool} : marks (d.parens wanted) = marks d := by
  cases wanted <;> simp [parens]

@[simp] theorem marks_join {separator : String} :
    marks (join separator ds) = ds.flatMap marks := by
  induction ds with
  | nil => rfl
  | cons d ds ih =>
      cases ds with
      | nil => simp [join]
      | cons other ds => simpa [join] using ih

@[simp] theorem marks_names (idents : List String) : marks (names idents) = [] := by
  simp [names]

/-- There is one mark for each parameter, so the two lists can be read side by
side. -/
theorem length_marks (d : Draft) : d.marks.length = d.params.length := by
  induction d with
  | nil => rfl
  | cons piece d ih => cases piece <;> simpa [marks, params] using ih

end Draft

variable {t : Target} {depth : Nat}

/-- An expression marks nothing, whatever it is. Marks belong to the cells of
insertions. -/
theorem Expr.marks_draft (e : Expr) (sc : Scope) :
    (e.draft t (pager t depth) sc).marks =
      List.replicate (e.draft t (pager t depth) sc).params.length false := by
  rw [← Draft.length_marks, List.eq_replicate_iff]
  refine ⟨rfl, ?_⟩
  intro mark hMark
  have hDraws : (e.draft t (pager t depth) sc).Draws fun _ generated => generated = false :=
    e.draft_draws (pager_draws _ t depth) sc fun _ _ => rfl
  obtain ⟨piece, hPiece, hFound⟩ := List.mem_filterMap.mp hMark
  cases piece with
  | param p generated =>
      cases hFound
      exact hDraws _ hPiece
  | text | name | table | source | qualifier | stop => cases hFound

namespace Insert

/-- For each placeholder of the rows, from left to right, the place of the
column in whose cell it stands. -/
def placeholderColumns (t : Target) (s : Insert) : List Nat :=
  match s.source with
  | .rows _ cells =>
    cells.flatMap fun row => (row.mapIdx fun j e =>
      List.replicate (e.draft t (pager t (Statement.insert s).pages) .outermost).params.length
        j).flatten
  | .defaults | .query _ _ => []

/-- A cell that takes a value for the generated column from a parameter, or
leaves it to the server. -/
def Open (e : Expr) : Prop := e = .literal .null ∨ ∃ p, e = .param p

/-- All parameters of a cell have the same mark. A cell for the generated column
must be a parameter or the missing value. -/
theorem marks_cellDraft {e : Expr} {generated : Bool} (h : generated = true → Open e) :
    (cellDraft t (pager t depth) generated e).marks =
      List.replicate (e.draft t (pager t depth) .outermost).params.length generated := by
  cases generated with
  | true =>
      rcases h rfl with rfl | ⟨p, rfl⟩
      · rfl
      · rfl
  | false =>
      rw [cellDraft.eq_def]
      split
      · rfl
      · exact e.marks_draft .outermost

/-- A row marks the placeholders in the cell of the generated column and no
others, one mark for each placeholder. -/
theorem marks_rowDraft {i : Nat} {row : List Expr} (h : ∀ e, row[i]? = some e → Open e) :
    (rowDraft t (pager t depth) (some i) row).marks =
      ((row.mapIdx fun j e =>
        List.replicate (e.draft t (pager t depth) .outermost).params.length j).flatten).map
          (· == i) := by
  rw [rowDraft, Draft.marks_parens, Draft.marks_join, List.flatMap_def, List.map_flatten]
  congr 1
  refine List.ext_getElem (by simp) ?_
  intro j hj _
  have hRow : j < row.length := by simpa using hj
  have hOpen : decide (some i = some j) = true → Open row[j] := by
    intro hEq
    obtain rfl : i = j := by simpa using hEq
    exact h _ (List.getElem?_eq_getElem hRow)
  simp only [List.getElem_map, List.getElem_mapIdx, List.map_replicate, marks_cellDraft hOpen]
  congr 1
  by_cases hSame : i = j
  · simp [hSame]
  · simp [hSame, Ne.symm hSame]

/-- The marks of the rows say which placeholders stand in the generated column,
row by row. -/
theorem marks_sourceDraft {table : Table} {columns : List String} {cells : List (List Expr)}
    {i : Nat} (hGenerated : generatedAt table columns = some i)
    (hCells : ∀ row ∈ cells, ∀ e, row[i]? = some e → Open e)
    (hRows : ¬(1 < cells.length ∧ t.caps.multiRow = false)) :
    (sourceDraft t (pager t depth) table (.rows columns cells)).marks =
      (cells.flatMap fun row => (row.mapIdx fun j e =>
        List.replicate (e.draft t (pager t depth) .outermost).params.length j).flatten).map
          (· == i) := by
  rw [sourceDraft, if_neg hRows, hGenerated]
  simp only [Draft.marks_text, Draft.marks_append, Draft.marks_names, Draft.marks_join,
    List.nil_append, List.flatMap_map, List.map_flatMap]
  exact List.flatMap_congr fun row hRow => marks_rowDraft (hCells row hRow)

end Insert

end SqlStatements
