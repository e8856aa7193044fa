import SqlStatements.Proofs.Draft.Worded

/-! The frames of whole statements. A statement that changes rows writes its table, names
and words around the drafts of its largest parts; one that defines or drops something has
no parts. So words lack a sign in the whole draft if the strings of the statement do. -/
namespace SqlStatements

open Text

section Frames

/-- What an insertion writes for a cell: a parameter, which may be marked. -/
def Insert.cellFrame (generated : Bool) : Expr → Draft
  | .param bind => [.param bind generated]
  | _ => []

def Insert.rowFrame (generated : Option Nat) (row : List Expr) : Draft :=
  Draft.parens true <| Draft.join ", " <|
    row.mapIdx fun i e => cellFrame (generated = some i) e

def Insert.sourceFrame (t : Target) (table : Table) : InsertSource → Draft
  | .defaults => sourceDraft t (pager t 0) table .defaults
  | .rows columns cells =>
    .text " (" :: (Draft.names columns ++ .text ") VALUES " ::
      Draft.join ", " (cells.map (rowFrame (generatedAt table columns))))
  | .query columns _ => .text " (" :: (Draft.names columns ++ [.text ") "])

/-- What is written to hand back values. -/
def Draft.returningFrame (t : Target) (exprs : List Expr) : Draft :=
  if exprs.isEmpty then []
  else .text " RETURNING " :: Draft.columns (headings t.rules (starView true []) [] exprs)
    (blanks exprs)

def Statement.frame (t : Target) : Statement → Draft
  | .query _ => []
  | .insert s =>
    .text "INSERT INTO " :: .table s.table ::
      (Insert.sourceFrame t s.table s.source ++ Draft.returningFrame t s.returning)
  | .update s =>
    .text "UPDATE " :: .table s.table :: .text " SET " ::
      (Draft.join ", " (s.assignments.map fun a => [.name a.1, .text " = "]) ++
        Draft.clause " WHERE " (s.condition.map fun _ => []) ++
        Draft.returningFrame t s.returning)
  | .delete s =>
    .text "DELETE FROM " :: .table s.table ::
      (Draft.clause " WHERE " (s.condition.map fun _ => []) ++
        Draft.returningFrame t s.returning)
  | s => s.draft t

/-- The drafts of the largest parts of a statement. -/
def Statement.Inner (t : Target) (s : Statement) (d : Draft) : Prop :=
  ∃ n ∈ s.roots, d = n.draft t (pager t s.pages)

end Frames

variable {t : Target} {D : Draft → Prop} {pager : Pager}

/-- What hands back values is its frame with the expressions put in. Headings
that fail leave no frame, so the draft has to go to its end. -/
theorem Draft.filled_returning {exprs : List Expr}
    (h : ∀ e ∈ exprs, D (e.draft t pager .outermost))
    (hComplete : (returning t pager exprs).Complete) :
    Filled D (returningFrame t exprs) (returning t pager exprs) := by
  rw [returning] at hComplete ⊢
  rw [returningFrame]
  split at hComplete
  · rename_i hEmpty
    rw [if_pos hEmpty, if_pos hEmpty]
    exact .nil
  · rename_i hSome
    rw [if_neg hSome, if_neg hSome]
    split at hComplete
    · rename_i hSupported
      rw [if_pos hSupported]
      exact .piece (.columns (forall₂_exprDrafts h))
    · exact absurd (List.mem_singleton_self _) (hComplete _)

namespace Insert

/-- A cell that is a parameter is all frame, since it may be marked; any other
is a part. -/
theorem filled_cell {generated : Bool} {e : Expr}
    (h : e.isParam = false → D (e.draft t pager .outermost)) :
    Draft.Filled D (cellFrame generated e) (cellDraft t pager generated e) := by
  cases e with
  | param => exact .own _
  | _ => exact .whole (h rfl)

theorem filled_row {generated : Option Nat} {row : List Expr}
    (h : ∀ e ∈ row, e.isParam = false → D (e.draft t pager .outermost)) :
    Draft.Filled D (rowFrame generated row) (rowDraft t pager generated row) := by
  refine .parens (.join (List.forall₂_iff_get.mpr ⟨by simp, fun i hi hi' => ?_⟩))
  have hRow : i < row.length := by simpa using hi
  simpa using filled_cell (h row[i] (List.getElem_mem hRow))

/-- The rows of an insertion are their frame with the largest parts put in. A
query in their place is such a part itself. -/
theorem filled_source {table : Table} {source : InsertSource}
    (h : ∀ n ∈ source.roots, D (n.draft t pager))
    (hComplete : (sourceDraft t pager table source).Complete) :
    Draft.Filled D (sourceFrame t table source) (sourceDraft t pager table source) := by
  cases source with
  | defaults => exact .own _
  | query columns q =>
      exact .piece (.append (.own _) (.piece (.whole (h _ (List.mem_singleton_self _)))))
  | rows columns cells =>
      rw [sourceDraft] at hComplete ⊢
      split at hComplete
      · exact absurd (List.mem_singleton_self _) (hComplete _)
      · rename_i hRows
        rw [if_neg hRows]
        refine .piece (.append (.own _) (.piece (.join ?_)))
        rw [List.forall₂_map_left_iff, List.forall₂_map_right_iff, List.forall₂_same]
        intro row hRow
        refine filled_row fun e he hParam => h _ (List.mem_map_of_mem (List.mem_filter.mpr ?_))
        exact ⟨List.mem_flatten.mpr ⟨row, hRow, he⟩, by rw [hParam]; rfl⟩

end Insert

namespace Statement

/-- The draft of a statement is its frame with the drafts of its largest parts.
Definitions are all frame. -/
theorem filled {s : Statement} (hComplete : (s.draft t).Complete) :
    Draft.Filled (s.Inner t) (s.frame t) (s.draft t) := by
  cases s with
  | query q => exact .whole ⟨_, List.mem_singleton_self _, rfl⟩
  | insert s =>
      have hSource : (Insert.sourceDraft t (SqlStatements.pager t (Statement.insert s).pages)
          s.table s.source).Complete :=
        hComplete.of_part (Draft.infix_cons (Draft.infix_cons (List.prefix_append _ _).isInfix))
      have hReturning : (Draft.returning t (SqlStatements.pager t (Statement.insert s).pages)
          s.returning).Complete :=
        hComplete.of_part (Draft.infix_cons (Draft.infix_cons (List.suffix_append _ _).isInfix))
      exact .piece (.piece (.append
        (Insert.filled_source (fun n hn => ⟨n, List.mem_append_left _ hn, rfl⟩) hSource)
        (Draft.filled_returning (fun e he => ⟨.expr .outermost e,
          List.mem_append_right _ (List.mem_map_of_mem he), rfl⟩) hReturning)))
  | update s =>
      have hReturning : (Draft.returning t (SqlStatements.pager t (Statement.update s).pages)
          s.returning).Complete :=
        hComplete.of_part (Draft.infix_cons (Draft.infix_cons (Draft.infix_cons
          (List.suffix_append _ _).isInfix)))
      have hInner : ∀ e ∈ s.assignments.map (·.2) ++ s.condition.toList ++ s.returning,
          (Statement.update s).Inner t
            (e.draft t (SqlStatements.pager t (Statement.update s).pages) .outermost) :=
        fun e he => ⟨.expr .outermost e, List.mem_map_of_mem he, rfl⟩
      simp only [List.forall_mem_append] at hInner
      refine .piece (.piece (.piece (.append (.append (.join ?_)
        (.clause (rel_optionDraft hInner.1.2))) (Draft.filled_returning hInner.2 hReturning))))
      rw [List.forall₂_map_left_iff, List.forall₂_map_right_iff, List.forall₂_same]
      intro assignment hAssignment
      exact .piece (.piece (.whole (hInner.1.1 _ (List.mem_map_of_mem hAssignment))))
  | delete s =>
      have hReturning : (Draft.returning t (SqlStatements.pager t (Statement.delete s).pages)
          s.returning).Complete :=
        hComplete.of_part (Draft.infix_cons (Draft.infix_cons (List.suffix_append _ _).isInfix))
      have hInner : ∀ e ∈ s.condition.toList ++ s.returning,
          (Statement.delete s).Inner t
            (e.draft t (SqlStatements.pager t (Statement.delete s).pages) .outermost) :=
        fun e he => ⟨.expr .outermost e, List.mem_map_of_mem he, rfl⟩
      simp only [List.forall_mem_append] at hInner
      exact .piece (.piece (.append (.clause (rel_optionDraft hInner.1))
        (Draft.filled_returning hInner.2 hReturning)))
  | createTable | dropTable | createIndex | dropIndex => exact .own _

end Statement

theorem Column.plain_nullText (x : Column) : Plain x.nullText := by
  rw [nullText]
  split
  · decide
  · split <;> decide
  · split <;> decide

section Words

variable {c : Char} {P : String → Prop} (law : Law c P)

include law

namespace Draft

/-- The labels of what is handed back come from the expressions, so they lack
the sign if these do. -/
theorem worded_returningFrame {es : List Expr} (h : LackAll c (exprsStrings es)) :
    Worded c P (returningFrame t es) := by
  rw [returningFrame]
  split
  · exact all_nil
  · exact all_cons.mpr ⟨law.plain (by decide), law.kind.columns
      (errorsInDraft_headings _ _) (fun _ hHeadings => lacks_headings law.sign hHeadings h)
      (all_blanks _)⟩

end Draft

theorem Insert.rowFrame_worded (generated : Option Nat) (row : List Expr) :
    (rowFrame generated row).Worded c P := by
  refine law.kind.parens (law.kind.list fun d hd => ?_)
  obtain ⟨i, hi, rfl⟩ := List.mem_mapIdx.mp hd
  rw [cellFrame.eq_def]
  split <;> simp

theorem Insert.sourceFrame_worded {table : Table} {source : InsertSource}
    (h : LackAll c source.strings) : (sourceFrame t table source).Worded c P := by
  cases source with
  | defaults =>
      simp only [sourceFrame, sourceDraft]
      split_ifs <;> simp +decide [law.plain]
  | rows columns cells =>
      simp only [InsertSource.strings, lackAll_append] at h
      have hRows : ∀ d ∈ cells.map (rowFrame (generatedAt table columns)), d.Worded c P :=
        List.forall_mem_map.mpr fun row _ => rowFrame_worded law _ row
      simp +decide [sourceFrame, law.kind.names h.1, law.kind.list hRows, law.plain]
  | query columns q =>
      simp only [InsertSource.strings, lackAll_append] at h
      simp +decide [sourceFrame, law.kind.names h.1, law.plain]

theorem Constraint.nameDraft_worded {name : Option String} (h : LackAll c name.toList) :
    (nameDraft t name).Worded c P := by
  cases name with
  | none => exact Draft.all_nil
  | some name =>
      have hName : Lacks c (t.rules.truncate name) :=
        IdentifierRules.lacks_truncate law.sign (by simpa using h)
      simp +decide [nameDraft, hName, law.plain]

theorem Constraint.foreignKeyDraft_worded (hp : t.profile.Worded c P)
    {columns targets : List String} {table : String}
    {onDelete onUpdate : Option ReferentialAction} (hColumns : LackAll c columns)
    (hTable : Lacks c table) (hTargets : LackAll c targets) :
    (foreignKeyDraft t columns table targets onDelete onUpdate).Worded c P := by
  have hAction : ∀ action : ReferentialAction, Plain action.sql := by
    intro action
    cases action <;> decide
  have hReference : P (") REFERENCES " ++ t.rules.dotted table ++ " (") :=
    law.between (by decide) (hp.lacks_dotted law hTable) (by decide)
  have hActions : Plain (")" ++ ((onDelete.map fun a => " ON DELETE " ++ a.sql).getD "") ++
      (onUpdate.map fun a => " ON UPDATE " ++ a.sql).getD "") := by
    cases onDelete <;> cases onUpdate <;> simp +decide [hAction]
  simp only [foreignKeyDraft, Draft.all_cons, Draft.all_append, Draft.all_nil, and_true]
  exact ⟨law.plain (by decide), law.kind.names hColumns, hReference,
    law.kind.names hTargets, law.plain hActions⟩

theorem Column.defaultDraft_worded {x : Column} (h : LackAll c x.strings) :
    (x.defaultDraft t).Worded c P := by
  simp only [strings, lackAll_cons, lackAll_append, lackAll_flatMap] at h
  have hInitial := h.2.1.2
  rw [defaultDraft]
  split
  · rename_i v hv
    have hValue := hInitial (.value v) (by simp [hv])
    exact Draft.all_cons.mpr ⟨law.plain (by decide),
      law.kind.ofExcept (t.profile.errorsInDraft_literalText _ _ _) fun _ hText =>
        law.literal hText hValue⟩
  · rename_i sql hSql
    have hText := hInitial (.expression sql) (by simp [hSql])
    simp only [ColumnDefault.strings, lackAll_cons] at hText
    simp +decide [law.lacks hText.1, law.plain]
  · exact Draft.all_nil
  · exact Draft.all_nil

/-- The clause behind a generated column has words and numbers only, negative
ones among them. -/
theorem GeneratedStyle.clause_worded {style : GeneratedStyle} {x : Column} {clause : String}
    (h : style.clause? x = some clause) : P clause := by
  cases style with
  | identity =>
      cases h
      exact law.plain (by decide)
  | serial => cases h
  | seeded =>
      cases h
      exact law.append (law.append (law.append (law.append (law.plain (by decide)) (law.int _))
        (law.plain (by decide))) (law.int _)) (law.plain (by decide))

theorem Column.generatedTexts_worded (hp : t.profile.Worded c P) {x : Column}
    (h : LackAll c x.type.strings) :
    P (x.generatedTexts t).1 ∧ P (x.generatedTexts t).2 := by
  have hEmpty : Plain "" := by decide
  rw [generatedTexts]
  split
  · rename_i type hType
    have hPlain : Plain type := by
      cases hStyle : t.profile.generated <;> rw [hStyle] at hType <;>
        simp only [GeneratedStyle.type?, reduceCtorEq] at hType
      split_ifs at hType <;> cases hType <;> decide
    exact ⟨law.plain hPlain, law.plain hEmpty⟩
  · refine ⟨law.lacks (hp.lacks_typeName law h), ?_⟩
    cases hClause : t.profile.generated.clause? x with
    | none => exact law.plain hEmpty
    | some clause =>
        exact law.append (law.plain (by decide)) (GeneratedStyle.clause_worded law hClause)

/-- The specification of a column keeps to the words if none of its strings has
the sign; the text of a default is one of these strings. -/
theorem Column.draft_worded (hp : t.profile.Worded c P) (generated : Bool) {x : Column}
    (h : LackAll c x.strings) : (x.draft t generated).Worded c P := by
  have hParts := h
  simp only [strings, lackAll_cons, lackAll_append] at hParts
  have hBlank : P " " := law.plain (by decide)
  have hNull := law.plain x.plain_nullText
  rw [draft]
  split
  · have hTexts := generatedTexts_worded law hp hParts.2.1.1
    simp [hParts.1, law.append (law.append (law.append hBlank hTexts.1) hNull) hTexts.2]
  · have hType : P (t.profile.typeName t.caps x.type) :=
      law.lacks (hp.lacks_typeName law hParts.2.1.1)
    simp [hParts.1, law.append (law.append hBlank hType) hNull, defaultDraft_worded law h]

theorem Constraint.draft?_worded (hp : t.profile.Worded c P) {x : Constraint} {d : Draft}
    (h : x.draft? t = some d) (hx : LackAll c x.strings) : d.Worded c P := by
  cases x with
  | primaryKey => cases h
  | foreignKey name columns table targets onDelete onUpdate =>
      cases h
      simp only [strings, lackAll_append, lackAll_cons] at hx
      exact Draft.all_append.mpr ⟨nameDraft_worded law hx.1.1,
        foreignKeyDraft_worded law hp hx.1.2 hx.2.1 hx.2.2⟩
  | unique name columns =>
      cases h
      simp only [strings, lackAll_append] at hx
      simp +decide [nameDraft_worded law hx.1, law.kind.names hx.2, law.plain]
  | check name condition =>
      cases h
      simp only [strings, lackAll_append, lackAll_cons] at hx
      simp +decide [nameDraft_worded law hx.1, law.lacks hx.2.1, law.plain]

theorem Table.primaryKeyDrafts_worded {table : Table} (h : LackAll c table.strings) :
    ∀ d ∈ table.primaryKeyDrafts t, d.Worded c P := by
  simp only [strings, lackAll_append, lackAll_flatMap] at h
  have hName : LackAll c (table.constraints.findSome? Constraint.primaryKeyName?).toList := by
    cases hFound : table.constraints.findSome? Constraint.primaryKeyName? with
    | none => exact lackAll_nil
    | some name =>
        obtain ⟨x, hx, hName⟩ := List.exists_of_findSome?_eq_some hFound
        have hStrings := h.2 x hx
        cases x <;> simp only [Constraint.primaryKeyName?, reduceCtorEq] at hName
        simp only [Constraint.strings, lackAll_append, hName] at hStrings
        exact hStrings.1
  intro d hd
  rw [primaryKeyDrafts] at hd
  split at hd
  · cases hd
  · have hColumns : LackAll c (table.primaryKey.map (·.name)) := by
      intro x hx
      obtain ⟨column, hColumn, rfl⟩ := List.mem_map.mp hx
      obtain ⟨name, _, hFound⟩ := List.mem_filterMap.mp hColumn
      exact (lackAll_cons.mp (h.1.2 column (List.mem_of_find?_eq_some hFound))).1
    rw [List.mem_singleton.mp hd]
    simp +decide [Constraint.nameDraft_worded law hName, law.kind.names hColumns,
      law.plain]

theorem Table.constraintDrafts_worded (hp : t.profile.Worded c P) {table : Table}
    (h : LackAll c table.strings) : ∀ d ∈ table.constraintDrafts t, d.Worded c P := by
  have hParts := h
  simp only [strings, lackAll_append, lackAll_flatMap] at hParts
  obtain ⟨⟨_, hColumns⟩, hConstraints⟩ := hParts
  intro d hd
  simp only [constraintDrafts, List.mem_append] at hd
  rcases hd with ((hd | hd) | hd) | hd
  · exact primaryKeyDrafts_worded law h d hd
  · obtain ⟨x, hx, hd⟩ := List.mem_filterMap.mp hd
    obtain ⟨r, hr, rfl⟩ := Option.map_eq_some_iff.mp hd
    have hColumn := hColumns x hx
    simp only [Column.strings, lackAll_cons, lackAll_append, lackAll_flatMap] at hColumn
    have hReference := hColumn.2.2 r (by simp [hr])
    exact Constraint.foreignKeyDraft_worded law hp (by simpa using hColumn.1) hReference.1
      (by simpa using hReference.2)
  · obtain ⟨x, hx, rfl⟩ := List.mem_map.mp hd
    have hName := (lackAll_cons.mp (hColumns x (List.mem_of_mem_filter hx))).1
    simp +decide [hName, law.plain]
  · obtain ⟨x, hx, hd⟩ := List.mem_filterMap.mp hd
    exact Constraint.draft?_worded law hp hd (hConstraints x hx)

/-- The definition of a table keeps to the words if none of its strings has the
sign. -/
theorem Table.createDraft_worded (hp : t.profile.Worded c P) {table : Table}
    (h : LackAll c table.strings) (ifNotExists : Bool) :
    (table.createDraft t ifNotExists).Worded c P := by
  have hWord : Plain (if ifNotExists then "CREATE TABLE IF NOT EXISTS " else "CREATE TABLE ") := by
    cases ifNotExists <;> decide
  have hColumns := h
  simp only [strings, lackAll_append, lackAll_flatMap] at hColumns
  simp only [createDraft, Draft.all_cons, Draft.all_cons, Draft.all_append,
    Draft.all_nil, and_true]
  refine ⟨law.plain hWord, hColumns.1.1, law.plain (by decide),
    Draft.all_join (law.plain (by decide)) (fun d hd => ?_), law.plain (by decide)⟩
  rcases List.mem_append.mp hd with hd | hd
  · obtain ⟨x, hx, rfl⟩ := List.mem_map.mp hd
    exact Column.draft_worded law hp _ (hColumns.1.2 x hx)
  · exact constraintDrafts_worded law hp h d hd

theorem Profile.Worded.lacks_dropIndexTarget {p : Profile} {caps : Capabilities}
    (hp : p.Worded c P) {index : Index} (hName : Lacks c index.name)
    (hTable : LackAll c index.table.titles) :
    Lacks c (p.dropIndexTarget (p.rules caps) index) := by
  have hPoint : Plain "." := by decide
  rw [Profile.dropIndexTarget]
  split
  · exact lacks_append.mpr ⟨lacks_append.mpr ⟨hp.lacks_table law hTable true,
      hPoint.lacks law.sign⟩, hp.lacks_quote hName⟩
  · exact hp.lacks_quote hName

/-- What a statement writes itself keeps to the words: names of columns,
constraints and indexes count, the expressions do not. -/
theorem Statement.frame_worded (hp : t.profile.Worded c P) {s : Statement}
    (h : LackAll c s.strings) : (s.frame t).Worded c P := by
  cases s with
  | query q => exact Draft.all_nil
  | insert s =>
      simp only [strings, lackAll_append] at h
      simp +decide [frame, Draft.titles_of_strings h.1.1,
        Insert.sourceFrame_worded law h.1.2, Draft.worded_returningFrame law h.2, law.plain]
  | update s =>
      simp only [strings, lackAll_append] at h
      have hAssignments : ∀ d ∈ s.assignments.map fun a => [Piece.name a.1, .text " = "],
          Draft.Worded c P d := by
        refine List.forall_mem_map.mpr fun assignment hAssignment => ?_
        have hName := h.1.1.1.2 _ (List.mem_map_of_mem hAssignment)
        simp +decide [hName, law.plain]
      have hWhere : (Draft.clause " WHERE " (s.condition.map fun _ => [])).Worded c P :=
        Draft.all_blank (law.plain (by decide)) _
      simp +decide [frame, Draft.titles_of_strings h.1.1.1.1, law.kind.list hAssignments,
        hWhere, Draft.worded_returningFrame law h.2, law.plain]
  | delete s =>
      simp only [strings, lackAll_append] at h
      have hWhere : (Draft.clause " WHERE " (s.condition.map fun _ => [])).Worded c P :=
        Draft.all_blank (law.plain (by decide)) _
      simp +decide [frame, Draft.titles_of_strings h.1.1, hWhere,
        Draft.worded_returningFrame law h.2, law.plain]
  | createTable table ifNotExists => exact Table.createDraft_worded law hp h ifNotExists
  | dropTable table ifExists =>
      have hTitles := Draft.titles_of_strings h
      cases ifExists <;> simp +decide [frame, draft, Table.dropDraft, hTitles, law.plain]
  | createIndex index =>
      simp only [strings, lackAll_cons, lackAll_append] at h
      have hWord : Plain (if index.unique then "CREATE UNIQUE INDEX " else "CREATE INDEX ") := by
        split <;> decide
      have hName : Lacks c (t.rules.truncate index.name) :=
        IdentifierRules.lacks_truncate law.sign h.1
      simp +decide [frame, draft, Index.createDraft, law.plain hWord, hName,
        Draft.titles_of_strings h.2.1, law.kind.names h.2.2, law.plain]
  | dropIndex index =>
      simp only [strings, lackAll_cons, lackAll_append] at h
      have hTarget : P (t.profile.dropIndexTarget t.rules index) :=
        law.lacks (hp.lacks_dropIndexTarget law h.1 (Draft.titles_of_strings h.2.1))
      simp +decide [frame, draft, Index.dropDraft, hTarget, law.plain]

/-- Where a negation keeps to the words as well, so does the whole draft of a
node. -/
theorem Node.draft_worded (hp : t.profile.Worded c P) (hMinus : P "-") {depth : Nat} {n : Node}
    (hComplete : (n.draft t (SqlStatements.pager t depth)).Complete) :
    LackAll c n.strings → (n.draft t (SqlStatements.pager t depth)).Worded c P := by
  refine induction (t := t) (P := fun depth n => LackAll c n.strings →
    (n.draft t (SqlStatements.pager t depth)).Worded c P) ?_ depth n hComplete
  intro depth n hComplete ih h
  refine ((filled hComplete).complete hComplete).induct Draft.all_nil
    (fun _ _ hl hr => Draft.all_append.mpr ⟨hl, hr⟩) ?_ ?_
  · intro piece hPiece
    exact List.forall_mem_singleton.mpr
      (frame_worded law hp h (fun _ _ _ => hMinus) piece hPiece)
  · rintro d ⟨⟨m, inner, hPart, hLess, rfl⟩, hInner⟩
    exact ih inner m hPart hLess hInner (hPart.lackAll law.sign h)

/-- Where a negation keeps to the words as well, so does the whole draft of a
statement. -/
theorem Statement.draft_worded (hp : t.profile.Worded c P) (hMinus : P "-") {s : Statement}
    (h : LackAll c s.strings) (hComplete : (s.draft t).Complete) : (s.draft t).Worded c P := by
  refine ((filled hComplete).complete hComplete).induct Draft.all_nil
    (fun _ _ hl hr => Draft.all_append.mpr ⟨hl, hr⟩) ?_ ?_
  · intro piece hPiece
    exact List.forall_mem_singleton.mpr (frame_worded law hp h piece hPiece)
  · rintro d ⟨⟨n, hRoot, rfl⟩, hInner⟩
    exact Node.draft_worded law hp hMinus hInner (lackAll_root hRoot h)

end Words

end SqlStatements
