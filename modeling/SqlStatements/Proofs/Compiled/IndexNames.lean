import SqlStatements.Proofs.Compiled.BindNames
import SqlStatements.Proofs.Identifier.Quote
import SqlStatements.Proofs.Ledger.Spells

/-! The name of an index when it is created and when it is dropped. Creating cuts the name
to the limit of the dialect, dropping does not, so the two agree for names within the limit
only. -/
namespace SqlStatements

namespace Sample

def longIndex : Index :=
  { name := "ix_accounts_balance_for_the_monthly_statements_of_all_our_customers"
    table := accounts, columns := ["balance"], unique := false }

end Sample

/-- Only SQL Server drops an index behind its table. -/
theorem Profile.Identified.qualifiedIndex_iff {identity : String} {p : Profile}
    (h : Identified identity p) :
    p.qualifiedIndex = true ↔
      ∃ driver textAsVarchar, p = SqlServer.profile driver textAsVarchar := by
  constructor
  · intro hQualified
    cases h with
    | standard | postgres => cases hQualified
    | sqlServer driver textAsVarchar rest => exact ⟨driver, textAsVarchar, rfl⟩
  · rintro ⟨driver, textAsVarchar, rfl⟩
    rfl

namespace Index

/-- The text that creates an index under a name as written. -/
def createText (rules : IdentifierRules) (index : Index) (name : String) : String :=
  (if index.unique then "CREATE UNIQUE INDEX " else "CREATE INDEX ") ++ name ++ " ON " ++
    rules.table index.table true ++ " (" ++ Text.join ", " (index.columns.map rules.quote) ++ ")"

/-- The text that drops an index under a name as written. -/
def dropText (p : Profile) (rules : IdentifierRules) (index : Index) (name : String) : String :=
  "DROP INDEX " ++ (if p.qualifiedIndex then rules.table index.table true ++ "." else "") ++ name

/-- The text that creates an index tells its name: two names as written with the
same text are the same. -/
theorem createText_injective (rules : IdentifierRules) (index : Index) :
    Function.Injective (index.createText rules) := by
  intro name other h
  simpa [createText, String.append_assoc] using h

/-- The text that drops an index tells its name, whether or not the table
follows it. -/
theorem dropText_injective (p : Profile) (rules : IdentifierRules) (index : Index) :
    Function.Injective (index.dropText p rules) := by
  intro name other h
  simpa [dropText] using h

end Index

namespace Statement

/-- A statement that leaves nothing open is compiled. No parameter and no alias
has to be decided for it, so it cannot fail. -/
theorem compile_of_spells {t : Target} {mode : ParameterMode} {s : Statement} {text : String}
    (h : (s.draft t).Spells (s.setting t mode) text.toList) :
    ∃ c, s.compile t mode = .ok c ∧ c.sql = text := by
  obtain ⟨texts, hWrite, hText⟩ := h {}
  exact ⟨_, by rw [compile, hWrite]; rfl, String.toList_injective hText⟩

/-- An index is created under its name within the limit of the target. This
always succeeds. -/
theorem compile_createIndex (t : Target) (mode : ParameterMode) (index : Index) :
    ∃ c, (createIndex index).compile t mode = .ok c ∧
      c.sql = index.createText t.rules (t.rules.quote (t.rules.truncate index.name)) := by
  refine compile_of_spells ?_
  have hHead : Draft.Spells ((createIndex index).setting t mode) _ _ :=
    (Draft.spells_text (if index.unique then "CREATE UNIQUE INDEX " else "CREATE INDEX ")).append
      ((Draft.spells_name (t.rules.truncate index.name)).append (Draft.spells_text " ON "))
  have hTail : Draft.Spells ((createIndex index).setting t mode) _ _ :=
    ((Draft.spells_table index.table).append (Draft.spells_text " (")).append
      ((Draft.spells_names index.columns).append (Draft.spells_text ")"))
  simpa [draft, Index.createDraft, Index.createText, setting] using hHead.append hTail

/-- An index is dropped under its name as it stands, which is not cut to any
limit. This always succeeds. -/
theorem compile_dropIndex (t : Target) (mode : ParameterMode) (index : Index) :
    ∃ c, (dropIndex index).compile t mode = .ok c ∧
      c.sql = index.dropText t.profile t.rules (t.rules.quote index.name) := by
  refine compile_of_spells ?_
  have hTarget : t.profile.dropIndexTarget t.rules index =
      (if t.profile.qualifiedIndex then t.rules.table index.table true ++ "." else "") ++
        t.rules.quote index.name := by
    rw [Profile.dropIndexTarget]
    split <;> simp
  have hDraft : Draft.Spells ((dropIndex index).setting t mode) _ _ :=
    (Draft.spells_text "DROP INDEX ").append
      (Draft.spells_text (t.profile.dropIndexTarget t.rules index))
  simpa [draft, Index.dropDraft, Index.dropText, hTarget] using hDraft

/-- An index is created under its name as far as the limit allows, and dropped
under its whole name; SQL Server puts the table in front of it. So the names in
the two texts agree exactly if the name is within the limit. -/
theorem index_names {identity : String} {p : Profile} (h : Profile.Identified identity p)
    (caps : Capabilities) (mode : ParameterMode) (index : Index) :
    ∃ create drop,
      (createIndex index).compile ⟨p, caps⟩ mode = .ok create ∧
      (dropIndex index).compile ⟨p, caps⟩ mode = .ok drop ∧
      create.sql = index.createText (p.rules caps)
        ((p.rules caps).quote ((p.rules caps).truncate index.name)) ∧
      drop.sql = index.dropText p (p.rules caps) ((p.rules caps).quote index.name) ∧
      (p.qualifiedIndex = true ↔
        ∃ driver textAsVarchar, p = SqlServer.profile driver textAsVarchar) ∧
      ∀ created dropped, create.sql = index.createText (p.rules caps) created →
        drop.sql = index.dropText p (p.rules caps) dropped →
          (dropped = created ↔ index.name.length ≤ caps.maxIdentifierLength) := by
  obtain ⟨create, hCreate, hCreated⟩ := compile_createIndex ⟨p, caps⟩ mode index
  obtain ⟨drop, hDrop, hDropped⟩ := compile_dropIndex ⟨p, caps⟩ mode index
  refine ⟨create, drop, hCreate, hDrop, hCreated, hDropped, h.qualifiedIndex_iff, ?_⟩
  intro created dropped hCreate' hDrop'
  rw [index.createText_injective _ (hCreate'.symm.trans hCreated),
    index.dropText_injective _ _ (hDrop'.symm.trans hDropped)]
  exact IdentifierRules.quote_truncate_eq_iff h.opening index.name

/-- A name that is too long for PostgreSQL and not for SQL Server. -/
theorem index_names_long :
    (∃ create drop created dropped,
      (createIndex Sample.longIndex).compile (Postgres.dialect {}).target .placeholders =
        .ok create ∧
      (dropIndex Sample.longIndex).compile (Postgres.dialect {}).target .placeholders = .ok drop ∧
      create.sql = Sample.longIndex.createText (Postgres.dialect {}).rules created ∧
      drop.sql = "DROP INDEX " ++ "" ++ dropped ∧ dropped ≠ created) ∧
    ∃ create drop name,
      (createIndex Sample.longIndex).compile (SqlServer.build .odbc {}).target .placeholders =
        .ok create ∧
      (dropIndex Sample.longIndex).compile (SqlServer.build .odbc {}).target .placeholders =
        .ok drop ∧
      create.sql = Sample.longIndex.createText (SqlServer.build .odbc {}).rules name ∧
      drop.sql = "DROP INDEX " ++ ((SqlServer.build .odbc {}).rules.table Sample.accounts true ++
        ".") ++ name := by
  obtain ⟨create, drop, hCreate, hDrop, hCreated, hDropped, -, hNames⟩ :=
    index_names (.postgres "") (Postgres.defaults {}) .placeholders Sample.longIndex
  obtain ⟨create', drop', hCreate', hDrop', hCreated', hDropped', -, hNames'⟩ :=
    index_names (.sqlServer .odbc false "") (SqlServer.defaults .odbc {}) .placeholders
      Sample.longIndex
  refine ⟨⟨create, drop, _, _, hCreate, hDrop, hCreated, hDropped, ?_⟩,
    create', drop', _, hCreate', hDrop', hCreated', ?_⟩
  · exact fun hSame => absurd ((hNames _ _ hCreated hDropped).mp hSame) (by decide)
  · have hSame := (hNames' _ _ hCreated' hDropped').mpr (by decide)
    rw [hSame] at hDropped'
    exact hDropped'

/-- It is not true that an index is always dropped under the name it was created
under. -/
theorem not_forall_index_names :
    ¬∀ (identity : String) (p : Profile), Profile.Identified identity p →
      ∀ (caps : Capabilities) (mode : ParameterMode) (index : Index) (create drop : Compiled)
        (created dropped : String),
        (createIndex index).compile ⟨p, caps⟩ mode = .ok create →
        (dropIndex index).compile ⟨p, caps⟩ mode = .ok drop →
        create.sql = index.createText (p.rules caps) created →
        drop.sql = index.dropText p (p.rules caps) dropped →
        dropped = created := by
  intro hAll
  obtain ⟨create, hCreate, hCreated⟩ := compile_createIndex
    (Postgres.dialect {}).target .placeholders Sample.longIndex
  obtain ⟨drop, hDrop, hDropped⟩ := compile_dropIndex
    (Postgres.dialect {}).target .placeholders Sample.longIndex
  have hIdentified := Profile.Identified.postgres ""
  have hSame := hAll _ _ hIdentified _ _ Sample.longIndex create drop _ _ hCreate hDrop hCreated
    hDropped
  have hFits := (IdentifierRules.quote_truncate_eq_iff hIdentified.opening _).mp hSame
  exact absurd hFits (by decide)

end Statement

end SqlStatements
