import SqlStatements.Proofs.Compiled.BindNames
import SqlStatements.Proofs.Ledger.Forget

/-! The text of a compiled statement does not depend on the values of its
parameters, nor does anything else that is compiled, apart from the values
themselves. A compiled statement can be kept and run again with other values. -/
namespace SqlStatements

/-- The compiled statement without the values its parameters were made with. -/
def Compiled.forget (c : Compiled) : Compiled := { c with binds := c.binds.map BindInfo.forget }

/-- A parameter for the generated column stays a parameter, so whether a value
is put into the text does not change. -/
theorem Expr.putsValue_forget (e : Expr) :
    e.forget.putsValue .placeholders = e.putsValue .placeholders := by
  cases e <;> rfl

/-- Where the values of a generated column come from does not depend on the
values, if parameters stay open. -/
theorem Insert.identity?_forget (s : Insert) (names : List String) :
    s.forget.identity? .placeholders names = s.identity? .placeholders names := by
  obtain ⟨table, source, returning⟩ := s
  cases source with
  | defaults => rfl
  | rows columns cells =>
      have hCell : ∀ (i : Nat) (row : List Expr),
          (exprsForget row)[i]?.map (Expr.putsValue .placeholders) =
            row[i]?.map (Expr.putsValue .placeholders) := by
        intro i row
        simp [Function.comp_def, Expr.putsValue_forget]
      simp only [identity?, Insert.forget, InsertSource.forget, List.any_map, Function.comp_def,
        hCell]
  | query columns q => rfl

theorem Insert.rowCount_forget (s : Insert) : s.forget.rowCount = s.rowCount := by
  obtain ⟨_, source, _⟩ := s
  cases source <;> simp [rowCount, forget, InsertSource.forget]

namespace Statement

variable {t : Target} {s : Statement} {c : Compiled}

/-- The setting has the kinds and the names of parameters only, so it stays the
same without their values. -/
theorem setting_forget (mode : ParameterMode) (s : Statement) :
    s.forget.setting t mode = s.setting t mode := by
  have hShared : s.forget.sharedNames t.rules = s.sharedNames t.rules := by
    rw [sharedNames, sharedNames, binds_forget, List.filter_map, List.map_map]
    rfl
  have hChanges : s.forget.changes? = s.changes? := by cases s <;> rfl
  rw [setting, setting, hShared, hChanges]

theorem kind_forget (s : Statement) : s.forget.kind = s.kind := by
  cases s <;> rfl

theorem returns_forget (s : Statement) : s.forget.returns = s.returns := by
  cases s <;> simp [forget, returns, Insert.forget, Update.forget, Delete.forget]

/-- What running an insertion needs to know is the same without the values of
its parameters. Where values are written out this would not hold. -/
theorem insertInfo?_forget (s : Statement) (names : List String) :
    s.forget.insertInfo? t .placeholders names = s.insertInfo? t .placeholders names := by
  cases s with
  | insert s =>
      simp only [forget, insertInfo?, Insert.info, Insert.identity?_forget, Insert.rowCount_forget]
      simp [Insert.forget]
  | query | update | delete | createTable | dropTable | createIndex | dropIndex => rfl

/-- A statement that compiles also compiles without its values, to the same
compiled statement without them. -/
theorem compile_forget (ht : t.strategy ≠ .rowNumber) (h : s.compile t .placeholders = .ok c) :
    s.forget.compile t .placeholders = .ok c.forget := by
  obtain ⟨texts, L, hWrite, rfl⟩ := exists_ledger_of_compile h
  have hForget : Ledger.write (s.forget.setting t .placeholders) {} (s.forget.draft t) =
      .ok (texts, L.forget) := by
    rw [draft_forget ht, setting_forget]
    exact Ledger.write_forget rfl hWrite
  simp only [compile, hForget, outputs_forget ht, kind_forget, insertInfo?_forget, returns_forget]
  rfl

/-- Values never reach the text. Where pages are not picked by row numbers, two
statements that differ in the values of their parameters only, be they present
or missing, have the same text, the same parameters up to these values, the same
positions, the same result columns, and the same knowledge about an insertion,
the source of its ids included. -/
theorem compile_ignores_values (t : Target)
    (ht : t.strategy = .limitOffset ∨ t.strategy = .top) (s s' : Statement)
    (hSame : s.forget = s'.forget) (c c' : Compiled) (h : s.compile t .placeholders = .ok c)
    (h' : s'.compile t .placeholders = .ok c') :
    c.sql = c'.sql ∧
    c.binds.map (fun b => (b.name, b.key, b.type, b.conversion, b.unique)) =
      c'.binds.map (fun b => (b.name, b.key, b.type, b.conversion, b.unique)) ∧
    c.positional = c'.positional ∧
    c.columns = c'.columns ∧
    c.kind = c'.kind ∧
    c.insert = c'.insert := by
  have hPages : t.strategy ≠ .rowNumber := by
    rcases ht with ht | ht <;> rw [ht] <;> decide
  have hForget : c.forget = c'.forget := by
    have hBoth := compile_forget hPages h
    rw [hSame, compile_forget hPages h'] at hBoth
    exact (Except.ok.inj hBoth).symm
  simp only [Compiled.forget, Compiled.mk.injEq] at hForget
  obtain ⟨hSql, hBinds, hPositional, _, hColumns, hKind, hInsert, _, _⟩ := hForget
  refine ⟨hSql, ?_, hPositional, hColumns, hKind, hInsert⟩
  have hSeen := congrArg
    (List.map fun b : BindInfo => (b.name, b.key, b.type, b.conversion, b.unique)) hBinds
  rw [List.map_map, List.map_map] at hSeen
  exact hSeen

/-- A row with a captured id, and the same row with all values missing. -/
theorem compile_ignores_values_insert :
    ∃ c c', Sample.insert.compile Sample.target .placeholders = .ok c ∧
      Sample.insert.forget.compile Sample.target .placeholders = .ok c' ∧
      c.binds.map (·.value) = [some (.int 7), some (.int 8)] ∧
      c'.binds.map (·.value) = [none, none] ∧
      c.sql = c'.sql ∧ c.positional = c'.positional ∧ c.insert = c'.insert := by
  obtain ⟨c, h, hValues⟩ := exists_ok_of_toOption
    (x := Sample.insert.compile Sample.target .placeholders)
    (f := fun c => c.binds.map (·.value)) (y := [some (.int 7), some (.int 8)])
    (by decide)
  obtain ⟨c', h', hMissing⟩ := exists_ok_of_toOption
    (x := Sample.insert.forget.compile Sample.target .placeholders)
    (f := fun c => c.binds.map (·.value)) (y := [none, none]) (by decide)
  obtain ⟨hSql, _, hPositional, _, _, hInsert⟩ := compile_ignores_values Sample.target (.inl rfl)
    Sample.insert Sample.insert.forget rfl c c' h h'
  exact ⟨c, c', h, h', hValues, hMissing, hSql, hPositional, hInsert⟩

end Statement

end SqlStatements
