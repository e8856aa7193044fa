import SqlStatements.Compiled.Ledger
import SqlStatements.Dialect.Basic

/-! Compiling a statement: it is drafted for its target, and the draft is
written out. -/
namespace SqlStatements

/-- Whether a cell puts a value for the generated column into the text. -/
def Expr.putsValue (mode : ParameterMode) : Expr → Bool
  | .literal .null => false
  | .param p =>
    match mode, p.value with
    | .placeholders, _ => false
    | .literals, some .null | .literals, none => false
    | .literals, some _ => true
  | _ => true

namespace Insert

/-- Where values for the generated column come from. The names are those of the
parameters for it. -/
def identity? (s : Insert) (mode : ParameterMode) (names : List String) :
    Option IdentitySource :=
  match s.source with
  | .defaults => none
  | .rows columns cells =>
    match generatedAt s.table columns with
    | none => none
    | some i =>
      if cells.any fun row => (row[i]?.map (Expr.putsValue mode)).getD false then some .inline
      else if names.isEmpty then none
      else some (.bound names)
  | .query columns _ =>
    match s.table.autoIncrementColumn? with
    | some c => if columns.contains c.name then some .inline else none
    | none => none

def info (s : Insert) (t : Target) (mode : ParameterMode) (names : List String) : InsertInfo :=
  let generated := s.table.autoIncrementColumn?
  let identity := s.identity? mode names
  { table := s.table, generated, identity
    fetchesId := t.caps.fetchesLastId && generated.isSome && s.returning.isEmpty &&
      identity.isNone && decide (s.rowCount ≤ 1) }

end Insert

/-- A column of a result row at a position, with its conversion. -/
def OutputField.column (t : Target) (position : Nat) (f : OutputField) : ResultColumn :=
  ⟨position, f.name, f.type, t.profile.resultConversion t.caps f.type⟩

/-- Columns of a result row, behind those that have been recorded. -/
def resultColumns (t : Target) (recorded : Nat) (fields : List OutputField) : List ResultColumn :=
  fields.mapIdx fun i f => f.column t (recorded + i)

@[simp] theorem length_resultColumns (t : Target) (recorded : Nat) (fields : List OutputField) :
    (resultColumns t recorded fields).length = fields.length := List.length_mapIdx

/-- The first field is a column at the number of those recorded, and the others
follow it from the next position on. -/
theorem resultColumns_cons (t : Target) (recorded : Nat) (f : OutputField)
    (fields : List OutputField) : resultColumns t recorded (f :: fields) =
      f.column t recorded :: resultColumns t (recorded + 1) fields := by
  rw [resultColumns, List.mapIdx_cons, resultColumns]
  simp only [Nat.add_zero, Nat.add_assoc, Nat.add_comm 1]

/-- Fields recorded in two goes have the positions they would have in one: the
second part counts from behind the first. -/
theorem resultColumns_append (t : Target) (recorded : Nat) (first second : List OutputField) :
    resultColumns t recorded (first ++ second) =
      resultColumns t recorded first ++ resultColumns t (recorded + first.length) second := by
  rw [resultColumns, List.mapIdx_append]
  simp only [resultColumns, Nat.add_assoc, Nat.add_comm first.length]

/-- Columns are recorded without gaps: each has the number of those recorded
before it as its position. -/
theorem positions_resultColumns (t : Target) (recorded : Nat) (fields : List OutputField) :
    (resultColumns t recorded fields).map (·.position) = List.range' recorded fields.length := by
  induction fields generalizing recorded with
  | nil => rfl
  | cons f fields ih => rw [resultColumns_cons, List.map_cons, ih]; rfl

/-- What does not depend on the position of a column is read off its field,
however many columns have been recorded before. -/
theorem map_resultColumns {α : Type} {t : Target} (view : ResultColumn → α)
    (h : ∀ position f, view (OutputField.column t position f) = view (f.column t 0))
    (recorded : Nat) (fields : List OutputField) :
    (resultColumns t recorded fields).map view = fields.map fun f => view (f.column t 0) := by
  induction fields generalizing recorded with
  | nil => rfl
  | cons f fields ih => rw [resultColumns_cons, List.map_cons, List.map_cons, ih, h]

namespace Statement

def setting (t : Target) (mode : ParameterMode) (s : Statement) : Setting :=
  { target := t, mode, reserved := s.sharedNames t.rules, changed := s.changes? }

def insertInfo? (t : Target) (mode : ParameterMode) (names : List String) :
    Statement → Option InsertInfo
  | .insert s => some (s.info t mode names)
  | _ => none

def compile (t : Target) (mode : ParameterMode) (s : Statement) : Except Error Compiled := do
  let (texts, L) ← Ledger.write (s.setting t mode) {} (s.draft t)
  return {
    sql := String.join texts
    binds := L.binds
    positional := L.positional
    placeholders := t.profile.placeholders
    columns := resultColumns t 0 (s.outputs t)
    kind := s.kind
    insert := s.insertInfo? t mode L.generated
    returning := s.returns
    dialect := t.profile.name }

end Statement

/-- The target of a dialect as far as its capabilities are known. -/
def Dialect.target (d : Dialect) : Target := ⟨d.profile, d.capabilities⟩

end SqlStatements
