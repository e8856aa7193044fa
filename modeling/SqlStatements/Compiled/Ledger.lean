import SqlStatements.Compiled.Basic

/-! The ledger keeps what has been decided while a draft is written out from
left to right: the names of parameters and the aliases of tables. It only
grows. -/
namespace SqlStatements

/-- What stays fixed while a draft is written out. -/
structure Setting where
  target : Target
  mode : ParameterMode
  /-- Names kept for shared parameters. -/
  reserved : List String
  /-- The table whose rows are changed, which gets no alias. -/
  changed : Option TableKey

/-- What has been decided so far. -/
structure Ledger where
  binds : List BindInfo := []
  positional : List String := []
  /-- The aliases of tables. -/
  aliases : List (TableKey × String) := []
  /-- The names of parameters for the generated column, row by row. -/
  generated : List String := []
deriving DecidableEq

/-- A parameter at its first occurrence. -/
def BindParam.info (p : BindParam) (t : Target) (name : String) : BindInfo :=
  { name, key := p.key, type := p.type, value := p.value
    conversion := t.profile.bindConversion t.caps p.type, unique := p.unique }

/-- A shared parameter at a later occurrence. Types have to agree, and values
where both have one; a missing value is filled in. -/
def BindInfo.absorb (b : BindInfo) (p : BindParam) : Except Error BindInfo :=
  if b.type ≠ p.type then .error (.bindConflict b.name (.types b.type.kind.name p.type.kind.name))
  else
    match b.value, p.value with
    | some v, some w => if v = w then .ok b else .error (.bindConflict b.name .values)
    | none, some w => .ok { b with value := some w }
    | _, none => .ok b

namespace Ledger

/-- Finds the shared parameter of a name among parameters, and lets it absorb
another occurrence. Yields its place and the parameters after that. -/
def share (name : String) (p : BindParam) :
    List BindInfo → Except Error (Option (Nat × List BindInfo))
  | [] => .ok none
  | b :: bs =>
    if b.unique = false ∧ b.name = name then do
      let b' ← b.absorb p
      return some (0, b' :: bs)
    else do
      let found ← share name p bs
      return found.map fun (i, bs') => (i + 1, b :: bs')

def add (L : Ledger) (b : BindInfo) : Ledger := { L with binds := L.binds ++ [b] }

/-- A parameter: its place among all, its name, and whether it is new. -/
def bind (s : Setting) (L : Ledger) (p : BindParam) :
    Except Error (Nat × String × Bool × Ledger) :=
  let rules := s.target.rules
  if p.unique then do
    let name ← rules.fresh p.key (L.binds.map (·.name) ++ s.reserved) 0
    return (L.binds.length, name, true, L.add (p.info s.target name))
  else do
    let name := rules.truncate p.key
    match ← share name p L.binds with
    | some (i, binds) => return (i, name, false, { L with binds })
    | none => return (L.binds.length, name, true, L.add (p.info s.target name))

def slot (s : Setting) (L : Ledger) (p : BindParam) (generated : Bool) :
    Except Error (String × Ledger) := do
  let style := s.target.profile.placeholders
  let (i, name, new, L) ← L.bind s p
  let positional := if new || style.repeats then L.positional ++ [name] else L.positional
  let marked := if generated then L.generated ++ [name] else L.generated
  return (style.placeholder name (i + 1), { L with positional, generated := marked })

def literal (s : Setting) (p : BindParam) : Except Error String :=
  match p.value with
  | none => .error (.literal p.key .noValue)
  | some v =>
    if v.isNull then .ok "NULL"
    else
      match s.target.profile.literalStyle s.target.caps p.type with
      | none => .error (.literal p.key (.noSpelling p.type.kind.name))
      | some style =>
        match style.render v with
        | .error (.literal _ cause) => .error (.literal p.key cause)
        | result => result

/-- The alias of a table, which is chosen at the first occurrence. Only tables
of a schema get one, and never the table whose rows are changed. -/
def alias? (s : Setting) (L : Ledger) (key : TableKey) : Except Error (Option String × Ledger) :=
  match L.aliases.lookup key with
  | some name => .ok (some name, L)
  | none =>
    if key.schema.isNone ∨ s.target.caps.aliasQualified = false ∨ s.changed = some key then
      .ok (none, L)
    else do
      let name ← s.target.rules.fresh key.name (L.aliases.map (·.2)) 1
      return (some name, { L with aliases := L.aliases ++ [(key, name)] })

def writePiece (s : Setting) (L : Ledger) : Piece → Except Error (String × Ledger)
  | .text x => .ok (x, L)
  | .name ident => .ok (s.target.rules.quote ident, L)
  | .table t => .ok (s.target.rules.table t true, L)
  | .source t => do
    let (name?, L) ← L.alias? s t.key
    match name? with
    | some name => return (s.target.rules.table t true ++ " AS " ++ s.target.rules.quote name, L)
    | none => return (s.target.rules.table t true, L)
  | .qualifier t => do
    let (name?, L) ← L.alias? s t.key
    match name? with
    | some name => return (s.target.rules.quote name, L)
    | none => return (s.target.rules.table t true, L)
  | .param p generated =>
    match s.mode with
    | .placeholders => L.slot s p generated
    | .literals => do return (← literal s p, L)
  | .stop e => .error e

/-- Writes out a draft, piece by piece. -/
def write (s : Setting) (L : Ledger) : Draft → Except Error (List String × Ledger)
  | [] => .ok ([], L)
  | p :: ps => do
    let (text, L) ← L.writePiece s p
    let (texts, L) ← write s L ps
    return (text :: texts, L)

end Ledger

end SqlStatements
