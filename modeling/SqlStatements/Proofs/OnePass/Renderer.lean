import SqlStatements.Compiled.Compile
import SqlStatements.Proofs.Tree.Tour

/-! Rendering in one pass. A renderer writes the text of a tree while it walks through it, with a
state that is handed on from part to part. Where it stands is part of the state: a query that is
entered changes it, and has to change it back. A SELECT whose page has to be picked by row
numbers is rewritten on the way. The state also keeps a record of what has been rendered. -/
namespace SqlStatements

/-- Where rendering stands: all that is to be as before once a part has been
rendered. -/
structure Place where
  setting : Setting
  depth : Nat
  /-- The tables of the enclosing SELECTs, of the innermost one last. -/
  scopes : List (List TableRef)

namespace Place

def target (p : Place) : Target := p.setting.target

def scope (p : Place) : Scope := ⟨p.depth, p.scopes.flatten⟩

def nested (p : Place) : Place := { p with depth := p.depth + 1 }

def providing (p : Place) (tables : List TableRef) : Place :=
  { p with scopes := p.scopes ++ [tables] }

def isolated (p : Place) : Place := { p with scopes := [] }

end Place

/-- What has been rendered. Nothing of it is looked at while rendering goes
on. -/
structure Trace where
  /-- The parts of trees that rendering has come to, in this order. -/
  met : List TreePart := []
  /-- The SELECTs among them in whose place their page was rendered. -/
  rewritten : List Select := []
  /-- The members of compound queries that were put into a derived table, and its number. -/
  wrapped : List (Query × Nat) := []
  /-- The tables that SELECTs without a FROM clause were given. -/
  implied : List TableRef := []

def Trace.append (T U : Trace) : Trace :=
  ⟨T.met ++ U.met, T.rewritten ++ U.rewritten, T.wrapped ++ U.wrapped, T.implied ++ U.implied⟩

instance : Append Trace := ⟨Trace.append⟩

/-- The state of rendering. -/
structure Rendering where
  place : Place
  ledger : Ledger
  /-- The columns of the result rows so far. -/
  columns : List ResultColumn
  trace : Trace

def addColumns (t : Target) (columns : List ResultColumn) (fields : List OutputField) :
    List ResultColumn :=
  columns ++ resultColumns t columns.length fields

@[simp] theorem addColumns_nil (t : Target) (columns : List ResultColumn) :
    addColumns t columns [] = columns := List.append_nil _

/-- Columns may be added in one go or in two; their positions come out the
same. -/
theorem addColumns_append (t : Target) (columns : List ResultColumn)
    (first second : List OutputField) : addColumns t columns (first ++ second) =
      addColumns t (addColumns t columns first) second := by
  simp only [addColumns, resultColumns_append, List.length_append, length_resultColumns,
    List.append_assoc]

def Rendering.initial (setting : Setting) : Rendering := ⟨⟨setting, 0, []⟩, {}, [], {}⟩

/-- Renders a text, or fails. Either way the state has changed. -/
def Renderer : Type := Rendering → EStateM.Result Error Rendering String

def Renderer.outcome (x : Renderer) (S : Rendering) : Except Error String :=
  match x S with
  | .ok text _ => .ok text
  | .error e _ => .error e

/-- The state after rendering, whether it has failed or not. -/
def Renderer.after (x : Renderer) (S : Rendering) : Rendering :=
  match x S with
  | .ok _ S' => S'
  | .error _ S' => S'

/-- How the page of a SELECT is rendered, given whether it is the outermost
query. -/
abbrev PageRenderer := Bool → Select → Renderer

namespace Renderer

def append (x y : Renderer) : Renderer := fun S =>
  match x S with
  | .error e S => .error e S
  | .ok a S =>
    match y S with
    | .error e S => .error e S
    | .ok b S => .ok (a ++ b) S

instance : Append Renderer := ⟨append⟩

def fail (e : Error) : Renderer := fun S => .error e S

/-- One piece, as it is written out with what has been decided so far. -/
def piece (piece : Piece) : Renderer := fun S =>
  match S.ledger.writePiece S.place.setting piece with
  | .ok (text, ledger) => .ok text { S with ledger }
  | .error e => .error e S

def pieces : Draft → Renderer
  | [] => fun S => .ok "" S
  | p :: ps => piece p ++ pieces ps

def text (x : String) : Renderer := pieces [.text x]

/-- Depends on what is rendered for. -/
def forTarget (f : Target → Renderer) : Renderer := fun S => f S.place.target S

/-- Depends on the place. -/
def forScope (f : Scope → Renderer) : Renderer := fun S => f S.place.scope S

/-- Goes to another place and comes back, also after a failure. The way back
knows the place that was left. -/
def elsewhere (go : Place → Place) (back : Place → Place → Place) (x : Renderer) : Renderer :=
  fun S =>
    match x { S with place := go S.place } with
    | .ok a S' => .ok a { S' with place := back S.place S'.place }
    | .error e S' => .error e { S' with place := back S.place S'.place }

def nested : Renderer → Renderer :=
  elsewhere Place.nested fun _ p => { p with depth := p.depth - 1 }

def providing (tables : List TableRef) : Renderer → Renderer :=
  elsewhere (·.providing tables) fun _ p => { p with scopes := p.scopes.dropLast }

/-- With no tables in sight; those of before are put aside. -/
def isolated : Renderer → Renderer :=
  elsewhere Place.isolated fun before p => { p with scopes := before.scopes }

/-- Adds to the trace before something is rendered. -/
def traced (entries : Trace) (x : Renderer) : Renderer :=
  fun S => x { S with trace := S.trace ++ entries }

/-- Takes down what has been met. -/
def meet (parts : List TreePart) : Renderer → Renderer := traced { met := parts }

/-- A table that a SELECT without a FROM clause is given. -/
def impliedTable (ref : TableRef) : Renderer :=
  traced { met := (FromItem.table ref).tour, implied := [ref] } <| pieces ref.draft

/-- Adds columns to the result row, behind those that are there. -/
def recording (fields : List OutputField) (x : Renderer) : Renderer := fun S =>
  match x S with
  | .error e S => .error e S
  | .ok a S => .ok a { S with columns := addColumns S.place.target S.columns fields }

def join (separator : String) : List Renderer → Renderer
  | [] => pieces []
  | [x] => x
  | x :: xs => x ++ (text separator ++ join separator xs)

def parens (wanted : Bool) (x : Renderer) : Renderer :=
  if wanted then text "(" ++ (x ++ text ")") else x

def clause (word : String) : Option Renderer → Renderer
  | some x => text word ++ x
  | none => pieces []

def listClause (word : String) (xs : List Renderer) : Renderer :=
  if xs.isEmpty then pieces [] else text word ++ join ", " xs

section Operands

def operand (e : Expr) (x : Renderer) : Renderer := x.parens (e.strength ≤ Expr.predicateStrength)

def isNull (e : Expr) (x : Renderer) (negated : Bool) : Renderer :=
  operand e x ++ text (" IS " ++ negation negated ++ "NULL")

def binary (t : Target) (op : BinaryOp) (left right : Expr) (l r : Renderer) : Renderer :=
  let equality := op = .eq ∨ op = .notEq
  let negated := op = .notEq
  if equality ∧ right.isNullLiteral then isNull left l negated
  else if equality ∧ t.caps.scalarComparison = false ∧ right.isScalar then
    operand left l ++ (text (" " ++ negation negated ++ "IN ") ++ r)
  else if equality ∧ t.caps.scalarComparison = false ∧ left.isScalar then
    operand right r ++ (text (" " ++ negation negated ++ "IN ") ++ l)
  else
    l.parens (left.needsParens op) ++ (text (" " ++ t.profile.operator op ++ " ") ++
      r.parens (right.needsParens op))

def inList (e : Expr) (x : Renderer) (items : List Renderer) (negated : Bool) : Renderer :=
  if items.isEmpty then text (if negated then "(1 = 1)" else "(1 = 0)")
  else
    operand e x ++ (text (" " ++ negation negated ++ "IN (") ++ (join ", " items ++ text ")"))

def extract (t : Target) (field : String) (x : Renderer) : Renderer :=
  text (t.profile.extract.frame field).1 ++ (x ++ text (t.profile.extract.frame field).2)

def window (partitionBy orderBy : List Renderer) : Renderer :=
  join " " ((if partitionBy.isEmpty then [] else [listClause "PARTITION BY " partitionBy]) ++
    if orderBy.isEmpty then [] else [listClause "ORDER BY " orderBy])

def overWindow (t : Target) (name : String) : Option Renderer → Renderer
  | none => pieces []
  | some window =>
    if t.caps.windowFunctions then text " OVER (" ++ (window ++ text ")")
    else fail (t.unsupported (.windowFunction name))

def call (t : Target) (name : String) (args : List Renderer) (distinct : Bool)
    (window : Option Renderer) : Renderer :=
  match t.profile.functions.lookup (Text.lower name) with
  | some (.keyword word) => text word
  | spelling =>
    let written :=
      match spelling with
      | some (.rename other) => other
      | _ => name
    text (written ++ "(" ++ if distinct then "DISTINCT " else "") ++
      (join ", " args ++ (text ")" ++ overWindow t name window))

end Operands

section Clauses

def order (t : Target) (limited : Bool) (terms : List Renderer) : Renderer :=
  forScope fun sc => if sc.keepsOrder t limited then listClause " ORDER BY " terms else pieces []

def withClause (t : Target) (ctes : List Cte) (xs : List Renderer) : Renderer :=
  if ctes.isEmpty then pieces []
  else
    text (if (ctes.any (·.recursive)) && t.profile.recursiveWord then "WITH RECURSIVE "
      else "WITH ") ++ (join ", " xs ++ text " ")

def cte (name : String) (columns : List String) (query : Renderer) : Renderer :=
  pieces (.name name ::
    if columns.isEmpty then [] else .text " (" :: (Draft.names columns ++ [.text ")"])) ++
    (text " AS (" ++ (query ++ text ")"))

def derived (t : Target) (name : String) (lateral : Bool) (query : Renderer) : Renderer :=
  if lateral ∧ t.caps.lateral = .unsupported then fail (t.unsupported (.lateral name))
  else
    text (if lateral ∧ t.caps.lateral = .keyword then "LATERAL (" else "(") ++
      (query ++ pieces [.text ") AS ", .name name])

def sources (t : Target) : List FromItem → List Renderer → Renderer
  | _ :: items, x :: xs =>
    let next :=
      match items with
      | [] => pieces []
      | other :: _ =>
        text (if other.isLateral ∧ t.caps.lateral = .apply then " CROSS APPLY " else ", ")
    x ++ next ++ sources t items xs
  | _, _ => pieces []

def apply (t : Target) (kind : JoinKind) (conditional : Bool) (right : Renderer) : Renderer :=
  match kind with
  | .right | .full => fail (t.unsupported (.lateralJoin kind.sql))
  | .inner | .cross | .left =>
    if conditional then fail (t.unsupported .lateralCondition)
    else text (if kind = .left then " OUTER APPLY " else " CROSS APPLY ") ++ right

def joined (t : Target) (kind : JoinKind) (right : FromItem) (l r : Renderer)
    (condition : Option Renderer) : Renderer :=
  l ++
    if right.isLateral ∧ t.caps.lateral = .apply then apply t kind condition.isSome r
    else text (" " ++ kind.sql ++ " ") ++ (r.parens (Draft.isJoin right) ++ clause " ON " condition)

def labelled (label : Option String) (x : Renderer) : Renderer :=
  match label with
  | some label => x ++ pieces [.text " AS ", .name label]
  | none => x

/-- A selected expression under its heading. In the outermost query its columns
are recorded. -/
def column (outermost : Bool) (h : Heading) (x : Renderer) : Renderer :=
  recording (if outermost then h.fields else []) (labelled h.label x)

def columns (hs : Except Error (List Heading)) (outermost : Bool) (xs : List Renderer) :
    Renderer :=
  match hs with
  | .ok hs => join ", " (List.zipWith (column outermost) hs xs)
  | .error e => fail e

/-- A SELECT that is rendered as it stands, given how its parts are rendered. -/
def select (t : Target) (sc : Scope) (outermost : Bool) (s : Select)
    (ctes columns items : List Renderer) (condition : Option Renderer) (groupBy : List Renderer)
    (having : Option Renderer) (orderBy : List Renderer) : Renderer :=
  withClause t s.ctes ctes ++
    (text (if s.distinct then "SELECT DISTINCT " else "SELECT ") ++ (pieces (Draft.top t s.limit) ++
      Renderer.columns (s.headings t sc outermost) outermost columns)) ++
    (if (sc.sources s).isEmpty then pieces []
    else text " FROM " ++ sources t (sc.sources s)
      (if s.sources.isEmpty then (sc.implied s.columns s.condition).map impliedTable
      else items)) ++
    (clause " WHERE " condition ++ listClause " GROUP BY " groupBy ++ clause " HAVING " having ++
      order t (s.limit.isSome || s.offset.isSome) orderBy ++
      pieces (if t.strategy = .limitOffset then Draft.limits s.limit s.offset else []))

end Clauses

end Renderer

/-- The SELECT of all columns of a query in a derived table with a number. -/
def Query.wrappedAs (q : Query) (number : Nat) : Select :=
  { Select.ofColumns [.star none] with
    sources := [.derived q ("anon_" ++ toString number) false] }

def headingFields : Except Error (List Heading) → List OutputField
  | .ok hs => hs.flatMap (·.fields)
  | .error _ => []

/-- The columns of an outermost SELECT at a place, if it is drafted as it
stands. -/
def Select.plainOutputsAt (t : Target) (sc : Scope) (s : Select) : List OutputField :=
  headingFields (s.headings t sc true)

section Tree

open Renderer

mutual

def Expr.render (pg : PageRenderer) : Expr → Renderer
  | .literal v =>
    meet [.visit (.expr (.literal v))] <| forTarget fun t =>
      pieces (Draft.ofExcept (t.profile.literalText t.caps v.type v))
  | .column ref =>
    meet (.visit (.expr (.column ref)) :: (ColumnSource.visits ref.source).map .visit) <|
      pieces ref.draft
  | .param bind =>
    meet [.visit (.expr (.param bind)), .visit (.bind bind)] <| pieces [.param bind false]
  | .binary op l r =>
    meet [.visit (.expr (.binary op l r))] <| forTarget fun t =>
      binary t op l r (l.render pg) (r.render pg)
  | .unary op e =>
    meet [.visit (.expr (.unary op e))] <|
      text op.token ++ (e.render pg).parens (e.needsParensUnder op)
  | .call name args distinct w type =>
    meet [.visit (.expr (.call name args distinct w type))] <| forTarget fun t =>
      call t name (exprRenderers pg args) distinct (windowRenderer pg w)
  | .caseOf o bs e =>
    meet [.visit (.expr (.caseOf o bs e))] <| text "CASE" ++ (clause " " (optionRenderer pg o) ++
      branchesRenderer pg bs ++ clause " ELSE " (optionRenderer pg e) ++ text " END")
  | .cast e type =>
    meet [.visit (.expr (.cast e type))] <| forTarget fun t =>
      text "CAST(" ++ (e.render pg ++ text (" AS " ++ t.profile.typeName t.caps type ++ ")"))
  | .extract field e =>
    meet [.visit (.expr (.extract field e))] <| forTarget fun t => extract t field (e.render pg)
  | .isNull e negated =>
    meet [.visit (.expr (.isNull e negated))] <| isNull e (e.render pg) negated
  | .inList e items negated =>
    meet [.visit (.expr (.inList e items negated))] <|
      inList e (e.render pg) (exprRenderers pg items) negated
  | .inQuery e q negated =>
    meet [.visit (.expr (.inQuery e q negated))] <| operand e (e.render pg) ++
      (text (" " ++ negation negated ++ "IN (") ++ (nested (q.render pg false) ++ text ")"))
  | .between e l h negated =>
    meet [.visit (.expr (.between e l h negated))] <| operand e (e.render pg) ++
      (text (" " ++ negation negated ++ "BETWEEN ") ++
        (operand l (l.render pg) ++ (text " AND " ++ operand h (h.render pg))))
  | .existsIn q negated =>
    meet [.visit (.expr (.existsIn q negated))] <| text (negation negated ++ "EXISTS (") ++
      (nested (q.render pg false) ++ text ")")
  | .scalar q =>
    meet [.visit (.expr (.scalar q))] <| text "(" ++ (nested (q.render pg false) ++ text ")")
  | .label e name => meet [.visit (.expr (.label e name))] <| e.render pg
  | .star none => meet [.visit (.expr (.star none))] <| text "*"
  | .star (some source) =>
    meet (.visit (.expr (.star (some source))) ::
        (ColumnSource.visits (some source)).map .visit) <|
      pieces (source.draft ++ [.text ".*"])
  | .tuple items =>
    meet [.visit (.expr (.tuple items))] <|
      text "(" ++ (join ", " (exprRenderers pg items) ++ text ")")
  | .raw sql => meet [.visit (.expr (.raw sql))] <| text sql

def exprRenderers (pg : PageRenderer) : List Expr → List Renderer
  | [] => []
  | e :: es => e.render pg :: exprRenderers pg es

def optionRenderer (pg : PageRenderer) : Option Expr → Option Renderer
  | none => none
  | some e => some (e.render pg)

def branchesRenderer (pg : PageRenderer) : List Branch → Renderer
  | [] => pieces []
  | ⟨c, r⟩ :: bs =>
    text " WHEN " ++ (c.render pg ++ (text " THEN " ++ (r.render pg ++ branchesRenderer pg bs)))

def orderRenderers (pg : PageRenderer) : List OrderTerm → List Renderer
  | [] => []
  | ⟨e, direction, nulls⟩ :: rest =>
    (e.render pg ++ text (OrderTerm.suffix direction nulls)) :: orderRenderers pg rest

def windowRenderer (pg : PageRenderer) : Option Window → Option Renderer
  | none => none
  | some ⟨partitionBy, orderBy⟩ =>
    some (window (exprRenderers pg partitionBy) (orderRenderers pg orderBy))

def FromItem.render (pg : PageRenderer) : FromItem → Renderer
  | .table ref => meet [.item (.table ref), .visit (.table ref.table)] <| pieces ref.draft
  | .derived q name lateral =>
    meet [.item (.derived q name lateral)] <| forTarget fun t => derived t name lateral <|
      if lateral then nested (q.render pg false) else isolated (nested (q.render pg false))
  | .join kind l r condition =>
    meet [.item (.join kind l r condition)] <| forTarget fun t =>
      joined t kind r (l.render pg) (r.render pg) (optionRenderer pg condition)
  | .cte name => meet [.item (.cte name)] <| pieces [.name name]

def sourceRenderers (pg : PageRenderer) : List FromItem → List Renderer
  | [] => []
  | item :: items => item.render pg :: sourceRenderers pg items

def cteRenderers (pg : PageRenderer) : List Cte → List Renderer
  | [] => []
  | ⟨name, columns, q, recursive⟩ :: rest =>
    (meet [.cte ⟨name, columns, q, recursive⟩] <| cte name columns (nested (q.render pg false))) ::
      cteRenderers pg rest

/-- Renders a SELECT. Its tables are in sight while its clauses are rendered. -/
def Select.render (pg : PageRenderer) (outermost : Bool) : Select → Renderer
  | ⟨ctes, distinct, columns, sources, condition, groupBy, having, orderBy, limit, offset,
      numbered⟩ =>
    let s : Select := ⟨ctes, distinct, columns, sources, condition, groupBy, having, orderBy,
      limit, offset, numbered⟩
    meet [.visit (.select s)] <| forTarget fun t =>
      if s.skipsRows ∧ t.strategy = .top then fail (t.unsupported .offsetWithoutWindows)
      else if s.skipsRows ∧ t.strategy = .rowNumber then
        match s.paged t.profile.name with
        | .ok page => traced { rewritten := [s] } <| pg outermost page
        | .error e => fail e
      else if columns.isEmpty then fail (.conflict .emptySelect)
      else forScope fun sc => providing ((sc.sources s).flatMap FromItem.tables) <|
        Renderer.select t sc outermost s (cteRenderers pg ctes) (exprRenderers pg columns)
          (sourceRenderers pg sources) (optionRenderer pg condition) (exprRenderers pg groupBy)
          (optionRenderer pg having) (orderRenderers pg orderBy)

def Query.render (pg : PageRenderer) (outermost : Bool) : Query → Renderer
  | .select s => s.render pg outermost
  | .compound op members orderBy limit offset =>
    meet [.compound (.compound op members orderBy limit offset)] <| forTarget fun t =>
      if (limit.isSome || offset.isSome) ∧ t.strategy ≠ .limitOffset then
        fail (t.unsupported (.compoundLimit op.sql))
      else
        join (" " ++ op.sql ++ " ") (memberRenderers pg outermost 1 members) ++
          order t (limit.isSome || offset.isSome) (orderRenderers pg orderBy) ++
          pieces (Draft.limits limit offset)

/-- Renders each member of a compound query. One with an order or a limit is
selected from in full. -/
def memberRenderers (pg : PageRenderer) (outermost : Bool) (number : Nat) :
    List Query → List Renderer
  | [] => []
  | q :: qs =>
    (if q.isRestricted then
      traced { met := .member q :: (q.wrappedAs number).shell, wrapped := [(q, number)] } <|
        forTarget fun t => forScope fun sc =>
          recording (if outermost then (q.wrappedAs number).plainOutputsAt t sc else [])
            (text "SELECT * FROM (") ++ (isolated (nested (q.render pg false)) ++
              pieces [.text ") AS ", .name ("anon_" ++ toString number)])
    else meet [.member q] <| parens q.isCompound (q.render pg outermost)) ::
      memberRenderers pg false (number + 1) qs

end

/-- Renders pages up to a depth of pages in each other. -/
def pageRenderer : Nat → PageRenderer
  | 0 => fun _ _ => fail (.conflict .unboundedPaging)
  | depth + 1 => fun outermost s => s.render (pageRenderer depth) outermost

def returningRenderer (pg : PageRenderer) (exprs : List Expr) : Renderer :=
  if exprs.isEmpty then pieces []
  else forTarget fun t =>
    if t.caps.returning then
      text " RETURNING " ++ Renderer.columns (headings t.rules (starView true []) [] exprs) true
        (exprRenderers pg exprs)
    else fail (t.unsupported .returning)

namespace Insert

def cellRenderer (pg : PageRenderer) (generated : Bool) : Expr → Renderer
  | .param bind =>
    meet [.visit (.expr (.param bind)), .visit (.bind bind)] <| pieces [.param bind generated]
  | e => e.render pg

def rowRenderer (pg : PageRenderer) (generated : Option Nat) (row : List Expr) : Renderer :=
  parens true (join ", " (row.mapIdx fun i e => cellRenderer pg (generated = some i) e))

def sourceRenderer (pg : PageRenderer) (table : Table) : InsertSource → Renderer
  | .defaults =>
    forTarget fun t =>
      if t.caps.defaultValues then text " DEFAULT VALUES"
      else if t.caps.emptyInsert then text " () VALUES ()"
      else fail (t.unsupported (.defaultValues table.name))
  | .rows columns cells =>
    forTarget fun t =>
      if 1 < cells.length ∧ t.caps.multiRow = false then
        fail (t.unsupported (.multiRow cells.length))
      else
        text " (" ++ (pieces (Draft.names columns) ++ (text ") VALUES " ++
          join ", " (cells.map (rowRenderer pg (generatedAt table columns)))))
  | .query columns q =>
    text " (" ++ (pieces (Draft.names columns) ++ (text ") " ++ q.render pg false))

def render (pg : PageRenderer) (s : Insert) : Renderer :=
  meet [.visit (.table s.table)] <| pieces [.text "INSERT INTO ", .table s.table] ++
    (sourceRenderer pg s.table s.source ++ returningRenderer pg s.returning)

end Insert

def Update.render (pg : PageRenderer) (s : Update) : Renderer :=
  meet [.visit (.table s.table)] <| pieces [.text "UPDATE ", .table s.table, .text " SET "] ++
    (join ", " (s.assignments.map fun a => pieces [.name a.1, .text " = "] ++ a.2.render pg) ++
      clause " WHERE " (optionRenderer pg s.condition) ++ returningRenderer pg s.returning)

def Delete.render (pg : PageRenderer) (s : Delete) : Renderer :=
  meet [.visit (.table s.table)] <| pieces [.text "DELETE FROM ", .table s.table] ++
    (clause " WHERE " (optionRenderer pg s.condition) ++ returningRenderer pg s.returning)

/-- Renders a statement. -/
def Statement.render (pg : PageRenderer) : Statement → Renderer
  | .query q => q.render pg true
  | .insert s => s.render pg
  | .update s => s.render pg
  | .delete s => s.render pg
  | .createTable table ifNotExists =>
    meet [.visit (.table table)] <| forTarget fun t => pieces (table.createDraft t ifNotExists)
  | .dropTable table ifExists =>
    meet [.visit (.table table)] <| pieces (table.dropDraft ifExists)
  | .createIndex index =>
    meet [.visit (.table index.table)] <| forTarget fun t => pieces (index.createDraft t)
  | .dropIndex index =>
    meet [.visit (.table index.table)] <| forTarget fun t => pieces (index.dropDraft t)

end Tree

end SqlStatements
