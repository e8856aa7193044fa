import SqlStatements.Proofs.Compiled.BindNames
import SqlStatements.Proofs.OnePass.Agreement

/-! What rendering leaves as it was. Whatever part of a statement is rendered, and from whatever
state, the ledger only grows, and rendering ends at the place where it started, also if it
fails. -/
namespace SqlStatements

section Growth

namespace Ledger

/-- Where the shared parameter of a name stands among all. -/
def sharedAt? (L : Ledger) (name : String) : Option Nat :=
  L.binds.findIdx? fun b => !b.unique && b.name == name

/-- A ledger that has grown, together with all that is looked up in it. -/
structure Grows (L L' : Ledger) : Prop where
  binds : ∃ kept added, L'.binds = kept ++ added ∧ List.Forall₂ BindInfo.Fills L.binds kept
  positional : L.positional <+: L'.positional
  /-- Shared parameters are found where they were. -/
  shared : ∀ name i, L.sharedAt? name = some i → L'.sharedAt? name = some i
  /-- The names in use. -/
  names : L.names <+: L'.names
  /-- Tables keep their aliases. -/
  aliases : ∀ key name, L.aliases.lookup key = some name → L'.aliases.lookup key = some name
  /-- The aliases in use. -/
  taken : L.aliases.map (·.2) <+: L'.aliases.map (·.2)

/-- A list whose elements are related to those of another one at the same places
begins with the counterpart of that one. -/
theorem exists_kept {α : Type} {R : α → α → Prop} {l l' : List α}
    (h : ∀ (i : Nat) (a : α), l[i]? = some a → ∃ a', l'[i]? = some a' ∧ R a a') :
    ∃ kept added, l' = kept ++ added ∧ List.Forall₂ R l kept := by
  induction l generalizing l' with
  | nil => exact ⟨[], l', rfl, .nil⟩
  | cons a l ih =>
      obtain ⟨a', hFirst, hRelated⟩ := h 0 a rfl
      cases l' with
      | nil => cases hFirst
      | cons b l' =>
          cases hFirst
          obtain ⟨kept, added, rfl, hKept⟩ := ih fun i => h (i + 1)
          exact ⟨a' :: kept, added, rfl, .cons hRelated hKept⟩

/-- Filling in values changes no name of a parameter. -/
theorem map_known_of_fills {bs kept : List BindInfo} (h : List.Forall₂ BindInfo.Fills bs kept) :
    kept.map (fun b => (b.unique, b.name)) = bs.map (fun b => (b.unique, b.name)) := by
  induction h with
  | nil => rfl
  | cons hFirst _ ih => rw [List.map_cons, List.map_cons, ih, hFirst.unique, hFirst.name]

/-- What has been decided is looked up as before: names, places of shared
parameters, and aliases. -/
theorem Extends.grows {L L' : Ledger} (h : L.Extends L') : L.Grows L' := by
  obtain ⟨kept, added, hBinds, hKept⟩ := exists_kept h.binds
  have hKnown := map_known_of_fills hKept
  obtain ⟨more, hAliases⟩ := h.aliases
  refine ⟨⟨kept, added, hBinds, hKept⟩, h.positional, ?_, ?_, ?_, h.aliases.map _⟩
  · intro name i hFound
    have hSame : kept.findIdx? (fun b => !b.unique && b.name == name) = some i := by
      have hMapped := congrArg (List.findIdx? fun k => !k.1 && k.2 == name) hKnown
      rw [List.findIdx?_map, List.findIdx?_map] at hMapped
      exact hMapped.trans hFound
    rw [sharedAt?, hBinds, List.findIdx?_append, hSame]
    rfl
  · have hNames : kept.map (·.name) = L.names := by
      have hMapped := congrArg (List.map Prod.snd) hKnown
      rwa [List.map_map, List.map_map] at hMapped
    rw [names, names, hBinds, List.map_append, hNames]
    exact List.prefix_append _ _
  · intro key name hName
    rw [← hAliases, List.lookup_append, hName]
    rfl

end Ledger

end Growth

namespace Renderer.Writes

variable {x : Renderer} {d : Draft} {fields : List OutputField} {S : Rendering}

/-- The text, or the failure, is that of the draft, written out with the ledger
that rendering started from. -/
theorem outcome_eq (h : x.Writes S.place d fields) :
    x.outcome S = (S.ledger.write S.place.setting d).map fun r => String.join r.1 := by
  cases hWrite : S.ledger.write S.place.setting d with
  | error e =>
      obtain ⟨S', hRun, -⟩ := h.failed rfl hWrite
      rw [outcome, hRun]
      rfl
  | ok r =>
      obtain ⟨trace, hRun⟩ := h.written rfl hWrite
      rw [outcome, hRun]
      rfl

/-- Rendering ends where it started, after a success and after a failure. -/
theorem place_after (h : x.Writes S.place d fields) : (x.after S).place = S.place := by
  cases hWrite : S.ledger.write S.place.setting d with
  | error e =>
      obtain ⟨S', hRun, hPlace⟩ := h.failed rfl hWrite
      rw [Renderer.after, hRun]
      exact hPlace
  | ok r =>
      obtain ⟨trace, hRun⟩ := h.written rfl hWrite
      rw [Renderer.after, hRun]

/-- After a success the ledger is that of the draft, and the fields have been
recorded. -/
theorem after_ok (h : x.Writes S.place d fields) {text : String} (hText : x.outcome S = .ok text) :
    (∃ texts, S.ledger.write S.place.setting d = .ok (texts, (x.after S).ledger)) ∧
      (x.after S).columns = addColumns S.place.target S.columns fields := by
  rw [h.outcome_eq] at hText
  obtain ⟨⟨texts, L⟩, hWrite, -⟩ := exists_ok_of_map_ok hText
  obtain ⟨trace, hRun⟩ := h.written rfl hWrite
  rw [Renderer.after, hRun]
  exact ⟨⟨texts, hWrite⟩, rfl⟩

end Renderer.Writes

/-- A part of a statement that is rendered by itself. -/
inductive Fragment where
  | expr (e : Expr)
  /-- An item of a FROM clause. -/
  | item (source : FromItem)
  | query (q : Query) (outermost : Bool)
  /-- The columns of a SELECT with its FROM items. The values that a change of rows hands back
  are those of an outermost SELECT without any. -/
  | columns (exprs : List Expr) (sources : List FromItem) (outermost : Bool)

namespace Sample

/-- A state within two queries. A parameter that has been met has no value
yet. -/
def halfway : Rendering :=
  { place := ⟨⟨target, .placeholders, ["limit"], none⟩, 2, [[.plain accounts]]⟩
    ledger :=
      { binds := [⟨"owner", "owner", .of .integer, none, none, false⟩], positional := ["owner"] }
    columns := [], trace := {} }

/-- A question about a derived table that brings the value. -/
def owned : Fragment :=
  .expr (.existsIn (.select { Select.ofColumns [.star none] with
    sources := [.derived (.select (Select.ofColumns
      [.label (.param ⟨"owner", some (.int 7), .of .integer, false⟩) "id"])) "owners" false] })
    false)

end Sample

namespace Fragment

def outermost : Fragment → Bool
  | .expr _ | .item _ => false
  | .query _ outermost | .columns _ _ outermost => outermost

def render (pg : PageRenderer) : Fragment → Renderer
  | .expr e => e.render pg
  | .item source => source.render pg
  | .query q outermost => q.render pg outermost
  | .columns exprs sources outermost => .forTarget fun t =>
    .columns (headings t.rules (starView outermost sources) [] exprs) outermost
      (exprRenderers pg exprs)

def draft (t : Target) (pager : Pager) (sc : Scope) : Fragment → Draft
  | .expr e => e.draft t pager sc
  | .item source => source.draft t pager sc
  | .query q outermost => q.draft t pager sc outermost
  | .columns exprs sources outermost =>
    Draft.columns (headings t.rules (starView outermost sources) [] exprs)
      (exprDrafts t pager sc exprs)

def outputsAt (t : Target) (sc : Scope) : Fragment → List OutputField
  | .expr _ | .item _ => []
  | .query q outermost => if outermost then q.outputsAt t sc else []
  | .columns exprs sources outermost =>
    if outermost then headingFields (headings t.rules (starView outermost sources) [] exprs)
    else []

/-- Only the outermost query records columns. -/
theorem outputsAt_nested {x : Fragment} (h : x.outermost = false) (t : Target) (sc : Scope) :
    x.outputsAt t sc = [] := by
  cases x with
  | expr | item => rfl
  | query q outermost =>
      rw [show outermost = false from h]
      rfl
  | columns exprs sources outermost =>
      rw [show outermost = false from h]
      rfl

/-- Every part that can be rendered by itself agrees with its draft. -/
theorem writes_render {st : Setting} {pg : PageRenderer} {pager : Pager}
    (hPages : pg.Writes st pager) (x : Fragment) (p : Place) (hp : p.setting = st) :
    (x.render pg).Writes p (x.draft p.target pager p.scope) (x.outputsAt p.target p.scope) := by
  cases x with
  | expr e => exact e.writes_render hPages p hp
  | item source => exact source.writes_render hPages p hp
  | query q outermost => exact q.writes_render hPages p outermost hp
  | columns exprs sources outermost =>
      rw [render, draft, outputsAt]
      refine Renderer.writes_forTarget ?_
      exact (writes_exprRenderers hPages exprs p hp).columns (fun _ => length_drafts_of_headings)
        outermost

/-- Whatever is rendered, and from whatever state, the text is that of the
draft. What has been decided before stays, up to values that are filled in;
columns are recorded for the outermost query only, and for values that are
handed back, and are numbered on from those that are there. Rendering ends at
the place where it started, with the same setting, also if it fails. -/
theorem render_frame (x : Fragment) (depth : Nat) (S : Rendering) :
    (x.render (pageRenderer depth)).outcome S =
      (S.ledger.write S.place.setting (x.draft S.place.target (pager S.place.target depth)
        S.place.scope)).map (fun r => String.join r.1) ∧
    ((x.render (pageRenderer depth)).after S).place = S.place ∧
    ∀ text, (x.render (pageRenderer depth)).outcome S = .ok text →
      S.ledger.Grows ((x.render (pageRenderer depth)).after S).ledger ∧
      ((x.render (pageRenderer depth)).after S).columns = S.columns ++
        resultColumns S.place.target S.columns.length
          (x.outputsAt S.place.target S.place.scope) ∧
      (x.outermost = false → ((x.render (pageRenderer depth)).after S).columns = S.columns) := by
  have hWrites := x.writes_render (writes_pageRenderer S.place.setting depth) S.place rfl
  refine ⟨hWrites.outcome_eq, hWrites.place_after, fun text hText => ?_⟩
  obtain ⟨⟨texts, hWrite⟩, hColumns⟩ := hWrites.after_ok hText
  refine ⟨(Ledger.write_extends hWrite).grows, hColumns, fun hNested => ?_⟩
  rw [hColumns, outputsAt_nested hNested, addColumns_nil]

/-- The value is filled in, and the tables in sight are back after the derived
table. -/
theorem render_frame_halfway :
    (Sample.owned.render (pageRenderer 0)).outcome Sample.halfway =
        .ok "EXISTS (SELECT * FROM (SELECT ? AS id) AS owners)" ∧
      ((Sample.owned.render (pageRenderer 0)).after Sample.halfway).place = Sample.halfway.place ∧
      Sample.halfway.ledger.Grows
        ((Sample.owned.render (pageRenderer 0)).after Sample.halfway).ledger ∧
      ((Sample.owned.render (pageRenderer 0)).after Sample.halfway).ledger.binds =
        [⟨"owner", "owner", .of .integer, some (.int 7), none, false⟩] := by
  obtain ⟨-, hPlace, hOk⟩ := render_frame Sample.owned 0 Sample.halfway
  have hText : (Sample.owned.render (pageRenderer 0)).outcome Sample.halfway =
      .ok "EXISTS (SELECT * FROM (SELECT ? AS id) AS owners)" := by decide +kernel
  exact ⟨hText, hPlace, (hOk _ hText).1, by decide +kernel⟩

end Fragment

end SqlStatements
