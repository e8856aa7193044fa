import Mathlib.Data.List.Forall2
import SqlStatements.Proofs.Draft.Select
import SqlStatements.Proofs.Ledger.Step
import SqlStatements.Proofs.OnePass.Renderer

/-! Rendering in one pass does what drafting and writing out do: it yields the same text, it
decides the same names, and it fails for the same reason. What it changes about its place it
changes back. Each way to put renderers together goes with a way to put drafts together. -/
namespace SqlStatements

/-- A draft that cannot be written out stops whatever follows it. -/
theorem Ledger.write_append_of_error {s : Setting} {L : Ledger} {d : Draft} {err : Error}
    (h : L.write s d = .error err) (e : Draft) : L.write s (d ++ e) = .error err := by
  induction d generalizing L with
  | nil => cases h
  | cons piece d ih =>
      rw [List.cons_append, write]
      rcases error_of_bind_error h with hPiece | ⟨⟨text, M⟩, hPiece, hRest⟩
      · rw [hPiece]
        rfl
      · rcases error_of_bind_error hRest with hRest | ⟨⟨texts, N⟩, _, hDone⟩
        · rw [hPiece]
          show (M.write s (d ++ e) >>= fun r => pure (text :: r.1, r.2)) = _
          rw [ih hRest]
          rfl
        · cases hDone

/-- At the given place, the renderer does what writing out the draft does. If
that succeeds, it adds the columns of the given fields to the result row. It
stays at its place, or comes back to it. -/
structure Renderer.Writes (x : Renderer) (p : Place) (d : Draft) (fields : List OutputField) :
    Prop where
  written : ∀ {S : Rendering} {texts : List String} {L : Ledger}, S.place = p →
    S.ledger.write p.setting d = .ok (texts, L) →
    ∃ trace, x S = .ok (String.join texts) ⟨p, L, addColumns p.target S.columns fields, trace⟩
  failed : ∀ {S : Rendering} {e : Error}, S.place = p → S.ledger.write p.setting d = .error e →
    ∃ S', x S = .error e S' ∧ S'.place = p

namespace Renderer

variable {x y : Renderer} {p : Place} {d d' : Draft} {fields fields' : List OutputField}

/-- Two renderers one after the other write the two drafts one after the other.
If the first fails, so does writing out the first draft. -/
theorem Writes.append (hx : x.Writes p d fields) (hy : y.Writes p d' fields') :
    (x ++ y).Writes p (d ++ d') (fields ++ fields') where
  written := by
    intro S texts L hPlace h
    obtain ⟨xs, ys, M, hFirst, hSecond, rfl⟩ := Ledger.exists_write_append h
    obtain ⟨trace, hRun⟩ := hx.written hPlace hFirst
    obtain ⟨trace', hRun'⟩ := hy.written
      (S := ⟨p, M, addColumns p.target S.columns fields, trace⟩) rfl hSecond
    refine ⟨trace', ?_⟩
    show Renderer.append x y S = _
    simp only [Renderer.append, hRun, hRun', String.join_append, addColumns_append]
  failed := by
    intro S e hPlace h
    show ∃ S', Renderer.append x y S = _ ∧ _
    cases hFirst : S.ledger.write p.setting d with
    | error e' =>
        rw [Ledger.write_append_of_error hFirst] at h
        cases h
        obtain ⟨S', hRun, hBack⟩ := hx.failed hPlace hFirst
        exact ⟨S', by simp only [Renderer.append, hRun], hBack⟩
    | ok r =>
        obtain ⟨xs, M⟩ := r
        obtain ⟨trace, hRun⟩ := hx.written hPlace hFirst
        cases hSecond : M.write p.setting d' with
        | ok r =>
            rw [Ledger.write_append hFirst hSecond] at h
            cases h
        | error e' =>
            rw [Ledger.write_append_error hFirst hSecond] at h
            cases h
            obtain ⟨S', hRun', hBack⟩ := hy.failed
              (S := ⟨p, M, addColumns p.target S.columns fields, trace⟩) rfl hSecond
            exact ⟨S', by simp only [Renderer.append, hRun, hRun'], hBack⟩

/-- A renderer that records nothing, followed by one that may. -/
theorem Writes.before (hx : x.Writes p d []) (hy : y.Writes p d' fields) :
    (x ++ y).Writes p (d ++ d') fields :=
  hx.append hy

/-- A renderer that may record something, followed by one that does not. -/
theorem Writes.after (hx : x.Writes p d fields) (hy : y.Writes p d' []) :
    (x ++ y).Writes p (d ++ d') fields := by
  have h := hx.append hy
  rwa [List.append_nil] at h

/-- A failure is a draft that stops. It records nothing, so any columns may be
claimed for it. -/
theorem writes_fail (p : Place) (e : Error) (fields : List OutputField) :
    (fail e).Writes p [.stop e] fields where
  written := fun _ h => by cases h
  failed := by
    intro S e' hPlace h
    cases h
    exact ⟨S, rfl, hPlace⟩

/-- A single piece is written out with what has been decided so far, and nothing
else is looked at. -/
theorem writes_piece (p : Place) (q : Piece) : (piece q).Writes p [q] [] where
  written := by
    rintro S texts L rfl h
    obtain ⟨text, M, rest, hPiece, hRest, rfl⟩ := Ledger.write_cons h
    cases hRest
    refine ⟨S.trace, ?_⟩
    simp only [piece, hPiece, String.join_cons, String.join_nil, String.append_empty,
      addColumns_nil]
  failed := by
    rintro S e rfl h
    rcases error_of_bind_error h with hPiece | ⟨⟨text, M⟩, _, hRest⟩
    · exact ⟨S, by simp only [piece, hPiece], rfl⟩
    · cases hRest

theorem writes_pieces (p : Place) (d : Draft) : (pieces d).Writes p d [] := by
  induction d with
  | nil =>
      constructor
      · rintro S texts L rfl h
        cases h
        exact ⟨S.trace, by simp [pieces]⟩
      · intro S e _ h
        cases h
  | cons q d ih => exact (writes_piece p q).append ih

theorem writes_text (p : Place) (s : String) : (text s).Writes p [.text s] [] :=
  writes_pieces p _

/-- What depends on the target is rendered for the target of its place. -/
theorem writes_forTarget {f : Target → Renderer} (h : (f p.target).Writes p d fields) :
    (forTarget f).Writes p d fields where
  written := by
    rintro S texts L rfl hWrite
    exact h.written rfl hWrite
  failed := by
    rintro S e rfl hWrite
    exact h.failed rfl hWrite

theorem writes_forScope {f : Scope → Renderer} (h : (f p.scope).Writes p d fields) :
    (forScope f).Writes p d fields where
  written := by
    rintro S texts L rfl hWrite
    exact h.written rfl hWrite
  failed := by
    rintro S e rfl hWrite
    exact h.failed rfl hWrite

/-- Who goes elsewhere comes back, if the way there can be undone. The setting
must stay the same on the way. -/
theorem writes_elsewhere {go : Place → Place} {back : Place → Place → Place}
    (hSetting : (go p).setting = p.setting) (hBack : back p (go p) = p)
    (h : x.Writes (go p) d fields) : (elsewhere go back x).Writes p d fields where
  written := by
    rintro S texts L rfl hWrite
    rw [← hSetting] at hWrite
    obtain ⟨trace, hRun⟩ := h.written (S := { S with place := go S.place }) rfl hWrite
    refine ⟨trace, ?_⟩
    simp only [elsewhere, hRun, hBack, Place.target, hSetting]
  failed := by
    rintro S e rfl hWrite
    rw [← hSetting] at hWrite
    obtain ⟨S', hRun, hPlace⟩ := h.failed (S := { S with place := go S.place }) rfl hWrite
    refine ⟨{ S' with place := back S.place S'.place }, by simp only [elsewhere, hRun], ?_⟩
    show back S.place S'.place = S.place
    rw [hPlace, hBack]

/-- One level deeper and back again leaves the place as it was. -/
theorem Writes.nested (h : x.Writes p.nested d fields) : (nested x).Writes p d fields :=
  writes_elsewhere rfl rfl h

theorem Writes.isolated (h : x.Writes p.isolated d fields) : (isolated x).Writes p d fields :=
  writes_elsewhere rfl rfl h

theorem Writes.providing {tables : List TableRef} (h : x.Writes (p.providing tables) d fields) :
    (providing tables x).Writes p d fields := by
  refine writes_elsewhere rfl ?_ h
  simp only [Place.providing, List.dropLast_concat]

/-- What is written does not depend on the trace, and the trace plays no part in
agreement with a draft. -/
theorem Writes.traced (h : x.Writes p d fields) (entries : Trace) :
    (traced entries x).Writes p d fields where
  written := @fun S _ _ => h.written (S := { S with trace := S.trace ++ entries })
  failed := @fun S _ => h.failed (S := { S with trace := S.trace ++ entries })

theorem Writes.meet (h : x.Writes p d fields) (parts : List TreePart) :
    (meet parts x).Writes p d fields := h.traced _

/-- Columns are recorded behind those that the part itself has recorded, and
only if it does not fail. -/
theorem Writes.recording (h : x.Writes p d fields) (more : List OutputField) :
    (recording more x).Writes p d (fields ++ more) where
  written := by
    intro S texts L hPlace hWrite
    obtain ⟨trace, hRun⟩ := h.written hPlace hWrite
    refine ⟨trace, ?_⟩
    simp only [Renderer.recording, hRun, addColumns_append]
  failed := by
    intro S e hPlace hWrite
    obtain ⟨S', hRun, hBack⟩ := h.failed hPlace hWrite
    exact ⟨S', by simp only [Renderer.recording, hRun], hBack⟩

theorem writes_nothing (p : Place) : (pieces []).Writes p [] [] := writes_pieces p []

/-- Renderers, each with its draft, and the fields that all of them record. -/
inductive WritesAll (p : Place) : List Renderer → List Draft → List OutputField → Prop where
  | nil : WritesAll p [] [] []
  | cons {x : Renderer} {d : Draft} {fields : List OutputField} {xs : List Renderer}
      {ds : List Draft} {more : List OutputField} (first : x.Writes p d fields)
      (rest : WritesAll p xs ds more) : WritesAll p (x :: xs) (d :: ds) (fields ++ more)

/-- A list is rendered in its order, with the columns of its members one after
the other. -/
theorem WritesAll.join {xs : List Renderer} {ds : List Draft} (h : WritesAll p xs ds fields)
    (separator : String) : (join separator xs).Writes p (Draft.join separator ds) fields := by
  induction h with
  | nil => exact writes_nothing p
  | cons hFirst hRest ih =>
      cases hRest with
      | nil =>
          rw [List.append_nil]
          exact hFirst
      | cons hNext hLater => exact hFirst.append ((writes_text p separator).before ih)

/-- Renderers that record nothing, each with its draft. -/
abbrev WritesEach (p : Place) (xs : List Renderer) (ds : List Draft) : Prop :=
  List.Forall₂ (fun x d => x.Writes p d []) xs ds

/-- An optional renderer that records nothing, with its draft. -/
abbrev WritesSome (p : Place) (x : Option Renderer) (d : Option Draft) : Prop :=
  Option.Rel (fun x d => x.Writes p d []) x d

variable {xs : List Renderer} {ds : List Draft} {o : Option Renderer} {od : Option Draft}

theorem writesEach_map {α : Type} {l : List α} {f : α → Renderer} {g : α → Draft}
    (h : ∀ a ∈ l, (f a).Writes p (g a) []) : WritesEach p (l.map f) (l.map g) :=
  List.forall₂_map_left_iff.mpr (List.forall₂_map_right_iff.mpr (List.forall₂_same.mpr h))

/-- Both lists are empty or neither is, so the same clauses are left out. -/
theorem WritesEach.isEmpty (h : WritesEach p xs ds) : xs.isEmpty = ds.isEmpty := by
  cases h <;> rfl

theorem WritesEach.all (h : WritesEach p xs ds) : WritesAll p xs ds [] := by
  induction h with
  | nil => exact .nil
  | cons hFirst _ ih => exact .cons hFirst ih

theorem WritesEach.join (h : WritesEach p xs ds) (separator : String) :
    (join separator xs).Writes p (Draft.join separator ds) [] :=
  h.all.join separator

theorem Writes.parens (h : x.Writes p d fields) (wanted : Bool) :
    (x.parens wanted).Writes p (d.parens wanted) fields := by
  cases wanted with
  | false => exact h
  | true => exact (writes_text p "(").before (h.after (writes_text p ")"))

theorem WritesSome.clause (h : WritesSome p o od) (word : String) :
    (clause word o).Writes p (Draft.clause word od) [] := by
  cases h with
  | none => exact writes_nothing p
  | some h => exact (writes_text p word).append h

theorem WritesEach.listClause (h : WritesEach p xs ds) (word : String) :
    (listClause word xs).Writes p (Draft.listClause word ds) [] := by
  rw [Renderer.listClause, Draft.listClause, h.isEmpty]
  split
  · exact writes_nothing p
  · exact (writes_text p word).append (h.join ", ")

theorem Writes.operand (h : x.Writes p d fields) (e : Expr) :
    (operand e x).Writes p (Draft.operand e d) fields :=
  h.parens _

theorem Writes.isNull (h : x.Writes p d []) (e : Expr) (negated : Bool) :
    (isNull e x negated).Writes p (Draft.isNull e d negated) [] :=
  (h.operand e).append (writes_text p _)

/-- The two take the same form of the operation, since that is decided by the
expressions. -/
theorem Writes.binary (t : Target) (op : BinaryOp) (left right : Expr) (hx : x.Writes p d [])
    (hy : y.Writes p d' []) :
    (binary t op left right x y).Writes p (Draft.binary t op left right d d') [] := by
  simp only [Renderer.binary, Draft.binary]
  split_ifs
  · exact hx.isNull left _
  · exact (hx.operand left).append ((writes_text p _).append hy)
  · exact (hy.operand right).append ((writes_text p _).append hx)
  · exact (hx.parens _).append ((writes_text p _).append (hy.parens _))

theorem Writes.inList (hx : x.Writes p d []) (e : Expr) (h : WritesEach p xs ds)
    (negated : Bool) : (inList e x xs negated).Writes p (Draft.inList e d ds negated) [] := by
  rw [Renderer.inList, Draft.inList, h.isEmpty]
  split
  · exact writes_text p _
  · exact (hx.operand e).append ((writes_text p _).append ((h.join ", ").append (writes_text p _)))

theorem Writes.extract (h : x.Writes p d []) (t : Target) (field : String) :
    (extract t field x).Writes p (Draft.extract t field d) [] :=
  (writes_text p _).append (h.append (writes_text p _))

theorem WritesEach.window {ys : List Renderer} {es : List Draft} (h : WritesEach p xs ds)
    (hOrder : WritesEach p ys es) : (window xs ys).Writes p (Draft.window ds es) [] := by
  have hPart : ∀ {zs : List Renderer} {cs : List Draft} (word : String), WritesEach p zs cs →
      WritesEach p (if zs.isEmpty then [] else [Renderer.listClause word zs])
        ([Draft.listClause word cs].filter fun d => !d.isEmpty) := by
    intro zs cs word hEach
    cases hEach with
    | nil => exact .nil
    | cons hFirst hRest => exact .cons (WritesEach.listClause (.cons hFirst hRest) word) .nil
  rw [Draft.window, ← List.singleton_append, List.filter_append]
  exact WritesEach.join (List.rel_append (hPart _ h) (hPart _ hOrder)) " "

theorem WritesSome.overWindow (h : WritesSome p o od) (t : Target) (name : String) :
    (overWindow t name o).Writes p (Draft.overWindow t name od) [] := by
  cases h with
  | none => exact writes_nothing p
  | some h =>
      rw [Renderer.overWindow, Draft.overWindow]
      split
      · exact (writes_text p _).append (h.append (writes_text p _))
      · exact writes_fail p _ _

theorem WritesEach.call (h : WritesEach p xs ds) (hWindow : WritesSome p o od) (t : Target)
    (name : String) (distinct : Bool) :
    (call t name xs distinct o).Writes p (Draft.call t name ds distinct od) [] := by
  rw [Renderer.call, Draft.call]
  cases t.profile.functions.lookup (Text.lower name) with
  | none =>
      exact (writes_text p _).append ((h.join ", ").append
        ((writes_text p ")").append (hWindow.overWindow t name)))
  | some spelling =>
      cases spelling with
      | keyword word => exact writes_text p word
      | rename other =>
          exact (writes_text p _).append ((h.join ", ").append
            ((writes_text p ")").append (hWindow.overWindow t name)))

/-- Whether an order is kept depends on the place where the renderer stands. -/
theorem WritesEach.order (h : WritesEach p xs ds) (t : Target) (limited : Bool) :
    (order t limited xs).Writes p (Draft.order t p.scope limited ds) [] := by
  refine writes_forScope ?_
  rw [Draft.order]
  split
  · exact h.listClause _
  · exact writes_nothing p

theorem WritesEach.withClause (h : WritesEach p xs ds) (t : Target) (ctes : List Cte) :
    (withClause t ctes xs).Writes p (Draft.withClause t ctes ds) [] := by
  rw [Renderer.withClause, Draft.withClause]
  split
  · exact writes_nothing p
  · exact (writes_text p _).append ((h.join ", ").append (writes_text p " "))

theorem Writes.cte (h : x.Writes p d []) (name : String) (columns : List String) :
    (cte name columns x).Writes p (Draft.cte name columns d) [] :=
  (writes_pieces p _).append ((writes_text p _).append (h.append (writes_text p _)))

theorem Writes.derived (h : x.Writes p d []) (t : Target) (name : String) (lateral : Bool) :
    (derived t name lateral x).Writes p (Draft.derived t name lateral d) [] := by
  rw [Renderer.derived, Draft.derived]
  split
  · exact writes_fail p _ _
  · exact (writes_text p _).append (h.append (writes_pieces p _))

theorem WritesEach.sources (h : WritesEach p xs ds) (t : Target) (items : List FromItem) :
    (sources t items xs).Writes p (Draft.sources t items ds) [] := by
  induction h generalizing items with
  | nil => cases items <;> exact writes_nothing p
  | @cons x d xs ds hFirst _ ih =>
      cases items with
      | nil => exact writes_nothing p
      | cons item items =>
          cases items with
          | nil => exact (hFirst.append (writes_nothing p)).append (ih [])
          | cons other items => exact (hFirst.append (writes_text p _)).append (ih _)

theorem Writes.apply (h : x.Writes p d []) (t : Target) (kind : JoinKind) (conditional : Bool) :
    (apply t kind conditional x).Writes p (Draft.apply t kind conditional d) [] := by
  cases kind with
  | right | full => exact writes_fail p _ _
  | inner | cross | left =>
      cases conditional with
      | true => exact writes_fail p _ _
      | false => exact (writes_text p _).append h

theorem Writes.joined (hx : x.Writes p d []) (hy : y.Writes p d' []) (hSome : WritesSome p o od)
    (t : Target) (kind : JoinKind) (right : FromItem) :
    (joined t kind right x y o).Writes p (Draft.joined t kind right d d' od) [] := by
  have hIsSome : o.isSome = od.isSome := by cases hSome <;> rfl
  refine hx.append ?_
  split
  · rw [hIsSome]
    exact hy.apply t kind _
  · exact (writes_text p _).append ((hy.parens _).append (hSome.clause _))

theorem Writes.labelled (h : x.Writes p d []) (heading : Heading) :
    (labelled heading.label x).Writes p (heading.draft d) [] := by
  rw [Heading.draft]
  cases heading.label with
  | none => exact h
  | some label => exact h.append (writes_pieces p _)

/-- In the outermost query, the columns of a heading are recorded right behind
its expression. -/
theorem Writes.column (h : x.Writes p d []) (outermost : Bool) (heading : Heading) :
    (column outermost heading x).Writes p (heading.draft d)
      (if outermost then heading.fields else []) :=
  (h.labelled heading).recording _

/-- Selected expressions are rendered under their headings, one for each, and
their columns are recorded in this order. -/
theorem WritesEach.headed (h : WritesEach p xs ds) (outermost : Bool) {headings : List Heading}
    (hLength : headings.length = ds.length) :
    WritesAll p (List.zipWith (column outermost) headings xs)
      (List.zipWith Heading.draft headings ds)
      (if outermost then headings.flatMap (·.fields) else []) := by
  induction h generalizing headings with
  | nil =>
      rw [List.length_eq_zero_iff.mp hLength]
      cases outermost <;> exact .nil
  | @cons x d xs ds hFirst _ ih =>
      cases headings with
      | nil => cases hLength
      | cons heading headings =>
          have hAll := WritesAll.cons (hFirst.column outermost heading) (ih (Nat.succ.inj hLength))
          cases outermost <;> exact hAll

/-- In the outermost query selected expressions record the fields of their
headings. In a nested one nothing is recorded. -/
theorem WritesEach.columns (h : WritesEach p xs ds) {hs : Except Error (List Heading)}
    (hLength : ∀ headings, hs = .ok headings → headings.length = ds.length) (outermost : Bool) :
    (columns hs outermost xs).Writes p (Draft.columns hs ds)
      (if outermost then headingFields hs else []) := by
  cases hs with
  | error e => exact writes_fail p e _
  | ok headings => exact (h.headed outermost (hLength headings rfl)).join ", "

end Renderer

end SqlStatements
