import SqlStatements.Draft.Statement

/-! Why a draft stops. A feature is missing, parts contradict each other, a value cannot be
written or there is no free name; that parameters clash is found only when the draft is
written out. -/
namespace SqlStatements

/-- Whether a draft may stop with the error. -/
def Error.InDraft : Error → Prop
  | .bindConflict _ _ => False
  | _ => True

@[simp] theorem Error.inDraft_conflict (cause : Conflict) : (Error.conflict cause).InDraft :=
  trivial

@[simp] theorem Target.inDraft_unsupported (t : Target) (feature : Feature) :
    (t.unsupported feature).InDraft :=
  trivial

/-- A computation that fails only with errors which a draft may stop with. -/
def ErrorsInDraft {α : Type} (x : Except Error α) : Prop :=
  ∀ e, x = .error e → e.InDraft

section Computations

variable {α β : Type}

theorem errorsInDraft_ok (a : α) : ErrorsInDraft (.ok a : Except Error α) :=
  fun _ h => nomatch h

theorem errorsInDraft_error {e : Error} (h : e.InDraft) :
    ErrorsInDraft (.error e : Except Error α) := by
  rintro _ ⟨⟩
  exact h

/-- A computation in two steps has only errors that a draft may stop with if
both steps have, the second one for every result of the first. -/
theorem ErrorsInDraft.bind {x : Except Error α} {f : α → Except Error β} (hx : ErrorsInDraft x)
    (hf : ∀ a, ErrorsInDraft (f a)) : ErrorsInDraft (x >>= f) := by
  cases x with
  | ok a => exact hf a
  | error e => exact errorsInDraft_error (hx e rfl)

/-- What is done with a result raises no errors. -/
theorem ErrorsInDraft.andThen {x : Except Error α} (hx : ErrorsInDraft x) (f : α → β) :
    ErrorsInDraft (x >>= fun a => pure (f a)) :=
  hx.bind fun a => errorsInDraft_ok (f a)

end Computations

section Literals

theorem Value.errorsInDraft_inline (v : Value) : ErrorsInDraft v.inline := by
  cases v with
  | float x =>
      rw [inline]
      split
      · exact errorsInDraft_ok _
      · exact errorsInDraft_error trivial
  | _ => exact errorsInDraft_ok _

theorem errorsInDraft_inlineText (v : Value) : ErrorsInDraft (inlineText v) := by
  rw [inlineText.eq_def]
  split
  · exact errorsInDraft_ok _
  · exact v.errorsInDraft_inline

theorem LiteralStyle.errorsInDraft_render (style : LiteralStyle) (v : Value) :
    ErrorsInDraft (style.render v) := by
  fun_cases render style v with
  | case1 v => exact v.errorsInDraft_inline
  | case2 b => exact errorsInDraft_ok _
  | case3 v => exact v.errorsInDraft_inline
  | case4 v | case5 v =>
      apply ErrorsInDraft.bind _ errorsInDraft_inlineText
      cases v with
      | null | text | date | dateTime => exact errorsInDraft_ok _
      | _ => exact errorsInDraft_error trivial

/-- Writing a literal may fail for its type or for its value. It never ends in a
clash of parameters, since it sees only one. -/
theorem Profile.errorsInDraft_literalText (p : Profile) (caps : Capabilities) (type : SqlType)
    (v : Value) : ErrorsInDraft (p.literalText caps type v) := by
  rw [literalText]
  split
  · exact errorsInDraft_ok _
  · exact LiteralStyle.errorsInDraft_render _ v

end Literals

section Headings

variable {rules : IdentifierRules} {star : Option ColumnSource → List Field}

theorem IdentifierRules.errorsInDraft_fresh (base : String) (taken : List String) (start : Nat) :
    ErrorsInDraft (rules.fresh base taken start) := by
  rw [fresh]
  split
  · exact errorsInDraft_ok _
  · exact errorsInDraft_error trivial

theorem IdentifierRules.errorsInDraft_freshAll (bases taken : List String) :
    ErrorsInDraft (rules.freshAll taken bases) := by
  induction bases generalizing taken with
  | nil => exact errorsInDraft_ok _
  | cons base bases ih =>
      apply (errorsInDraft_fresh base taken 0).bind
      intro name
      exact (ih _).andThen _

theorem Expr.errorsInDraft_heading (taken : List String) (e : Expr) :
    ErrorsInDraft (e.heading rules star taken) := by
  rw [heading.eq_def]
  split
  · exact (IdentifierRules.errorsInDraft_freshAll _ taken).andThen _
  · split
    · exact errorsInDraft_ok _
    · exact (IdentifierRules.errorsInDraft_fresh _ taken 0).andThen _

/-- Headings may fail for want of names, but not with a clash of parameters:
they are made before any of these is met. -/
theorem errorsInDraft_headings (es : List Expr) (taken : List String) :
    ErrorsInDraft (headings rules star taken es) := by
  induction es generalizing taken with
  | nil => exact errorsInDraft_ok _
  | cons e es ih =>
      apply (e.errorsInDraft_heading taken).bind
      intro heading
      exact (ih _).andThen _

end Headings

section Pages

theorem Paging.errorsInDraft_starColumns (source : Option ColumnSource)
    (sources : List FromItem) : ErrorsInDraft (starColumns source sources) := by
  rw [starColumns.eq_def]
  split
  · exact errorsInDraft_error trivial
  · exact errorsInDraft_ok _
  · split
    · exact errorsInDraft_error trivial
    · exact errorsInDraft_ok _

theorem Paging.errorsInDraft_expanded (sources : List FromItem) (es : List Expr) :
    ErrorsInDraft (expanded sources es) := by
  induction es with
  | nil => exact errorsInDraft_ok _
  | cons e es ih =>
      rw [expanded.eq_def]
      split
      · rename_i h
        cases h
      · rename_i source rest h
        cases h
        apply (errorsInDraft_starColumns source sources).bind
        intro columns
        exact ih.andThen _
      · rename_i h
        cases h
        exact ih.andThen _

theorem Paging.errorsInDraft_distinctOrder (columns : List Labelled) (terms : List OrderTerm) :
    ErrorsInDraft (distinctOrder columns terms) := by
  induction terms with
  | nil => exact errorsInDraft_ok _
  | cons term terms ih =>
      rw [distinctOrder]
      split
      · exact ih.andThen _
      · exact errorsInDraft_error trivial

theorem Paging.errorsInDraft_bound (n : UInt64) : ErrorsInDraft (bound n) := by
  rw [bound]
  split
  · exact errorsInDraft_ok _
  · exact errorsInDraft_error trivial

theorem Paging.errorsInDraft_filter (name : String) (offset : UInt64) (limit : Option UInt64) :
    ErrorsInDraft (filter name offset limit) := by
  apply (errorsInDraft_bound offset).bind
  intro first
  cases limit with
  | none => exact errorsInDraft_ok _
  | some limit => exact (errorsInDraft_bound _).andThen _

/-- Paging may fail for the order, for a star or for a bound on row numbers, but
not with a clash of parameters. -/
theorem Select.errorsInDraft_paged (dialect : String) (s : Select) :
    ErrorsInDraft (s.paged dialect) := by
  rw [paged]
  split
  · exact errorsInDraft_ok _
  · split
    · exact errorsInDraft_error trivial
    · apply (Paging.errorsInDraft_expanded s.sources s.columns).bind
      intro columns
      refine ErrorsInDraft.bind ?_ fun inner =>
        (Paging.errorsInDraft_filter _ _ s.limit).andThen _
      rw [Paging.withNumbers]
      split
      · exact (Paging.errorsInDraft_distinctOrder _ s.orderBy).andThen _
      · exact errorsInDraft_ok _

end Pages

end SqlStatements
