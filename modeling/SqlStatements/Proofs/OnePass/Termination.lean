import SqlStatements.Proofs.Compiled.PagedStatements
import SqlStatements.Proofs.Draft.Descent
import SqlStatements.Proofs.OnePass.Frame
import SqlStatements.Proofs.OnePass.Trace
import SqlStatements.Proofs.Operators.NegatedExists

/-! Rendering comes to an end, although a SELECT may be replaced by a larger one on the way: by
its page, or by a SELECT of all its columns where it is a member of a compound query. Neither is
replaced again, so no SELECT is replaced twice, and nothing is rendered twice. -/
namespace SqlStatements

section Members

variable {t : Target} {pager : Pager} {sc : Scope} {outermost : Bool} {q : Query} {number : Nat}

/-- A star has no label. -/
theorem columns_star {hs : List Heading} {star : Option ColumnSource → List Field}
    (h : headings t.rules star [] [.star none] = .ok hs) (d : Draft) :
    Draft.columns (.ok hs) [d] = d := by
  obtain ⟨heading, hHeading, h⟩ := exists_ok_of_bind_ok h
  obtain ⟨fields, -, hHeading⟩ := exists_ok_of_bind_ok hHeading
  cases hHeading
  cases h
  rfl

namespace Query

/-- A query is selected from without any clause of its own. -/
theorem draft_wrappedAs {hs : List Heading}
    (hHeadings : (q.wrappedAs number).headings t sc outermost = .ok hs) :
    (q.wrappedAs number).draft t pager sc outermost =
      .text "SELECT " :: .text "*" :: .text " FROM " :: .text "(" ::
        (q.draft t pager sc.isolated false ++
          [.text ") AS ", .name ("anon_" ++ toString number)]) := by
  have hHead : (q.wrappedAs number).headDraft t pager sc outermost =
      [.text "SELECT ", .text "*"] := by
    rw [Select.headDraft, hHeadings]
    exact congrArg (Piece.text "SELECT " :: ·) (columns_star hHeadings [.text "*"])
  have hTail : (q.wrappedAs number).tailDraft t pager sc = [] := by
    simp [Select.tailDraft, wrappedAs, Select.ofColumns, optionDraft, exprDrafts, orderDrafts,
      Draft.clause, Draft.listClause, Draft.order, Draft.limits]
  have hFrom : (q.wrappedAs number).fromDraft t pager sc =
      .text " FROM " :: .text "(" :: (q.draft t pager sc.isolated false ++
        [.text ") AS ", .name ("anon_" ++ toString number)]) := by
    show .text " FROM " :: Draft.sources t [.derived q _ false]
      (sourceDrafts t pager _ [.derived q _ false]) = _
    rw [sourceDrafts, sourceDrafts, FromItem.draft, Draft.sources]
    simp [Draft.derived, Draft.sources, Scope.isolated, Scope.providing]
  rw [Select.draft_direct (Select.direct_of_not_skipsRows rfl) rfl, hHead, hTail, hFrom,
    List.append_nil]
  rfl

/-- A SELECT over a restricted member skips no rows itself. -/
theorem skips_wrappedAs (q : Query) (number : Nat) :
    skips ((q.wrappedAs number).visits true) = skips (q.visits true) := by
  simp [wrappedAs, Select.ofColumns, Select.visits, ctesVisits, exprsVisits, Expr.visits, sourcesVisits,
    FromItem.visits, optionVisits, ordersVisits, ColumnSource.visits,
    Visit.skips, Select.skipsRows, skips]

end Query

/-- A member that has been wrapped is not wrapped again: to wrap it beforehand
makes no difference. -/
theorem rendered_memberDrafts_wrappedAs (hRestricted : q.isRestricted = true) {hs : List Heading}
    (hHeadings : (q.wrappedAs number).headings t sc outermost = .ok hs) (qs : List Query)
    (st : Setting) (L : Ledger) :
    (memberDrafts t pager sc outermost number (q :: qs)).map (L.rendered st) =
      (memberDrafts t pager sc outermost number (.select (q.wrappedAs number) :: qs)).map
        (L.rendered st) := by
  have hAgain : (Query.select (q.wrappedAs number)).isRestricted = false := rfl
  rw [memberDrafts, memberDrafts, if_pos hRestricted, hAgain, if_neg Bool.false_ne_true,
    List.map_cons, List.map_cons]
  congr 1
  rw [Query.isCompound, Draft.parens, if_neg Bool.false_ne_true, Query.draft,
    Query.draft_wrappedAs hHeadings]
  simp only [Ledger.rendered_text]
  cases L.rendered st (q.draft t pager sc.isolated false ++
      [.text ") AS ", .name ("anon_" ++ toString number)]) with
  | error => rfl
  | ok r => exact congrArg Except.ok (by simp [← String.append_assoc])

end Members

namespace Statement

variable (t : Target) (mode : ParameterMode) (s : Statement)

/-- The state after a whole statement has been rendered, or after its rendering
has failed. -/
def rendering : Rendering :=
  (s.render (pageRenderer s.pages)).after (.initial (s.setting t mode))

/-- Rendering in one pass is a way to compile: it gives the same text or the
same error, for every statement and target. -/
theorem outcome_render :
    (s.render (pageRenderer s.pages)).outcome (.initial (s.setting t mode)) =
      (s.compile t mode).map (·.sql) := by
  have hWrites := s.writes_render (Rendering.initial (s.setting t mode)).place rfl
  refine hWrites.outcome_eq.trans ?_
  show (Ledger.write (s.setting t mode) {} (s.draft t)).map _ = _
  rw [compile]
  cases Ledger.write (s.setting t mode) {} (s.draft t) <;> rfl

/-- What a meter reads after a statement has been rendered is met on a tour
through it. -/
theorem reading_rendering_le {M : Meter} {f : TreePart → Bool} (hM : M.Within f) :
    M.reading (s.rendering t mode).trace ≤ s.tour.countP f := by
  have hAdds := s.adds_render hM (adds_pageRenderer hM s.pages) (.initial (s.setting t mode))
  rwa [show M.reading (Rendering.initial (s.setting t mode)).trace = 0 from rfl,
    Int.zero_add] at hAdds

/-- Each part is met once at most, in the statement or in what is added to it;
and of the SELECTs that are rewritten, what their pages leave out is not met. -/
theorem countP_met_le (f : TreePart → Bool) :
    (s.rendering t mode).trace.met.countP f + (s.rendering t mode).trace.omissions.countP f ≤
      s.tour.countP f + (s.rendering t mode).trace.additions.countP f := by
  have hReading := s.reading_rendering_le t mode (Meter.within_counting f)
  rw [Meter.reading_counting] at hReading
  omega

/-- Only what skips rows is rewritten, and each SELECT once at most. Equal
SELECTs at several places are counted together. -/
theorem countP_rewritten_le (p : Select → Bool) :
    (s.rendering t mode).trace.rewritten.countP p ≤
      s.selects.countP fun x => x.skipsRows && p x := by
  have hReading := s.reading_rendering_le t mode (Meter.within_rewriting p)
  rw [Meter.reading_rewriting] at hReading
  rw [selects, ← s.walked_tour, walked, List.filterMap_filterMap, List.countP_filterMap]
  exact Int.ofNat_le.mp hReading

/-- Only what has an order or a limit is wrapped, and each member once at most.
Equal members are counted together. -/
theorem countP_wrapped_le (p : Query → Bool) :
    ((s.rendering t mode).trace.wrapped.map (·.1)).countP p ≤
      s.members.countP fun q => q.isRestricted && p q := by
  have hReading := s.reading_rendering_le t mode (Meter.within_wrapping p)
  rw [Meter.reading_wrapping] at hReading
  rw [members, List.countP_filterMap]
  exact Int.ofNat_le.mp hReading

/-- Only SELECTs that skip rows are rewritten. -/
theorem skipsRows_of_rewritten {x : Select}
    (h : x ∈ (s.rendering t mode).trace.rewritten) : x.skipsRows = true := by
  have hNone := s.countP_rewritten_le t mode fun x => !x.skipsRows
  have hNever : (s.selects.countP fun x => x.skipsRows && !x.skipsRows) = 0 :=
    List.countP_eq_zero.mpr fun x _ => by simp
  rw [hNever, Nat.le_zero] at hNone
  have hSkips := List.countP_eq_zero.mp hNone x h
  rwa [Bool.not_eq_true, Bool.not_eq_false'] at hSkips

/-- What paging does not add is met no more often than it stands in the
statement. -/
theorem countP_walked_le {f : Visit → Bool} (hAdded : ∀ v : Visit, v.Added → f v = false) :
    (walked (s.rendering t mode).trace.met).countP f ≤ (s.visits true).countP f := by
  have hMet := s.countP_met_le t mode fun part => (part.visit?.map f).getD false
  have hNothing : ((s.rendering t mode).trace.additions.countP
      fun part => (part.visit?.map f).getD false) = 0 := by
    refine Trace.countP_additions (fun v hv => hAdded v hv) fun x hx => ?_
    exact Select.plain_of_skipsRows (s.skipsRows_of_rewritten t mode hx)
  rw [← s.walked_tour, walked, walked, List.countP_filterMap, List.countP_filterMap]
  omega

/-- Rendering comes to an end. There is no endless descent into the parts that
are written out, so there is just one way to draft pages without a bound on
their depth, and statements are drafted by it. The page of a SELECT skips rows
in fewer places than the SELECT. A member of a compound query that has been
wrapped is not wrapped again, as long as its columns find names. A statement is
compiled in one pass. In this pass only SELECTs that skip rows are rewritten,
only members with an order or a limit are wrapped, and none of them twice. No
part is rendered twice: whatever is counted, rendering meets it no more often
than it stands in the statement and in what was added to the statement, namely
by the pages of the rewritten SELECTs, by the wrappers, and for SELECTs without
a FROM clause. What the pages leave out is not met on top of that. Of the kinds
that paging does not add, such as parameters, rendering meets nothing more often
than a walk does. -/
theorem render_wellFounded (t : Target) :
    (WellFounded fun m n : Node => n.Part t m) ∧
    (∃! pages : Pager, pages.Closed t ∧ ∀ s : Statement, s.draft t = s.draftBy t pages) ∧
    (∀ (dialect : String) (s page : Select), s.offset.isSome = true → s.numbered = false →
      s.paged dialect = .ok page → skips (page.visits true) < skips (s.visits true)) ∧
    (∀ (q : Query) (number : Nat), q.isRestricted = true →
      (Query.select (q.wrappedAs number)).isRestricted = false ∧
      skips ((q.wrappedAs number).visits true) = skips (q.visits true) ∧
      ∀ pager sc outermost qs hs st (L : Ledger),
        (q.wrappedAs number).headings t sc outermost = .ok hs →
        (memberDrafts t pager sc outermost number (q :: qs)).map (L.rendered st) =
          (memberDrafts t pager sc outermost number (.select (q.wrappedAs number) :: qs)).map
            (L.rendered st)) ∧
    ∀ mode (s : Statement),
      (s.render (pageRenderer s.pages)).outcome (.initial (s.setting t mode)) =
        (s.compile t mode).map (·.sql) ∧
      (∀ p : Select → Bool, (s.rendering t mode).trace.rewritten.countP p ≤
        s.selects.countP fun x => x.skipsRows && p x) ∧
      (∀ p : Query → Bool, ((s.rendering t mode).trace.wrapped.map (·.1)).countP p ≤
        s.members.countP fun q => q.isRestricted && p q) ∧
      (∀ f : TreePart → Bool,
        (s.rendering t mode).trace.met.countP f + (s.rendering t mode).trace.omissions.countP f ≤
          s.tour.countP f + (s.rendering t mode).trace.additions.countP f) ∧
      walked s.tour = s.visits true ∧
      ∀ f : Visit → Bool, (∀ v : Visit, v.Added → f v = false) →
        (walked (s.rendering t mode).trace.met).countP f ≤ (s.visits true).countP f := by
  refine ⟨Node.wellFounded_part t, ?_, ?_, ?_, ?_⟩
  · obtain ⟨pages, hClosed, hUnique⟩ := Pager.existsUnique_closed t
    exact ⟨pages, ⟨hClosed, hClosed.draft_eq⟩, fun other h => hUnique other h.1⟩
  · intro dialect s page hOffset hPlain hPage
    have hSkips : s.skipsRows = true := by
      rw [Select.skipsRows, hOffset, hPlain]
      rfl
    exact Select.skips_paged_lt hSkips hPage
  · intro q number hRestricted
    exact ⟨rfl, q.skips_wrappedAs number, fun _ _ _ qs _ st L hHeadings =>
      rendered_memberDrafts_wrappedAs hRestricted hHeadings qs st L⟩
  · exact fun mode s => ⟨s.outcome_render t mode, s.countP_rewritten_le t mode,
      s.countP_wrapped_le t mode, s.countP_met_le t mode, s.walked_tour,
      fun _ => s.countP_walked_le t mode⟩

end Statement

namespace Sample

def doubled : Statement :=
  .query (.compound .unionAll [.select interest, .select interest] [] none none)

end Sample

/-- Both members are wrapped and then rewritten, and neither of them again. All
that was added or left out is accounted for, down to the last part. The orders
of the members repeat a parameter, which is not rendered. -/
theorem Statement.render_wellFounded_doubled :
    (∃ page, Sample.interest.paged Sample.numbering.profile.name = .ok page ∧
      skips (page.visits true) < skips (Sample.interest.visits true)) ∧
    (∀ pager (L : Ledger),
      (memberDrafts Sample.numbering pager .outermost false 1 [.select Sample.interest]).map
          (L.rendered (Sample.doubled.setting Sample.numbering .placeholders)) =
        (memberDrafts Sample.numbering pager .outermost false 1
          [.select ((Query.select Sample.interest).wrappedAs 1)]).map
            (L.rendered (Sample.doubled.setting Sample.numbering .placeholders))) ∧
    ∃ T, T = (Sample.doubled.rendering Sample.numbering .placeholders).trace ∧
      (T.rewritten.countP fun _ => true) ≤
        Sample.doubled.selects.countP (fun x => x.skipsRows && true) ∧
      ((T.wrapped.map (·.1)).countP fun _ => true) ≤
        Sample.doubled.members.countP (fun q => q.isRestricted && true) ∧
      (T.met.countP fun _ => true) + (T.omissions.countP fun _ => true) ≤
        (Sample.doubled.tour.countP fun _ => true) + (T.additions.countP fun _ => true) ∧
      (walked T.met).countP (·.bind?.isSome) ≤
        (Sample.doubled.visits true).countP (·.bind?.isSome) ∧
      T.rewritten.length = 2 ∧ Sample.doubled.selects.countP (·.skipsRows) = 2 ∧
      T.wrapped.length = 2 ∧ Sample.doubled.members.countP (·.isRestricted) = 2 ∧
      T.met.length = 71 ∧ T.omissions.length = 10 ∧ Sample.doubled.tour.length = 39 ∧
      T.additions.length = 42 ∧
      (walked T.met).countP (·.bind?.isSome) = 4 ∧ Sample.doubled.binds.length = 6 := by
  obtain ⟨-, -, hFewer, hMembers, hRuns⟩ := Statement.render_wellFounded Sample.numbering
  obtain ⟨-, hRewritten, hWrapped, hMet, -, hWalked⟩ := hRuns .placeholders Sample.doubled
  obtain ⟨page, hPage, -⟩ := exists_ok_of_toOption
    (x := Sample.interest.paged Sample.numbering.profile.name)
    (f := fun page => page.numbered) (y := true) (by decide)
  obtain ⟨-, -, hSame⟩ := hMembers (.select Sample.interest) 1 rfl
  refine ⟨⟨page, hPage, hFewer _ _ _ rfl rfl hPage⟩,
    fun pager L => hSame pager _ false [] _ _ L rfl, _, rfl, hRewritten _, hWrapped _, hMet _,
    hWalked _ ?_, by decide +kernel⟩
  intro v hv
  cases v with
  | bind => exact hv.elim
  | expr | table | select => rfl

end SqlStatements
