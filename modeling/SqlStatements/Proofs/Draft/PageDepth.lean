import SqlStatements.Draft.Statement
import SqlStatements.Proofs.Draft.PagedTour
import SqlStatements.Proofs.Draft.Select

/-! How deep pages are nested in each other. A page skips rows in fewer places than its SELECT
does, so a depth that is enough for the places of a tree drafts it as any greater depth does. -/
namespace SqlStatements

/-- Whether a SELECT is met that skips rows. -/
def Visit.skips : Visit → Bool
  | .select s => s.skipsRows
  | .expr _ | .bind _ | .table _ => false

/-- Nothing that paging adds skips rows, so pages are no deeper than the SELECTs
they come from. -/
theorem Visit.skips_added (v : Visit) (h : v.Added) : v.skips = false := by
  cases v with
  | select s =>
      rw [skips, Select.skipsRows, Visit.Added.offset_eq_none h]
      rfl
  | expr | bind | table => rfl

/-- The number of places where a tree skips rows. -/
def skips (vs : List Visit) : Nat := vs.countP Visit.skips

@[simp] theorem skips_append (vs ws : List Visit) : skips (vs ++ ws) = skips vs + skips ws :=
  List.countP_append ..

@[simp] theorem skips_expr (e : Expr) (vs : List Visit) : skips (.expr e :: vs) = skips vs :=
  List.countP_cons_of_neg (by simp [Visit.skips])

theorem skips_select_le (s : Select) (vs : List Visit) : skips vs ≤ skips (.select s :: vs) :=
  List.Sublist.countP_le (List.sublist_cons_self ..)

/-- The bound on the depth of pages is the number of places where the statement
skips rows, nested queries included. -/
theorem Statement.pages_eq (s : Statement) : s.pages = skips (s.visits true) := by
  rw [pages, selects, List.countP_filterMap, skips]
  congr 1
  funext v
  cases v <;> rfl

/-- The places where rows are skipped can be counted on a tour as well as on a
walk, since a tour meets nothing else that skips rows. -/
theorem Select.skips_visits (s : Select) :
    skips (s.visits true) = s.tour.countP fun part => (part.visit?.map Visit.skips).getD false := by
  rw [← s.walked_tour, walked, skips, List.countP_filterMap]

/-- A page skips rows in one place less, at least: the SELECT itself no longer
does, and nothing that is added does. -/
theorem Select.skips_paged_lt {dialect : String} {s page : Select} (hSkips : s.skipsRows = true)
    (h : s.paged dialect = .ok page) : skips (page.visits true) < skips (s.visits true) := by
  have hCount := countP_paged (f := fun part => (part.visit?.map Visit.skips).getD false)
    (fun part hPart => by
      cases part with
      | visit v => exact Visit.skips_added v hPart
      | item | cte | compound | member => rfl) (plain_of_skipsRows hSkips) h
  have hSelf : ((TreePart.visit (.select s)).visit?.map Visit.skips).getD false = true := hSkips
  rw [hSelf, if_pos rfl] at hCount
  rw [skips_visits, skips_visits]
  omega

/-- Pages with fewer than the given number of places where rows are skipped are
drafted alike. -/
def Pager.Agrees (n : Nat) (pager pager' : Pager) : Prop :=
  ∀ sc outermost page, skips (page.visits true) < n →
    pager sc outermost page = pager' sc outermost page

section Tree

variable {t : Target} {n : Nat} {pager pager' : Pager}

mutual

/-- Two ways to draft pages that agree up to a number of places give the same
draft of an expression with no more of them. -/
theorem Expr.draft_congr (hPager : pager.Agrees n pager') : (e : Expr) → (sc : Scope) →
    skips (e.visits true) ≤ n → e.draft t pager sc = e.draft t pager' sc
  | .literal _, _, _ | .column _, _, _ | .param _, _, _ | .raw _, _, _ | .star none, _, _
  | .star (some _), _, _ => by simp only [Expr.draft]
  | .binary _ l r, sc, h => by
      simp only [Expr.visits, skips_expr, skips_append] at h
      simp only [Expr.draft, Expr.draft_congr hPager l sc (by omega),
        Expr.draft_congr hPager r sc (by omega)]
  | .unary _ e, sc, h | .cast e _, sc, h | .extract _ e, sc, h | .isNull e _, sc, h
  | .label e _, sc, h => by
      simp only [Expr.visits, skips_expr] at h
      simp only [Expr.draft, Expr.draft_congr hPager e sc h]
  | .call _ args _ w _, sc, h => by
      simp only [Expr.visits, skips_expr, skips_append] at h
      simp only [Expr.draft, exprDrafts_congr hPager args sc (by omega),
        windowDraft_congr hPager w sc (by omega)]
  | .caseOf o bs e, sc, h => by
      simp only [Expr.visits, skips_expr, skips_append] at h
      simp only [Expr.draft, optionDraft_congr hPager o sc (by omega),
        branchDrafts_congr hPager bs sc (by omega), optionDraft_congr hPager e sc (by omega)]
  | .inList e items _, sc, h => by
      simp only [Expr.visits, skips_expr, skips_append] at h
      simp only [Expr.draft, Expr.draft_congr hPager e sc (by omega),
        exprDrafts_congr hPager items sc (by omega)]
  | .inQuery e q _, sc, h => by
      simp only [Expr.visits, skips_expr, skips_append, if_true] at h
      simp only [Expr.draft, Expr.draft_congr hPager e sc (by omega),
        Query.draft_congr hPager q sc.nested false (by omega)]
  | .between e l u _, sc, h => by
      simp only [Expr.visits, skips_expr, skips_append] at h
      simp only [Expr.draft, Expr.draft_congr hPager e sc (by omega),
        Expr.draft_congr hPager l sc (by omega), Expr.draft_congr hPager u sc (by omega)]
  | .existsIn q _, sc, h | .scalar q, sc, h => by
      simp only [Expr.visits, skips_expr, if_true] at h
      simp only [Expr.draft, Query.draft_congr hPager q sc.nested false h]
  | .tuple items, sc, h => by
      simp only [Expr.visits, skips_expr] at h
      simp only [Expr.draft, exprDrafts_congr hPager items sc h]

theorem exprDrafts_congr (hPager : pager.Agrees n pager') : (es : List Expr) → (sc : Scope) →
    skips (exprsVisits true es) ≤ n → exprDrafts t pager sc es = exprDrafts t pager' sc es
  | [], _, _ => by simp only [exprDrafts]
  | e :: es, sc, h => by
      simp only [exprsVisits, skips_append] at h
      simp only [exprDrafts, Expr.draft_congr hPager e sc (by omega),
        exprDrafts_congr hPager es sc (by omega)]

theorem optionDraft_congr (hPager : pager.Agrees n pager') : (o : Option Expr) → (sc : Scope) →
    skips (optionVisits true o) ≤ n → optionDraft t pager sc o = optionDraft t pager' sc o
  | none, _, _ => by simp only [optionDraft]
  | some e, sc, h => by
      simp only [optionVisits] at h
      simp only [optionDraft, Expr.draft_congr hPager e sc h]

theorem branchDrafts_congr (hPager : pager.Agrees n pager') : (bs : List Branch) → (sc : Scope) →
    skips (branchesVisits true bs) ≤ n → branchDrafts t pager sc bs = branchDrafts t pager' sc bs
  | [], _, _ => by simp only [branchDrafts]
  | ⟨c, r⟩ :: bs, sc, h => by
      simp only [branchesVisits, skips_append] at h
      simp only [branchDrafts, Expr.draft_congr hPager c sc (by omega),
        Expr.draft_congr hPager r sc (by omega), branchDrafts_congr hPager bs sc (by omega)]

theorem orderDrafts_congr (hPager : pager.Agrees n pager') : (os : List OrderTerm) →
    (sc : Scope) → skips (ordersVisits true os) ≤ n →
    orderDrafts t pager sc os = orderDrafts t pager' sc os
  | [], _, _ => by simp only [orderDrafts]
  | ⟨e, _, _⟩ :: os, sc, h => by
      simp only [ordersVisits, skips_append] at h
      simp only [orderDrafts, Expr.draft_congr hPager e sc (by omega),
        orderDrafts_congr hPager os sc (by omega)]

theorem windowDraft_congr (hPager : pager.Agrees n pager') : (w : Option Window) → (sc : Scope) →
    skips (windowVisits true w) ≤ n → windowDraft t pager sc w = windowDraft t pager' sc w
  | none, _, _ => by simp only [windowDraft]
  | some ⟨p, o⟩, sc, h => by
      simp only [windowVisits, skips_append] at h
      simp only [windowDraft, exprDrafts_congr hPager p sc (by omega),
        orderDrafts_congr hPager o sc (by omega)]

theorem FromItem.draft_congr (hPager : pager.Agrees n pager') : (i : FromItem) → (sc : Scope) →
    skips (i.visits true) ≤ n → i.draft t pager sc = i.draft t pager' sc
  | .table _, _, _ | .cte _, _, _ => by simp only [FromItem.draft]
  | .derived q _ _, sc, h => by
      simp only [FromItem.visits] at h
      simp only [FromItem.draft, Query.draft_congr hPager q _ false h]
  | .join _ l r c, sc, h => by
      simp only [FromItem.visits, skips_append] at h
      simp only [FromItem.draft, FromItem.draft_congr hPager l sc (by omega),
        FromItem.draft_congr hPager r sc (by omega), optionDraft_congr hPager c sc (by omega)]

theorem sourceDrafts_congr (hPager : pager.Agrees n pager') : (is : List FromItem) →
    (sc : Scope) → skips (sourcesVisits true is) ≤ n →
    sourceDrafts t pager sc is = sourceDrafts t pager' sc is
  | [], _, _ => by simp only [sourceDrafts]
  | i :: is, sc, h => by
      simp only [sourcesVisits, skips_append] at h
      simp only [sourceDrafts, FromItem.draft_congr hPager i sc (by omega),
        sourceDrafts_congr hPager is sc (by omega)]

theorem cteDrafts_congr (hPager : pager.Agrees n pager') : (cs : List Cte) → (sc : Scope) →
    skips (ctesVisits true cs) ≤ n → cteDrafts t pager sc cs = cteDrafts t pager' sc cs
  | [], _, _ => by simp only [cteDrafts]
  | ⟨_, _, q, _⟩ :: cs, sc, h => by
      simp only [ctesVisits, skips_append] at h
      simp only [cteDrafts, Query.draft_congr hPager q sc.nested false (by omega),
        cteDrafts_congr hPager cs sc (by omega)]

/-- The same for a SELECT. Its page has one place less where rows are skipped,
and its other parts have no more than the SELECT. -/
theorem Select.draft_congr (hPager : pager.Agrees n pager') : (s : Select) → (sc : Scope) →
    (outermost : Bool) → skips (s.visits true) ≤ n →
    s.draft t pager sc outermost = s.draft t pager' sc outermost
  | ⟨ctes, distinct, columns, sources, condition, groupBy, having, orderBy, limit, offset,
      numbered⟩, sc, outermost, h => by
      have hParts := Nat.le_trans (skips_select_le _ _) (by simpa only [Select.visits] using h)
      simp only [skips_append] at hParts
      simp only [Select.draft]
      split
      · rfl
      · split
        · rename_i hSkips
          split
          · rename_i page hPage
            -- The page is not a part of the tree, and it skips rows in fewer places.
            exact hPager sc outermost page
              (Nat.lt_of_lt_of_le (Select.skips_paged_lt hSkips.1 hPage) h)
          · rfl
        · simp only [cteDrafts_congr hPager ctes _ (by omega),
            exprDrafts_congr hPager columns _ (by omega),
            sourceDrafts_congr hPager sources _ (by omega),
            optionDraft_congr hPager condition _ (by omega),
            exprDrafts_congr hPager groupBy _ (by omega),
            optionDraft_congr hPager having _ (by omega),
            orderDrafts_congr hPager orderBy _ (by omega)]

theorem Query.draft_congr (hPager : pager.Agrees n pager') : (q : Query) → (sc : Scope) →
    (outermost : Bool) → skips (q.visits true) ≤ n →
    q.draft t pager sc outermost = q.draft t pager' sc outermost
  | .select s, sc, outermost, h => by
      simp only [Query.visits] at h
      simp only [Query.draft, Select.draft_congr hPager s sc outermost h]
  | .compound _ members orderBy _ _, sc, outermost, h => by
      simp only [Query.visits, skips_append] at h
      simp only [Query.draft, memberDrafts_congr hPager members sc outermost 1 (by omega),
        orderDrafts_congr hPager orderBy sc (by omega)]

theorem memberDrafts_congr (hPager : pager.Agrees n pager') : (qs : List Query) → (sc : Scope) →
    (outermost : Bool) → (number : Nat) → skips (queriesVisits true qs) ≤ n →
    memberDrafts t pager sc outermost number qs = memberDrafts t pager' sc outermost number qs
  | [], _, _, _, _ => by simp only [memberDrafts]
  | q :: qs, sc, outermost, number, h => by
      simp only [queriesVisits, skips_append] at h
      have hFirst : skips (q.visits true) ≤ n := by omega
      simp only [memberDrafts, Query.draft_congr hPager q _ _ hFirst,
        memberDrafts_congr hPager qs sc false (number + 1) (by omega)]

end

end Tree

/-- Depths that cover the places where rows are skipped draft a tree alike,
however much they exceed them. -/
theorem pager_agrees (t : Target) {n depth depth' : Nat} (h : n ≤ depth) (h' : n ≤ depth') :
    (pager t depth).Agrees n (pager t depth') := by
  induction n generalizing depth depth' with
  | zero => exact fun _ _ _ hNone => absurd hNone (Nat.not_lt_zero _)
  | succ n ih =>
      intro sc outermost page hPage
      obtain ⟨d, rfl⟩ := Nat.exists_eq_succ_of_ne_zero (Nat.ne_zero_of_lt h)
      obtain ⟨d', rfl⟩ := Nat.exists_eq_succ_of_ne_zero (Nat.ne_zero_of_lt h')
      exact Select.draft_congr (ih (Nat.le_of_succ_le_succ h) (Nat.le_of_succ_le_succ h')) page sc
        outermost (Nat.le_of_lt_succ hPage)

end SqlStatements
