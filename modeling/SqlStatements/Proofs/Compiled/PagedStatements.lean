import SqlStatements.Proofs.Compiled.BindNames
import SqlStatements.Proofs.Compiled.InferredPages
import SqlStatements.Proofs.Draft.PageDepth
import SqlStatements.Proofs.Ledger.Reserved

/-! Compiling a page. Where pages are picked by row numbers, it makes no difference whether a
SELECT is compiled or its page is: the page has the same shared parameters, so the other
parameters get the same names, and what is nested in it is drafted alike. -/
namespace SqlStatements

theorem nodup_eraseDups : (names : List String) → names.eraseDups.Nodup
  | [] => List.nodup_nil
  | name :: rest => by
      rw [List.eraseDups_cons, List.nodup_cons]
      exact ⟨by simp, nodup_eraseDups _⟩
termination_by names => names.length
decreasing_by exact Nat.lt_succ_of_le (List.length_filter_le ..)

theorem Statement.nodup_sharedNames (rules : IdentifierRules) (s : Statement) :
    (s.sharedNames rules).Nodup := nodup_eraseDups _

namespace Select

variable {t : Target} {s page : Select}

/-- A page has the parameters of its SELECT and no others. How often they occur
and in which order may change. -/
theorem mem_binds_paged {dialect : String} (hPlain : s.numbered = false)
    (h : s.paged dialect = .ok page) (p : BindParam) :
    p ∈ (Statement.query (.select page)).binds ↔ p ∈ (Statement.query (.select s)).binds := by
  have hMem : ∀ s : Select, p ∈ (Statement.query (.select s)).binds ↔
      ∃ part ∈ s.tour, decide (part.visit?.bind Visit.bind? = some p) = true := by
    intro s
    show p ∈ (s.visits true).filterMap Visit.bind? ↔ _
    rw [← s.walked_tour, walked, List.filterMap_filterMap, List.mem_filterMap]
    simp only [decide_eq_true_eq]
  rw [hMem, hMem]
  refine exists_part_paged (fun part hPart => ?_) hPlain h rfl
  cases part with
  | visit v =>
      cases v with
      | bind => exact hPart.elim
      | expr | table | select => rfl
  | item | cte | compound | member => rfl

/-- A page has the shared parameters of its SELECT, each of them once, though
perhaps in another order. -/
theorem perm_sharedNames_paged {dialect : String} (rules : IdentifierRules)
    (hPlain : s.numbered = false) (h : s.paged dialect = .ok page) :
    ((Statement.query (.select page)).sharedNames rules).Perm
      ((Statement.query (.select s)).sharedNames rules) := by
  rw [List.perm_ext_iff_of_nodup (Statement.nodup_sharedNames ..) (Statement.nodup_sharedNames ..)]
  intro name
  simp only [Statement.mem_sharedNames, mem_binds_paged hPlain h]

/-- The names that are kept make no difference between a page and its SELECT:
they are the same up to their order. -/
theorem write_paged (t : Target) (mode : ParameterMode) {dialect : String}
    (hPlain : s.numbered = false) (h : s.paged dialect = .ok page) (d : Draft) :
    Ledger.write ((Statement.query (.select s)).setting t mode) {} d =
      Ledger.write ((Statement.query (.select page)).setting t mode) {} d :=
  Ledger.write_perm (s := (Statement.query (.select page)).setting t mode)
    (perm_sharedNames_paged t.rules hPlain h) {} d

/-- A SELECT whose page is picked by row numbers has the columns of its page in
the result row. -/
theorem outputs_paged (hSkips : s.skipsRows = true) (hStrategy : t.strategy = .rowNumber)
    (h : s.paged t.profile.name = .ok page) : s.outputs t = page.outputs t := by
  have hPage := direct_of_paged (t := t) (plain_of_skipsRows hSkips) h
  rw [outputs, if_pos ⟨hSkips, hStrategy⟩, h, outputs, if_neg (hPage.avoids (by decide))]

/-- A page is drafted in place of its SELECT, at any depth. The page has fewer
places where rows are skipped, but it needs no more. -/
theorem draft_query_paged (hSkips : s.skipsRows = true) (hStrategy : t.strategy = .rowNumber)
    (h : s.paged t.profile.name = .ok page) :
    (Statement.query (.select s)).draft t = (Statement.query (.select page)).draft t := by
  have hFewer := skips_paged_lt hSkips h
  have hPages : ∀ s : Select, (Statement.query (.select s)).pages = skips (s.visits true) :=
    fun s => (Statement.query (.select s)).pages_eq
  obtain ⟨depth, hDepth⟩ := Nat.exists_eq_succ_of_ne_zero (Nat.ne_zero_of_lt hFewer)
  calc
    _ = pager t (skips (s.visits true)) .outermost true page := by
      rw [← hPages]
      exact draft_paged hSkips hStrategy h
    _ = page.draft t (pager t depth) .outermost true := by
      rw [hDepth]
      rfl
    _ = page.draft t (pager t (skips (page.visits true))) .outermost true :=
      draft_congr (pager_agrees t (by omega) (Nat.le_refl _)) page _ true (Nat.le_refl _)
    _ = _ := by
      rw [← hPages]
      rfl

end Select

/-- Where pages are picked by row numbers, a SELECT that skips rows is compiled
as its page is: with the same error if it cannot be paged, and otherwise with
the same outcome. -/
theorem Statement.compile_paged (t : Target) (hStrategy : t.strategy = .rowNumber)
    (mode : ParameterMode) (s : Select) (hOffset : s.offset.isSome = true)
    (hPlain : s.numbered = false) :
    (Statement.query (.select s)).compile t mode =
      (s.paged t.profile.name >>= fun page => (Statement.query (.select page)).compile t mode) := by
  have hSkips : s.skipsRows = true := by rw [Select.skipsRows, hOffset, hPlain]; rfl
  cases hPage : s.paged t.profile.name with
  | error e =>
      have hDraft : (Statement.query (.select s)).draft t = [.stop e] :=
        Select.draft_unpaged hSkips hStrategy hPage
      rw [compile, hDraft]
      rfl
  | ok page =>
      rw [compile, Select.draft_query_paged hSkips hStrategy hPage,
        Select.write_paged t mode hPlain hPage, outputs, Query.outputs,
        Select.outputs_paged hSkips hStrategy hPage]
      rfl

namespace Sample

/-- Distinct balances after interest, in their order, which repeats the shared
rate. A parameter of the same key is not shared. -/
def interest : Select :=
  let rate : Expr := .param ⟨"rate", some (.int 2), .of .integer, false⟩
  let balance := columnOf (.plain accounts) "balance"
  { Select.ofColumns [.binary .mul balance rate] with
    distinct := true
    sources := [.table (.plain accounts)]
    condition := some (.binary .gt balance (.param ⟨"rate", some (.int 7), .of .integer, true⟩))
    orderBy := [⟨.binary .mul balance rate, none, none⟩]
    limit := some 5
    offset := some 10 }

end Sample

/-- The page mentions the shared rate once, and the name is kept for it all the
same. -/
theorem Statement.compile_paged_interest :
    ∃ page c, Sample.interest.paged Sample.numbering.profile.name = .ok page ∧
      (Statement.query (.select Sample.interest)).compile Sample.numbering .placeholders = .ok c ∧
      (Statement.query (.select page)).compile Sample.numbering .placeholders = .ok c ∧
      (Statement.query (.select Sample.interest)).binds.length = 3 ∧
      (Statement.query (.select page)).binds.length = 2 ∧
      c.binds.map (·.name) = ["rate", "rate_1"] := by
  have hSame := Statement.compile_paged Sample.numbering rfl .placeholders Sample.interest rfl rfl
  obtain ⟨c, hCompile, hNames⟩ := exists_ok_of_toOption
    (x := (Statement.query (.select Sample.interest)).compile Sample.numbering .placeholders)
    (f := fun c => c.binds.map (·.name)) (y := ["rate", "rate_1"]) (by decide)
  obtain ⟨page, hPage, hLength⟩ := exists_ok_of_toOption
    (x := Sample.interest.paged Sample.numbering.profile.name)
    (f := fun page => (Statement.query (.select page)).binds.length) (y := 2) (by decide)
  rw [hCompile, hPage] at hSame
  exact ⟨page, c, hPage, hCompile, hSame.symm, by decide, hLength, hNames⟩

end SqlStatements
