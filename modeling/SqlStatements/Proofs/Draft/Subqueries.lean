import Mathlib.Data.List.Infix
import SqlStatements.Proofs.Draft.PagedSources

/-! Queries inside of expressions. Where a query is written out, its draft stands in
the draft of what surrounds it, and the tables in sight there are those that the
SELECTs on the way to it provide. -/
namespace SqlStatements

section Paths

/-- The query of an expression that is made of one. -/
def Expr.query? : Expr → Option Query
  | .inQuery _ q _ | .existsIn q _ | .scalar q => some q
  | _ => none

def Window.exprs (w : Window) : List Expr := w.partitionBy ++ w.orderBy.map (·.expr)

/-- The immediate parts of an expression that are written out with it. A
function that is a single word has no arguments, nothing is asked about an empty
list, and a null is not compared. -/
def Expr.parts (t : Target) : Expr → List Expr
  | .binary _ l r => l :: if r.isNullLiteral then [] else [r]
  | .unary _ e | .cast e _ | .extract _ e | .isNull e _ | .label e _ | .inQuery e _ _ => [e]
  | .call name args _ w _ =>
    match t.profile.functions.lookup (Text.lower name) with
    | some (.keyword _) => []
    | _ => args ++ w.toList.flatMap Window.exprs
  | .caseOf o bs e => o.toList ++ bs.flatMap (fun b => [b.condition, b.result]) ++ e.toList
  | .inList e items _ => if items.isEmpty then [] else e :: items
  | .between e l h _ => [e, l, h]
  | .tuple items => items
  | _ => []

def FromItem.conditions : FromItem → List Expr
  | .join _ l r c => l.conditions ++ r.conditions ++ c.toList
  | _ => []

/-- The expressions of an order, where it is kept in a query inside of another
one. -/
def keptOrder (t : Target) (limit offset : Option UInt64) (orderBy : List OrderTerm) : List Expr :=
  if limit.isSome || offset.isSome || t.caps.subqueryOrder then orderBy.map (·.expr) else []

/-- The expressions of a SELECT that are written out with it. -/
def Select.parts (t : Target) (s : Select) : List Expr :=
  s.columns ++ s.sources.flatMap FromItem.conditions ++ s.condition.toList ++ s.groupBy ++
    s.having.toList ++ keptOrder t s.limit s.offset s.orderBy

/-- The query stands in the expression, and in no other query of it. -/
inductive Expr.Asks (t : Target) : Expr → Query → Prop where
  | here {e : Expr} {q : Query} (hQuery : e.query? = some q) : Asks t e q
  | part {e part : Expr} {q : Query} (hPart : part ∈ e.parts t) (hAsks : Asks t part q) : Asks t e q

/-- There is a way from the query to a SELECT, which enters no derived table; so
it does not pass through a SELECT whose page is picked by row numbers, but may
end at one. The list has the SELECTs on the way, from the outside in. -/
inductive Query.Leads (t : Target) : Query → List Select → Select → Prop where
  | here (s : Select) : Leads t (.select s) [] s
  | inside {s inner : Select} {e : Expr} {q : Query} {between : List Select}
      (hDirect : s.Direct t) (hPart : e ∈ s.parts t) (hAsks : e.Asks t q)
      (hLeads : Leads t q between inner) : Leads t (.select s) (s :: between) inner
  | cte {s inner : Select} {cte : Cte} {between : List Select} (hDirect : s.Direct t)
      (hCte : cte ∈ s.ctes) (hLeads : Leads t cte.query between inner) :
      Leads t (.select s) (s :: between) inner
  | member {op : SetOp} {members : List Query} {orderBy : List OrderTerm}
      {limit offset : Option UInt64} {q : Query} {inner : Select} {between : List Select}
      (hMember : q ∈ members) (hFree : q.isRestricted = false)
      (hLeads : Leads t q between inner) :
      Leads t (.compound op members orderBy limit offset) between inner
  | order {op : SetOp} {members : List Query} {orderBy : List OrderTerm}
      {limit offset : Option UInt64} {e : Expr} {q : Query} {inner : Select}
      {between : List Select} (hPart : e ∈ keptOrder t limit offset orderBy)
      (hAsks : e.Asks t q) (hLeads : Leads t q between inner) :
      Leads t (.compound op members orderBy limit offset) between inner

/-- The tables that a SELECT brings into sight: those of its FROM clause, or
where it has none, those that it mentions. -/
def Select.Provides (s : Select) (ref : TableRef) : Prop :=
  if s.sources = [] then s.Mentions ref else ref ∈ s.sources.flatMap FromItem.tables

end Paths

namespace Draft

variable {d l r : Draft} {ds : List Draft}

/-- A part of a draft that goes to its end goes to its end. -/
theorem Complete.of_part (h : r.Complete) (hInfix : l <:+: r) : l.Complete :=
  fun e hMem => h e (hInfix.subset hMem)

theorem infix_parens (d : Draft) (wanted : Bool) : d <:+: d.parens wanted := by
  cases wanted with
  | false => exact List.infix_rfl
  | true => exact ⟨[.text "("], [.text ")"], rfl⟩

theorem infix_join {separator : String} (h : d ∈ ds) : d <:+: join separator ds := by
  induction ds with
  | nil => cases h
  | cons first ds ih =>
      cases ds with
      | nil =>
          rw [List.mem_singleton.mp h]
          exact List.infix_rfl
      | cons other ds =>
          rcases List.mem_cons.mp h with rfl | h
          · exact (List.prefix_append _ _).isInfix
          · exact (ih h).trans ((List.suffix_cons _ _).trans (List.suffix_append _ _)).isInfix

theorem infix_clause {word : String} {o : Option Draft} (h : d ∈ o) : d <:+: clause word o := by
  rw [Option.mem_def.mp h]
  exact (List.suffix_cons _ _).isInfix

theorem infix_listClause {word : String} (h : d ∈ ds) : d <:+: listClause word ds := by
  rw [listClause, if_neg (by simp [List.ne_nil_of_mem h])]
  exact (infix_join h).trans (List.suffix_cons _ _).isInfix

theorem infix_operand (e : Expr) (d : Draft) : d <:+: operand e d := infix_parens ..

theorem infix_append_left {m : Draft} (h : d <:+: l) : d <:+: l ++ m :=
  h.trans (List.prefix_append _ _).isInfix

theorem infix_append_right {m : Draft} (h : d <:+: r) : d <:+: m ++ r :=
  h.trans (List.suffix_append _ _).isInfix

theorem infix_cons {piece : Piece} (h : d <:+: r) : d <:+: piece :: r :=
  h.trans (List.suffix_cons _ _).isInfix

theorem infix_binary_left (t : Target) (op : BinaryOp) (left right : Expr) :
    l <:+: binary t op left right l r := by
  simp only [binary]
  split
  · exact infix_append_left (infix_operand left l)
  · split
    · exact infix_append_left (infix_operand left l)
    · split
      · exact infix_append_right (infix_cons List.infix_rfl)
      · exact infix_append_left (infix_parens l _)

/-- The right operand is written unless it is the missing value, which the
operator takes in. -/
theorem infix_binary_right (t : Target) (op : BinaryOp) (left : Expr) {right : Expr}
    (hRight : right.isNullLiteral = false) : r <:+: binary t op left right l r := by
  simp only [binary, hRight]
  split
  · rename_i hNull
    cases hNull.2
  · split
    · exact infix_append_right (infix_cons List.infix_rfl)
    · split
      · exact infix_append_left (infix_operand right r)
      · exact infix_append_right (infix_cons (infix_parens r _))

theorem infix_window {orders : List Draft} (h : d ∈ ds ∨ d ∈ orders) :
    d <:+: window ds orders := by
  have hClause : ∀ (word : String) (es : List Draft), d ∈ es →
      listClause word es ∈ [listClause "PARTITION BY " ds, listClause "ORDER BY " orders] →
      d <:+: window ds orders := by
    intro word es hd hMem
    have hSome : (listClause word es).isEmpty = false := by
      rw [listClause, if_neg (by simp [List.ne_nil_of_mem hd])]
      rfl
    exact (infix_listClause hd).trans
      (infix_join (List.mem_filter.mpr ⟨hMem, by rw [hSome]; rfl⟩))
  rcases h with h | h
  · exact hClause "PARTITION BY " ds h (List.mem_cons_self ..)
  · exact hClause "ORDER BY " orders h (List.mem_cons_of_mem _ (List.mem_cons_self ..))

/-- A function that is not a single word is written with its arguments, under
its own name or another one. -/
theorem exists_call (t : Target) (name : String)
    (h : ∀ word, t.profile.functions.lookup (Text.lower name) ≠ some (.keyword word))
    (args : List Draft) (distinct : Bool) (w : Option Draft) :
    ∃ opening, call t name args distinct w =
      .text opening :: (join ", " args ++ .text ")" :: overWindow t name w) := by
  unfold call
  split
  · rename_i word hWord
    exact absurd hWord (h word)
  · exact ⟨_, rfl⟩

/-- A window that is written at all stands behind its function. -/
theorem infix_overWindow {t : Target} {name : String} {w : Option Draft}
    (hComplete : (overWindow t name w).Complete) (h : d ∈ w) : d <:+: overWindow t name w := by
  rw [Option.mem_def.mp h, overWindow] at hComplete ⊢
  split at hComplete
  · rename_i hWindows
    rw [if_pos hWindows]
    exact infix_cons (List.prefix_append _ _).isInfix
  · exact absurd (List.mem_singleton_self _) (hComplete _)

/-- Every selected expression is written, if there is a heading for each of
them. -/
theorem infix_columns {hs : Except Error (List Heading)}
    (hComplete : (columns hs ds).Complete) (hLength : ∀ headings, hs = .ok headings →
      headings.length = ds.length) (h : d ∈ ds) : d <:+: columns hs ds := by
  cases hs with
  | error e => exact absurd (List.mem_singleton_self _) (hComplete e)
  | ok headings =>
      obtain ⟨i, hi, rfl⟩ := List.getElem_of_mem h
      have hi' : i < headings.length := by rw [hLength headings rfl]; exact hi
      have hZip : i < (List.zipWith Heading.draft headings ds).length := by
        rw [List.length_zipWith]
        exact Nat.lt_min.mpr ⟨hi', hi⟩
      refine List.IsInfix.trans ?_ (infix_join (List.getElem_mem hZip))
      rw [List.getElem_zipWith, Heading.draft]
      split
      · exact (List.prefix_append _ _).isInfix
      · exact List.infix_rfl

theorem infix_sources (t : Target) {items : List FromItem} (hLength : items.length = ds.length)
    (h : d ∈ ds) : d <:+: sources t items ds := by
  induction items generalizing ds with
  | nil =>
      rw [List.eq_nil_of_length_eq_zero hLength.symm] at h
      cases h
  | cons item items ih =>
      cases ds with
      | nil => cases h
      | cons first ds =>
          simp only [sources]
          rcases List.mem_cons.mp h with rfl | h
          · exact infix_append_left (List.prefix_append _ _).isInfix
          · exact infix_append_right (ih (Nat.succ.inj hLength) h)

end Draft

variable {t : Target} {pager : Pager} {sc : Scope}

theorem mem_exprDrafts {e : Expr} {es : List Expr} (h : e ∈ es) :
    e.draft t pager sc ∈ exprDrafts t pager sc es := by
  induction es with
  | nil => cases h
  | cons first es ih =>
      rw [exprDrafts]
      rcases List.mem_cons.mp h with rfl | h
      · exact List.mem_cons_self ..
      · exact List.mem_cons_of_mem _ (ih h)

theorem length_exprDrafts (es : List Expr) : (exprDrafts t pager sc es).length = es.length := by
  induction es with
  | nil => rfl
  | cons e es ih => rw [exprDrafts, List.length_cons, List.length_cons, ih]

theorem mem_optionDraft {e : Expr} {o : Option Expr} (h : e ∈ o.toList) :
    e.draft t pager sc ∈ optionDraft t pager sc o := by
  cases o with
  | none => cases h
  | some other =>
      rw [List.mem_singleton.mp h]
      rfl

/-- Every expression of an order is written in its entry, which may go on behind
it. -/
theorem exists_mem_orderDrafts {e : Expr} {terms : List OrderTerm}
    (h : e ∈ terms.map (·.expr)) :
    ∃ d ∈ orderDrafts t pager sc terms, e.draft t pager sc <:+: d := by
  induction terms with
  | nil => cases h
  | cons term terms ih =>
      obtain ⟨first, direction, nulls⟩ := term
      rw [orderDrafts]
      rcases List.mem_cons.mp h with rfl | h
      · exact ⟨_, List.mem_cons_self .., (List.prefix_append _ _).isInfix⟩
      · obtain ⟨d, hd, hInfix⟩ := ih h
        exact ⟨d, List.mem_cons_of_mem _ hd, hInfix⟩

theorem infix_branchDrafts {e : Expr} {bs : List Branch}
    (h : e ∈ bs.flatMap fun b => [b.condition, b.result]) :
    e.draft t pager sc <:+: branchDrafts t pager sc bs := by
  induction bs with
  | nil => cases h
  | cons b bs ih =>
      obtain ⟨c, r⟩ := b
      rw [branchDrafts]
      rw [List.flatMap_cons] at h
      rcases List.mem_append.mp h with h | h
      · rcases List.mem_pair.mp h with rfl | rfl
        · exact Draft.infix_cons (List.prefix_append _ _).isInfix
        · exact Draft.infix_cons (Draft.infix_append_right
            (Draft.infix_cons (List.prefix_append _ _).isInfix))
      · exact Draft.infix_cons (Draft.infix_append_right
          (Draft.infix_cons (Draft.infix_append_right (ih h))))

namespace Expr

theorem infix_windowDraft (t : Target) (pager : Pager) (sc : Scope) {e : Expr} {w : Window}
    (h : e ∈ w.exprs) :
    ∃ d ∈ windowDraft t pager sc (some w), e.draft t pager sc <:+: d := by
  obtain ⟨partitionBy, orderBy⟩ := w
  refine ⟨_, rfl, ?_⟩
  rcases List.mem_append.mp h with h | h
  · exact Draft.infix_window (.inl (mem_exprDrafts h))
  · obtain ⟨d, hd, hInfix⟩ := exists_mem_orderDrafts h
    exact hInfix.trans (Draft.infix_window (.inr hd))

/-- A part that is written out stands in the draft of the whole. -/
theorem infix_part {e part : Expr} (hComplete : (e.draft t pager sc).Complete)
    (h : part ∈ e.parts t) : part.draft t pager sc <:+: e.draft t pager sc := by
  cases e with
  | literal | column | param | existsIn | scalar | star | raw => cases h
  | binary op l r =>
      rw [parts] at h
      rw [Expr.draft]
      rcases List.mem_cons.mp h with rfl | h
      · exact Draft.infix_binary_left ..
      · split at h
        · cases h
        · rename_i hRight
          rw [List.mem_singleton.mp h]
          exact Draft.infix_binary_right _ _ _ (by simpa using hRight)
  | unary op e =>
      rw [List.mem_singleton.mp h]
      exact Draft.infix_cons (Draft.infix_parens ..)
  | cast e type =>
      rw [List.mem_singleton.mp h]
      exact Draft.infix_cons (List.prefix_append _ _).isInfix
  | extract field e =>
      rw [List.mem_singleton.mp h]
      exact Draft.infix_cons (List.prefix_append _ _).isInfix
  | isNull e negated =>
      rw [List.mem_singleton.mp h]
      exact Draft.infix_append_left (Draft.infix_operand ..)
  | label e name =>
      rw [List.mem_singleton.mp h]
      exact List.infix_rfl
  | inQuery e q negated =>
      rw [List.mem_singleton.mp h]
      exact Draft.infix_append_left (Draft.infix_operand ..)
  | call name args distinct w type =>
      simp only [parts] at h
      split at h
      · cases h
      · rename_i hSpelling
        obtain ⟨opening, hCall⟩ := Draft.exists_call t name hSpelling
          (exprDrafts t pager sc args) distinct (windowDraft t pager sc w)
        rw [Expr.draft, hCall] at hComplete ⊢
        rcases List.mem_append.mp h with h | h
        · exact Draft.infix_cons (Draft.infix_append_left (Draft.infix_join (mem_exprDrafts h)))
        · obtain ⟨window, hWindow, hPart⟩ := List.mem_flatMap.mp h
          obtain rfl : w = some window := by simpa using hWindow
          obtain ⟨d, hd, hInfix⟩ := infix_windowDraft t pager sc hPart
          refine Draft.infix_cons (Draft.infix_append_right (Draft.infix_cons (hInfix.trans ?_)))
          refine Draft.infix_overWindow ?_ hd
          exact hComplete.of_part (Draft.infix_cons
            (Draft.infix_append_right (Draft.infix_cons List.infix_rfl)))
  | caseOf o bs e =>
      rw [Expr.draft]
      rcases List.mem_append.mp h with h | h
      · rcases List.mem_append.mp h with h | h
        · exact Draft.infix_cons (Draft.infix_append_left (Draft.infix_append_left
            (Draft.infix_append_left (Draft.infix_clause (mem_optionDraft h)))))
        · exact Draft.infix_cons (Draft.infix_append_left (Draft.infix_append_left
            (Draft.infix_append_right (infix_branchDrafts h))))
      · exact Draft.infix_cons (Draft.infix_append_left
          (Draft.infix_append_right (Draft.infix_clause (mem_optionDraft h))))
  | inList e items negated =>
      simp only [parts] at h
      split at h
      · cases h
      · rename_i hItems
        have hDrafts : (exprDrafts t pager sc items).isEmpty = false := by
          cases items with
          | nil => exact absurd rfl hItems
          | cons => rfl
        rw [Expr.draft, Draft.inList, hDrafts]
        rcases List.mem_cons.mp h with rfl | h
        · exact Draft.infix_append_left (Draft.infix_operand ..)
        · exact Draft.infix_append_right (Draft.infix_cons
            (Draft.infix_append_left (Draft.infix_join (mem_exprDrafts h))))
  | between e l u negated =>
      rw [Expr.draft, Draft.between]
      simp only [parts, List.mem_cons, List.not_mem_nil, or_false] at h
      rcases h with rfl | rfl | rfl
      · exact Draft.infix_append_left (Draft.infix_operand ..)
      · exact Draft.infix_append_right (Draft.infix_cons
          (Draft.infix_append_left (Draft.infix_operand ..)))
      · exact Draft.infix_append_right (Draft.infix_cons (Draft.infix_append_right
          (Draft.infix_cons (Draft.infix_operand ..))))
  | tuple items =>
      rw [Expr.draft]
      exact Draft.infix_cons (Draft.infix_append_left (Draft.infix_join (mem_exprDrafts h)))

/-- The query of an expression stands in its draft, one level deeper. -/
theorem infix_query {e : Expr} {q : Query} (h : e.query? = some q) :
    q.draft t pager sc.nested false <:+: e.draft t pager sc := by
  cases e with
  | inQuery e q' negated =>
      cases h
      exact Draft.infix_append_right (Draft.infix_cons (List.prefix_append _ _).isInfix)
  | existsIn q' negated =>
      cases h
      rw [Expr.draft]
      exact Draft.infix_cons (List.prefix_append _ _).isInfix
  | scalar q' =>
      cases h
      rw [Expr.draft]
      exact Draft.infix_cons (List.prefix_append _ _).isInfix
  | _ => cases h

/-- So does a query further inside, on the same level. -/
theorem Asks.within {e : Expr} {q : Query} (h : e.Asks t q)
    (hComplete : (e.draft t pager sc).Complete) :
    q.draft t pager sc.nested false <:+: e.draft t pager sc := by
  induction h with
  | here hQuery => exact infix_query hQuery
  | part hPart _ ih =>
      have hInfix := infix_part hComplete hPart
      exact (ih (hComplete.of_part hInfix)).trans hInfix

end Expr

/-- A table that is applied to another one takes no condition, whatever the kind
of join. -/
theorem Draft.not_complete_apply (t : Target) (kind : JoinKind) (r : Draft) :
    ¬(Draft.apply t kind true r).Complete := by
  intro hComplete
  cases kind <;> exact hComplete _ (List.mem_singleton_self _)

/-- A lateral table is no join, so it has no conditions. -/
theorem FromItem.conditions_of_lateral {item : FromItem} (h : item.isLateral = true) :
    item.conditions = [] := by
  cases item with
  | derived => rfl
  | table | join | cte => cases h

/-- The condition of a join stands in the draft of the item. -/
theorem FromItem.infix_condition {item : FromItem} {e : Expr}
    (hComplete : (item.draft t pager sc).Complete) (h : e ∈ item.conditions) :
    e.draft t pager sc <:+: item.draft t pager sc := by
  induction item using FromItem.tables.induct with
  | case1 | case3 | case4 => cases h
  | case2 kind left right condition ihLeft ihRight =>
      rw [FromItem.draft, Draft.joined] at hComplete ⊢
      have hSides := (List.mem_append.mp h).imp_left List.mem_append.mp
      by_cases hApply : right.isLateral = true ∧ t.caps.lateral = .apply
      · rw [if_pos hApply] at hComplete ⊢
        rcases hSides with (h | h) | h
        · exact Draft.infix_append_left
            (ihLeft (hComplete.of_part (List.prefix_append _ _).isInfix) h)
        · rw [conditions_of_lateral hApply.1] at h
          cases h
        · obtain rfl : condition = some e := by simpa using h
          exact absurd (hComplete.of_part (List.suffix_append _ _).isInfix)
            (Draft.not_complete_apply _ _ _)
      · rw [if_neg hApply] at hComplete ⊢
        rcases hSides with (h | h) | h
        · exact Draft.infix_append_left
            (ihLeft (hComplete.of_part (List.prefix_append _ _).isInfix) h)
        · have hRight : right.draft t pager sc <:+: left.draft t pager sc ++
              .text (" " ++ kind.sql ++ " ") :: ((right.draft t pager sc).parens
                (Draft.isJoin right) ++ Draft.clause " ON " (optionDraft t pager sc condition)) :=
            Draft.infix_append_right (Draft.infix_cons
              (Draft.infix_append_left (Draft.infix_parens _ _)))
          exact (ihRight (hComplete.of_part hRight) h).trans hRight
        · exact Draft.infix_append_right (Draft.infix_cons
            (Draft.infix_append_right (Draft.infix_clause (mem_optionDraft h))))

theorem length_sourceDrafts (items : List FromItem) :
    (sourceDrafts t pager sc items).length = items.length := by
  induction items with
  | nil => rfl
  | cons item items ih => rw [sourceDrafts, List.length_cons, List.length_cons, ih]

theorem mem_sourceDrafts {item : FromItem} {items : List FromItem} (h : item ∈ items) :
    item.draft t pager sc ∈ sourceDrafts t pager sc items := by
  induction items with
  | nil => cases h
  | cons first items ih =>
      rw [sourceDrafts]
      rcases List.mem_cons.mp h with rfl | h
      · exact List.mem_cons_self ..
      · exact List.mem_cons_of_mem _ (ih h)

theorem infix_cteDrafts {cte : Cte} {ctes : List Cte} (h : cte ∈ ctes) :
    ∃ d ∈ cteDrafts t pager sc ctes, cte.query.draft t pager sc.nested false <:+: d := by
  induction ctes with
  | nil => cases h
  | cons first ctes ih =>
      obtain ⟨name, columns, q, recursive⟩ := first
      rw [cteDrafts]
      rcases List.mem_cons.mp h with rfl | h
      · exact ⟨_, List.mem_cons_self .., Draft.infix_cons (Draft.infix_append_right
          (Draft.infix_cons (List.prefix_append _ _).isInfix))⟩
      · obtain ⟨d, hd, hInfix⟩ := ih h
        exact ⟨d, List.mem_cons_of_mem _ hd, hInfix⟩

theorem length_headings {rules : IdentifierRules} {star : Option ColumnSource → List Field}
    {taken : List String} {es : List Expr} {hs : List Heading}
    (h : headings rules star taken es = .ok hs) : hs.length = es.length := by
  induction es generalizing taken hs with
  | nil =>
      cases h
      rfl
  | cons e es ih =>
      obtain ⟨first, _, h⟩ := exists_ok_of_bind_ok h
      obtain ⟨more, hMore, h⟩ := exists_ok_of_bind_ok h
      cases h
      rw [List.length_cons, List.length_cons, ih hMore]

/-- Where an order is kept, each of its expressions is written. -/
theorem Draft.infix_order_kept {place : Scope} {limited : Bool} {orderBy : List OrderTerm}
    {e : Expr} (hKept : place.keepsOrder t limited = true) (h : e ∈ orderBy.map (·.expr)) :
    e.draft t pager sc <:+: Draft.order t place limited (orderDrafts t pager sc orderBy) := by
  rw [Draft.order, if_pos hKept]
  obtain ⟨d, hd, hInfix⟩ := exists_mem_orderDrafts h
  exact hInfix.trans (Draft.infix_listClause hd)

/-- An order that is kept inside of another query is kept here. At the outermost
depth more may be kept than this. -/
theorem Draft.infix_order {limit offset : Option UInt64} {orderBy : List OrderTerm} {e : Expr}
    {place : Scope} (h : e ∈ keptOrder t limit offset orderBy) :
    e.draft t pager sc <:+: Draft.order t place (limit.isSome || offset.isSome)
      (orderDrafts t pager sc orderBy) := by
  rw [keptOrder] at h
  split at h
  · rename_i hKept
    have hKeeps : place.keepsOrder t (limit.isSome || offset.isSome) = true := by
      rw [Scope.keepsOrder, Bool.or_assoc, hKept, Bool.or_true]
    exact Draft.infix_order_kept hKeeps h
  · cases h

namespace Select

variable {s : Select} {outermost : Bool}

/-- A FROM clause that is given is written with its own items, whatever the
SELECT mentions. -/
theorem fromDraft_given (h : s.sources ≠ []) :
    s.fromDraft t pager sc = .text " FROM " :: Draft.sources t s.sources
      (sourceDrafts t pager (sc.providing (sc.sources s)) s.sources) := by
  have hSome : s.sources.isEmpty = false := by simpa using h
  have hSources : sc.sources s = s.sources := by rw [Scope.sources, hSome]; rfl
  simp only [fromDraft, hSources, hSome, Bool.false_eq_true, if_false]

/-- The expressions of a SELECT stand in its draft, where its tables are in
sight. -/
theorem infix_part {e : Expr} (hDirect : s.Direct t)
    (hComplete : (s.draft t pager sc outermost).Complete) (h : e ∈ s.parts t) :
    e.draft t pager (sc.providing (sc.sources s)) <:+: s.draft t pager sc outermost := by
  have hSome := columns_of_complete hDirect hComplete
  rw [draft_direct hDirect hSome] at hComplete ⊢
  simp only [parts, List.mem_append] at h
  rcases h with ((((h | h) | h) | h) | h) | h
  · have hColumns : Draft.columns (s.headings t sc outermost)
        (exprDrafts t pager (sc.providing (sc.sources s)) s.columns) <:+:
        s.headDraft t pager sc outermost :=
      Draft.infix_append_right (Draft.infix_cons (List.suffix_append _ _).isInfix)
    have hWhole := Draft.infix_append_left (m := s.tailDraft t pager sc)
      (Draft.infix_append_left (m := s.fromDraft t pager sc) hColumns)
    refine (Draft.infix_columns (hComplete.of_part hWhole) ?_ (mem_exprDrafts h)).trans hWhole
    intro hs hHeadings
    rw [length_headings hHeadings, length_exprDrafts]
  · obtain ⟨item, hItem, hCondition⟩ := List.mem_flatMap.mp h
    have hWhole : item.draft t pager (sc.providing (sc.sources s)) <:+:
        s.headDraft t pager sc outermost ++ s.fromDraft t pager sc ++ s.tailDraft t pager sc := by
      rw [fromDraft_given (List.ne_nil_of_mem hItem)]
      exact Draft.infix_append_left (Draft.infix_append_right (Draft.infix_cons
        (Draft.infix_sources t (length_sourceDrafts _).symm (mem_sourceDrafts hItem))))
    exact (FromItem.infix_condition (hComplete.of_part hWhole) hCondition).trans hWhole
  · exact Draft.infix_append_right (Draft.infix_append_left (Draft.infix_append_left
      (Draft.infix_append_left (Draft.infix_append_left (Draft.infix_clause (mem_optionDraft h))))))
  · exact Draft.infix_append_right (Draft.infix_append_left (Draft.infix_append_left
      (Draft.infix_append_left (Draft.infix_append_right
        (Draft.infix_listClause (mem_exprDrafts h))))))
  · exact Draft.infix_append_right (Draft.infix_append_left (Draft.infix_append_left
      (Draft.infix_append_right (Draft.infix_clause (mem_optionDraft h)))))
  · exact Draft.infix_append_right (Draft.infix_append_left
      (Draft.infix_append_right (Draft.infix_order h)))

theorem infix_cte {cte : Cte} (hDirect : s.Direct t)
    (hComplete : (s.draft t pager sc outermost).Complete) (h : cte ∈ s.ctes) :
    cte.query.draft t pager (sc.providing (sc.sources s)).nested false <:+:
      s.draft t pager sc outermost := by
  rw [draft_direct hDirect (columns_of_complete hDirect hComplete)]
  obtain ⟨d, hd, hInfix⟩ := infix_cteDrafts h
  have hSome : ¬s.ctes.isEmpty = true := by simp [List.ne_nil_of_mem h]
  refine Draft.infix_append_left (Draft.infix_append_left (Draft.infix_append_left ?_))
  rw [Draft.withClause, if_neg hSome]
  exact hInfix.trans (Draft.infix_cons (Draft.infix_append_left (Draft.infix_join hd)))

/-- Inside of a SELECT the tables in sight are those around it and its own,
given or mentioned. -/
theorem mem_visible_providing {ref : TableRef} :
    ref ∈ (sc.providing (sc.sources s)).visible ↔ ref ∈ sc.visible ∨ s.Provides ref := by
  rw [Scope.providing, List.mem_append]
  cases hSources : s.sources with
  | nil =>
      have hImplied : (sc.sources s).flatMap FromItem.tables =
          sc.implied s.columns s.condition := by
        rw [Scope.sources, hSources]
        simp [FromItem.tables, List.flatMap_map]
      rw [hImplied, Scope.mem_implied, Provides, if_pos hSources, Mentions]
      by_cases hVisible : ref ∈ sc.visible <;> simp [hVisible]
  | cons item items =>
      have hGiven : sc.sources s = item :: items := by
        rw [Scope.sources, hSources]
        rfl
      rw [hGiven, Provides, hSources, if_neg (by simp)]

end Select

namespace Query

/-- Every member is written, a restricted one in a place of its own with no
tables in sight. -/
theorem infix_memberDrafts {q : Query}
    {members : List Query} {i : Nat} (h : members[i]? = some q) (outermost : Bool)
    (number : Nat) :
    ∃ d ∈ memberDrafts t pager sc outermost number members,
      (if q.isRestricted then q.draft t pager sc.isolated false
        else q.draft t pager sc (outermost && i == 0)) <:+: d := by
  induction members generalizing outermost number i with
  | nil => cases h
  | cons first members ih =>
      rw [memberDrafts]
      cases i with
      | zero =>
          cases h
          refine ⟨_, List.mem_cons_self .., ?_⟩
          split
          · exact Draft.infix_cons (List.prefix_append _ _).isInfix
          · rw [beq_self_eq_true, Bool.and_true]
            exact Draft.infix_parens _ _
      | succ i =>
          obtain ⟨d, hd, hInfix⟩ := ih (i := i) h false (number + 1)
          refine ⟨d, List.mem_cons_of_mem _ hd, ?_⟩
          simpa using hInfix

section Compound

variable {op : SetOp} {members : List Query} {orderBy : List OrderTerm}
  {limit offset : Option UInt64} {outermost : Bool}

/-- A compound query that goes to its end is its members with the operator
between them, then its order and its limits. -/
theorem draft_compound
    (hComplete : ((compound op members orderBy limit offset).draft t pager sc
      outermost).Complete) :
    (compound op members orderBy limit offset).draft t pager sc outermost =
      Draft.join (" " ++ op.sql ++ " ") (memberDrafts t pager sc outermost 1 members) ++
        Draft.order t sc (limit.isSome || offset.isSome) (orderDrafts t pager sc orderBy) ++
        Draft.limits limit offset := by
  rw [Query.draft] at hComplete ⊢
  split at hComplete
  · exact absurd (List.mem_singleton_self _) (hComplete _)
  · rename_i hLimits
    rw [if_neg hLimits]

/-- A member with an order or a limit of its own is written out in a derived
table, where nothing is in sight. -/
theorem infix_compound_at {q : Query} {i : Nat}
    (hComplete : ((compound op members orderBy limit offset).draft t pager sc
      outermost).Complete) (h : members[i]? = some q) :
    (if q.isRestricted then q.draft t pager sc.isolated false
      else q.draft t pager sc (outermost && i == 0)) <:+:
      (compound op members orderBy limit offset).draft t pager sc outermost := by
  obtain ⟨d, hd, hInfix⟩ := infix_memberDrafts h outermost 1
  refine hInfix.trans ?_
  rw [draft_compound hComplete]
  exact Draft.infix_append_left (Draft.infix_append_left (Draft.infix_join hd))

/-- A member without an order or a limit of its own is written out as it is. -/
theorem infix_compound_member {q : Query}
    (hComplete : ((compound op members orderBy limit offset).draft t pager sc
      outermost).Complete) (hFree : q.isRestricted = false) (h : q ∈ members) :
    ∃ first, q.draft t pager sc first <:+:
      (compound op members orderBy limit offset).draft t pager sc outermost := by
  obtain ⟨i, hi⟩ := List.mem_iff_getElem?.mp h
  have hInfix := infix_compound_at hComplete hi
  rw [hFree] at hInfix
  exact ⟨_, hInfix⟩

theorem infix_compound_order {e : Expr}
    (hComplete : ((compound op members orderBy limit offset).draft t pager sc
      outermost).Complete) (h : e ∈ keptOrder t limit offset orderBy) :
    e.draft t pager sc <:+:
      (compound op members orderBy limit offset).draft t pager sc outermost := by
  rw [draft_compound hComplete]
  exact Draft.infix_append_left (Draft.infix_append_right (Draft.infix_order h))

end Compound

/-- A SELECT that a query leads to stands in its draft. In sight there are the
tables around the query and those that the SELECTs on the way provide. -/
theorem Leads.within {q : Query} {between : List Select} {inner : Select}
    (h : q.Leads t between inner) (sc : Scope) (outermost : Bool)
    (hComplete : (q.draft t pager sc outermost).Complete) :
    ∃ place first, inner.draft t pager place first <:+: q.draft t pager sc outermost ∧
      ∀ ref, ref ∈ place.visible ↔ ref ∈ sc.visible ∨ ∃ s ∈ between, s.Provides ref := by
  induction h generalizing sc outermost with
  | here s => exact ⟨sc, outermost, by rw [Query.draft], by simp⟩
  | @inside s inner e q between hDirect hPart hAsks _ ih =>
      rw [Query.draft] at hComplete ⊢
      have hExpr := Select.infix_part hDirect hComplete hPart
      have hQuery := (hAsks.within (hComplete.of_part hExpr)).trans hExpr
      obtain ⟨place, first, hInfix, hVisible⟩ := ih _ _ (hComplete.of_part hQuery)
      refine ⟨place, first, hInfix.trans hQuery, ?_⟩
      intro ref
      rw [hVisible, Scope.nested, Select.mem_visible_providing, or_assoc,
        List.exists_mem_cons_iff]
  | @cte s inner cte between hDirect hCte _ ih =>
      rw [Query.draft] at hComplete ⊢
      have hQuery := Select.infix_cte hDirect hComplete hCte
      obtain ⟨place, first, hInfix, hVisible⟩ := ih _ _ (hComplete.of_part hQuery)
      refine ⟨place, first, hInfix.trans hQuery, ?_⟩
      intro ref
      rw [hVisible, Scope.nested, Select.mem_visible_providing, or_assoc,
        List.exists_mem_cons_iff]
  | member hMember hFree _ ih =>
      obtain ⟨first, hQuery⟩ := infix_compound_member hComplete hFree hMember
      obtain ⟨place, first, hInfix, hVisible⟩ := ih _ _ (hComplete.of_part hQuery)
      exact ⟨place, first, hInfix.trans hQuery, hVisible⟩
  | order hPart hAsks _ ih =>
      have hExpr := infix_compound_order hComplete hPart
      have hQuery := (hAsks.within (hComplete.of_part hExpr)).trans hExpr
      obtain ⟨place, first, hInfix, hVisible⟩ := ih _ _ (hComplete.of_part hQuery)
      exact ⟨place, first, hInfix.trans hQuery, hVisible⟩

end Query

end SqlStatements
