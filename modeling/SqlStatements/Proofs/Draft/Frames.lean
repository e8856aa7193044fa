import SqlStatements.Proofs.Draft.Filled

/-! The frames of expressions and queries: what they write themselves, without their parts.
So each piece of a draft is written by one of its parts, at any depth, as a piece of the
frame of that part. -/
namespace SqlStatements

section Frames

def blanks {α : Type} (xs : List α) : List Draft := xs.map fun _ => []

/-- What an order writes itself. -/
def orderFrames (terms : List OrderTerm) : List Draft :=
  terms.map fun term => [.text (OrderTerm.suffix term.direction term.nulls)]

/-- What a window writes itself. -/
def Window.frame (w : Window) : Draft :=
  Draft.window (blanks w.partitionBy) (orderFrames w.orderBy)

/-- What an expression writes itself. A null that is compared is no part, so it
belongs to the comparison. -/
def Expr.frame (t : Target) : Expr → Draft
  | .literal v => Draft.ofExcept (t.profile.literalText t.caps v.type v)
  | .column ref => ref.draft
  | .param bind => [.param bind false]
  | .binary op l r => Draft.binary t op l r [] (if r.isNullLiteral then [.text "NULL"] else [])
  | .unary op e => Draft.unary op e []
  | .call name args distinct w _ =>
    Draft.call t name (blanks args) distinct (w.map Window.frame)
  | .caseOf o bs e =>
    .text "CASE" :: (Draft.clause " " (o.map fun _ => []) ++
      bs.flatMap (fun _ => [.text " WHEN ", .text " THEN "]) ++
      Draft.clause " ELSE " (e.map fun _ => []) ++ [.text " END"])
  | .cast _ type => [.text "CAST(", .text (" AS " ++ t.profile.typeName t.caps type ++ ")")]
  | .extract field _ => Draft.extract t field []
  | .isNull e negated => Draft.isNull e [] negated
  | .inList e items negated => Draft.inList e [] (blanks items) negated
  | .inQuery e _ negated => Draft.inQuery e [] [] negated
  | .between e l h negated => Draft.between e l h [] [] [] negated
  | .existsIn _ negated => [.text (negation negated ++ "EXISTS ("), .text ")"]
  | .scalar _ => [.text "(", .text ")"]
  | .label _ _ => []
  | .star none => [.text "*"]
  | .star (some source) => source.draft ++ [.text ".*"]
  | .tuple items => .text "(" :: (Draft.join ", " (blanks items) ++ [.text ")"])
  | .raw sql => [.text sql]

def FromItem.frame (t : Target) : FromItem → Draft
  | .table ref => ref.draft
  | .derived _ name lateral => Draft.derived t name lateral []
  | .join kind _ r condition => Draft.joined t kind r [] [] (condition.map fun _ => [])
  | .cte name => [.name name]

namespace Select

variable (t : Target) (sc : Scope) (outermost : Bool) (s : Select)

/-- What a SELECT writes itself, up to its order. -/
def bodyFrame : Draft :=
  Draft.withClause t s.ctes (s.ctes.map fun c => Draft.cte c.name c.columns []) ++
    .text (if s.distinct then "SELECT DISTINCT " else "SELECT ") :: (Draft.top t s.limit ++
    Draft.columns (s.headings t sc outermost) (blanks s.columns)) ++
    (if (sc.sources s).isEmpty then []
      else .text " FROM " :: Draft.sources t (sc.sources s) (blanks (sc.sources s))) ++
    (Draft.clause " WHERE " (s.condition.map fun _ => []) ++
      Draft.listClause " GROUP BY " (blanks s.groupBy) ++
      Draft.clause " HAVING " (s.having.map fun _ => []))

def frame : Draft :=
  s.bodyFrame t sc outermost ++
    Draft.order t sc (s.limit.isSome || s.offset.isSome) (orderFrames s.orderBy) ++
    if t.strategy = .limitOffset then Draft.limits s.limit s.offset else []

end Select

/-- What a compound query writes for its members, counted from a given
number. -/
def memberFrames (number : Nat) : List Query → List Draft
  | [] => []
  | q :: qs =>
    (if q.isRestricted then
      [.text "SELECT * FROM (", .text ") AS ", .name ("anon_" ++ toString number)]
    else Draft.parens q.isCompound []) :: memberFrames (number + 1) qs

/-- What a query writes itself. One whose page is picked by row numbers leaves
everything to the page. -/
def Query.frame (t : Target) (sc : Scope) (outermost : Bool) : Query → Draft
  | .select s =>
    if s.skipsRows ∧ t.strategy ≠ .limitOffset then [] else s.frame t sc outermost
  | .compound op members orderBy limit offset =>
    Draft.join (" " ++ op.sql ++ " ") (memberFrames 1 members) ++
      Draft.order t sc (limit.isSome || offset.isSome) (orderFrames orderBy) ++
      Draft.limits limit offset

def Node.frame (t : Target) : Node → Draft
  | .expr _ e => e.frame t
  | .item _ source => source.frame t
  | .query sc outermost q => q.frame t sc outermost

/-- Parts are smaller than what they belong to. The items that a SELECT implies
are given with it, so tables count nothing. -/
noncomputable def Node.size : Node → Nat
  | .expr _ e => sizeOf e
  | .item _ (.table _) => 0
  | .item _ source => sizeOf source
  | .query _ _ q => sizeOf q

/-- The drafts of the immediate parts of a node. A page is drafted at one depth
less, all other parts are smaller. -/
def Node.Inner (t : Target) (depth : Nat) (n : Node) (d : Draft) : Prop :=
  ∃ m inner, n.Part t m ∧ Prod.Lex (· < ·) (· < ·) (inner, m.size) (depth, n.size) ∧
    d = m.draft t (pager t inner)

end Frames

variable {t : Target} {depth : Nat} {sc : Scope}

/-- A part that is smaller is drafted at the same depth as what it belongs
to. -/
theorem Node.inner_of_part {n m : Node} (h : n.Part t m) (hSize : m.size < n.size) :
    n.Inner t depth (m.draft t (pager t depth)) :=
  ⟨m, depth, h, .right _ hSize, rfl⟩

section Lists

variable {D : Draft → Prop} {pager : Pager}

/-- Expressions in a list write nothing but themselves: each fills an empty
frame. -/
theorem forall₂_exprDrafts {es : List Expr} (h : ∀ e ∈ es, D (e.draft t pager sc)) :
    List.Forall₂ (Draft.Filled D) (blanks es) (exprDrafts t pager sc es) := by
  induction es with
  | nil => exact .nil
  | cons e es ih =>
      obtain ⟨he, hes⟩ := List.forall_mem_cons.mp h
      exact .cons (.whole he) (ih hes)

theorem rel_optionDraft {o : Option Expr} (h : ∀ e ∈ o.toList, D (e.draft t pager sc)) :
    Option.Rel (Draft.Filled D) (o.map fun _ => []) (optionDraft t pager sc o) := by
  cases o with
  | none => exact .none
  | some e => exact .some (.whole (h e (List.mem_singleton_self _)))

theorem forall₂_orderDrafts {terms : List OrderTerm}
    (h : ∀ e ∈ terms.map (·.expr), D (e.draft t pager sc)) :
    List.Forall₂ (Draft.Filled D) (orderFrames terms) (orderDrafts t pager sc terms) := by
  induction terms with
  | nil => exact .nil
  | cons term terms ih =>
      obtain ⟨he, hTerms⟩ := List.forall_mem_cons.mp h
      obtain ⟨e, direction, nulls⟩ := term
      exact .cons (.part he (.own _)) (ih hTerms)

/-- The words of the branches are the frame; conditions and results are put
in. -/
theorem filled_branchDrafts {bs : List Branch}
    (h : ∀ e ∈ bs.flatMap fun b => [b.condition, b.result], D (e.draft t pager sc)) :
    Draft.Filled D (bs.flatMap fun _ => [.text " WHEN ", .text " THEN "])
      (branchDrafts t pager sc bs) := by
  induction bs with
  | nil => exact .nil
  | cons b bs ih =>
      obtain ⟨c, r⟩ := b
      rw [List.flatMap_cons, List.forall_mem_append] at h
      obtain ⟨hBranch, hRest⟩ := h
      obtain ⟨hc, hr⟩ := List.forall_mem_cons.mp hBranch
      exact .piece (.part hc (.piece (.part (hr _ (List.mem_singleton_self _)) (ih hRest))))

theorem forall₂_cteDrafts {ctes : List Cte}
    (h : ∀ c ∈ ctes, D (c.query.draft t pager sc.nested false)) :
    List.Forall₂ (Draft.Filled D) (ctes.map fun c => Draft.cte c.name c.columns [])
      (cteDrafts t pager sc ctes) := by
  induction ctes with
  | nil => exact .nil
  | cons c ctes ih =>
      obtain ⟨hc, hCtes⟩ := List.forall_mem_cons.mp h
      obtain ⟨name, columns, q, recursive⟩ := c
      exact .cons (.cte (.whole hc)) (ih hCtes)

/-- Items in a list fill empty frames. The text in front of them belongs to the
FROM clause. -/
theorem forall₂_sourceDrafts {items : List FromItem}
    (h : ∀ item ∈ items, D (item.draft t pager sc)) :
    List.Forall₂ (Draft.Filled D) (blanks items) (sourceDrafts t pager sc items) := by
  induction items with
  | nil => exact .nil
  | cons item items ih =>
      obtain ⟨hItem, hItems⟩ := List.forall_mem_cons.mp h
      exact .cons (.whole hItem) (ih hItems)

theorem rel_windowDraft {w : Option Window}
    (h : ∀ e ∈ w.toList.flatMap Window.exprs, D (e.draft t pager sc)) :
    Option.Rel (Draft.Filled D) (w.map Window.frame) (windowDraft t pager sc w) := by
  cases w with
  | none => exact .none
  | some w =>
      obtain ⟨partitionBy, orderBy⟩ := w
      simp only [Option.toList_some, List.flatMap_singleton, Window.exprs,
        List.forall_mem_append] at h
      exact .some (.window (forall₂_exprDrafts h.1) (forall₂_orderDrafts h.2))

end Lists

/-- The missing value is written in the same way everywhere, whatever the pages
are. -/
theorem Expr.draft_null {e : Expr} (h : e.isNullLiteral = true) (pager : Pager) :
    e.draft t pager sc = [.text "NULL"] := by
  cases e with
  | literal v =>
      cases v with
      | null => rfl
      | _ => cases h
  | _ => cases h

section Sizes

theorem sizeOf_mem_toList {α : Type} [SizeOf α] {a : α} {o : Option α} (h : a ∈ o.toList) :
    sizeOf a < sizeOf o := by
  cases o with
  | none => cases h
  | some b =>
      rw [List.mem_singleton.mp h]
      simp

theorem OrderTerm.sizeOf_expr {e : Expr} {terms : List OrderTerm} (h : e ∈ terms.map (·.expr)) :
    sizeOf e < sizeOf terms := by
  obtain ⟨term, hTerm, rfl⟩ := List.mem_map.mp h
  have hSize := List.sizeOf_lt_of_mem hTerm
  obtain ⟨e, direction, nulls⟩ := term
  simp only [mk.sizeOf_spec] at hSize
  show sizeOf e < sizeOf terms
  omega

theorem Branch.sizeOf_expr {e : Expr} {bs : List Branch}
    (h : e ∈ bs.flatMap fun b => [b.condition, b.result]) : sizeOf e < sizeOf bs := by
  obtain ⟨b, hb, he⟩ := List.mem_flatMap.mp h
  have hSize := List.sizeOf_lt_of_mem hb
  obtain ⟨c, r⟩ := b
  simp only [mk.sizeOf_spec] at hSize
  rcases List.mem_pair.mp he with rfl | rfl <;> omega

theorem Window.sizeOf_expr {e : Expr} {w : Window} (h : e ∈ w.exprs) : sizeOf e < sizeOf w := by
  obtain ⟨partitionBy, orderBy⟩ := w
  rw [mk.sizeOf_spec]
  rcases List.mem_append.mp h with h | h
  · have hSize : sizeOf e < sizeOf partitionBy := List.sizeOf_lt_of_mem h
    omega
  · have hSize : sizeOf e < sizeOf orderBy := OrderTerm.sizeOf_expr h
    omega

/-- A part that is written out is smaller than its expression. Queries in it are
no parts in this sense. -/
theorem Expr.sizeOf_part {e part : Expr} (h : part ∈ e.parts t) : sizeOf part < sizeOf e := by
  cases e with
  | literal | column | param | existsIn | scalar | star | raw => cases h
  | unary | cast | extract | isNull | label | inQuery =>
      rw [List.mem_singleton.mp h]
      simp only [unary.sizeOf_spec, cast.sizeOf_spec, extract.sizeOf_spec, isNull.sizeOf_spec,
        label.sizeOf_spec, inQuery.sizeOf_spec]
      omega
  | binary op l r =>
      rw [parts] at h
      rw [binary.sizeOf_spec]
      rcases List.mem_cons.mp h with rfl | h
      · omega
      · split at h
        · cases h
        · rw [List.mem_singleton.mp h]
          omega
  | call name args distinct w type =>
      rw [call.sizeOf_spec]
      simp only [parts] at h
      split at h
      · cases h
      · rcases List.mem_append.mp h with h | h
        · have hSize := List.sizeOf_lt_of_mem h
          omega
        · obtain ⟨window, hWindow, hPart⟩ := List.mem_flatMap.mp h
          have hSize := sizeOf_mem_toList hWindow
          have hInner := Window.sizeOf_expr hPart
          omega
  | caseOf o bs e =>
      rw [caseOf.sizeOf_spec]
      rcases List.mem_append.mp h with h | h
      · rcases List.mem_append.mp h with h | h
        · have hSize := sizeOf_mem_toList h
          omega
        · have hSize := Branch.sizeOf_expr h
          omega
      · have hSize := sizeOf_mem_toList h
        omega
  | inList e items negated =>
      rw [inList.sizeOf_spec]
      simp only [parts] at h
      split at h
      · cases h
      · rcases List.mem_cons.mp h with rfl | h
        · omega
        · have hSize := List.sizeOf_lt_of_mem h
          omega
  | between e l u negated =>
      rw [between.sizeOf_spec]
      simp only [parts, List.mem_cons, List.not_mem_nil, or_false] at h
      rcases h with rfl | rfl | rfl <;> omega
  | tuple items =>
      rw [tuple.sizeOf_spec]
      have hSize : sizeOf part < sizeOf items := List.sizeOf_lt_of_mem h
      omega

theorem Expr.sizeOf_query {e : Expr} {q : Query} (h : e.query? = some q) :
    sizeOf q < sizeOf e := by
  cases e with
  | inQuery | existsIn | scalar =>
      cases h
      simp only [inQuery.sizeOf_spec, existsIn.sizeOf_spec, scalar.sizeOf_spec]
      omega
  | _ => cases h

/-- Each clause of a SELECT is smaller than the SELECT. -/
theorem Select.sizeOf_fields (s : Select) :
    sizeOf s.ctes < sizeOf s ∧ sizeOf s.columns < sizeOf s ∧ sizeOf s.sources < sizeOf s ∧
      sizeOf s.condition < sizeOf s ∧ sizeOf s.groupBy < sizeOf s ∧
      sizeOf s.having < sizeOf s ∧ sizeOf s.orderBy < sizeOf s := by
  obtain ⟨ctes, distinct, columns, sources, condition, groupBy, having, orderBy, limit, offset,
    numbered⟩ := s
  simp only [mk.sizeOf_spec]
  omega

theorem Cte.sizeOf_query {c : Cte} {ctes : List Cte} (h : c ∈ ctes) :
    sizeOf c.query < sizeOf ctes := by
  have hSize := List.sizeOf_lt_of_mem h
  obtain ⟨name, columns, q, recursive⟩ := c
  simp only [mk.sizeOf_spec] at hSize
  show sizeOf q < sizeOf ctes
  omega

/-- An item counts no more than its tree. A table counts nothing, since an
implied one is in no tree. -/
theorem Node.size_item_le (sc : Scope) (source : FromItem) :
    (Node.item sc source).size ≤ sizeOf source := by
  cases source with
  | table => exact Nat.zero_le _
  | derived | join | cte => exact le_rfl

theorem Node.size_join (sc : Scope) (kind : JoinKind) (l r : FromItem) (condition : Option Expr) :
    (Node.item sc (.join kind l r condition)).size =
      1 + sizeOf kind + sizeOf l + sizeOf r + sizeOf condition :=
  FromItem.join.sizeOf_spec ..

end Sizes

/-- The draft of an expression is its frame with the drafts of its parts. One
that drops its operands is all frame. -/
theorem Expr.filled (e : Expr) :
    Draft.Filled ((Node.expr sc e).Inner t depth) (e.frame t)
      (e.draft t (pager t depth) sc) := by
  have hPart : ∀ part ∈ e.parts t,
      (Node.expr sc e).Inner t depth (part.draft t (pager t depth) sc) := fun part h =>
    Node.inner_of_part (.operand h) (sizeOf_part h)
  have hQuery : ∀ q, e.query? = some q →
      (Node.expr sc e).Inner t depth (q.draft t (pager t depth) sc.nested false) := fun q h =>
    Node.inner_of_part (.asked h) (sizeOf_query h)
  cases e with
  | literal | column | param | raw => exact .own _
  | star source => cases source <;> exact .own _
  | unary op e => exact .piece (.parens (.whole (hPart e (List.mem_singleton_self _))))
  | cast e type => exact .piece (.part (hPart e (List.mem_singleton_self _)) (.own _))
  | extract field e => exact .piece (.part (hPart e (List.mem_singleton_self _)) (.own _))
  | isNull e negated => exact .isNull (.whole (hPart e (List.mem_singleton_self _)))
  | label e name => exact .whole (hPart e (List.mem_singleton_self _))
  | tuple items => exact .piece ((Draft.Filled.join (forall₂_exprDrafts hPart)).append (.own _))
  | scalar q => exact .piece (.part (hQuery q rfl) (.own _))
  | existsIn q negated => exact .piece (.part (hQuery q rfl) (.own _))
  | inQuery e q negated =>
      exact (Draft.Filled.operand (.whole (hPart e (List.mem_singleton_self _)))).append
        (.piece (.part (hQuery q rfl) (.own _)))
  | between e l u negated =>
      have hOwn : ∀ part ∈ [e, l, u], Draft.Filled _ [] (part.draft t (pager t depth) sc) :=
        fun part h => .whole (hPart part h)
      exact (Draft.Filled.operand (hOwn e (by simp))).append (.piece
        ((Draft.Filled.operand (hOwn l (by simp))).append (.piece (.operand (hOwn u (by simp))))))
  | inList e items negated =>
      rw [Expr.frame, Expr.draft]
      cases items with
      | nil => exact .own _
      | cons item items =>
          obtain ⟨he, hItems⟩ := List.forall_mem_cons.mp hPart
          exact .inList (.whole he) (forall₂_exprDrafts hItems)
  | caseOf o bs e =>
      simp only [parts, List.forall_mem_append] at hPart
      exact .piece ((((Draft.Filled.clause (rel_optionDraft hPart.1.1)).append
        (filled_branchDrafts hPart.1.2)).append (.clause (rel_optionDraft hPart.2))).append
          (.own _))
  | binary op l r =>
      obtain ⟨hl, hr⟩ := List.forall_mem_cons.mp hPart
      refine .binary (.whole hl) ?_
      cases hNull : r.isNullLiteral with
      | false => exact .whole (hr r (by simp [hNull]))
      | true =>
          rw [r.draft_null hNull]
          exact .own _
  | call name args distinct w type =>
      simp only [parts] at hPart
      cases hSpelling : t.profile.functions.lookup (Text.lower name) with
      | some spelling =>
          cases spelling with
          | keyword word =>
              rw [Expr.frame, Expr.draft, Draft.call, Draft.call, hSpelling]
              exact .own _
          | rename other =>
              rw [hSpelling, List.forall_mem_append] at hPart
              exact .call (forall₂_exprDrafts hPart.1) (rel_windowDraft hPart.2)
      | none =>
          rw [hSpelling, List.forall_mem_append] at hPart
          exact .call (forall₂_exprDrafts hPart.1) (rel_windowDraft hPart.2)

/-- The draft of an item is its frame with the drafts of its parts. -/
theorem FromItem.filled (source : FromItem) :
    Draft.Filled ((Node.item sc source).Inner t depth) (source.frame t)
      (source.draft t (pager t depth) sc) := by
  cases source with
  | table | cte => exact .own _
  | derived q name lateral =>
      refine .derived (.whole (Node.inner_of_part .derived ?_))
      simp only [Node.size, derived.sizeOf_spec]
      omega
  | join kind l r condition =>
      have hSize := Node.size_join sc kind l r condition
      have hl := Node.size_item_le sc l
      have hr := Node.size_item_le sc r
      refine .joined (.whole (Node.inner_of_part .left (by omega)))
        (.whole (Node.inner_of_part .right (by omega))) (rel_optionDraft fun e he => ?_)
      have hCondition := sizeOf_mem_toList he
      obtain rfl : condition = some e := by simpa using he
      have hExpr : (Node.expr sc e).size = sizeOf e := rfl
      exact Node.inner_of_part .condition (by omega)

namespace Select

variable (t : Target) (pager : Pager) (sc : Scope) (outermost : Bool) (s : Select)

def filterDraft : Draft :=
  let sc' := sc.providing (sc.sources s)
  Draft.clause " WHERE " (optionDraft t pager sc' s.condition) ++
    Draft.listClause " GROUP BY " (exprDrafts t pager sc' s.groupBy) ++
    Draft.clause " HAVING " (optionDraft t pager sc' s.having)

def bodyDraft : Draft :=
  s.headDraft t pager sc outermost ++ s.fromDraft t pager sc ++ s.filterDraft t pager sc

variable {t pager sc outermost s}

theorem sourceDrafts_tables (refs : List TableRef) :
    sourceDrafts t pager sc (refs.map .table) = refs.map TableRef.draft := by
  induction refs with
  | nil => rfl
  | cons ref refs ih => rw [List.map_cons, sourceDrafts, ih, List.map_cons, FromItem.draft]

/-- The items of a FROM clause are written out in one way, given or implied.
Where there are none, nothing is written. -/
theorem fromDraft_eq :
    s.fromDraft t pager sc =
      if (sc.sources s).isEmpty then []
      else .text " FROM " :: Draft.sources t (sc.sources s)
        (sourceDrafts t pager (sc.providing (sc.sources s)) (sc.sources s)) := by
  cases hGiven : s.sources.isEmpty with
  | true =>
      have hImplied : sc.sources s = (sc.implied s.columns s.condition).map .table := by
        rw [Scope.sources, hGiven, if_pos rfl]
      simp only [fromDraft, hGiven, if_true]
      rw [hImplied, sourceDrafts_tables]
  | false =>
      have hSources : sc.sources s = s.sources := by
        rw [Scope.sources, hGiven]
        rfl
      simp only [fromDraft, hGiven, hSources, Bool.false_eq_true, if_false]

/-- All items that a SELECT selects from are smaller than it, those it implies
among them. -/
theorem size_source (place : Scope) {item : FromItem} (h : item ∈ sc.sources s) :
    (Node.item place item).size < sizeOf s := by
  rw [Scope.sources] at h
  split at h
  · obtain ⟨ref, -, rfl⟩ := List.mem_map.mp h
    have hFields := s.sizeOf_fields
    show 0 < sizeOf s
    omega
  · have hItem := List.sizeOf_lt_of_mem h
    have hFields := s.sizeOf_fields
    have hLe := Node.size_item_le place item
    omega

def bodyExprs (s : Select) : List Expr :=
  s.columns ++ s.condition.toList ++ s.groupBy ++ s.having.toList

theorem sizeOf_bodyExpr {e : Expr} (h : e ∈ s.bodyExprs) : sizeOf e < sizeOf s := by
  have hFields := s.sizeOf_fields
  simp only [bodyExprs, List.mem_append] at h
  rcases h with ((h | h) | h) | h
  · have hSize := List.sizeOf_lt_of_mem h
    omega
  · have hSize := sizeOf_mem_toList h
    omega
  · have hSize := List.sizeOf_lt_of_mem h
    omega
  · have hSize := sizeOf_mem_toList h
    omega

/-- The expressions of the body are among those written out with the SELECT;
only its order may be missing. -/
theorem mem_parts_of_body {e : Expr} (h : e ∈ s.bodyExprs) : e ∈ s.parts t := by
  simp only [bodyExprs, List.mem_append] at h
  simp only [parts, List.mem_append]
  rcases h with ((h | h) | h) | h <;> simp [h]

/-- The body of a SELECT is its frame with the drafts of its parts: expressions,
items and common table expressions. -/
theorem filled_body (hDirect : s.Direct t) :
    Draft.Filled ((Node.query sc outermost (.select s)).Inner t depth)
      (s.bodyFrame t sc outermost) (s.bodyDraft t (SqlStatements.pager t depth) sc outermost) := by
  have hSelect : (Node.query sc outermost (.select s)).size = 1 + sizeOf s :=
    Query.select.sizeOf_spec s
  have hExprs : ∀ e ∈ s.bodyExprs, (Node.query sc outermost (.select s)).Inner t depth
      (e.draft t (SqlStatements.pager t depth) (sc.providing (sc.sources s))) := by
    intro e he
    have hSize := sizeOf_bodyExpr he
    exact Node.inner_of_part (.clause hDirect (mem_parts_of_body he))
      (show sizeOf e < _ by omega)
  simp only [bodyExprs, List.forall_mem_append] at hExprs
  obtain ⟨⟨⟨hColumns, hCondition⟩, hGroup⟩, hHaving⟩ := hExprs
  have hCtes : ∀ c ∈ s.ctes, (Node.query sc outermost (.select s)).Inner t depth
      (c.query.draft t (SqlStatements.pager t depth) (sc.providing (sc.sources s)).nested
        false) := by
    intro c hc
    have hSize := Cte.sizeOf_query hc
    have hFields := s.sizeOf_fields
    exact Node.inner_of_part (.cte hDirect hc) (show sizeOf c.query < _ by omega)
  have hItems : ∀ item ∈ sc.sources s, (Node.query sc outermost (.select s)).Inner t depth
      (item.draft t (SqlStatements.pager t depth) (sc.providing (sc.sources s))) := by
    intro item hItem
    have hSize := size_source (sc.providing (sc.sources s)) hItem
    exact Node.inner_of_part (.source hDirect hItem) (by omega)
  refine .append (.append (.append (.withClause (forall₂_cteDrafts hCtes))
    (.piece (.append (.own _) (.columns (forall₂_exprDrafts hColumns))))) ?_)
    (.append (.append (.clause (rel_optionDraft hCondition))
      (.listClause (forall₂_exprDrafts hGroup))) (.clause (rel_optionDraft hHaving)))
  rw [fromDraft_eq]
  split
  · exact .nil
  · exact .piece (.sources (forall₂_sourceDrafts hItems))

/-- The order of a SELECT, with the drafts of its parts. Where it is not kept,
nothing is put in. -/
theorem filled_order (hDirect : s.Direct t) :
    Draft.Filled ((Node.query sc outermost (.select s)).Inner t depth)
      (Draft.order t sc (s.limit.isSome || s.offset.isSome) (orderFrames s.orderBy))
      (Draft.order t sc (s.limit.isSome || s.offset.isSome)
        (orderDrafts t (SqlStatements.pager t depth) (sc.providing (sc.sources s))
          s.orderBy)) := by
  rw [Draft.order, Draft.order]
  split
  · rename_i hKept
    refine .listClause (forall₂_orderDrafts fun e he => ?_)
    have hSize := OrderTerm.sizeOf_expr he
    have hFields := s.sizeOf_fields
    refine Node.inner_of_part (.order hDirect hKept he) ?_
    show sizeOf e < sizeOf (Query.select s)
    rw [Query.select.sizeOf_spec]
    omega
  · exact .nil

/-- A SELECT that is written as it stands is its body, then its order where that
is kept, then its limits where they stand at the end. -/
theorem draft_body (hDirect : s.Direct t) (hColumns : s.columns.isEmpty = false) :
    s.draft t pager sc outermost =
      s.bodyDraft t pager sc outermost ++
        Draft.order t sc (s.limit.isSome || s.offset.isSome)
          (orderDrafts t pager (sc.providing (sc.sources s)) s.orderBy) ++
        if t.strategy = .limitOffset then Draft.limits s.limit s.offset else [] := by
  rw [draft_direct hDirect hColumns]
  simp only [bodyDraft, tailDraft, filterDraft, List.append_assoc]

/-- A SELECT that is written as it stands is its frame with its immediate parts
put in, all of them at the depth of the SELECT. -/
theorem filled (hDirect : s.Direct t) (hColumns : s.columns.isEmpty = false) :
    Draft.Filled ((Node.query sc outermost (.select s)).Inner t depth) (s.frame t sc outermost)
      (s.draft t (SqlStatements.pager t depth) sc outermost) := by
  rw [draft_body hDirect hColumns]
  exact ((filled_body hDirect).append (filled_order hDirect)).append (.own _)

end Select

/-- Members are put in one by one. A restricted one stands in a derived table,
and the SELECT around it belongs to the frame. -/
theorem forall₂_memberDrafts {D : Draft → Prop} {pager : Pager} {members : List Query}
    {outermost : Bool} {number : Nat}
    (h : ∀ (i : Nat) (q : Query), members[i]? = some q →
      D (if q.isRestricted then q.draft t pager sc.isolated false
        else q.draft t pager sc (outermost && i == 0))) :
    List.Forall₂ (Draft.Filled D) (memberFrames number members)
      (memberDrafts t pager sc outermost number members) := by
  induction members generalizing outermost number with
  | nil => exact .nil
  | cons q members ih =>
      have hFirst := h 0 q rfl
      refine .cons ?_ (ih fun i q hq => ?_)
      · split
        · rename_i hRestricted
          rw [if_pos hRestricted] at hFirst
          exact .piece (.part hFirst (.own _))
        · rename_i hRestricted
          rw [if_neg hRestricted, beq_self_eq_true, Bool.and_true] at hFirst
          exact .parens (.whole hFirst)
      · simpa using h (i + 1) q hq

namespace Query

variable {op : SetOp} {members : List Query} {orderBy : List OrderTerm}
  {limit offset : Option UInt64} {outermost : Bool}

/-- The members of a compound query, with the operator between them, are the
frame of the members filled with their drafts. -/
theorem filled_members :
    Draft.Filled ((Node.query sc outermost (.compound op members orderBy limit offset)).Inner t
        depth)
      (Draft.join (" " ++ op.sql ++ " ") (memberFrames 1 members))
      (Draft.join (" " ++ op.sql ++ " ")
        (memberDrafts t (pager t depth) sc outermost 1 members)) := by
  refine .join (forall₂_memberDrafts fun i q hq => ?_)
  have hSize : sizeOf q < sizeOf (compound op members orderBy limit offset) := by
    have hMember := List.sizeOf_lt_of_mem (List.mem_of_getElem? hq)
    rw [compound.sizeOf_spec]
    omega
  have hPart : (Node.query sc outermost (.compound op members orderBy limit offset)).Part t _ :=
    .member hq
  split
  · rename_i hRestricted
    rw [if_pos hRestricted] at hPart
    exact Node.inner_of_part hPart hSize
  · rename_i hRestricted
    rw [if_neg hRestricted] at hPart
    exact Node.inner_of_part hPart hSize

theorem forall₂_compoundOrder
    (hKept : sc.keepsOrder t (limit.isSome || offset.isSome) = true) :
    List.Forall₂ (Draft.Filled
        ((Node.query sc outermost (.compound op members orderBy limit offset)).Inner t depth))
      (orderFrames orderBy) (orderDrafts t (pager t depth) sc orderBy) := by
  refine forall₂_orderDrafts fun e he => Node.inner_of_part (.compoundOrder hKept he) ?_
  have hSize := OrderTerm.sizeOf_expr he
  show sizeOf e < sizeOf (compound op members orderBy limit offset)
  rw [compound.sizeOf_spec]
  omega

/-- The order of a compound query is filled where it is kept. Where it is left
out there is no frame either. -/
theorem filled_compoundOrder :
    Draft.Filled ((Node.query sc outermost (.compound op members orderBy limit offset)).Inner t
        depth)
      (Draft.order t sc (limit.isSome || offset.isSome) (orderFrames orderBy))
      (Draft.order t sc (limit.isSome || offset.isSome)
        (orderDrafts t (pager t depth) sc orderBy)) := by
  rw [Draft.order, Draft.order]
  split
  · rename_i hKept
    exact .listClause (forall₂_compoundOrder hKept)
  · exact .nil

end Query

namespace Node

/-- The draft of a node that is written out is its frame with the drafts of its
parts. -/
theorem filled {n : Node} (hComplete : (n.draft t (pager t depth)).Complete) :
    Draft.Filled (n.Inner t depth) (n.frame t) (n.draft t (pager t depth)) := by
  cases n with
  | expr sc e => exact e.filled
  | item sc source => exact source.filled
  | query sc outermost q =>
      cases q with
      | compound op members orderBy limit offset =>
          rw [draft, Query.draft_compound hComplete]
          exact (Query.filled_members.append Query.filled_compoundOrder).append (.own _)
      | select s =>
          rw [draft_select] at hComplete ⊢
          by_cases hDirect : s.Direct t
          · have hFrame : ¬(s.skipsRows = true ∧ t.strategy ≠ .limitOffset) :=
              fun h => h.2 (hDirect h.1)
            rw [frame, Query.frame, if_neg hFrame]
            exact Select.filled hDirect (Select.columns_of_complete hDirect hComplete)
          · obtain ⟨hSkips, hNumbers⟩ := Select.rowNumber_of_complete hDirect hComplete
            obtain ⟨page, inner, hPage, rfl, hDraft⟩ :=
              Select.exists_draft_page hSkips hNumbers hComplete
            rw [frame, Query.frame, if_pos ⟨hSkips, by simp [hNumbers]⟩, hDraft]
            exact .whole ⟨_, inner, .page hSkips hNumbers hPage, .left _ _ (Nat.lt_succ_self _),
              (draft_select ..).symm⟩

/-- What passes from the immediate parts of a node to the node holds of all
nodes that are written out. -/
theorem induction {P : Nat → Node → Prop}
    (step : ∀ depth n, (n.draft t (pager t depth)).Complete →
      (∀ inner m, n.Part t m → Prod.Lex (· < ·) (· < ·) (inner, m.size) (depth, n.size) →
        (m.draft t (pager t inner)).Complete → P inner m) → P depth n)
    (depth : Nat) (n : Node) (hComplete : (n.draft t (pager t depth)).Complete) : P depth n := by
  have hFounded : WellFounded (Prod.Lex (· < ·) (· < ·) : Nat × Nat → Nat × Nat → Prop) :=
    (Prod.lex Nat.lt_wfRel Nat.lt_wfRel).wf
  induction hPair : (depth, n.size) using hFounded.induction generalizing depth n with
  | _ pair ih =>
      subst hPair
      exact step depth n hComplete fun inner m _ hLess hInner => ih _ hLess inner m hInner rfl

end Node

end SqlStatements
