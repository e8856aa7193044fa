import SqlStatements.Proofs.Compiled.Aliases
import SqlStatements.Proofs.Draft.OrderWords
import SqlStatements.Proofs.Draft.Owners
import SqlStatements.Proofs.Draft.Paging
import SqlStatements.Proofs.Draft.Visits

/-! Orders where a subquery may not have one. A query further in drops its order unless its
rows are limited, and what it means to be further in is a matter of depth. A compound query
that is a member of another one stands between parentheses at the same depth, so it keeps its
order. -/
namespace SqlStatements

def Query.members : Query → List Query
  | .compound _ members _ _ _ => members
  | .select _ => []

def Query.orderBy : Query → List OrderTerm
  | .compound _ _ orderBy _ _ => orderBy
  | .select s => s.orderBy

/-- The query has the other one as a member, between parentheses. -/
def Query.Groups (q m : Query) : Prop := m ∈ q.members ∧ m.isCompound = true

/-- What stands at the outermost depth: the query itself, compound queries
grouped in it, and SELECTs without an order. -/
def Node.Outer (q : Query) (n : Node) : Prop :=
  ∀ sc outermost m, n = .query sc outermost m → sc.depth = 0 →
    sc = .outermost ∧ ((outermost = true ∧ m = q) ∨ Relation.TransGen Query.Groups q m ∨
      ∃ s, m = .select s ∧ s.orderBy = [])

variable {t : Target} {q : Query}

/-- A page has no order of its own: the order went into the row numbers. -/
theorem Select.orderBy_page {dialect : String} {s page : Select} (hSkips : s.skipsRows = true)
    (h : s.paged dialect = .ok page) : page.orderBy = [] := by
  obtain ⟨_, _, _, _, _, _, _, _, _, _, rfl⟩ := paged_new (plain_of_skipsRows hSkips) h
  rfl

/-- A member that is not restricted is a compound query, or it has no order. A
compound member may well have one. -/
theorem Query.member_cases {m : Query} (h : m.isRestricted = false) :
    m.isCompound = true ∨ ∃ s, m = .select s ∧ s.orderBy = [] := by
  cases m with
  | compound => exact .inl rfl
  | select s =>
      simp only [isRestricted, Select.isRestricted, Bool.or_eq_false_iff, Bool.not_eq_false',
        List.isEmpty_iff] at h
      exact .inr ⟨s, rfl, h.1.1⟩

namespace Node

/-- Of the parts of what is outer, only members and pages can be queries at
depth zero. Such a member is grouped or has no order, and a page has none. -/
theorem Part.outer {n m : Node} (h : n.Part t m) (hn : n.Outer q) : m.Outer q := by
  intro sc outermost m' hm hDepth
  cases h with
  | operand | left | right | condition | clause | source | order | compoundOrder => cases hm
  | asked | cte =>
      cases hm
      cases hDepth
  | derived =>
      cases hm
      split at hDepth <;> cases hDepth
  | page hSkips _ hPage =>
      cases hm
      exact ⟨(hn _ _ _ rfl hDepth).1, .inr (.inr ⟨_, rfl, Select.orderBy_page hSkips hPage⟩)⟩
  | @member _ _ op members orderBy limit offset i member hMember =>
      cases hRestricted : member.isRestricted with
      | true =>
          rw [hRestricted] at hm
          cases hm
          cases hDepth
      | false =>
          rw [hRestricted] at hm
          cases hm
          obtain ⟨rfl, hPlace⟩ := hn _ _ _ rfl hDepth
          refine ⟨rfl, .inr ?_⟩
          rcases Query.member_cases hRestricted with hCompound | hSelect
          · have hGroups : (Query.compound op members orderBy limit offset).Groups m' :=
              ⟨List.mem_of_getElem? hMember, hCompound⟩
            rcases hPlace with ⟨-, rfl⟩ | hOuter | ⟨s, hSelect, -⟩
            · exact .inl (.single hGroups)
            · exact .inl (.tail hOuter hGroups)
            · cases hSelect
          · exact .inr hSelect

end Node

/-- A query at depth zero that is written out with the statement is the
outermost one, is grouped in it, or is a SELECT without an order. -/
theorem Statement.Writes.outer {n : Node} (h : (Statement.query q).Writes t n) : n.Outer q := by
  obtain ⟨root, hRoot, hParts⟩ := h
  rw [List.mem_singleton.mp hRoot] at hParts
  induction hParts with
  | refl =>
      intro sc outermost m hm _
      cases hm
      exact ⟨rfl, .inl ⟨rfl, rfl⟩⟩
  | tail _ hPart ih => exact hPart.outer ih

/-- A SELECT that is written out as it stands skips no rows where that takes row
numbers, unless it goes by row numbers already. -/
theorem Statement.Writes.offset_eq_none {s : Select} {sc : Scope} {outermost : Bool}
    (hNumbered : ∀ s ∈ (Statement.query q).selects, s.numbered = false)
    (hStrategy : t.strategy ≠ .limitOffset)
    (h : (Statement.query q).Writes t (.query sc outermost (.select s))) (hDirect : s.Direct t) :
    s.offset = none := by
  have hVisits : ∀ v ∈ (Node.query sc outermost (.select s)).visits, ∀ s, v = .select s →
      s.numbered = false ∨ s.offset = none := by
    refine h.forall_visits (P := fun v => ∀ s, v = .select s → s.numbered = false ∨ s.offset = none)
      ?_ ?_
    · rintro v hAdded s rfl
      exact .inr hAdded.offset_eq_none
    · rintro v hv s rfl
      exact .inl (hNumbered s (List.mem_filterMap.mpr ⟨_, hv, rfl⟩))
  have hOwn : .select s ∈ (Node.query sc outermost (.select s)).visits := by
    obtain ⟨ctes, distinct, columns, sources, condition, groupBy, having, orderBy, limit, offset,
      numbered⟩ := s
    exact List.mem_cons_self ..
  rcases hVisits _ hOwn s rfl with hPlain | hNone
  · by_contra hSome
    refine hStrategy (hDirect ?_)
    rw [Select.skipsRows, hPlain, Option.isSome_iff_ne_none.mpr hSome]
    rfl
  · exact hNone

/-- A SELECT with a limit carries it behind its first word, unless limits are
written at the end. -/
theorem Select.draft_top {s : Select} {sc : Scope} {outermost : Bool} {depth : Nat} {k : UInt64}
    (hStrategy : t.strategy ≠ .limitOffset) (hDirect : s.Direct t)
    (hColumns : s.columns.isEmpty = false) (hLimit : s.limit = some k) :
    ∃ ctes word rest, s.draft t (pager t depth) sc outermost =
      ctes ++ .text word :: .text ("TOP " ++ toString k.toNat ++ " ") :: rest := by
  have hTop : Draft.top t (some k) = [.text ("TOP " ++ toString k.toNat ++ " ")] := by
    cases hCase : t.strategy with
    | limitOffset => exact absurd hCase hStrategy
    | top | rowNumber => simp only [Draft.top, hCase]
  rw [draft_body hDirect hColumns, bodyDraft, headDraft, hLimit, hTop]
  simp only [List.append_assoc, List.cons_append, List.nil_append]
  exact ⟨_, _, _, rfl⟩

/-- What an order may belong to where subqueries have none. -/
inductive Node.MayOrder (t : Target) (q : Query) (depth : Nat) (word : String) : Node → Prop where
  /-- Text taken over as it is. -/
  | taken {sc : Scope} : MayOrder t q depth word (.expr sc (.raw word))
  /-- A window. -/
  | window {sc : Scope} {name : String} {args : List Expr} {distinct : Bool} {w : Window}
      {type : SqlType} (hOrder : w.orderBy ≠ []) :
      MayOrder t q depth word (.expr sc (.call name args distinct (some w) type))
  /-- A SELECT that carries TOP. -/
  | top {sc : Scope} {outermost : Bool} {s : Select} {k : UInt64} {ctes rest : Draft}
      {select : String} (hLimit : s.limit = some k)
      (hDraft : s.draft t (pager t depth) sc outermost =
        ctes ++ .text select :: .text ("TOP " ++ toString k.toNat ++ " ") :: rest) :
      MayOrder t q depth word (.query sc outermost (.select s))
  /-- The query itself. -/
  | outermost : MayOrder t q depth word (.query .outermost true q)
  /-- A compound query grouped in it. -/
  | grouped {outermost : Bool} {m : Query} (hGroups : Relation.TransGen Query.Groups q m) :
      MayOrder t q depth word (.query .outermost outermost m)

/-- A compound query has no limit where limits are not written at the end. -/
theorem Query.limits_of_complete {op : SetOp} {members : List Query} {orderBy : List OrderTerm}
    {limit offset : Option UInt64} {pager : Pager} {sc : Scope} {outermost : Bool}
    (hStrategy : t.strategy ≠ .limitOffset)
    (hComplete : ((compound op members orderBy limit offset).draft t pager sc
      outermost).Complete) : limit = none ∧ offset = none := by
  rw [draft] at hComplete
  split at hComplete
  · exact absurd (List.mem_singleton_self _) (hComplete _)
  · rename_i hLimits
    cases limit with
    | some => exact absurd ⟨rfl, hStrategy⟩ hLimits
    | none =>
        cases offset with
        | some => exact absurd ⟨rfl, hStrategy⟩ hLimits
        | none => exact ⟨rfl, rfl⟩

section Places

variable (hStrategy : t.strategy ≠ .limitOffset) (hOrder : t.caps.subqueryOrder = false)

include hStrategy hOrder

/-- An order is kept at the outermost depth, and by a SELECT that carries TOP.
Text taken over may have the words as well, and so may a window. -/
theorem Node.Orders.mayOrder
    (hNumbered : ∀ s ∈ (Statement.query q).selects, s.numbered = false) {n : Node} {depth : Nat}
    {word : String} (h : n.Orders t word) (hn : (Statement.query q).Writes t n)
    (hComplete : (n.draft t (pager t depth)).Complete) : n.MayOrder t q depth word := by
  -- At the outermost depth a query with an order is the query itself or is grouped in it.
  have hOuter : ∀ {sc outermost m}, n = .query sc outermost m → m.orderBy ≠ [] → sc.depth = 0 →
      n.MayOrder t q depth word := by
    rintro sc outermost m rfl hSome hDepth
    obtain ⟨rfl, ⟨rfl, rfl⟩ | hGroups | ⟨s, rfl, hNone⟩⟩ := hn.outer _ _ _ rfl hDepth
    · exact .outermost
    · exact .grouped hGroups
    · exact absurd hNone hSome
  cases h with
  | taken => exact .taken
  | window hSome => exact .window hSome
  | @select sc outermost s hDirect hSome hKept =>
      rw [Scope.keepsOrder, hOrder, hn.offset_eq_none hNumbered hStrategy hDirect] at hKept
      cases hLimit : s.limit with
      | none => exact hOuter rfl hSome (by simpa [hLimit] using hKept)
      | some k =>
          rw [draft_select] at hComplete
          obtain ⟨ctes, select, rest, hDraft⟩ := Select.draft_top hStrategy hDirect
            (Select.columns_of_complete hDirect hComplete) hLimit
          exact .top hLimit hDraft
  | compound hSome hKept =>
      obtain ⟨rfl, rfl⟩ := Query.limits_of_complete hStrategy hComplete
      exact hOuter rfl hSome (by simpa [Scope.keepsOrder, hOrder] using hKept)

end Places

namespace Query

variable {pager : Pager} {sc : Scope}

/-- A member without an order and a limit of its own is drafted as it stands,
between parentheses only if it has members itself. -/
theorem parens_mem_memberDrafts {m : Query} {members : List Query} {i : Nat}
    (h : members[i]? = some m) (hFree : m.isRestricted = false) (outermost : Bool) (number : Nat) :
    Draft.parens m.isCompound (m.draft t pager sc (outermost && i == 0)) ∈
      memberDrafts t pager sc outermost number members := by
  induction members generalizing outermost number i with
  | nil => cases h
  | cons first members ih =>
      rw [memberDrafts]
      cases i with
      | zero =>
          cases h
          rw [hFree, beq_self_eq_true, Bool.and_true]
          exact List.mem_cons_self ..
      | succ i =>
          have hRest := ih (i := i) h false (number + 1)
          rw [Bool.false_and] at hRest
          exact List.mem_cons_of_mem _ (by simpa using hRest)

/-- A grouped query is a part between parentheses, at the depth of what it is
grouped in. -/
theorem Groups.part {m : Query} {outermost : Bool} (h : q.Groups m)
    (hComplete : (q.draft t pager sc outermost).Complete) :
    ∃ first, (Node.query sc outermost q).Part t (.query sc first m) ∧
      (m.draft t pager sc first).parens true <:+: q.draft t pager sc outermost := by
  obtain ⟨hMember, hCompound⟩ := h
  have hFree : m.isRestricted = false := by
    cases m with
    | select => cases hCompound
    | compound => rfl
  cases q with
  | select => cases hMember
  | compound op members orderBy limit offset =>
      obtain ⟨i, hi⟩ := List.mem_iff_getElem?.mp hMember
      have hPart : (Node.query sc outermost (.compound op members orderBy limit offset)).Part t _ :=
        .member hi
      have hMem : Draft.parens m.isCompound (m.draft t pager sc (outermost && i == 0)) ∈
          memberDrafts t pager sc outermost 1 members :=
        parens_mem_memberDrafts hi hFree outermost 1
      rw [hFree] at hPart
      rw [hCompound] at hMem
      refine ⟨_, hPart, ?_⟩
      rw [draft_compound hComplete]
      exact Draft.infix_append_left (Draft.infix_append_left (Draft.infix_join hMem))

/-- So is one that is grouped further in. -/
theorem part_of_groups {m : Query} {outermost : Bool} (h : Relation.TransGen Groups q m)
    (hComplete : (q.draft t pager sc outermost).Complete) :
    ∃ first, Relation.ReflTransGen (Node.Part t) (.query sc outermost q) (.query sc first m) ∧
      (m.draft t pager sc first).parens true <:+: q.draft t pager sc outermost := by
  induction h with
  | single hGroups =>
      obtain ⟨first, hPart, hParens⟩ := hGroups.part hComplete
      exact ⟨first, .single hPart, hParens⟩
  | tail _ hGroups ih =>
      obtain ⟨place, hParts, hOuter⟩ := ih
      have hInner := (Draft.infix_parens _ true).trans hOuter
      obtain ⟨first, hPart, hParens⟩ := hGroups.part (hComplete.of_part hInner)
      exact ⟨first, .tail hParts hPart, hParens.trans hInner⟩

/-- A compound query with an order that is kept writes it behind its members, as
a piece of its own draft and not of a member. -/
theorem exists_owns_order {op : SetOp} {members : List Query} {orderBy : List OrderTerm}
    {outermost : Bool} {depth : Nat} (hSome : orderBy ≠ [])
    (hKept : sc.keepsOrder t false = true)
    (hComplete : ((compound op members orderBy none none).draft t (SqlStatements.pager t depth) sc
      outermost).Complete) :
    ∃ left right, (Node.query sc outermost (.compound op members orderBy none none)).Owns t depth
      left (.text " ORDER BY ") right := by
  have hFrames : (orderFrames orderBy).isEmpty = false := by
    cases orderBy with
    | nil => exact absurd rfl hSome
    | cons term terms => rfl
  have hTerms : List.Forall₂ (Draft.Filled
      ((Node.query sc outermost (.compound op members orderBy none none)).Inner t depth))
      (orderFrames orderBy) (orderDrafts t (SqlStatements.pager t depth) sc orderBy) :=
    forall₂_compoundOrder hKept
  have hDrafts := (Draft.Filled.isEmpty_eq hTerms).symm.trans hFrames
  refine ⟨_, Draft.join ", " (orderDrafts t (SqlStatements.pager t depth) sc orderBy), ?_, _,
    Draft.join ", " (orderFrames orderBy), ?_, filled_members, .join hTerms⟩
  · rw [Node.draft, draft_compound hComplete]
    simp [Draft.order, Draft.listClause, Draft.limits, hKept, hDrafts]
  · simp [Node.frame, frame, Draft.order, Draft.listClause, Draft.limits, hKept, hFrames]

end Query

namespace Sample

/-- Ids and balances in order, with the ids once more. -/
def groupedOrder : Query :=
  .compound .unionAll
    [.compound .union
      [.select (Select.ofColumns [columnOf (.plain accounts) "id"]),
       .select (Select.ofColumns [columnOf (.plain accounts) "balance"])]
      [⟨.column ⟨none, "id", .of .integer⟩, none, none⟩] none none,
     .select (Select.ofColumns [columnOf (.plain accounts) "id"])] [] none none

/-- The grouped query keeps its order at the outermost depth, although the
server takes none in subqueries. -/
theorem compile_groupedOrder :
    ∃ c, (Statement.query groupedOrder).compile server .placeholders = .ok c ∧
      c.sql = "(SELECT accounts.id FROM accounts UNION SELECT accounts.balance FROM accounts " ++
        "ORDER BY id) UNION ALL SELECT accounts.id FROM accounts" :=
  exists_ok_of_toOption (by decide +kernel)

theorem numbered_groupedOrder :
    ∀ s ∈ (Statement.query groupedOrder).selects, s.numbered = false := by decide

end Sample

namespace Statement

/-- A fixed text of the draft stands in the text of the statement as it is, at
the place that the draft gives it. -/
theorem puts_text {s : Statement} {mode : ParameterMode} {c : Compiled} {before after : Draft}
    {word : String} (h : s.compile t mode = .ok c)
    (hCut : s.draft t = before ++ [.text word] ++ after) :
    s.Puts t mode c before [.text word] after word := by
  obtain ⟨texts, L, hWrite, hCompiled⟩ := exists_ledger_of_compile h
  have hText : c.sql = String.join texts := by rw [hCompiled]
  obtain ⟨_, _, _, _, -, hPart, -, hPuts⟩ := exists_puts hWrite hText hCut
  cases hPart
  simpa [String.join] using hPuts

/-- A grouped compound query keeps its order, between its parentheses. It need
not be the only one that does. -/
theorem exists_grouped_order (hStrategy : t.strategy ≠ .limitOffset)
    (hComplete : ((Statement.query q).draft t).Complete) {m : Query}
    (h : Relation.TransGen Query.Groups q m) (hSome : m.orderBy ≠ []) :
    ∃ first depth left right before after,
      (Statement.query q).Writes t (.query .outermost first m) ∧
      (Node.query .outermost first m).Owns t depth left (.text " ORDER BY ") right ∧
      (Statement.query q).draft t =
        before ++ .text "(" :: (left ++ .text " ORDER BY " :: right) ++ .text ")" :: after := by
  obtain ⟨first, hParts, hParens⟩ := Query.part_of_groups h hComplete
  have hInner := hComplete.of_part ((Draft.infix_parens _ true).trans hParens)
  have hCompound : m.isCompound = true := by
    cases h with
    | single hGroups => exact hGroups.2
    | tail _ hGroups => exact hGroups.2
  cases m with
  | select => cases hCompound
  | compound op members orderBy limit offset =>
      obtain ⟨rfl, rfl⟩ := Query.limits_of_complete hStrategy hInner
      obtain ⟨left, right, hOwns⟩ := Query.exists_owns_order hSome rfl hInner
      obtain ⟨before, after, hDraft⟩ := hParens
      refine ⟨first, _, left, right, before, after, ⟨_, List.mem_singleton_self _, hParts⟩, hOwns,
        ?_⟩
      have hOwn : (Query.compound op members orderBy none none).draft t _ .outermost first =
          left ++ .text " ORDER BY " :: right := hOwns.1
      rw [hOwn] at hDraft
      exact hDraft.symm.trans (by simp [Draft.parens])

/-- Where subqueries have no order and limits stand in front of the columns,
every order in the text of a query belongs to the query itself, to a window, to
a SELECT that carries TOP, or to a compound query grouped in the query; and each
compound query grouped in it keeps its order between its parentheses. Text taken
over as it is may look like an order as well. -/
theorem order_clauses (t : Target) (mode : ParameterMode) (q : Query) (c : Compiled)
    (hWords : t.profile.Unordered) (hStrategy : t.strategy ≠ .limitOffset)
    (hOrder : t.caps.subqueryOrder = false)
    (hNumbered : ∀ s ∈ (Statement.query q).selects, s.numbered = false)
    (h : (Statement.query q).compile t mode = .ok c) :
    (∀ before word after, (Statement.query q).draft t = before ++ .text word :: after →
      Text.isOrder word = true →
      (Statement.query q).Puts t mode c before [.text word] after word ∧
      ∃ n depth left right front back, (Statement.query q).Writes t n ∧
        n.Owns t depth left (.text word) right ∧ before = front ++ left ∧ after = right ++ back ∧
        n.MayOrder t q depth word) ∧
    ∀ m, Relation.TransGen Query.Groups q m → m.orderBy ≠ [] →
      ∃ first depth left right before after,
        (Statement.query q).Writes t (.query .outermost first m) ∧
        (Node.query .outermost first m).Owns t depth left (.text " ORDER BY ") right ∧
        (Statement.query q).draft t =
          before ++ .text "(" :: (left ++ .text " ORDER BY " :: right) ++ .text ")" :: after := by
  have hComplete := complete_of_compile h
  refine ⟨fun before word after hCut hWord => ⟨?_, ?_⟩, fun m hGroups hSome =>
    exists_grouped_order hStrategy hComplete hGroups hSome⟩
  · exact puts_text h (hCut.trans (List.append_assoc before [_] after).symm)
  · rcases exists_owner hComplete hCut with hFrame |
      ⟨n, depth, left, right, front, back, hn, hOwns, rfl, rfl⟩
    · cases hFrame
    · have hInner : (n.draft t (pager t depth)).Complete := by
        rw [hOwns.1]
        exact hComplete.of_part ⟨front, back, by rw [hCut]; simp⟩
      exact ⟨n, depth, left, right, front, back, hn, hOwns, rfl, rfl,
        (Node.orders_of_mem_frame hWords hOwns.mem_frame hWord).mayOrder hStrategy hOrder hNumbered
          hn hInner⟩

/-- The order stands in the text, and it belongs to a query that is grouped in
the outermost one. -/
theorem order_clauses_grouped :
    ∃ c, (Statement.query Sample.groupedOrder).compile Sample.server .placeholders = .ok c ∧
      c.sql = "(SELECT accounts.id FROM accounts UNION SELECT accounts.balance FROM accounts " ++
        "ORDER BY id) UNION ALL SELECT accounts.id FROM accounts" ∧
      ∃ m before after, Relation.TransGen Query.Groups Sample.groupedOrder m ∧
        (Statement.query Sample.groupedOrder).Puts Sample.server .placeholders c before
          [.text " ORDER BY "] after " ORDER BY " ∧
        ∃ first left right front back, before = front ++ .text "(" :: left ∧
          after = right ++ .text ")" :: back ∧
          (Statement.query Sample.groupedOrder).Writes Sample.server
            (.query .outermost first m) := by
  obtain ⟨c, hCompile, hText⟩ := Sample.compile_groupedOrder
  obtain ⟨hPlaces, hGrouped⟩ := order_clauses Sample.server .placeholders Sample.groupedOrder c
    (SqlServer.profile_unordered _ _) (by decide) rfl Sample.numbered_groupedOrder hCompile
  have hGroups : Relation.TransGen Query.Groups Sample.groupedOrder _ :=
    .single ⟨List.mem_cons_self .., rfl⟩
  obtain ⟨first, depth, left, right, before, after, hWrites, -, hDraft⟩ :=
    hGrouped _ hGroups (List.cons_ne_nil _ _)
  obtain ⟨hPuts, -⟩ := hPlaces (before ++ .text "(" :: left) " ORDER BY "
    (right ++ .text ")" :: after) (by rw [hDraft]; simp) (by decide)
  exact ⟨c, hCompile, hText, _, _, _, hGroups, hPuts, first, left, right, before, after, rfl, rfl,
    hWrites⟩

/-- It is not true that every order of a query belongs to the query itself or to
a SELECT that carries TOP. -/
theorem not_forall_order_top :
    ¬∀ (t : Target) (mode : ParameterMode) (q : Query) (c : Compiled), t.profile.Unordered →
      t.strategy ≠ .limitOffset → t.caps.subqueryOrder = false →
      (∀ s ∈ (Statement.query q).selects, s.numbered = false) →
      (Statement.query q).compile t mode = .ok c →
      ∀ sc outermost m depth left right, (Statement.query q).Writes t (.query sc outermost m) →
        (Node.query sc outermost m).Owns t depth left (.text " ORDER BY ") right →
        m = q ∨ ∃ s k, m = .select s ∧ s.limit = some k := by
  intro hAll
  obtain ⟨c, hCompile, -⟩ := Sample.compile_groupedOrder
  have hGroups : Relation.TransGen Query.Groups Sample.groupedOrder _ :=
    .single ⟨List.mem_cons_self .., rfl⟩
  obtain ⟨first, depth, left, right, _, _, hWrites, hOwns, -⟩ :=
    exists_grouped_order (t := Sample.server) (by decide) (complete_of_compile hCompile) hGroups
      (List.cons_ne_nil _ _)
  rcases hAll Sample.server .placeholders Sample.groupedOrder c (SqlServer.profile_unordered _ _)
    (by decide) rfl Sample.numbered_groupedOrder hCompile _ _ _ depth left right hWrites hOwns with
    hSame | ⟨s, k, hSelect, -⟩
  · cases hSame
  · cases hSelect

end Statement

end SqlStatements
