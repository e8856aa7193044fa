import SqlStatements.Proofs.Draft.Nodes
import SqlStatements.Proofs.Draft.PagedTour

/-! What a walk meets in the parts of a statement that are written out. It is met in the
statement as well, unless paging adds it; and paging adds no parameters, takes no text over
and skips no rows. -/
namespace SqlStatements

section Lists

theorem optionVisits_eq_flatMap (o : Option Expr) :
    optionVisits true o = o.toList.flatMap (·.visits true) := by
  cases o <;> simp [optionVisits]

theorem branchesVisits_eq_flatMap (bs : List Branch) :
    branchesVisits true bs =
      (bs.flatMap fun b => [b.condition, b.result]).flatMap (·.visits true) := by
  induction bs with
  | nil => rfl
  | cons b bs ih =>
      obtain ⟨c, r⟩ := b
      simp [branchesVisits, ih]

theorem ordersVisits_eq_flatMap (terms : List OrderTerm) :
    ordersVisits true terms = (terms.map (·.expr)).flatMap (·.visits true) := by
  induction terms with
  | nil => rfl
  | cons term terms ih =>
      obtain ⟨e, direction, nulls⟩ := term
      rw [ordersVisits, List.map_cons, List.flatMap_cons, ih]

theorem windowVisits_eq_flatMap (w : Option Window) :
    windowVisits true w = (w.toList.flatMap Window.exprs).flatMap (·.visits true) := by
  cases w with
  | none => rfl
  | some w =>
      obtain ⟨partitionBy, orderBy⟩ := w
      rw [windowVisits, Option.toList_some, List.flatMap_singleton, Window.exprs,
        List.flatMap_append, exprsVisits_eq_flatMap, ordersVisits_eq_flatMap]

theorem sourcesVisits_eq_flatMap (items : List FromItem) :
    sourcesVisits true items = items.flatMap (·.visits true) := by
  induction items with
  | nil => rfl
  | cons item items ih => rw [sourcesVisits, List.flatMap_cons, ih]

theorem ctesVisits_eq_flatMap (ctes : List Cte) :
    ctesVisits true ctes = ctes.flatMap (·.query.visits true) := by
  induction ctes with
  | nil => rfl
  | cons c ctes ih =>
      obtain ⟨name, columns, q, recursive⟩ := c
      rw [ctesVisits, List.flatMap_cons, ih]

theorem queriesVisits_eq_flatMap (qs : List Query) :
    queriesVisits true qs = qs.flatMap (·.visits true) := by
  induction qs with
  | nil => rfl
  | cons q qs ih => rw [queriesVisits, List.flatMap_cons, ih]

variable {P : Visit → Prop}

/-- A walk through a list meets what walks through its members meet. -/
theorem forall_exprsVisits {es : List Expr} :
    (∀ v ∈ exprsVisits true es, P v) ↔ ∀ e ∈ es, ∀ v ∈ e.visits true, P v := by
  rw [exprsVisits_eq_flatMap, List.forall_mem_flatMap]

theorem forall_optionVisits {o : Option Expr} :
    (∀ v ∈ optionVisits true o, P v) ↔ ∀ e ∈ o.toList, ∀ v ∈ e.visits true, P v := by
  rw [optionVisits_eq_flatMap, List.forall_mem_flatMap]

end Lists

def Node.visits : Node → List Visit
  | .expr _ e => e.visits true
  | .item _ source => source.visits true
  | .query _ _ q => q.visits true

section Parts

variable {P : Visit → Prop} {t : Target}

theorem sublist_flatMap {α β : Type} {f : α → List β} {a : α} {l : List α} (h : a ∈ l) :
    (f a).Sublist (l.flatMap f) :=
  List.sublist_flatten_of_mem (List.mem_map_of_mem h)

/-- What is met in a part of an expression is met in the expression. -/
theorem Expr.sublist_part {e part : Expr} (h : part ∈ e.parts t) :
    (part.visits true).Sublist (e.visits true) := by
  cases e with
  | literal | column | param | existsIn | scalar | star | raw => cases h
  | unary | cast | extract | isNull | label =>
      rw [List.mem_singleton.mp h, visits]
      exact List.sublist_cons_self ..
  | inQuery =>
      rw [List.mem_singleton.mp h, visits]
      exact .cons _ (List.sublist_append_left _ _)
  | binary op l r =>
      rw [visits]
      rcases List.mem_cons.mp h with rfl | h
      · exact .cons _ (List.sublist_append_left _ _)
      · split at h
        · cases h
        · rw [List.mem_singleton.mp h]
          exact .cons _ (List.sublist_append_right _ _)
  | call name args distinct w type =>
      rw [visits, exprsVisits_eq_flatMap, windowVisits_eq_flatMap, ← List.flatMap_append]
      rw [parts] at h
      split at h
      · cases h
      · exact .cons _ (sublist_flatMap h)
  | caseOf o bs e =>
      rw [visits, optionVisits_eq_flatMap, branchesVisits_eq_flatMap, optionVisits_eq_flatMap,
        ← List.flatMap_append, ← List.flatMap_append]
      exact .cons _ (sublist_flatMap h)
  | inList e items negated =>
      rw [visits, exprsVisits_eq_flatMap, ← List.flatMap_cons]
      rw [parts] at h
      split at h
      · cases h
      · exact .cons _ (sublist_flatMap h)
  | between e l u negated =>
      have hVisits : (Expr.between e l u negated).visits true =
          .expr (.between e l u negated) :: [e, l, u].flatMap (·.visits true) := by
        simp [visits]
      rw [hVisits]
      exact .cons _ (sublist_flatMap h)
  | tuple items =>
      rw [visits, exprsVisits_eq_flatMap]
      exact .cons _ (sublist_flatMap h)

/-- A walk through an expression meets all that a walk through its query meets,
in the same order. -/
theorem Expr.sublist_query {e : Expr} {q : Query} (h : e.query? = some q) :
    (q.visits true).Sublist (e.visits true) := by
  cases e with
  | inQuery =>
      cases h
      rw [visits, if_pos rfl]
      exact .cons _ (List.sublist_append_right _ _)
  | existsIn | scalar =>
      cases h
      rw [visits, if_pos rfl]
      exact List.sublist_cons_self ..
  | _ => cases h

theorem FromItem.sublist_condition {e : Expr} : (item : FromItem) → e ∈ item.conditions →
    (e.visits true).Sublist (item.visits true)
  | .join _ l r _, h => by
      rw [visits]
      rcases List.mem_append.mp h with h | h
      · refine List.sublist_append_of_sublist_left ?_
        rcases List.mem_append.mp h with h | h
        · exact List.sublist_append_of_sublist_left (FromItem.sublist_condition l h)
        · exact List.sublist_append_of_sublist_right (FromItem.sublist_condition r h)
      · rw [optionVisits_eq_flatMap]
        exact List.sublist_append_of_sublist_right (sublist_flatMap h)
  | .table _, h | .derived _ _ _, h | .cte _, h => by cases h

/-- The clauses of a SELECT are met with it. -/
theorem Select.sublist_clauses (s : Select) :
    (ctesVisits true s.ctes).Sublist (s.visits true) ∧
      (exprsVisits true s.columns).Sublist (s.visits true) ∧
      (sourcesVisits true s.sources).Sublist (s.visits true) ∧
      (optionVisits true s.condition).Sublist (s.visits true) ∧
      (exprsVisits true s.groupBy).Sublist (s.visits true) ∧
      (optionVisits true s.having).Sublist (s.visits true) ∧
      (ordersVisits true s.orderBy).Sublist (s.visits true) := by
  obtain ⟨ctes, distinct, columns, sources, condition, groupBy, having, orderBy, _, _, _⟩ := s
  have hLeft {l l₁ : List Visit} (l₂ : List Visit) (h : l.Sublist l₁) : l.Sublist (l₁ ++ l₂) :=
    List.sublist_append_of_sublist_left h
  rw [visits]
  exact ⟨.cons _ (hLeft _ (hLeft _ (hLeft _ (hLeft _ (hLeft _ (List.sublist_append_left _ _)))))),
    .cons _ (hLeft _ (hLeft _ (hLeft _ (hLeft _ (hLeft _ (List.sublist_append_right _ _)))))),
    .cons _ (hLeft _ (hLeft _ (hLeft _ (hLeft _ (List.sublist_append_right _ _))))),
    .cons _ (hLeft _ (hLeft _ (hLeft _ (List.sublist_append_right _ _)))),
    .cons _ (hLeft _ (hLeft _ (List.sublist_append_right _ _))),
    .cons _ (hLeft _ (List.sublist_append_right _ _)), .cons _ (List.sublist_append_right _ _)⟩

/-- Expressions that are written out with a SELECT are met on a walk through it.
The walk may meet more, such as an order that is left out. -/
theorem Select.sublist_part {s : Select} {e : Expr} (h : e ∈ s.parts t) :
    (e.visits true).Sublist (s.visits true) := by
  obtain ⟨-, hColumns, hSources, hCondition, hGroup, hHaving, hOrder⟩ := s.sublist_clauses
  rw [exprsVisits_eq_flatMap] at hColumns hGroup
  rw [sourcesVisits_eq_flatMap] at hSources
  rw [optionVisits_eq_flatMap] at hCondition hHaving
  rw [ordersVisits_eq_flatMap] at hOrder
  simp only [parts, List.mem_append] at h
  rcases h with ((((h | h) | h) | h) | h) | h
  · exact (sublist_flatMap h).trans hColumns
  · obtain ⟨item, hItem, h⟩ := List.mem_flatMap.mp h
    exact ((FromItem.sublist_condition item h).trans (sublist_flatMap hItem)).trans hSources
  · exact (sublist_flatMap h).trans hCondition
  · exact (sublist_flatMap h).trans hGroup
  · exact (sublist_flatMap h).trans hHaving
  · rw [keptOrder] at h
    split at h
    · exact (sublist_flatMap h).trans hOrder
    · cases h

/-- Two ways lead to what is not a part of the tree: from a SELECT to its page,
and to the tables that it implies. Every other part is met with the whole. -/
theorem Node.Part.sublist_visits {n m : Node} (h : n.Part t m) :
    (∃ sc outermost s page, n = .query sc outermost (.select s) ∧
      m = .query sc outermost (.select page) ∧ s.skipsRows = true ∧
      s.paged t.profile.name = .ok page) ∨
    (∃ sc ref, m = .item sc (.table ref)) ∨ m.visits.Sublist n.visits := by
  cases h with
  | page hSkips _ hPage => exact .inl ⟨_, _, _, _, rfl, rfl, hSkips, hPage⟩
  | operand hPart => exact .inr (.inr (Expr.sublist_part hPart))
  | asked hQuery => exact .inr (.inr (Expr.sublist_query hQuery))
  | derived =>
      rw [visits, visits, FromItem.visits]
      exact .inr (.inr (List.Sublist.refl _))
  | left =>
      rw [visits, visits, FromItem.visits, List.append_assoc]
      exact .inr (.inr (List.sublist_append_left _ _))
  | right =>
      rw [visits, visits, FromItem.visits]
      exact .inr (.inr (List.sublist_append_of_sublist_left (List.sublist_append_right _ _)))
  | condition =>
      rw [visits, visits, FromItem.visits]
      exact .inr (.inr (List.sublist_append_right _ _))
  | @cte _ _ s c _ hCte =>
      have hCtes := s.sublist_clauses.1
      rw [ctesVisits_eq_flatMap] at hCtes
      rw [visits, visits, Query.visits]
      exact .inr (.inr ((sublist_flatMap (f := fun c : Cte => c.query.visits true) hCte).trans
        hCtes))
  | clause _ hPart =>
      rw [visits, visits, Query.visits]
      exact .inr (.inr (Select.sublist_part hPart))
  | @source _ _ s item _ hItem =>
      have hSources := s.sublist_clauses.2.2.1
      rw [sourcesVisits_eq_flatMap] at hSources
      rw [Scope.sources] at hItem
      split at hItem
      · obtain ⟨ref, -, rfl⟩ := List.mem_map.mp hItem
        exact .inr (.inl ⟨_, ref, rfl⟩)
      · rw [visits, visits, Query.visits]
        exact .inr (.inr ((sublist_flatMap (f := (·.visits true)) hItem).trans hSources))
  | @order _ _ s e _ _ hPart =>
      have hOrder := s.sublist_clauses.2.2.2.2.2.2
      rw [ordersVisits_eq_flatMap] at hOrder
      rw [visits, visits, Query.visits]
      exact .inr (.inr ((sublist_flatMap (f := (·.visits true)) hPart).trans hOrder))
  | @member _ _ _ members _ _ _ _ q hMember =>
      have hVisits : (q.visits true).Sublist (queriesVisits true members) := by
        rw [queriesVisits_eq_flatMap]
        exact sublist_flatMap (List.mem_of_getElem? hMember)
      rw [visits, Query.visits]
      split <;> exact .inr (.inr (List.sublist_append_of_sublist_left hVisits))
  | compoundOrder _ hPart =>
      rw [visits, visits, Query.visits, ordersVisits_eq_flatMap]
      exact .inr (.inr (List.sublist_append_of_sublist_right (sublist_flatMap hPart)))

/-- What holds of all that is met in a node holds of all that is met in its
parts, if it holds of what paging adds. -/
theorem Node.Part.forall_visits {n m : Node} (h : n.Part t m)
    (hAdded : ∀ v : Visit, v.Added → P v) (hn : ∀ v ∈ n.visits, P v) : ∀ v ∈ m.visits, P v := by
  rcases h.sublist_visits with ⟨_, _, s, page, rfl, rfl, _, hPage⟩ | ⟨_, ref, rfl⟩ | hSublist
  · rw [visits, Query.visits] at hn ⊢
    exact Select.forall_paged hAdded hPage hn
  · rw [visits, FromItem.visits]
    exact List.forall_mem_singleton.mpr (hAdded _ trivial)
  · exact fun v hv => hn v (hSublist.subset hv)

end Parts

/-- The largest parts of a statement are met with it. -/
theorem Statement.forall_root {s : Statement} {n : Node} {P : Visit → Prop} (h : n ∈ s.roots)
    (hs : ∀ v ∈ s.visits true, P v) : ∀ v ∈ n.visits, P v := by
  cases s with
  | query q =>
      rw [List.mem_singleton.mp h]
      exact hs
  | insert s =>
      obtain ⟨hSource, hReturning⟩ := List.forall_mem_append.mp (List.forall_mem_cons.mp hs).2
      rcases List.mem_append.mp h with h | h
      · obtain ⟨table, source, returning⟩ := s
        cases source with
        | defaults => cases h
        | query columns q =>
            rw [List.mem_singleton.mp h]
            exact hSource
        | rows columns cells =>
            obtain ⟨e, he, rfl⟩ := List.mem_map.mp h
            obtain ⟨row, hRow, he⟩ := List.mem_flatten.mp (List.mem_of_mem_filter he)
            refine forall_exprsVisits.mp (fun v hv => hSource v ?_) e he
            exact List.mem_flatMap.mpr ⟨row, hRow, hv⟩
      · obtain ⟨e, he, rfl⟩ := List.mem_map.mp h
        exact forall_exprsVisits.mp hReturning e he
  | update s =>
      obtain ⟨hRows, hReturning⟩ := List.forall_mem_append.mp (List.forall_mem_cons.mp hs).2
      obtain ⟨hAssignments, hCondition⟩ := List.forall_mem_append.mp hRows
      obtain ⟨e, he, rfl⟩ := List.mem_map.mp h
      rcases List.mem_append.mp he with he | he
      · rcases List.mem_append.mp he with he | he
        · exact forall_exprsVisits.mp hAssignments e he
        · exact forall_optionVisits.mp hCondition e he
      · exact forall_exprsVisits.mp hReturning e he
  | delete s =>
      obtain ⟨hCondition, hReturning⟩ := List.forall_mem_append.mp (List.forall_mem_cons.mp hs).2
      obtain ⟨e, he, rfl⟩ := List.mem_map.mp h
      rcases List.mem_append.mp he with he | he
      · exact forall_optionVisits.mp hCondition e he
      · exact forall_exprsVisits.mp hReturning e he
  | createTable | dropTable | createIndex | dropIndex => cases h

/-- What holds of all that is met in a statement holds of all that is met in the
parts of it that are written out. -/
theorem Statement.Writes.forall_visits {t : Target} {s : Statement} {n : Node} {P : Visit → Prop}
    (h : s.Writes t n) (hAdded : ∀ v : Visit, v.Added → P v) (hs : ∀ v ∈ s.visits true, P v) :
    ∀ v ∈ n.visits, P v := by
  obtain ⟨root, hRoot, hParts⟩ := h
  induction hParts with
  | refl => exact forall_root hRoot hs
  | tail _ hPart ih => exact hPart.forall_visits hAdded ih

end SqlStatements
