import SqlStatements.Tree.Basic

/-! Structural equality of expressions and queries, by one pass over both
trees. -/
namespace SqlStatements

-- The recursion is on the first tree. Each function says so, because the search for one argument
-- of each gives up on this many.
mutual

/-- Whether two expressions are the same tree. -/
def Expr.same : Expr → Expr → Bool
  | .literal a, .literal b => a == b
  | .column a, .column b => a == b
  | .param a, .param b => a == b
  | .binary op l r, .binary op' l' r' => op == op' && l.same l' && r.same r'
  | .unary op e, .unary op' e' => op == op' && e.same e'
  | .call n args d w t, .call n' args' d' w' t' =>
    n == n' && exprsSame args args' && d == d' && windowSame w w' && t == t'
  | .caseOf o bs e, .caseOf o' bs' e' =>
    optionSame o o' && branchesSame bs bs' && optionSame e e'
  | .cast e t, .cast e' t' => e.same e' && t == t'
  | .extract f e, .extract f' e' => f == f' && e.same e'
  | .isNull e n, .isNull e' n' => e.same e' && n == n'
  | .inList e items n, .inList e' items' n' => e.same e' && exprsSame items items' && n == n'
  | .inQuery e q n, .inQuery e' q' n' => e.same e' && q.same q' && n == n'
  | .between e l h n, .between e' l' h' n' => e.same e' && l.same l' && h.same h' && n == n'
  | .existsIn q n, .existsIn q' n' => q.same q' && n == n'
  | .scalar q, .scalar q' => q.same q'
  | .label e n, .label e' n' => e.same e' && n == n'
  | .star s, .star s' => s == s'
  | .tuple items, .tuple items' => exprsSame items items'
  | .raw s, .raw s' => s == s'
  | _, _ => false
termination_by structural a => a

def exprsSame : List Expr → List Expr → Bool
  | [], [] => true
  | e :: es, e' :: es' => e.same e' && exprsSame es es'
  | _, _ => false
termination_by structural a => a

def optionSame : Option Expr → Option Expr → Bool
  | none, none => true
  | some e, some e' => e.same e'
  | _, _ => false
termination_by structural a => a

def branchesSame : List Branch → List Branch → Bool
  | [], [] => true
  | ⟨c, r⟩ :: bs, ⟨c', r'⟩ :: bs' => c.same c' && r.same r' && branchesSame bs bs'
  | _, _ => false
termination_by structural a => a

def ordersSame : List OrderTerm → List OrderTerm → Bool
  | [], [] => true
  | ⟨e, d, n⟩ :: os, ⟨e', d', n'⟩ :: os' => e.same e' && d == d' && n == n' && ordersSame os os'
  | _, _ => false
termination_by structural a => a

def windowSame : Option Window → Option Window → Bool
  | none, none => true
  | some ⟨p, o⟩, some ⟨p', o'⟩ => exprsSame p p' && ordersSame o o'
  | _, _ => false
termination_by structural a => a

def FromItem.same : FromItem → FromItem → Bool
  | .table r, .table r' => r == r'
  | .derived q n l, .derived q' n' l' => q.same q' && n == n' && l == l'
  | .join k l r c, .join k' l' r' c' =>
    k == k' && l.same l' && r.same r' && optionSame c c'
  | .cte n, .cte n' => n == n'
  | _, _ => false
termination_by structural a => a

def sourcesSame : List FromItem → List FromItem → Bool
  | [], [] => true
  | i :: is, i' :: is' => i.same i' && sourcesSame is is'
  | _, _ => false
termination_by structural a => a

def ctesSame : List Cte → List Cte → Bool
  | [], [] => true
  | ⟨n, cs, q, r⟩ :: rest, ⟨n', cs', q', r'⟩ :: rest' =>
    n == n' && cs == cs' && q.same q' && r == r' && ctesSame rest rest'
  | _, _ => false
termination_by structural a => a

def Select.same : Select → Select → Bool
  | ⟨ctes, distinct, columns, sources, condition, groupBy, having, orderBy, limit, offset,
      numbered⟩,
    ⟨ctes', distinct', columns', sources', condition', groupBy', having', orderBy', limit', offset',
      numbered'⟩ =>
    ctesSame ctes ctes' && distinct == distinct' && exprsSame columns columns' &&
      sourcesSame sources sources' && optionSame condition condition' &&
      exprsSame groupBy groupBy' && optionSame having having' && ordersSame orderBy orderBy' &&
      limit == limit' && offset == offset' && numbered == numbered'
termination_by structural a => a

def Query.same : Query → Query → Bool
  | .select s, .select s' => s.same s'
  | .compound op ms o l f, .compound op' ms' o' l' f' =>
    op == op' && queriesSame ms ms' && ordersSame o o' && l == l' && f == f'
  | _, _ => false
termination_by structural a => a

def queriesSame : List Query → List Query → Bool
  | [], [] => true
  | q :: qs, q' :: qs' => q.same q' && queriesSame qs qs'
  | _, _ => false
termination_by structural a => a

end

mutual

/-- The comparison decides equality of trees. Queries in an expression count,
and so do values of parameters. -/
theorem Expr.same_iff : (a b : Expr) → (a.same b = true ↔ a = b)
  | .literal _, b => by cases b <;> simp [Expr.same]
  | .column _, b => by cases b <;> simp [Expr.same]
  | .param _, b => by cases b <;> simp [Expr.same]
  | .binary _ l r, b => by
    cases b <;> simp [Expr.same, Expr.same_iff l, Expr.same_iff r, and_assoc]
  | .unary _ e, b => by cases b <;> simp [Expr.same, Expr.same_iff e]
  | .call _ args _ w _, b => by
    cases b <;> simp [Expr.same, exprsSame_iff args, windowSame_iff w, and_assoc]
  | .caseOf o bs e, b => by
    cases b <;> simp [Expr.same, optionSame_iff o, branchesSame_iff bs, optionSame_iff e, and_assoc]
  | .cast e _, b => by cases b <;> simp [Expr.same, Expr.same_iff e]
  | .extract _ e, b => by cases b <;> simp [Expr.same, Expr.same_iff e]
  | .isNull e _, b => by cases b <;> simp [Expr.same, Expr.same_iff e]
  | .inList e items _, b => by
    cases b <;> simp [Expr.same, Expr.same_iff e, exprsSame_iff items, and_assoc]
  | .inQuery e q _, b => by
    cases b <;> simp [Expr.same, Expr.same_iff e, Query.same_iff q, and_assoc]
  | .between e l h _, b => by
    cases b <;> simp [Expr.same, Expr.same_iff e, Expr.same_iff l, Expr.same_iff h, and_assoc]
  | .existsIn q _, b => by cases b <;> simp [Expr.same, Query.same_iff q]
  | .scalar q, b => by cases b <;> simp [Expr.same, Query.same_iff q]
  | .label e _, b => by cases b <;> simp [Expr.same, Expr.same_iff e]
  | .star _, b => by cases b <;> simp [Expr.same]
  | .tuple items, b => by cases b <;> simp [Expr.same, exprsSame_iff items]
  | .raw _, b => by cases b <;> simp [Expr.same]
termination_by structural a => a

theorem exprsSame_iff : (a b : List Expr) → (exprsSame a b = true ↔ a = b)
  | [], b => by cases b <;> simp [exprsSame]
  | e :: es, b => by cases b <;> simp [exprsSame, Expr.same_iff e, exprsSame_iff es]
termination_by structural a => a

theorem optionSame_iff : (a b : Option Expr) → (optionSame a b = true ↔ a = b)
  | none, b => by cases b <;> simp [optionSame]
  | some e, b => by cases b <;> simp [optionSame, Expr.same_iff e]
termination_by structural a => a

theorem branchesSame_iff : (a b : List Branch) → (branchesSame a b = true ↔ a = b)
  | [], b => by cases b <;> simp [branchesSame]
  | ⟨c, r⟩ :: bs, b => by
    cases b with
    | nil => simp [branchesSame]
    | cons x xs =>
      cases x
      simp [branchesSame, Expr.same_iff c, Expr.same_iff r, branchesSame_iff bs]
termination_by structural a => a

theorem ordersSame_iff : (a b : List OrderTerm) → (ordersSame a b = true ↔ a = b)
  | [], b => by cases b <;> simp [ordersSame]
  | ⟨e, _, _⟩ :: os, b => by
    cases b with
    | nil => simp [ordersSame]
    | cons x xs =>
      cases x
      simp [ordersSame, Expr.same_iff e, ordersSame_iff os, and_assoc]
termination_by structural a => a

theorem windowSame_iff : (a b : Option Window) → (windowSame a b = true ↔ a = b)
  | none, b => by cases b <;> simp [windowSame]
  | some ⟨p, o⟩, b => by
    cases b with
    | none => simp [windowSame]
    | some x =>
      cases x
      simp [windowSame, exprsSame_iff p, ordersSame_iff o]
termination_by structural a => a

theorem FromItem.same_iff : (a b : FromItem) → (a.same b = true ↔ a = b)
  | .table _, b => by cases b <;> simp [FromItem.same]
  | .derived q _ _, b => by cases b <;> simp [FromItem.same, Query.same_iff q, and_assoc]
  | .join _ l r c, b => by
    cases b <;>
      simp [FromItem.same, FromItem.same_iff l, FromItem.same_iff r, optionSame_iff c, and_assoc]
  | .cte _, b => by cases b <;> simp [FromItem.same]
termination_by structural a => a

theorem sourcesSame_iff : (a b : List FromItem) → (sourcesSame a b = true ↔ a = b)
  | [], b => by cases b <;> simp [sourcesSame]
  | i :: is, b => by cases b <;> simp [sourcesSame, FromItem.same_iff i, sourcesSame_iff is]
termination_by structural a => a

theorem ctesSame_iff : (a b : List Cte) → (ctesSame a b = true ↔ a = b)
  | [], b => by cases b <;> simp [ctesSame]
  | ⟨_, _, q, _⟩ :: rest, b => by
    cases b with
    | nil => simp [ctesSame]
    | cons x xs =>
      cases x
      simp [ctesSame, Query.same_iff q, ctesSame_iff rest, and_assoc]
termination_by structural a => a

theorem Select.same_iff : (a b : Select) → (a.same b = true ↔ a = b)
  | ⟨ctes, _, columns, sources, condition, groupBy, having, orderBy, _, _, _⟩, b => by
    cases b
    simp [Select.same, ctesSame_iff ctes, exprsSame_iff columns, sourcesSame_iff sources,
      optionSame_iff condition, exprsSame_iff groupBy, optionSame_iff having,
      ordersSame_iff orderBy, and_assoc]
termination_by structural a => a

theorem Query.same_iff : (a b : Query) → (a.same b = true ↔ a = b)
  | .select s, b => by cases b <;> simp [Query.same, Select.same_iff s]
  | .compound _ ms o _ _, b => by
    cases b <;> simp [Query.same, queriesSame_iff ms, ordersSame_iff o, and_assoc]
termination_by structural a => a

theorem queriesSame_iff : (a b : List Query) → (queriesSame a b = true ↔ a = b)
  | [], b => by cases b <;> simp [queriesSame]
  | q :: qs, b => by cases b <;> simp [queriesSame, Query.same_iff q, queriesSame_iff qs]
termination_by structural a => a

end

instance : DecidableEq Expr := fun a b => decidable_of_iff _ (a.same_iff b)
instance : DecidableEq Select := fun a b => decidable_of_iff _ (a.same_iff b)
instance : DecidableEq Query := fun a b => decidable_of_iff _ (a.same_iff b)

end SqlStatements
