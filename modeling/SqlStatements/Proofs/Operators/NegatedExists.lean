import SqlStatements.Proofs.Compiled.BindNames

/-! Two ways to say that a query has no rows: EXISTS with a negation of its own, and NOT
in front of EXISTS. Alone they are written alike. As operands they are not, because NOT is
an operator that binds loosely, while EXISTS never needs parentheses. -/
namespace SqlStatements

namespace Sample

/-- The ids of the accounts without a balance. -/
def unpaid : Query :=
  .select
    { Select.ofColumns [.column ⟨some (.table (.plain accounts)), "id", .of .integer⟩] with
      condition := some (.isNull
        (.column ⟨some (.table (.plain accounts)), "balance", .of .integer⟩) false) }

/-- A row if it is unknown whether a condition holds. -/
def unknown (condition : Expr) : Statement :=
  .query (.select
    { Select.ofColumns [.literal (.int 1)] with condition := some (.isNull condition false) })

end Sample

/-- An operator or a predicate with one operand missing. -/
inductive Expr.Frame where
  | left (op : BinaryOp) (right : Expr)
  | right (op : BinaryOp) (left : Expr)
  | isNull (negated : Bool)
  | inList (items : List Expr) (negated : Bool)
  | member (operand : Expr) (before after : List Expr) (negated : Bool)
  | inQuery (query : Query) (negated : Bool)
  | between (low high : Expr) (negated : Bool)
  | low (operand high : Expr) (negated : Bool)
  | high (operand low : Expr) (negated : Bool)

namespace Expr

namespace Frame

def put : Frame → Expr → Expr
  | .left op r, e => .binary op e r
  | .right op l, e => .binary op l e
  | .isNull negated, e => .isNull e negated
  | .inList items negated, e => .inList e items negated
  | .member operand before after negated, e => .inList operand (before ++ e :: after) negated
  | .inQuery q negated, e => .inQuery e q negated
  | .between l h negated, e => .between e l h negated
  | .low operand h negated, e => .between operand e h negated
  | .high operand l negated, e => .between operand l e negated

/-- Whether the operand is given parentheses. -/
def wraps : Frame → Expr → Bool
  | .left op _, e => e.needsParens op
  | .right op _, e => e.needsParens op
  | .member _ _ _ _, _ => false
  | _, e => e.strength ≤ predicateStrength

/-- Whether the operand is left out: nothing is looked for in an empty list. -/
def drops : Frame → Bool
  | .inList items _ => items.isEmpty
  | _ => false

/-- Whether an operand that starts with NOT is given parentheses. -/
def wrapsNot : Frame → Bool
  | .left op _ | .right op _ => op ≠ .and && op ≠ .or
  | .member _ _ _ _ => false
  | _ => true

/-- Whether a negation in the innermost place gets parentheses, and is written
at all. -/
def exposes : List Frame → Bool
  | [] => false
  | f :: fs => f.wrapsNot && (f :: fs).all fun g => !g.drops

end Frame

/-- The expression inside the frames, the first of which is the innermost. -/
def inside (e : Expr) : List Frame → Expr
  | [] => e
  | f :: fs => (f.put e).inside fs

/-- Neither the missing value nor a query, which comparisons write in ways of
their own. -/
structure Plain (e : Expr) : Prop where
  value : e.isNullLiteral = false
  single : e.isScalar = false

/-- Operators and predicates give parentheses to both or to neither. -/
structure Alike (e e' : Expr) : Prop where
  strength : e.strength = e'.strength
  applies : ∀ op, e.applies op = e'.applies op

end Expr

namespace Expr.Frame

variable {t : Target} {pager : Pager} {sc : Scope}

/-- Equality gives parentheses to the operands that a predicate gives them
to. -/
theorem needsParens_of_equality {e : Expr} {op : BinaryOp} (h : op = .eq ∨ op = .notEq) :
    e.needsParens op = decide (e.strength ≤ predicateStrength) := by
  have hOp : op.precedence = predicateStrength ∧ op.isAssociative = false := by
    rcases h with rfl | rfl <;> exact ⟨rfl, rfl⟩
  rw [needsParens, hOp.1, hOp.2]
  split
  · rename_i hSame
    simp [hSame]
  · rename_i hOther
    simp only [decide_eq_decide]
    omega

theorem exprDrafts_append (es fs : List Expr) :
    exprDrafts t pager sc (es ++ fs) = exprDrafts t pager sc es ++ exprDrafts t pager sc fs := by
  induction es with
  | nil => rfl
  | cons e es ih => rw [List.cons_append, exprDrafts, exprDrafts, ih, List.cons_append]

theorem join_cons {separator : String} {ds : List Draft} (first : Draft) (h : ds ≠ []) :
    Draft.join separator (first :: ds) = first ++ .text separator :: Draft.join separator ds := by
  cases ds with
  | nil => exact absurd rfl h
  | cons => rfl

/-- One of several drafts in a row, and what is written around it. -/
theorem exists_join_middle (separator : String) (ds es : List Draft) :
    ∃ before after, ∀ d, Draft.join separator (ds ++ d :: es) = before ++ d ++ after := by
  induction ds with
  | nil =>
      cases es with
      | nil => exact ⟨[], [], fun d => (List.append_nil d).symm⟩
      | cons e es => exact ⟨[], .text separator :: Draft.join separator (e :: es), fun d => rfl⟩
  | cons first ds ih =>
      obtain ⟨before, after, hRest⟩ := ih
      refine ⟨first ++ .text separator :: before, after, ?_⟩
      intro d
      rw [List.cons_append, join_cons first (by simp), hRest]
      simp

/-- Around a plain left operand the same is written for all operands, apart from
the parentheses. -/
theorem exists_binary_left (t : Target) (op : BinaryOp) (r : Expr) (dr : Draft) :
    ∃ after, ∀ (e : Expr) (d : Draft), e.Plain →
      Draft.binary t op e r d dr = d.parens (e.needsParens op) ++ after := by
  by_cases hNull : (op = .eq ∨ op = .notEq) ∧ r.isNullLiteral = true
  · refine ⟨[.text (" IS " ++ negation (op = .notEq) ++ "NULL")], ?_⟩
    intro e d _
    rw [Draft.binary, if_pos hNull, needsParens_of_equality hNull.1]
    rfl
  · by_cases hQuery : (op = .eq ∨ op = .notEq) ∧ t.caps.scalarComparison = false ∧ r.isScalar = true
    · refine ⟨.text (" " ++ negation (op = .notEq) ++ "IN ") :: dr, ?_⟩
      intro e d _
      rw [Draft.binary, if_neg hNull, if_pos hQuery, needsParens_of_equality hQuery.1]
      rfl
    · refine ⟨.text (" " ++ t.profile.operator op ++ " ") :: dr.parens (r.needsParens op), ?_⟩
      intro e d hPlain
      rw [Draft.binary, if_neg hNull, if_neg hQuery, if_neg (by simp [hPlain.single])]

/-- The same for the right operand. The missing value and queries are not plain,
so the form of the operation stays. -/
theorem exists_binary_right (t : Target) (op : BinaryOp) (l : Expr) (dl : Draft) :
    ∃ before after, ∀ (e : Expr) (d : Draft), e.Plain →
      Draft.binary t op l e dl d = before ++ d.parens (e.needsParens op) ++ after := by
  by_cases hQuery : (op = .eq ∨ op = .notEq) ∧ t.caps.scalarComparison = false ∧ l.isScalar = true
  · refine ⟨[], .text (" " ++ negation (op = .notEq) ++ "IN ") :: dl, ?_⟩
    intro e d hPlain
    rw [Draft.binary, if_neg (by simp [hPlain.value]), if_neg (by simp [hPlain.single]),
      if_pos hQuery, needsParens_of_equality hQuery.1]
    rfl
  · refine ⟨dl.parens (l.needsParens op) ++ [.text (" " ++ t.profile.operator op ++ " ")], [], ?_⟩
    intro e d hPlain
    rw [Draft.binary, if_neg (by simp [hPlain.value]), if_neg (by simp [hPlain.single]),
      if_neg hQuery]
    simp

/-- What a frame writes around its operand is the same for all plain operands,
apart from the parentheses. -/
theorem exists_draft_put (t : Target) (pager : Pager) (sc : Scope) (f : Frame)
    (hKept : f.drops = false) :
    ∃ before after, ∀ e : Expr, e.Plain →
      (f.put e).draft t pager sc = before ++ (e.draft t pager sc).parens (f.wraps e) ++ after := by
  cases f with
  | left op r =>
      obtain ⟨after, hBinary⟩ := exists_binary_left t op r (r.draft t pager sc)
      exact ⟨[], after, fun e hPlain => by rw [put, Expr.draft, hBinary _ _ hPlain]; rfl⟩
  | right op l =>
      obtain ⟨before, after, hBinary⟩ := exists_binary_right t op l (l.draft t pager sc)
      exact ⟨before, after, fun e hPlain => by rw [put, Expr.draft, hBinary _ _ hPlain]; rfl⟩
  | isNull negated => exact ⟨[], _, fun e _ => rfl⟩
  | inList items negated =>
      cases items with
      | nil => cases hKept
      | cons => exact ⟨[], _, fun e _ => rfl⟩
  | member operand es fs negated =>
      obtain ⟨before, after, hJoin⟩ := exists_join_middle ", " (exprDrafts t pager sc es)
        (exprDrafts t pager sc fs)
      refine ⟨Draft.operand operand (operand.draft t pager sc) ++
        .text (" " ++ negation negated ++ "IN (") :: before, after ++ [.text ")"], ?_⟩
      intro e _
      rw [put, Expr.draft, exprDrafts_append, exprDrafts, Draft.inList, if_neg (by simp), hJoin]
      simp [wraps, Draft.parens]
  | inQuery q negated => exact ⟨[], _, fun e _ => rfl⟩
  | between l h negated => exact ⟨[], _, fun e _ => rfl⟩
  | low operand h negated =>
      refine ⟨Draft.operand operand (operand.draft t pager sc) ++
        [.text (" " ++ negation negated ++ "BETWEEN ")],
        .text " AND " :: Draft.operand h (h.draft t pager sc), ?_⟩
      intro e _
      rw [put, Expr.draft, Draft.between, List.append_assoc, List.append_assoc]
      rfl
  | high operand l negated =>
      refine ⟨Draft.operand operand (operand.draft t pager sc) ++
        .text (" " ++ negation negated ++ "BETWEEN ") ::
          (Draft.operand l (l.draft t pager sc) ++ [.text " AND "]), [], ?_⟩
      intro e _
      rw [put, Expr.draft, Draft.between]
      simp [wraps, Draft.operand]

/-- Where an operand is left out, any other one gives the same text. -/
theorem draft_put_of_drops {f : Frame} (h : f.drops = true) (e e' : Expr) :
    (f.put e).draft t pager sc = (f.put e').draft t pager sc := by
  cases f with
  | inList items negated =>
      rw [List.isEmpty_iff.mp h]
      rfl
  | _ => cases h

/-- What a frame is made of decides how it is treated as an operand itself. -/
theorem put_plain (f : Frame) (e : Expr) : (f.put e).Plain := by
  cases f <;> exact ⟨rfl, rfl⟩

/-- What is put into a frame does not change how strongly the whole binds. -/
theorem put_alike (f : Frame) (e e' : Expr) : (f.put e).Alike (f.put e') := by
  cases f <;> exact ⟨rfl, fun _ => rfl⟩

/-- A frame gives parentheses to both or to neither of two operands that bind
alike. -/
theorem wraps_congr {e e' : Expr} (h : e.Alike e') (f : Frame) : f.wraps e = f.wraps e' := by
  cases f <;> simp only [wraps, needsParens, h.strength, h.applies]

/-- EXISTS is never given parentheses. -/
theorem wraps_existsIn (f : Frame) (q : Query) (negated : Bool) :
    f.wraps (.existsIn q negated) = false := by
  cases f with
  | left op | right op => cases op <;> rfl
  | _ => rfl

/-- Whether a negation gets parentheses does not depend on what it negates. -/
theorem wraps_not (f : Frame) (e : Expr) : f.wraps (.unary .not e) = f.wrapsNot := by
  cases f with
  | left op | right op => cases op <;> rfl
  | _ => rfl

/-- Nothing but the innermost frame sees the operand; the frames around it see a
frame. -/
theorem exists_draft_inside (t : Target) (pager : Pager) (sc : Scope) (f : Frame) (fs : List Frame)
    (hKept : ∀ g ∈ f :: fs, g.drops = false) :
    ∃ before after, ∀ e : Expr, e.Plain →
      (e.inside (f :: fs)).draft t pager sc =
        before ++ (e.draft t pager sc).parens (f.wraps e) ++ after := by
  induction fs generalizing f with
  | nil => exact exists_draft_put t pager sc f (hKept f (List.mem_singleton_self f))
  | cons g gs ih =>
      obtain ⟨hFirst, hRest⟩ := List.forall_mem_cons.mp hKept
      obtain ⟨inner, rest, hInner⟩ := exists_draft_put t pager sc f hFirst
      obtain ⟨outer, last, hOuter⟩ := ih g hRest
      -- The outer frames treat the frame alike, whatever its operand is.
      have hTop : ∀ e, g.wraps (f.put e) = g.wraps (f.put (.raw "")) :=
        fun e => wraps_congr (f.put_alike e (.raw "")) g
      generalize g.wraps (f.put (.raw "")) = wanted at hTop
      refine ⟨outer ++ (if wanted then [.text "("] else []) ++ inner,
        rest ++ (if wanted then [.text ")"] else []) ++ last, ?_⟩
      intro e hPlain
      have hAll := hOuter (f.put e) (f.put_plain e)
      rw [hInner e hPlain, hTop] at hAll
      refine hAll.trans ?_
      cases wanted <;> simp [Draft.parens]

/-- Operands that are written alike, and are alike to the operators around them,
can stand for each other. -/
theorem draft_inside_congr {e e' : Expr} (hPlain : e.Plain) (hPlain' : e'.Plain)
    (hAlike : e.Alike e') (hDraft : e.draft t pager sc = e'.draft t pager sc) (fs : List Frame) :
    (e.inside fs).draft t pager sc = (e'.inside fs).draft t pager sc := by
  induction fs generalizing e e' with
  | nil => exact hDraft
  | cons f fs ih =>
      refine ih (f.put_plain e) (f.put_plain e') (f.put_alike e e') ?_
      cases hDrops : f.drops with
      | true => exact draft_put_of_drops hDrops e e'
      | false =>
          obtain ⟨before, after, hPut⟩ := exists_draft_put t pager sc f hDrops
          rw [hPut e hPlain, hPut e' hPlain', hDraft, wraps_congr hAlike]

/-- Behind an empty list an operand is not seen, however many frames are around
it. -/
theorem draft_inside_of_drops {fs : List Frame} (hDrops : ∃ f ∈ fs, f.drops = true)
    (e e' : Expr) : (e.inside fs).draft t pager sc = (e'.inside fs).draft t pager sc := by
  induction fs generalizing e e' with
  | nil =>
      obtain ⟨f, hf, -⟩ := hDrops
      cases hf
  | cons f fs ih =>
      obtain ⟨g, hg, hDrops⟩ := hDrops
      rcases List.mem_cons.mp hg with rfl | hg
      · exact draft_inside_congr (g.put_plain e) (g.put_plain e') (g.put_alike e e')
          (draft_put_of_drops hDrops e e') fs
      · exact ih ⟨g, hg, hDrops⟩ (f.put e) (f.put e')

end Expr.Frame

namespace Ledger

/-- The text of a draft, and the ledger after it. -/
def rendered (s : Setting) (L : Ledger) (d : Draft) : Except Error (String × Ledger) :=
  (L.write s d).map fun r => (String.join r.1, r.2)

variable {s : Setting} {L : Ledger} {d e : Draft}

theorem rendered_cons (piece : Piece) : L.rendered s (piece :: d) =
    (L.writePiece s piece).bind fun r => (r.2.rendered s d).map fun r' => (r.1 ++ r'.1, r'.2) := by
  rw [rendered, write]
  cases L.writePiece s piece with
  | error => rfl
  | ok r =>
      show ((r.2.write s d >>= fun r' => pure (r.1 :: r'.1, r'.2)).map _) =
        (r.2.rendered s d).map _
      rw [rendered]
      cases r.2.write s d with
      | error => rfl
      | ok r' => exact congrArg Except.ok (by simp)

/-- Drafts one after the other give their texts one after the other, the second
from the ledger of the first. -/
theorem rendered_append : L.rendered s (d ++ e) =
    (L.rendered s d).bind fun r => (r.2.rendered s e).map fun r' => (r.1 ++ r'.1, r'.2) := by
  induction d generalizing L with
  | nil =>
      show L.rendered s e = (L.rendered s e).map fun r' => ("" ++ r'.1, r'.2)
      cases L.rendered s e with
      | error => rfl
      | ok r => exact congrArg Except.ok (by simp)
  | cons piece d ih =>
      rw [List.cons_append, rendered_cons, rendered_cons]
      cases L.writePiece s piece with
      | error => rfl
      | ok r =>
          show (r.2.rendered s (d ++ e)).map _ = ((r.2.rendered s d).map _).bind _
          rw [ih]
          cases r.2.rendered s d with
          | error => rfl
          | ok r' =>
              show ((r'.2.rendered s e).map _).map _ = (r'.2.rendered s e).map _
              cases r'.2.rendered s e with
              | error => rfl
              | ok r'' => exact congrArg Except.ok (by simp [String.append_assoc])

theorem rendered_text (x : String) :
    L.rendered s (.text x :: d) = (L.rendered s d).map fun r => (x ++ r.1, r.2) :=
  rendered_cons _

/-- Parentheses decide nothing and only surround the text. -/
theorem rendered_parens (d : Draft) :
    L.rendered s (d.parens true) = (L.rendered s d).map fun r => ("(" ++ r.1 ++ ")", r.2) := by
  show L.rendered s (.text "(" :: (d ++ [.text ")"])) = _
  rw [rendered_text, rendered_append]
  cases L.rendered s d with
  | error => rfl
  | ok r => exact congrArg Except.ok (by simp [String.append_assoc])

/-- A part of a draft can stand for another that is written alike. -/
theorem rendered_within {d' : Draft} (h : ∀ M : Ledger, M.rendered s d' = M.rendered s d)
    (before after : Draft) :
    L.rendered s (before ++ d' ++ after) = L.rendered s (before ++ d ++ after) := by
  simp only [rendered_append, h]

/-- Parentheses around a part of a draft are all that changes in its text.
Errors and the ledger stay the same. -/
theorem rendered_parens_within (before after : Draft) :
    (∀ err, L.rendered s (before ++ d ++ after) = .error err ↔
      L.rendered s (before ++ d.parens true ++ after) = .error err) ∧
    ∀ text L', L.rendered s (before ++ d ++ after) = .ok (text, L') →
      ∃ x y z M N, text = x ++ y ++ z ∧ rendered s M d = .ok (y, N) ∧
        L.rendered s (before ++ d.parens true ++ after) =
          .ok (x ++ ("(" ++ y ++ ")") ++ z, L') := by
  simp only [rendered_append, rendered_parens]
  cases L.rendered s before with
  | error => exact ⟨fun _ => Iff.rfl, nofun⟩
  | ok r =>
      simp only [Except.bind]
      cases hPart : r.2.rendered s d with
      | error => exact ⟨fun _ => Iff.rfl, nofun⟩
      | ok r' =>
          simp only [Except.map]
          cases r'.2.rendered s after with
          | error => exact ⟨fun _ => Iff.rfl, nofun⟩
          | ok r'' =>
              refine ⟨fun _ => ⟨nofun, nofun⟩, ?_⟩
              intro text L' hText
              cases hText
              exact ⟨r.1, r'.1, r''.1, r.2, r'.2, rfl, hPart, rfl⟩

end Ledger

namespace Expr

variable {t : Target} {pager : Pager} {sc : Scope} {s : Setting} {L : Ledger} {q : Query}

/-- Alone, the two spellings are one text. Only an operand of something else can
tell them apart. -/
theorem rendered_notExists :
    L.rendered s ((Expr.unary .not (.existsIn q false)).draft t pager sc) =
      L.rendered s ((Expr.existsIn q true).draft t pager sc) := by
  show L.rendered s (.text "NOT " :: .text "EXISTS (" :: (q.draft t pager sc.nested false ++ _)) =
    L.rendered s (.text "NOT EXISTS (" :: (q.draft t pager sc.nested false ++ _))
  rw [Ledger.rendered_text, Ledger.rendered_text, Ledger.rendered_text]
  cases L.rendered s (q.draft t pager sc.nested false ++ [.text ")"]) with
  | error => rfl
  | ok r => exact congrArg Except.ok (by simp [← String.append_assoc])

/-- A negated test for existence is written with its own `NOT`, in front of the
query. -/
theorem exists_text_existsIn {text : String} {L' : Ledger}
    (h : L.rendered s ((Expr.existsIn q true).draft t pager sc) = .ok (text, L')) :
    ∃ query, text = "NOT EXISTS (" ++ query ++ ")" := by
  have hParts : L.rendered s ((Expr.existsIn q true).draft t pager sc) =
      ((L.rendered s (q.draft t pager sc.nested false)).bind fun r =>
        (r.2.rendered s [.text ")"]).map fun r' => (r.1 ++ r'.1, r'.2)).map
          fun r => ("NOT EXISTS (" ++ r.1, r.2) := by
    rw [← Ledger.rendered_append]
    exact Ledger.rendered_text _
  rw [hParts] at h
  cases hQuery : L.rendered s (q.draft t pager sc.nested false) with
  | error e =>
      rw [hQuery] at h
      cases h
  | ok r =>
      rw [hQuery] at h
      cases h
      exact ⟨r.1, by simp [String.append_assoc, String.join]⟩

/-- Where the innermost frame gives no parentheses to NOT, or the operand is not
written at all, the two spellings stay one text. -/
theorem rendered_notExists_of_not_exposed (t : Target) (pager : Pager) (sc : Scope)
    {frames : List Frame} (h : Frame.exposes frames = false) (s : Setting) (L : Ledger)
    (q : Query) :
    L.rendered s (((Expr.unary .not (.existsIn q false)).inside frames).draft t pager sc) =
      L.rendered s (((Expr.existsIn q true).inside frames).draft t pager sc) := by
  cases frames with
  | nil => exact rendered_notExists
  | cons f fs =>
      by_cases hKept : ∀ g ∈ f :: fs, g.drops = false
      · have hLoose : f.wrapsNot = false := by
          rw [Frame.exposes, Bool.and_eq_false_iff] at h
          refine h.resolve_right ?_
          simpa using hKept
        obtain ⟨before, after, hInside⟩ := Frame.exists_draft_inside t pager sc f fs hKept
        rw [hInside _ ⟨rfl, rfl⟩, hInside _ ⟨rfl, rfl⟩, Frame.wraps_existsIn, Frame.wraps_not,
          hLoose]
        exact Ledger.rendered_within (fun M => rendered_notExists) before after
      · have hDrops : ∃ g ∈ f :: fs, g.drops = true := by
          by_contra hNone
          exact hKept fun g hg => Bool.eq_false_iff.mpr fun hDrops => hNone ⟨g, hg, hDrops⟩
        rw [Frame.draft_inside_of_drops hDrops]

/-- Otherwise the draft of NOT in front of EXISTS is, in parentheses, what the
other spelling has in its place. -/
theorem exists_rendered_exposed (t : Target) (pager : Pager) (sc : Scope) {frames : List Frame}
    (h : Frame.exposes frames = true) (s : Setting) (L : Ledger) (q : Query) :
    ∃ before after, ((Expr.existsIn q true).inside frames).draft t pager sc =
        before ++ (Expr.existsIn q true).draft t pager sc ++ after ∧
      L.rendered s (((Expr.unary .not (.existsIn q false)).inside frames).draft t pager sc) =
        L.rendered s
          (before ++ ((Expr.existsIn q true).draft t pager sc).parens true ++ after) := by
  cases frames with
  | nil => cases h
  | cons f fs =>
      rw [Frame.exposes, Bool.and_eq_true] at h
      have hKept : ∀ g ∈ f :: fs, g.drops = false := by simpa using h.2
      obtain ⟨before, after, hInside⟩ := Frame.exists_draft_inside t pager sc f fs hKept
      rw [hInside _ ⟨rfl, rfl⟩, hInside _ ⟨rfl, rfl⟩, Frame.wraps_existsIn, Frame.wraps_not, h.1]
      refine ⟨before, after, rfl, Ledger.rendered_within (fun M => ?_) before after⟩
      rw [Ledger.rendered_parens, Ledger.rendered_parens, rendered_notExists]

/-- EXISTS with a negation of its own, and NOT in front of EXISTS, at any depth
of operators and predicates. Either both fail, for one reason, or both are
written, with the same decisions about names. The texts are the same exactly if
what stands around the operand gives no parentheses to NOT, as AND, OR and a
list of members do not, or if the operand is not written at all. Otherwise the
second has a pair of parentheses more. Without them, NOT takes in the rest of
the comparison or predicate. -/
theorem rendered_notExists_inside (t : Target) (pager : Pager) (sc : Scope) (s : Setting)
    (L : Ledger) (q : Query) (frames : List Frame) :
    (∀ err, L.rendered s (((Expr.existsIn q true).inside frames).draft t pager sc) = .error err ↔
      L.rendered s (((Expr.unary .not (.existsIn q false)).inside frames).draft t pager sc) =
        .error err) ∧
    ∀ text L', L.rendered s (((Expr.existsIn q true).inside frames).draft t pager sc) =
        .ok (text, L') →
      ∃ text', L.rendered s
          (((Expr.unary .not (.existsIn q false)).inside frames).draft t pager sc) =
            .ok (text', L') ∧
        (text' = text ↔ Frame.exposes frames = false) ∧
        (Frame.exposes frames = true → ∃ before query after,
          text = before ++ ("NOT EXISTS (" ++ query ++ ")") ++ after ∧
          text' = before ++ ("(" ++ ("NOT EXISTS (" ++ query ++ ")") ++ ")") ++ after) := by
  cases hExposed : Frame.exposes frames with
  | false =>
      rw [rendered_notExists_of_not_exposed t pager sc hExposed s L q]
      exact ⟨fun _ => Iff.rfl, fun text L' hText => ⟨text, hText, by simp, nofun⟩⟩
  | true =>
      obtain ⟨before, after, hFirst, hSecond⟩ := exists_rendered_exposed t pager sc hExposed s L q
      obtain ⟨hErrors, hTexts⟩ := Ledger.rendered_parens_within (s := s) (L := L)
        (d := (Expr.existsIn q true).draft t pager sc) before after
      rw [hFirst, hSecond]
      refine ⟨hErrors, ?_⟩
      intro text L' hText
      obtain ⟨x, y, z, M, N, rfl, hPart, hWrapped⟩ := hTexts text L' hText
      obtain ⟨query, rfl⟩ := exists_text_existsIn hPart
      refine ⟨_, hWrapped, ⟨?_, nofun⟩, fun _ => ⟨x, query, z, rfl, rfl⟩⟩
      intro hSame
      have hLength := congrArg String.length hSame
      simp only [String.length_append] at hLength
      have hParen : "(".length = 1 := rfl
      omega

/-- A test for missing values, inside of AND. -/
theorem rendered_notExists_inside_isNull :
    ∃ text text' L', Ledger.rendered ⟨Sample.target, .placeholders, [], none⟩ {}
        (((Expr.existsIn Sample.unpaid true).inside
          [.isNull false, .left .and (.raw "TRUE")]).draft Sample.target (fun _ _ _ => [])
          .outermost) = .ok (text, L') ∧
      Ledger.rendered ⟨Sample.target, .placeholders, [], none⟩ {}
        (((Expr.unary .not (.existsIn Sample.unpaid false)).inside
          [.isNull false, .left .and (.raw "TRUE")]).draft Sample.target (fun _ _ _ => [])
          .outermost) = .ok (text', L') ∧
      text' ≠ text := by
  obtain ⟨⟨text, L'⟩, hText, -⟩ := exists_ok_of_toOption
    (x := Ledger.rendered ⟨Sample.target, .placeholders, [], none⟩ {}
      (((Expr.existsIn Sample.unpaid true).inside
        [.isNull false, .left .and (.raw "TRUE")]).draft Sample.target (fun _ _ _ => [])
        .outermost))
    (f := fun r => r.1)
    (y := "NOT EXISTS (SELECT accounts.id FROM accounts WHERE accounts.balance IS NULL) " ++
      "IS NULL AND TRUE") (by decide)
  obtain ⟨-, hWritten⟩ := rendered_notExists_inside Sample.target (fun _ _ _ => []) .outermost
    ⟨Sample.target, .placeholders, [], none⟩ {} Sample.unpaid
    [.isNull false, .left .and (.raw "TRUE")]
  obtain ⟨text', hText', hSame, -⟩ := hWritten text L' hText
  exact ⟨text, text', L', hText, hText', fun h => absurd (hSame.mp h) (by decide)⟩

/-- One condition in two spellings, and two texts: in the first it is a test for
missing values that is negated. -/
theorem compile_notExists_isNull :
    ∃ c c', (Sample.unknown (.existsIn Sample.unpaid true)).compile Sample.target .placeholders =
        .ok c ∧
      (Sample.unknown (.unary .not (.existsIn Sample.unpaid false))).compile Sample.target
        .placeholders = .ok c' ∧
      c.sql = "SELECT 1 WHERE NOT EXISTS (SELECT accounts.id FROM accounts " ++
        "WHERE accounts.balance IS NULL) IS NULL" ∧
      c'.sql = "SELECT 1 WHERE (NOT EXISTS (SELECT accounts.id FROM accounts " ++
        "WHERE accounts.balance IS NULL)) IS NULL" := by
  obtain ⟨c, h, hText⟩ := exists_ok_of_toOption
    (x := (Sample.unknown (.existsIn Sample.unpaid true)).compile Sample.target .placeholders)
    (f := fun c => c.sql)
    (y := "SELECT 1 WHERE NOT EXISTS (SELECT accounts.id FROM accounts " ++
      "WHERE accounts.balance IS NULL) IS NULL") (by decide)
  obtain ⟨c', h', hText'⟩ := exists_ok_of_toOption
    (x := (Sample.unknown (.unary .not (.existsIn Sample.unpaid false))).compile Sample.target
      .placeholders) (f := fun c => c.sql)
    (y := "SELECT 1 WHERE (NOT EXISTS (SELECT accounts.id FROM accounts " ++
      "WHERE accounts.balance IS NULL)) IS NULL") (by decide +kernel)
  exact ⟨c, c', h, h', hText, hText'⟩

end Expr

end SqlStatements
