import SqlStatements.Proofs.Compiled.BindNames
import SqlStatements.Proofs.Draft.Params
import SqlStatements.Proofs.Draft.StatementFrames
import SqlStatements.Proofs.Ledger.Parted

/-! Two minus signs in a row begin a comment. Operators stand between blanks and literals
keep their minus signs apart, so only a negation can bring such a pair about: where it stands
directly in front of an operand that begins with a minus sign itself. -/
namespace SqlStatements

open Text

/-- Whether the expression, written out, begins with a minus sign: a negation,
or a negative number. -/
def Expr.leadsMinus (mode : ParameterMode) : Expr → Bool
  | .unary .neg _ => true
  | .literal v => v.isNegative
  | .param p => p.leadsMinus mode
  | .label e _ => e.leadsMinus mode
  | _ => false

/-- No string of the statement has a minus sign, and no text taken over is
empty. Where values are written out, those of parameters count. -/
structure Statement.MinusFree (mode : ParameterMode) (s : Statement) : Prop where
  strings : ∀ x ∈ s.strings, '-' ∉ x.toList
  values : mode = .literals → ∀ p ∈ s.binds, ∀ v, p.value = some v → ∀ x ∈ v.strings,
    '-' ∉ x.toList
  raw : .expr (.raw "") ∉ s.visits true

namespace Sample

def twiceNegated : Statement :=
  .query (.select (Select.ofColumns
    [.unary .neg (.unary .neg
      (.column ⟨some (.table (.plain accounts)), "balance", .of .integer⟩))]))

/-- Differences with negative numbers, one of them in parentheses. -/
def difference : Statement :=
  .query (.select (Select.ofColumns
    [.binary .sub
      (.unary .neg (.column ⟨some (.table (.plain accounts)), "balance", .of .integer⟩))
      (.literal (.int (-5))),
     .unary .neg (.binary .sub
      (.column ⟨some (.table (.plain accounts)), "id", .of .integer⟩)
      (.param ⟨"shift", some (.int (-7)), .of .integer, false⟩))]))

/-- A SELECT without other clauses has no expressions but those of its
columns. -/
theorem mem_visits_columns {e : Expr} {columns : List Expr} :
    .expr e ∈ (Statement.query (.select (Select.ofColumns columns))).visits true ↔
      .expr e ∈ exprsVisits true columns := by
  simp [Statement.visits, Query.visits, Select.visits, Select.ofColumns, exprsVisits, ctesVisits,
    sourcesVisits, optionVisits, ordersVisits]

end Sample

section Operands

variable {setting : Setting}

/-- A qualifier never begins with a minus sign if no name has one, and what
follows it does not matter. -/
theorem ColumnSource.leads (hp : setting.target.profile.Parted) {source : ColumnSource}
    (h : LackAll '-' source.strings) (d : Draft) : (source.draft ++ d).Leads setting false := by
  have hWorded : source.draft.Worded '-' Text.Parted := Draft.worded_columnSource h
  have hName : ∀ {name : String}, Lacks '-' name →
      Draft.Leads setting false (.name name :: d) := fun hLacks =>
    Draft.leads_cons fun _ _ _ _ hPiece => Ledger.leads_name hp hPiece hLacks
  cases source with
  | table ref =>
      cases ref with
      | plain x =>
          exact Draft.leads_cons fun _ _ _ hL hPiece =>
            Ledger.leads_qualifier hp hPiece (Draft.all_cons.mp hWorded).1 hL
      | aliased x name => exact hName (Draft.all_cons.mp hWorded).1
  | derived name => exact hName (Draft.all_cons.mp hWorded).1

/-- A function call begins with its name, or with the word that replaces it, and
so with no minus sign. -/
theorem Draft.leads_call (hp : setting.target.profile.Parted) {name : String}
    (hName : Lacks '-' name) (args : List Draft) (distinct : Bool) (w : Option Draft) :
    (Draft.call setting.target name args distinct w).Leads setting false := by
  rw [Draft.call]
  split
  · rename_i word hWord
    obtain ⟨before, after, hSplit, -⟩ := List.lookup_eq_some_iff.mp hWord
    have hSome : word ≠ "" := hp.function (lower name, .keyword word) (by rw [hSplit]; simp)
    exact leads_text ((hp.worded.lacks_function hWord).leads hSome)
  · refine leads_text (leads_append (Lacks.leads ?_ (by simp)))
    refine lacks_append.mpr ⟨Draft.lacks_renamed hp.worded hName ?_, by decide⟩
    split
    · rename_i other hOther
      exact .inr hOther
    · exact .inl rfl

/-- An operand that needs no parentheses behind a minus sign begins with another
one exactly if it is a negation or a negative number. -/
theorem Expr.leads (hp : setting.target.profile.Parted) (pager : Pager) (sc : Scope) :
    (e : Expr) → LackAll '-' e.strings → .expr (.raw "") ∉ e.visits true →
      UnaryOp.neg.precedence ≤ e.strength →
      (e.draft setting.target pager sc).Leads setting (e.leadsMinus setting.mode)
  | .literal v, _, _, _ => by
      rw [draft, leadsMinus]
      cases hText : setting.target.profile.literalText setting.target.caps v.type v with
      | error e =>
          exact Draft.leads_cons fun _ _ _ _ hPiece => by cases hPiece
      | ok x => exact Draft.leads_text (Profile.opening_literalText hText).leads
  | .param p, _, _, _ =>
      Draft.leads_cons fun _ _ _ _ hPiece => (Ledger.writePiece_param hp hPiece).2
  | .label e _, h, hRaw, hStrength =>
      e.leads hp pager sc (lackAll_cons.mp h).2 (List.not_mem_of_not_mem_cons hRaw) hStrength
  | .column ref, h, _, _ => by
      rw [strings, ColumnRef.strings, lackAll_cons, lackAll_flatMap] at h
      rw [draft, ColumnRef.draft]
      split
      · rename_i source hSource
        exact source.leads hp (h.2 source (by simp [hSource])) _
      · exact Draft.leads_cons fun _ _ _ _ hPiece => Ledger.leads_name hp hPiece h.1
  | .star none, _, _, _ => Draft.leads_text rfl
  | .star (some source), h, _, _ => by
      rw [strings, Option.toList_some, List.flatMap_singleton] at h
      exact source.leads hp h _
  | .raw sql, h, hRaw, _ => by
      refine Draft.leads_text ((lackAll_cons.mp h).1.leads ?_)
      rintro rfl
      exact hRaw (List.mem_singleton_self _)
  | .call name args distinct w type, h, _, _ =>
      Draft.leads_call hp (lackAll_cons.mp h).1 _ distinct _
  | .extract field e, _, _, _ => by
      refine Draft.leads_text ?_
      cases setting.target.profile.extract <;>
        exact leads_append (leads_append rfl)
  | .existsIn q negated, _, _, _ => Draft.leads_text (by cases negated <;> rfl)
  | .unary .neg _, _, _, _ | .unary .bitNot _, _, _, _ | .caseOf _ _ _, _, _, _
  | .cast _ _, _, _, _ | .scalar _, _, _, _ | .tuple _, _, _, _ => Draft.leads_text rfl
  | .unary .not _, _, _, hStrength | .isNull _ _, _, _, hStrength
  | .inList _ _ _, _, _, hStrength | .inQuery _ _ _, _, _, hStrength
  | .between _ _ _ _, _, _, hStrength =>
      absurd hStrength (by simp [strength, UnaryOp.precedence, predicateStrength])
  | .binary op _ _, _, _, hStrength =>
      absurd hStrength (by cases op <;> simp [strength, UnaryOp.precedence, BinaryOp.precedence])

/-- What begins with a minus sign binds at least as strongly as the sign, so it
gets no parentheses behind another one. -/
theorem Expr.strength_of_leadsMinus {mode : ParameterMode} (e : Expr)
    (h : e.leadsMinus mode = true) : UnaryOp.neg.precedence ≤ e.strength := by
  cases e with
  | label e name => exact e.strength_of_leadsMinus h
  | literal | param => simp [strength, UnaryOp.precedence, atomStrength]
  | unary op e =>
      cases op with
      | neg => exact le_rfl
      | not | bitNot => cases h
  | _ => cases h

end Operands

section Nodes

variable {t : Target} {mode : ParameterMode} {s : Statement}

/-- A negation, where its operand does not begin with a minus sign or stands in
parentheses. -/
theorem Expr.apart_neg (ht : t.profile.Parted) {e : Expr} {pager : Pager} {sc : Scope}
    (h : LackAll '-' e.strings) (hRaw : .expr (.raw "") ∉ e.visits true)
    (hMinus : e.leadsMinus mode = false)
    (hOperand : (e.draft t pager sc).Apart (s.setting t mode)) :
    ((Expr.unary .neg e).draft t pager sc).Apart (s.setting t mode) := by
  have hText : ∀ {x : String}, Text.Parted x → Draft.Apart (s.setting t mode) [.text x] :=
    fun hx => Draft.apart_piece ht hx (by simp)
  rw [draft, Draft.unary, Draft.parens]
  split
  · have hParens := (hText (x := "(") (by decide)).append
      (hOperand.append (hText (x := ")") (by decide)))
    exact hParens.minus (Draft.leads_text rfl)
  · rename_i hBare
    have hStrength : UnaryOp.neg.precedence ≤ e.strength := by
      simpa [needsParensUnder] using hBare
    have hLeads : (e.draft t pager sc).Leads (s.setting t mode) (e.leadsMinus mode) :=
      e.leads ht pager sc h hRaw hStrength
    rw [hMinus] at hLeads
    exact hOperand.minus hLeads

/-- Where values are written out, those of the parameters of a draft have no
minus sign in their texts. They come from the statement. -/
theorem Statement.MinusFree.params (hs : s.MinusFree mode) {p : BindParam} {generated : Bool}
    (hp : .param p generated ∈ s.draft t) (hMode : mode = .literals) {v : Value}
    (hv : p.value = some v) : LackAll '-' v.strings :=
  hs.values hMode p (s.params_draft_subset t (List.mem_filterMap.mpr ⟨_, hp, rfl⟩)) v hv

theorem Statement.MinusFree.raws (hs : s.MinusFree mode) {n : Node} (hn : s.Writes t n) :
    .expr (.raw "") ∉ n.visits := by
  have hOther : ∀ v ∈ n.visits, v ≠ .expr (.raw "") := by
    refine hn.forall_visits ?_ fun v hv he => hs.raw (he ▸ hv)
    rintro v hAdded rfl
    exact hAdded
  exact fun hMem => hOther _ hMem rfl

/-- In a part that is written out minus signs stand apart, if no negation of the
statement stands in front of one. -/
theorem Node.apart (ht : t.profile.Parted) (hs : s.MinusFree mode)
    (hMinus : ∀ sc e, s.Writes t (.expr sc (.unary .neg e)) → e.leadsMinus mode = false)
    {depth : Nat} {n : Node} (hComplete : (n.draft t (pager t depth)).Complete) :
    s.Writes t n → n.draft t (pager t depth) <:+: s.draft t →
      (n.draft t (pager t depth)).Apart (s.setting t mode) := by
  refine induction (t := t) (P := fun depth n => s.Writes t n →
    n.draft t (pager t depth) <:+: s.draft t →
      (n.draft t (pager t depth)).Apart (s.setting t mode)) ?_ depth n hComplete
  intro depth n hComplete ih hn hWithin
  have hStrings : LackAll '-' n.strings := hn.lackAll sign_minus hs.strings
  by_cases hNegation : ∃ sc e, n = .expr sc (.unary .neg e)
  · obtain ⟨sc, e, rfl⟩ := hNegation
    have hPart : e ∈ (Expr.unary .neg e).parts t := List.mem_singleton_self e
    have hOperand : s.Writes t (.expr sc e) := hn.trans (.single (.operand hPart))
    have hInner : e.draft t (pager t depth) sc <:+: (Node.expr sc (.unary .neg e)).draft t
        (pager t depth) := Expr.infix_part hComplete hPart
    exact Expr.apart_neg ht hStrings (hs.raws hOperand) (hMinus sc e hn)
      (ih depth (.expr sc e) (.operand hPart) (.right _ (Expr.sizeOf_part hPart))
        (hComplete.of_part hInner) hOperand (hInner.trans hWithin))
  · have hFilled := filled hComplete
    refine hFilled.within.induct Draft.apart_nil (fun _ _ => Draft.Apart.append) ?_ ?_
    · intro piece hPiece
      refine Draft.apart_piece ht (frame_worded law_parted ht.worded hStrings
        (fun sc e he => absurd ⟨sc, e, he⟩ hNegation) piece hPiece) ?_
      rintro p generated rfl hMode v hv
      exact hs.params (hWithin.subset (hFilled.subset hPiece)) hMode hv
    · rintro d ⟨⟨m, inner, hPart, hLess, rfl⟩, hInner⟩
      exact ih inner m hPart hLess (hComplete.of_part hInner) (hn.trans (.single hPart))
        (hInner.trans hWithin)

end Nodes

namespace Statement

variable {t : Target} {mode : ParameterMode} {s : Statement}

/-- The minus signs of a draft stand apart unless a negation is written right in
front of something that begins with one. -/
theorem apart (ht : t.profile.Parted) (hs : s.MinusFree mode)
    (hMinus : ∀ sc e, s.Writes t (.expr sc (.unary .neg e)) → e.leadsMinus mode = false)
    (hComplete : (s.draft t).Complete) : (s.draft t).Apart (s.setting t mode) := by
  have hFilled := filled hComplete
  refine hFilled.within.induct Draft.apart_nil (fun _ _ => Draft.Apart.append) ?_ ?_
  · intro piece hPiece
    refine Draft.apart_piece ht
      (frame_worded law_parted ht.worded hs.strings piece hPiece) ?_
    rintro p generated rfl hMode v hv
    exact hs.params (hFilled.subset hPiece) hMode hv
  · rintro d ⟨⟨n, hRoot, rfl⟩, hInner⟩
    exact Node.apart ht hs hMinus (hComplete.of_part hInner) ⟨n, hRoot, .refl⟩ hInner

/-- A negation in front of a minus sign brings about a pair, since nothing is
written between an operator and an operand without parentheses. -/
theorem infix_minus_of_writes (ht : t.profile.Parted) (hs : s.MinusFree mode)
    {texts : List String} {L : Ledger}
    (h : Ledger.write (s.setting t mode) {} (s.draft t) = .ok (texts, L)) {sc : Scope} {e : Expr}
    (hn : s.Writes t (.expr sc (.unary .neg e))) (he : e.leadsMinus mode = true) :
    ['-', '-'] <:+: (String.join texts).toList := by
  have hComplete : (s.draft t).Complete := Ledger.stop_not_mem h
  have hOperand : s.Writes t (.expr sc e) :=
    hn.trans (.single (.operand (List.mem_singleton_self e)))
  have hNames := draft_worded (law_true sign_minus) ht.worded.names trivial hs.strings hComplete
  have hStrength := e.strength_of_leadsMinus he
  obtain ⟨depth, front, back, hSplit⟩ := hn.within hComplete
  rw [← hSplit] at h hNames
  obtain ⟨xs, ys, N, hFirst, -, rfl⟩ := Ledger.exists_write_append h
  obtain ⟨xs, zs, K, hFront, hWrite, rfl⟩ := Ledger.exists_write_append hFirst
  have hK : K.AliasesLack '-' := Ledger.write_aliasesLack (law_true sign_minus) ht.worded.names
    hFront (Draft.all_append.mp (Draft.all_append.mp hNames).1).1 Ledger.aliasesLack_empty
  have hDraft : (Node.expr sc (.unary .neg e)).draft t (pager t depth) =
      .text "-" :: e.draft t (pager t depth) sc := by
    rw [Node.draft, Expr.draft, Draft.unary, Draft.parens, if_neg]
    · rfl
    · simpa [Expr.needsParensUnder] using hStrength
  rw [hDraft] at hWrite
  obtain ⟨text, K', rest, hMinus, hRest, rfl⟩ := Ledger.write_cons hWrite
  cases hMinus
  have hLeads : (e.draft t (pager t depth) sc).Leads (s.setting t mode) (e.leadsMinus mode) :=
    e.leads ht (pager t depth) sc (hOperand.lackAll sign_minus hs.strings) (hs.raws hOperand)
      hStrength
  rw [he] at hLeads
  have hPair := infix_minus (hLeads K N rest hK hRest)
  rw [String.join_append, String.join_append, String.join_cons, String.toList_append,
    String.toList_append]
  exact hPair.trans ⟨_, _, rfl⟩

/-- A text has two minus signs in a row exactly if the statement negates,
without parentheses, what begins with a minus sign: another negation, or a
negative number that is a literal or is written in the place of a parameter. -/
theorem infix_minus_iff (identity : String) (t : Target) (mode : ParameterMode) (s : Statement)
    (c : Compiled) (ht : Profile.Identified identity t.profile) (hs : s.MinusFree mode)
    (h : s.compile t mode = .ok c) :
    ['-', '-'] <:+: c.sql.toList ↔
      ∃ sc e, s.Writes t (.expr sc (.unary .neg e)) ∧ e.leadsMinus mode = true := by
  obtain ⟨texts, L, hWrite, rfl⟩ := exists_ledger_of_compile h
  constructor
  · intro hPair
    by_contra hNone
    have hMinus : ∀ sc e, s.Writes t (.expr sc (.unary .neg e)) → e.leadsMinus mode = false :=
      fun sc e hn => Bool.eq_false_iff.mpr fun he => hNone ⟨sc, e, hn, he⟩
    obtain ⟨hParted, -⟩ := apart ht.parted hs hMinus (Ledger.stop_not_mem hWrite) {} L texts
      Ledger.aliasesLack_empty hWrite
    exact not_infix_of_parted hParted hPair
  · rintro ⟨sc, e, hn, he⟩
    exact infix_minus_of_writes ht.parted hs hWrite hn he

/-- A negative number behind a difference is separated by a blank, and the
parentheses around a difference separate it as well. -/
theorem infix_minus_iff_difference :
    Sample.difference.MinusFree .literals ∧
      ∃ c, Sample.difference.compile Sample.target .literals = .ok c ∧
        c.sql = "SELECT -accounts.balance - -5, -(accounts.id - -7) FROM accounts" ∧
        ¬∃ sc e, Sample.difference.Writes Sample.target (.expr sc (.unary .neg e)) ∧
          e.leadsMinus .literals = true := by
  have hFree : Sample.difference.MinusFree .literals := by
    refine ⟨by decide, by decide, ?_⟩
    simp [Sample.difference, Sample.mem_visits_columns, exprsVisits, Expr.visits,
      ColumnSource.visits]
  obtain ⟨c, hCompile, hText⟩ := exists_ok_of_toOption
    (x := Sample.difference.compile Sample.target .literals) (f := Compiled.sql)
    (y := "SELECT -accounts.balance - -5, -(accounts.id - -7) FROM accounts") (by decide)
  refine ⟨hFree, c, hCompile, hText, ?_⟩
  rw [← infix_minus_iff "generic" Sample.target .literals Sample.difference c .standard hFree
    hCompile, hText]
  decide

/-- Minus signs need not stand apart: a negation of a negation begins a
comment. -/
theorem not_forall_minus_apart :
    ¬∀ (identity : String) (t : Target) (mode : ParameterMode) (s : Statement) (c : Compiled),
      Profile.Identified identity t.profile → s.MinusFree mode →
      (∀ sql, .expr (.raw sql) ∉ s.visits true) → s.compile t mode = .ok c →
      ¬['-', '-'] <:+: c.sql.toList := by
  intro hAll
  obtain ⟨c, hCompile, hText⟩ := exists_ok_of_toOption
    (x := Sample.twiceNegated.compile Sample.target .placeholders) (f := Compiled.sql)
    (y := "SELECT --accounts.balance FROM accounts") (by decide)
  have hRaw : ∀ sql, .expr (.raw sql) ∉ Sample.twiceNegated.visits true := by
    simp [Sample.twiceNegated, Sample.mem_visits_columns, exprsVisits, Expr.visits,
      ColumnSource.visits]
  refine hAll "generic" Sample.target .placeholders Sample.twiceNegated c .standard
    ⟨by decide, fun h => (by cases h), hRaw ""⟩ hRaw hCompile ?_
  rw [hText]
  decide

end Statement

end SqlStatements
