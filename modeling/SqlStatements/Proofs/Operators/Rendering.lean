import SqlStatements.Draft.Query
import SqlStatements.Proofs.Ledger.Spells
import SqlStatements.Proofs.Operators.Lexer
import SqlStatements.Proofs.Operators.Parentheses
import SqlStatements.Proofs.Operators.Reader

/-! Formulas in the text of a statement. Written out for standard SQL, a formula is
a text that the grammar reads in one way only, and this is the formula itself with
its chains grouped from the left. -/
namespace SqlStatements

namespace Draft

/-- The draft is written out as a text with the given tokens. -/
def Shows (st : Setting) (d : Draft) (ts : List Token) : Prop :=
  ∃ cs, Spells st d cs ∧ Lexer.lex cs = ts

variable {st : Setting} {d e : Draft} {cs ds : List Char} {ts us : List Token}

/-- Tokens are kept apart from a text behind them that begins with a
separator. -/
theorem Shows.behind (h : Shows st d ts) {w : String}
    (hHead : w.toList.head?.any Lexer.separates = true) :
    Shows st (d ++ [.text w]) (ts ++ Lexer.lex w.toList) := by
  obtain ⟨cs, hSpells, rfl⟩ := h
  exact ⟨_, hSpells.append (spells_text w), Lexer.lex_append_of_head hHead cs⟩

/-- Tokens are kept apart from a draft in front of them that ends with a
separator. -/
theorem Shows.before {w : String} (h : Shows st e us)
    (hLast : w.toList.getLast?.any Lexer.separates = true) :
    Shows st (.text w :: e) (Lexer.lex w.toList ++ us) := by
  obtain ⟨cs, hSpells, rfl⟩ := h
  exact ⟨_, (spells_text w).append hSpells, Lexer.lex_append_of_last hLast cs⟩

/-- A text that begins and ends with a separator keeps its two sides apart. -/
theorem Shows.around (hd : Shows st d ts) (he : Shows st e us) {w : String}
    (hHead : w.toList.head?.any Lexer.separates = true)
    (hLast : w.toList.getLast?.any Lexer.separates = true) :
    Shows st (d ++ .text w :: e) (ts ++ (Lexer.lex w.toList ++ us)) := by
  obtain ⟨cs, hSpells, rfl⟩ := hd
  obtain ⟨ds, hSpells', rfl⟩ := he
  refine ⟨_, hSpells.append ((spells_text w).append hSpells'), ?_⟩
  have hHead' : (w.toList ++ ds).head?.any Lexer.separates = true := by
    cases hChars : w.toList with
    | nil =>
        rw [hChars] at hHead
        cases hHead
    | cons c rest =>
        rw [hChars] at hHead
        exact hHead
  rw [Lexer.lex_append_of_head hHead', Lexer.lex_append_of_last hLast]

/-- Parentheses in the draft are parentheses among the tokens. -/
theorem Shows.parens (h : Shows st d ts) (wanted : Bool) :
    Shows st (d.parens wanted) (Formula.parens wanted ts) := by
  cases wanted with
  | false => exact h
  | true =>
      have hClosed := h.behind (w := ")") (by decide +kernel)
      exact hClosed.before (w := "(") (by decide +kernel)

end Draft

namespace Formula

variable (caps : Capabilities) (pager : Pager) (sc : Scope)

theorem isNullLiteral_expr (f : Formula PlainColumn) : f.expr.isNullLiteral = false := by
  cases f <;> rfl

theorem isScalar_expr (f : Formula PlainColumn) : f.expr.isScalar = false := by
  cases f <;> rfl

/-- Between formulas an operator is always written as such. Neither missing
values nor queries occur in them. -/
theorem draft_binary (op : BinaryOp) (l r : Formula PlainColumn) :
    (Formula.binary op l r).expr.draft ⟨.standard, caps⟩ pager sc =
      (l.expr.draft ⟨.standard, caps⟩ pager sc).parens (l.expr.needsParens op) ++
        .text (" " ++ op.token ++ " ") ::
          (r.expr.draft ⟨.standard, caps⟩ pager sc).parens (r.expr.needsParens op) := by
  rw [expr, Expr.draft, Draft.binary]
  simp only [isNullLiteral_expr, isScalar_expr, Bool.false_eq_true, and_false, if_false]
  rfl

variable {st : Setting} {d e h : Draft} {ts us vs : List Token}

/-- An operator stands between blanks, so its tokens do not run into those of
the operands. -/
theorem shows_operator (op : BinaryOp) (hd : d.Shows st ts) (he : e.Shows st us) :
    Draft.Shows st (d ++ .text (" " ++ op.token ++ " ") :: e) (ts ++ (op.tokens ++ us)) := by
  have hLex : Lexer.lex (" " ++ op.token ++ " ").toList = op.tokens := by
    cases op <;> decide +kernel
  rw [← hLex]
  exact hd.around he (by cases op <;> decide +kernel) (by cases op <;> decide +kernel)

theorem shows_unary (op : UnaryOp) (he : e.Shows st us) :
    Draft.Shows st (.text op.token :: e) (op.sign :: us) := by
  have hLex : Lexer.lex op.token.toList = [op.sign] := by cases op <;> decide +kernel
  have hShows := he.before (w := op.token) (by cases op <;> decide +kernel)
  rw [hLex] at hShows
  exact hShows

theorem shows_isNull (negated : Bool) (hd : d.Shows st ts) :
    Draft.Shows st (d ++ [.text (" IS " ++ negation negated ++ "NULL")])
      (ts ++ (Suffix.isNull negated).tokens) := by
  have hLex : Lexer.lex (" IS " ++ negation negated ++ "NULL").toList =
      (Suffix.isNull negated).tokens := by
    cases negated <;> decide +kernel
  rw [← hLex]
  exact hd.behind (by cases negated <;> decide +kernel)

/-- The words of a list and its opening parenthesis are one piece of the draft,
but tokens of their own. -/
theorem shows_inList (negated : Bool) (hd : d.Shows st ts) (he : e.Shows st us) :
    Draft.Shows st (d ++ .text (" " ++ negation negated ++ "IN (") :: (e ++ [.text ")"]))
      (ts ++ ((Suffix.inList negated).tokens ++ (us ++ [.sign ")"]))) := by
  have hLex : Lexer.lex (" " ++ negation negated ++ "IN (").toList =
      (Suffix.inList negated).tokens := by
    cases negated <;> decide +kernel
  rw [← hLex]
  exact hd.around (he.behind (w := ")") (by decide +kernel)) (by cases negated <;> decide +kernel)
    (by cases negated <;> decide +kernel)

theorem shows_between (negated : Bool) (hd : d.Shows st ts) (he : e.Shows st us)
    (hh : h.Shows st vs) :
    Draft.Shows st (d ++ .text (" " ++ negation negated ++ "BETWEEN ") :: (e ++ .text " AND " :: h))
      (ts ++ ((Suffix.between negated).tokens ++ (us ++ .keyword "AND" :: vs))) := by
  have hLex : Lexer.lex (" " ++ negation negated ++ "BETWEEN ").toList =
      (Suffix.between negated).tokens := by
    cases negated <;> decide +kernel
  rw [← hLex]
  exact hd.around (he.around hh (w := " AND ") (by decide +kernel) (by decide +kernel))
    (by cases negated <;> decide +kernel) (by cases negated <;> decide +kernel)

/-- A plain column is written as its name. -/
theorem shows_leaf (c : PlainColumn) (hTarget : st.target = ⟨.standard, caps⟩) :
    Draft.Shows st [.name c.name] [.name c.name] := by
  have hQuote : st.target.rules.quote c.name = c.name := by
    rw [hTarget]
    exact if_neg (by rw [Bool.not_eq_true]; exact c.plain)
  refine ⟨c.name.toList, ?_, Lexer.lex_name (Profile.standard.rules {}) rfl c.plain⟩
  intro L
  refine ⟨[c.name], Ledger.write_cons_ok (M := L) ?_ rfl, by simp [String.join]⟩
  rw [Ledger.writePiece, hQuote]

/-- Members of a list are written with commas between them. -/
theorem shows_members {first : Formula PlainColumn} {rest : List (Formula PlainColumn)}
    (hFirst : (first.expr.draft ⟨.standard, caps⟩ pager sc).Shows st first.tokens)
    (hRest : ∀ f ∈ rest, (f.expr.draft ⟨.standard, caps⟩ pager sc).Shows st f.tokens) :
    (Draft.join ", " (exprDrafts ⟨.standard, caps⟩ pager sc (first.expr :: exprs rest))).Shows st
      (first.tokens ++ memberTokens rest) := by
  induction rest generalizing first with
  | nil => simpa [exprs, exprDrafts, Draft.join, memberTokens] using hFirst
  | cons f rest ih =>
      have hMore := ih (hRest f (List.mem_cons_self ..))
        fun g hg => hRest g (List.mem_cons_of_mem _ hg)
      exact hFirst.around hMore (w := ", ") (by decide +kernel) (by decide +kernel)

/-- A formula is written out as a text that has its tokens, for standard SQL and
with any capabilities. -/
theorem shows_expr (st : Setting) (hTarget : st.target = ⟨.standard, caps⟩)
    (f : Formula PlainColumn) :
    (f.expr.draft ⟨.standard, caps⟩ pager sc).Shows st f.tokens := by
  induction f with
  | leaf c => exact shows_leaf caps c hTarget
  | binary op l r ihLeft ihRight =>
      rw [draft_binary, tokens]
      exact shows_operator op (ihLeft.parens _) (ihRight.parens _)
  | unary op f ih =>
      rw [expr, Expr.draft, tokens]
      exact shows_unary op (ih.parens _)
  | isNull f negated ih =>
      rw [expr, Expr.draft, tokens]
      exact shows_isNull negated (ih.parens _)
  | inList f first rest negated ih ihFirst ihRest =>
      rw [expr, Expr.draft, tokens, ← List.append_assoc first.tokens]
      exact shows_inList negated (ih.parens _) (shows_members caps pager sc ihFirst ihRest)
  | between f low high negated ih ihLow ihHigh =>
      rw [expr, Expr.draft, tokens]
      exact shows_between negated (ih.parens _) (ihLow.parens _) (ihHigh.parens _)

/-- The grammar reads the tokens of a formula in one way only. -/
theorem derives_tokens_iff (f : Formula PlainColumn) (g : Formula String) :
    Derives 1 f.tokens g ↔ g = f.names.leftward := by
  have hOwn := derives_of_le_rank f.reads.own f.rank_bounds.1
  constructor
  · intro h
    exact h.unique hOwn
  · rintro rfl
    exact hOwn

/-- Formulas with the same tokens differ only in how their chains are grouped.
Operators whose grouping matters are told apart by their parentheses. -/
theorem regrouped_of_tokens_eq {f g : Formula PlainColumn} (h : f.tokens = g.tokens) :
    Regrouped f.names g.names := by
  have hSame : f.names.leftward = g.names.leftward := by
    rw [← derives_tokens_iff, ← h, derives_tokens_iff]
  refine (Regrouped.leftward f.names).trans ?_
  rw [hSame]
  exact (Regrouped.leftward g.names).symm

/-- A formula in standard SQL, wherever it stands, is written as a text that the
grammar reads in exactly one way: as the formula itself, over the names of its
columns and with chains of one operator grouped from the left. Another formula
with the same text differs from it only in how such chains are grouped. -/
theorem derives_rendering_iff (caps : Capabilities) (mode : ParameterMode)
    (reserved : List String) (changed : Option TableKey) (pager : Pager) (sc : Scope) (L : Ledger)
    (f : Formula PlainColumn) :
    ∃ texts, L.write ⟨⟨.standard, caps⟩, mode, reserved, changed⟩
        (f.expr.draft ⟨.standard, caps⟩ pager sc) = .ok (texts, L) ∧
      (∀ g, Derives 1 (Lexer.lex (String.join texts).toList) g ↔ g = f.names.leftward) ∧
      Regrouped f.names f.names.leftward ∧
      ∀ (other : Formula PlainColumn) (texts' : List String),
        L.write ⟨⟨.standard, caps⟩, mode, reserved, changed⟩
          (other.expr.draft ⟨.standard, caps⟩ pager sc) = .ok (texts', L) →
        String.join texts' = String.join texts → Regrouped f.names other.names := by
  obtain ⟨cs, hSpells, hLex⟩ :=
    shows_expr caps pager sc ⟨⟨.standard, caps⟩, mode, reserved, changed⟩ rfl f
  obtain ⟨texts, hWrite, hText⟩ := hSpells L
  rw [← hText] at hLex
  refine ⟨texts, hWrite, ?_, .leftward _, ?_⟩
  · intro g
    rw [hLex]
    exact derives_tokens_iff f g
  · intro other texts' hWrite' hSame
    obtain ⟨cs', hSpells', hLex'⟩ :=
      shows_expr caps pager sc ⟨⟨.standard, caps⟩, mode, reserved, changed⟩ rfl other
    obtain ⟨texts'', hWrite'', hText'⟩ := hSpells' L
    cases hWrite'.symm.trans hWrite''
    rw [← hText', hSame, hLex] at hLex'
    exact regrouped_of_tokens_eq hLex'

end Formula

namespace Sample

def columnA : PlainColumn := ⟨"a", .of .integer, by decide +kernel⟩

def columnB : PlainColumn := ⟨"b", .of .integer, by decide +kernel⟩

/-- A chain that is grouped from the right, below a sign and next to a
negation. -/
def formula : Formula PlainColumn :=
  .binary .or
    (.unary .not (.inList (.leaf columnA) (.leaf columnB)
      [.unary .neg (.unary .neg (.leaf columnA))] true))
    (.between (.binary .add (.leaf columnA) (.binary .add (.leaf columnB) (.leaf columnA)))
      (.leaf columnB) (.unary .neg (.binary .sub (.leaf columnA) (.leaf columnB))) false)

end Sample

/-- The two signs in a row are two tokens, so the grammar reads them although a
server would see a comment. -/
theorem Formula.derives_rendering_iff_sample :
    ∀ g, Derives 1
      (Lexer.lex "NOT (a NOT IN (b, --a)) OR a + b + a BETWEEN b AND -(a - b)".toList) g ↔
      g = .binary .or
        (.unary .not (.inList (.leaf "a") (.leaf "b") [.unary .neg (.unary .neg (.leaf "a"))] true))
        (.between (.binary .add (.binary .add (.leaf "a") (.leaf "b")) (.leaf "a")) (.leaf "b")
          (.unary .neg (.binary .sub (.leaf "a") (.leaf "b"))) false) := by
  obtain ⟨texts, hWrite, hReads, _, _⟩ := Formula.derives_rendering_iff {} .placeholders [] none
    (pager ⟨.standard, {}⟩ 0) .outermost {} Sample.formula
  obtain ⟨r, hWrite', hText⟩ := exists_ok_of_toOption
    (x := Ledger.write ⟨⟨.standard, {}⟩, .placeholders, [], none⟩ {}
      (Sample.formula.expr.draft ⟨.standard, {}⟩ (pager ⟨.standard, {}⟩ 0) .outermost))
    (f := fun r => String.join r.1)
    (y := "NOT (a NOT IN (b, --a)) OR a + b + a BETWEEN b AND -(a - b)") (by decide +kernel)
  cases hWrite.symm.trans hWrite'
  rw [hText] at hReads
  exact hReads

end SqlStatements
