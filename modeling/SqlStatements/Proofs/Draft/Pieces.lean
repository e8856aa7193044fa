import Mathlib.Tactic.SplitIfs
import SqlStatements.Proofs.Draft.Faults
import SqlStatements.Proofs.Text.Lacks

/-! Drafts whose pieces are all of one kind. All that puts drafts together adds words of the
language and reasons to stop, and apart from these only what it is given: names, tables, operators
and functions. So a kind that has the words and the reasons passes from the parts of a draft to
the whole. The words in front of an order are set apart, because a kind may do without them. -/
namespace SqlStatements

open Text

namespace Text

/-- The words in front of the order of a query, or of a window. -/
def isOrder (x : String) : Bool := x = " ORDER BY " || x = "ORDER BY "

/-- A text with a character that is not in the words of an order is something
else. -/
theorem isOrder_of_mem {x : String} {c : Char} (h : c ∈ x.toList)
    (hc : c ∉ " ORDER BY ".toList) : isOrder x = false := by
  have hOther : ∀ {word : String}, word.toList ⊆ " ORDER BY ".toList → x ≠ word := by
    rintro word hWord rfl
    exact hc (hWord h)
  rw [isOrder, decide_eq_false (hOther (by decide)), decide_eq_false (hOther (by decide))]
  rfl

theorem isOrder_append_left {x y : String} {c : Char} (h : c ∈ x.toList)
    (hc : c ∉ " ORDER BY ".toList) : isOrder (x ++ y) = false :=
  isOrder_of_mem (by rw [String.toList_append]; exact List.mem_append_left _ h) hc

theorem isOrder_append_right {x y : String} {c : Char} (h : c ∈ y.toList)
    (hc : c ∉ " ORDER BY ".toList) : isOrder (x ++ y) = false :=
  isOrder_of_mem (by rw [String.toList_append]; exact List.mem_append_right _ h) hc

/-- A word of the language, other than those in front of an order. -/
def IsWord (x : String) : Prop := Plain x ∧ isOrder x = false

instance (x : String) : Decidable (IsWord x) := inferInstanceAs (Decidable (_ ∧ _))

/-- A number behind a word, or between two, is still a word, if the first one
has a letter that is in no word of an order. -/
theorem isWord_number (word after : String) {c : Char} (hWord : Plain word) (hAfter : Plain after)
    (hMem : c ∈ word.toList) (hc : c ∉ " ORDER BY ".toList) (n : Nat) :
    IsWord (word ++ n.repr ++ after) :=
  ⟨plain_append.mpr ⟨plain_append.mpr ⟨hWord, plain_nat n⟩, hAfter⟩, isOrder_append_left
    (by rw [String.toList_append]; exact List.mem_append_left _ hMem) hc⟩

end Text

/-- What follows an expression in an order is no further order, with any
direction and any place of missing values. -/
theorem OrderTerm.isWord_suffix (direction : Option Direction) (nulls : Option NullsPlace) :
    IsWord (suffix direction nulls) := by
  rcases direction with _ | _ | _ <;> rcases nulls with _ | _ | _ <;> decide

/-- A kind of pieces that has all words, except perhaps those in front of an
order, and all reasons for which a draft may stop. Nothing is asked about names,
tables and parameters. -/
structure Piece.Kind (K : Piece → Prop) : Prop where
  word : ∀ {x : String}, IsWord x → K (.text x)
  stop : ∀ {e : Error}, e.InDraft → K (.stop e)

def Draft.All (K : Piece → Prop) (d : Draft) : Prop := ∀ piece ∈ d, K piece

namespace Draft

variable {K : Piece → Prop} {d l r : Draft} {ds : List Draft}

@[simp] theorem all_nil : All K [] := List.forall_mem_nil _

@[simp] theorem all_append : All K (l ++ r) ↔ All K l ∧ All K r := List.forall_mem_append

@[simp] theorem all_cons {p : Piece} : All K (p :: d) ↔ K p ∧ All K d := List.forall_mem_cons

theorem all_join {separator : String} (hSeparator : K (.text separator))
    (h : ∀ d ∈ ds, All K d) : All K (join separator ds) := by
  induction ds with
  | nil => exact all_nil
  | cons d ds ih =>
      obtain ⟨hd, hds⟩ := List.forall_mem_cons.mp h
      cases ds with
      | nil => exact hd
      | cons d' ds => simpa [join, hSeparator] using ⟨hd, ih hds⟩

theorem all_clause {word : String} (hWord : K (.text word)) {o : Option Draft}
    (h : ∀ d ∈ o, All K d) : All K (clause word o) := by
  cases o with
  | none => exact all_nil
  | some d => simpa [clause, hWord] using h

/-- A column is a name, perhaps behind a qualifier and a point. -/
theorem all_column {ref : ColumnRef} (hPoint : K (.text ".")) (hName : K (.name ref.name))
    (hSource : ∀ source, ref.source = some source → All K source.draft) : All K ref.draft := by
  rw [ColumnRef.draft]
  split
  · rename_i source hSome
    simp [hSource source hSome, hPoint, hName]
  · simp [hName]

end Draft

namespace Piece.Kind

variable {K : Piece → Prop} {d l r : Draft} {ds : List Draft} {t : Target}

/-- A text that may fail to exist is of the kind if every text that can come out
of it is. -/
theorem ofExcept (hK : Kind K) {x : Except Error String} (hError : ErrorsInDraft x)
    (hText : ∀ s, x = .ok s → K (.text s)) : (Draft.ofExcept x).All K := by
  cases x with
  | error e => simpa [Draft.ofExcept] using hK.stop (hError e rfl)
  | ok s => simpa [Draft.ofExcept] using hText s rfl

variable (hK : Kind K)

include hK

theorem list (h : ∀ d ∈ ds, d.All K) : (Draft.join ", " ds).All K :=
  Draft.all_join (hK.word (by decide)) h

/-- The word is written only in front of something. -/
theorem listClause {word : String} (hWord : ds ≠ [] → K (.text word)) (h : ∀ d ∈ ds, d.All K) :
    (Draft.listClause word ds).All K := by
  rw [Draft.listClause]
  split
  · exact Draft.all_nil
  · rename_i hSome
    exact Draft.all_cons.mpr ⟨hWord fun hNone => hSome (List.isEmpty_iff.mpr hNone), hK.list h⟩

theorem names {idents : List String} (h : ∀ ident ∈ idents, K (.name ident)) :
    (Draft.names idents).All K :=
  hK.list (List.forall_mem_map.mpr fun ident hIdent => by simpa using h ident hIdent)

theorem parens {wanted : Bool} (h : d.All K) : (d.parens wanted).All K := by
  cases wanted <;> simp +decide [Draft.parens, h, hK.word]

section Operands

theorem operand {e : Expr} (h : d.All K) : (Draft.operand e d).All K := hK.parens h

theorem isNull {e : Expr} {negated : Bool} (h : d.All K) : (Draft.isNull e d negated).All K := by
  cases negated <;> simp +decide [Draft.isNull, hK.operand h, negation, hK.word]

/-- Operators are not words of the language, since a dialect may spell them in
its own way. So each has to be in the kind. -/
theorem binary {op : BinaryOp} (hOp : K (.text (" " ++ t.profile.operator op ++ " ")))
    {left right : Expr} (hl : l.All K) (hr : r.All K) :
    (Draft.binary t op left right l r).All K := by
  have hIn : ∀ negated, K (.text (" " ++ negation negated ++ "IN ")) := fun negated =>
    hK.word (by cases negated <;> decide)
  simp only [Draft.binary]
  split_ifs
  · exact hK.isNull hl
  · exact Draft.all_append.mpr ⟨hK.operand hl, Draft.all_cons.mpr ⟨hIn _, hr⟩⟩
  · exact Draft.all_append.mpr ⟨hK.operand hr, Draft.all_cons.mpr ⟨hIn _, hl⟩⟩
  · exact Draft.all_append.mpr ⟨hK.parens hl, Draft.all_cons.mpr ⟨hOp, hK.parens hr⟩⟩

theorem inList {e : Expr} {negated : Bool} (hd : d.All K) (h : ∀ d ∈ ds, d.All K) :
    (Draft.inList e d ds negated).All K := by
  rw [Draft.inList]
  split
  · cases negated <;> simp +decide [hK.word]
  · cases negated <;> simp +decide [hK.operand hd, hK.list h, negation, hK.word]

theorem inQuery {e : Expr} {negated : Bool} (hl : l.All K) (hr : r.All K) :
    (Draft.inQuery e l r negated).All K := by
  cases negated <;> simp +decide [Draft.inQuery, hK.operand hl, hr, negation, hK.word]

theorem between {e low high : Expr} {negated : Bool} (hd : d.All K) (hl : l.All K)
    (hr : r.All K) : (Draft.between e low high d l r negated).All K := by
  cases negated <;>
    simp +decide [Draft.between, hK.operand hd, hK.operand hl, hK.operand hr, negation, hK.word]

theorem existsIn {negated : Bool} (h : d.All K) :
    Draft.All K (.text (negation negated ++ "EXISTS (") :: (d ++ [.text ")"])) := by
  cases negated <;> simp +decide [h, negation, hK.word]

theorem group (h : d.All K) : Draft.All K (.text "(" :: (d ++ [.text ")"])) := by
  simp +decide [h, hK.word]

/-- The words of an order are needed only for a window that has one. -/
theorem window {orders : List Draft} (h : ∀ d ∈ ds, d.All K)
    (hOrder : orders ≠ [] → K (.text "ORDER BY ")) (hOrders : ∀ d ∈ orders, d.All K) :
    (Draft.window ds orders).All K := by
  refine Draft.all_join (hK.word (by decide)) fun d hd => ?_
  rcases List.mem_pair.mp (List.mem_of_mem_filter hd) with rfl | rfl
  · exact hK.listClause (fun _ => hK.word (by decide)) h
  · exact hK.listClause hOrder hOrders

/-- A function is written under its own name, under another one, or as a word
without arguments. -/
theorem call {name : String} {distinct : Bool}
    (hKeyword : ∀ word, t.profile.functions.lookup (Text.lower name) = some (.keyword word) →
      K (.text word))
    (hName : ∀ written, written = name ∨
      t.profile.functions.lookup (Text.lower name) = some (.rename written) →
      K (.text (written ++ "(" ++ if distinct then "DISTINCT " else "")))
    {w : Option Draft} (h : ∀ d ∈ ds, d.All K) (hw : ∀ d ∈ w, d.All K) :
    (Draft.call t name ds distinct w).All K := by
  have hOver : (Draft.overWindow t name w).All K := by
    cases w with
    | none => exact Draft.all_nil
    | some d =>
        rw [Draft.overWindow]
        split
        · simpa +decide [hK.word] using hw
        · simp [hK.stop]
  rw [Draft.call]
  split
  · rename_i word hWord
    exact Draft.all_cons.mpr ⟨hKeyword word hWord, Draft.all_nil⟩
  · refine Draft.all_cons.mpr ⟨hName _ ?_, Draft.all_append.mpr
      ⟨hK.list h, Draft.all_cons.mpr ⟨hK.word (by decide), hOver⟩⟩⟩
    split
    · rename_i other hOther
      exact .inr hOther
    · exact .inl rfl

end Operands

section Clauses

/-- The labels of headings have to be names of the kind; the word before a label
is one anyway. -/
theorem columns {hs : Except Error (List Heading)} (hError : ErrorsInDraft hs)
    (hLabels : ∀ headings, hs = .ok headings → ∀ heading ∈ headings, ∀ label,
      heading.label = some label → K (.name label)) (h : ∀ d ∈ ds, d.All K) :
    (Draft.columns hs ds).All K := by
  cases hs with
  | error e => simpa [Draft.columns] using hK.stop (hError e rfl)
  | ok headings =>
      refine hK.list fun d hd => ?_
      obtain ⟨i, hi, rfl⟩ := List.getElem_of_mem hd
      have hDraft := h _ (List.getElem_mem (List.lt_length_right_of_zipWith hi))
      have hLabel := hLabels _ rfl _ (List.getElem_mem (List.lt_length_left_of_zipWith hi))
      rw [List.getElem_zipWith, Heading.draft]
      split
      · rename_i label hSome
        simp +decide [hDraft, hLabel label hSome, hK.word]
      · exact hDraft

theorem limits (limit offset : Option UInt64) : (Draft.limits limit offset).All K := by
  have hLimit : ∀ n : Nat, K (.text (" LIMIT " ++ n.repr)) := fun n => by
    simpa using hK.word (isWord_number " LIMIT " "" (c := 'L') (by decide) (by decide) (by decide)
      (by decide) n)
  have hOffset : ∀ n : Nat, K (.text (" OFFSET " ++ n.repr)) := fun n => by
    simpa using hK.word (isWord_number " OFFSET " "" (c := 'F') (by decide) (by decide) (by decide)
      (by decide) n)
  cases limit <;> cases offset <;> simp [Draft.limits, hLimit, hOffset]

theorem top (limit : Option UInt64) : (Draft.top t limit).All K := by
  unfold Draft.top
  split
  · exact Draft.all_nil
  · exact Draft.all_cons.mpr ⟨hK.word (isWord_number _ _ (c := 'T') (by decide) (by decide)
      (by decide) (by decide) _), Draft.all_nil⟩
  · exact Draft.all_nil

/-- The words of an order are needed only where the order is kept and not
empty. -/
theorem order {sc : Scope} {limited : Bool}
    (hOrder : sc.keepsOrder t limited = true → ds ≠ [] → K (.text " ORDER BY "))
    (h : ∀ d ∈ ds, d.All K) : (Draft.order t sc limited ds).All K := by
  rw [Draft.order]
  split
  · rename_i hKept
    exact hK.listClause (hOrder hKept) h
  · exact Draft.all_nil

theorem withClause {ctes : List Cte} (h : ∀ d ∈ ds, d.All K) :
    (Draft.withClause t ctes ds).All K := by
  have hWord : IsWord (if (ctes.any (·.recursive)) && t.profile.recursiveWord
      then "WITH RECURSIVE " else "WITH ") := by
    split <;> decide
  rw [Draft.withClause]
  split
  · exact Draft.all_nil
  · refine Draft.all_cons.mpr ⟨hK.word hWord, Draft.all_append.mpr ⟨hK.list h, ?_⟩⟩
    simp +decide [hK.word]

theorem cte {name : String} {columns : List String} (hName : K (.name name))
    (hColumns : ∀ column ∈ columns, K (.name column)) (h : d.All K) :
    (Draft.cte name columns d).All K := by
  rw [Draft.cte]
  split <;> simp +decide [hName, hK.names hColumns, h, hK.word]

/-- A derived table is its query between parentheses, and its name. The word for
a lateral one belongs to the kind. -/
theorem derived {name : String} {lateral : Bool} (hName : K (.name name)) (h : d.All K) :
    (Draft.derived t name lateral d).All K := by
  have hWord : IsWord
      (if lateral = true ∧ t.caps.lateral = .keyword then "LATERAL (" else "(") := by
    split <;> decide
  rw [Draft.derived]
  split
  · simp [hK.stop]
  · simp +decide [hK.word hWord, h, hName, hK.word]

theorem sources {items : List FromItem} (h : ∀ d ∈ ds, d.All K) :
    (Draft.sources t items ds).All K := by
  induction items generalizing ds with
  | nil => simp [Draft.sources]
  | cons item items ih =>
      cases ds with
      | nil => simp [Draft.sources]
      | cons d ds =>
          obtain ⟨hd, hds⟩ := List.forall_mem_cons.mp h
          cases items with
          | nil => simpa [Draft.sources] using hd
          | cons other items =>
              have hNext : IsWord (if other.isLateral = true ∧ t.caps.lateral = .apply
                  then " CROSS APPLY " else ", ") := by
                split <;> decide
              rw [Draft.sources]
              simpa [hK.word hNext] using ⟨hd, ih hds⟩

/-- A join brings only words of its own, whether it is written as such, applied,
or refused. -/
theorem joined {kind : JoinKind} {right : FromItem} {condition : Option Draft} (hl : l.All K)
    (hr : r.All K) (hCondition : ∀ d ∈ condition, d.All K) :
    (Draft.joined t kind right l r condition).All K := by
  have hKind : IsWord (" " ++ kind.sql ++ " ") := by cases kind <;> decide
  have hOn := Draft.all_clause (hK.word (show IsWord " ON " by decide)) hCondition
  rw [Draft.joined]
  split
  · refine Draft.all_append.mpr ⟨hl, ?_⟩
    cases kind with
    | right | full => simp [Draft.apply, hK.stop]
    | inner | cross | left =>
        simp only [Draft.apply]
        split <;> simp +decide [hr, hK.stop, hK.word]
  · exact Draft.all_append.mpr ⟨hl, Draft.all_cons.mpr
      ⟨hK.word hKind, Draft.all_append.mpr ⟨hK.parens hr, hOn⟩⟩⟩

end Clauses

end Piece.Kind

end SqlStatements
