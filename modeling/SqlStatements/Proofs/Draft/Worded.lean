import SqlStatements.Proofs.Dialect.Words
import SqlStatements.Proofs.Draft.OwnPieces
import SqlStatements.Proofs.Draft.Strings

/-! What the parts of a statement write themselves. Their texts are words of the language,
literals, and strings of the tree, so of the signs that no word has they bring none but
those of the strings and of the literals. The sign of a negation is the exception. -/
namespace SqlStatements

open Text

/-- The texts of the piece keep to the words. -/
@[simp] def Piece.Worded (c : Char) (P : String → Prop) : Piece → Prop
  | .text x => P x
  | .name x => Lacks c x
  | .table t | .source t | .qualifier t => LackAll c t.titles
  | .param _ _ | .stop _ => True

/-- All pieces of the draft keep to the words. -/
abbrev Draft.Worded (c : Char) (P : String → Prop) (d : Draft) : Prop := d.All (Piece.Worded c P)

variable {c : Char} {P : String → Prop} {t : Target}

/-- The words of the language keep to any law, since none of them has the
sign. -/
theorem Text.Law.kind (law : Law c P) : Piece.Kind (Piece.Worded c P) where
  word hWord := law.plain hWord.1
  stop _ := trivial

namespace Draft

theorem titles_of_strings {table : Table} (h : LackAll c table.strings) :
    LackAll c table.titles := by
  simp only [Table.strings, lackAll_append] at h
  exact h.1.1

theorem worded_columnSource {source : ColumnSource} (h : LackAll c source.strings) :
    Worded c P source.draft := by
  cases source with
  | table ref =>
      cases ref with
      | plain x => simpa [ColumnSource.draft] using titles_of_strings h
      | aliased x name =>
          simp only [ColumnSource.strings, TableRef.strings, lackAll_cons] at h
          simpa [ColumnSource.draft] using h.1
  | derived name =>
      simp only [ColumnSource.strings, lackAll_cons] at h
      simpa [ColumnSource.draft] using h.1

theorem worded_tableRef (law : Law c P) {ref : TableRef} (h : LackAll c ref.strings) :
    Worded c P ref.draft := by
  cases ref with
  | plain x => simpa [TableRef.draft] using titles_of_strings h
  | aliased x name =>
      simp only [TableRef.strings, lackAll_cons] at h
      simp +decide [TableRef.draft, titles_of_strings h.2, h.1, law.plain]

end Draft

/-- What stands around the operand has the sign only if the name of the part of
the date has it. -/
theorem ExtractStyle.lacks_frame (hc : Sign c) (style : ExtractStyle) {field : String}
    (hField : Lacks c field) :
    Lacks c (style.frame field).1 ∧ Lacks c (style.frame field).2 := by
  have hWord : ∀ {x : String}, Plain x → Lacks c x := fun hx => hx.lacks hc
  have hLower := lacks_lower hc.alphanum hField
  cases style with
  | extractFrom => simp +decide [ExtractStyle.frame, hField, hWord]
  | datePart =>
      simp only [ExtractStyle.frame]
      split <;> simp_all +decide

/-- The name under which a function is written, its own or the one of the
dialect, lacks the sign if its own does. -/
theorem Draft.lacks_renamed (hp : t.profile.Worded c P) {name written : String}
    (hName : Lacks c name) (h : written = name ∨
      t.profile.functions.lookup (Text.lower name) = some (.rename written)) :
    Lacks c written := by
  rcases h with rfl | h
  · exact hName
  · exact hp.lacks_function h

section Headings

variable {rules : IdentifierRules} {star : Option ColumnSource → List Field} (hc : Sign c)

include hc

/-- A label is made from the name of its expression and a number, so it brings
no sign. A star has no label. -/
theorem Expr.lacks_heading {e : Expr} {taken : List String} {heading : Heading} {label : String}
    (h : e.heading rules star taken = .ok heading) (he : LackAll c e.strings)
    (hLabel : heading.label = some label) : Lacks c label := by
  unfold Expr.heading at h
  split at h
  · obtain ⟨names, _, h⟩ := exists_ok_of_bind_ok h
    cases h
    cases hLabel
  · split at h
    · cases h
      cases hLabel
    · rename_i base hBase
      obtain ⟨name, hFresh, h⟩ := exists_ok_of_bind_ok h
      cases h
      simp only [Option.ite_none_right_eq_some, Option.some.injEq] at hLabel
      rw [← hLabel.2]
      exact IdentifierRules.lacks_fresh hc hFresh (lacks_outputName he hBase)

theorem lacks_headings {es : List Expr} {taken : List String} {hs : List Heading}
    (h : headings rules star taken es = .ok hs) (hes : LackAll c (exprsStrings es)) :
    ∀ heading ∈ hs, ∀ label, heading.label = some label → Lacks c label := by
  induction es generalizing taken hs with
  | nil =>
      cases h
      simp
  | cons e es ih =>
      simp only [exprsStrings, lackAll_append] at hes
      obtain ⟨first, hFirst, h⟩ := exists_ok_of_bind_ok h
      obtain ⟨rest, hRest, h⟩ := exists_ok_of_bind_ok h
      cases h
      rw [List.forall_mem_cons]
      exact ⟨fun label hLabel => Expr.lacks_heading hc hFirst hes.1 hLabel, ih hRest hes.2⟩

end Headings

section Frames

variable (law : Law c P)

include law

/-- What an expression writes itself keeps to the words, unless it is a
negation. Its operands and queries are not looked at. -/
theorem Expr.own_worded (hp : t.profile.Worded c P) {e : Expr} (h : LackAll c e.strings)
    (hNegation : ∀ operand, e = .unary .neg operand → P "-") :
    e.OwnAll t (Piece.Worded c P) := by
  cases e with
  | literal v =>
      rw [strings] at h
      exact fun _ hText => law.literal hText h
  | column ref =>
      rw [strings] at h
      simp only [ColumnRef.strings, lackAll_cons, lackAll_flatMap] at h
      exact Draft.all_column (law.plain (by decide)) h.1 fun source hSource =>
        Draft.worded_columnSource (h.2 source (by simp [hSource]))
  | binary op l r => exact hp.operator op
  | unary op e =>
      cases op with
      | neg => exact hNegation e rfl
      | not | bitNot => exact law.plain (by decide)
  | call name args distinct w type =>
      rw [strings, lackAll_cons] at h
      have hDistinct : Plain (if distinct then "DISTINCT " else "") := by
        cases distinct <;> decide
      have hOpening : Plain "(" := by decide
      refine ⟨fun word hWord => law.lacks (hp.lacks_function hWord), fun written hWritten => ?_,
        fun _ _ _ => law.plain (by decide)⟩
      exact law.lacks (lacks_append.mpr ⟨lacks_append.mpr ⟨Draft.lacks_renamed hp h.1 hWritten,
        hOpening.lacks law.sign⟩, hDistinct.lacks law.sign⟩)
  | cast e type =>
      rw [strings, lackAll_append] at h
      exact law.between (by decide) (hp.lacks_typeName law h.2) (by decide)
  | extract field e =>
      rw [strings, lackAll_cons] at h
      have hFrame := t.profile.extract.lacks_frame law.sign h.1
      exact ⟨law.lacks hFrame.1, law.lacks hFrame.2⟩
  | star source =>
      cases source with
      | none => trivial
      | some source =>
          simp only [strings, Option.toList_some, List.flatMap_singleton] at h
          exact Draft.worded_columnSource h
  | raw sql =>
      simp only [strings, lackAll_cons] at h
      exact law.lacks h.1
  | param | caseOf | isNull | inList | inQuery | between | existsIn | scalar | label | tuple =>
      trivial

/-- The names that an item writes itself are among its strings. Tables in it are
written by their own names. -/
theorem FromItem.own_worded {item : FromItem} (h : LackAll c item.strings) :
    item.OwnAll (Piece.Worded c P) := by
  cases item with
  | table ref =>
      rw [strings] at h
      exact Draft.worded_tableRef law h
  | derived q name lateral =>
      rw [strings, lackAll_cons] at h
      exact h.1
  | join kind l r condition => trivial
  | cte name =>
      rw [strings, lackAll_cons] at h
      exact h.1

/-- The names that a query writes itself are among its strings, or are numbered
ones that it makes up for its members. -/
theorem Query.own_worded {q : Query} {sc : Scope} {outermost : Bool} (h : LackAll c q.strings) :
    q.OwnAll t (Piece.Worded c P) sc outermost := by
  cases q with
  | select s =>
      rw [strings] at h
      obtain ⟨hCtes, hColumns, -⟩ := Select.lackAll_strings.mp h
      exact fun _ => ⟨fun x hx => ⟨(hCtes x hx).1, (hCtes x hx).2.1⟩,
        fun _ hHeadings => lacks_headings law.sign hHeadings (lackAll_exprs.mpr hColumns),
        fun _ _ => law.plain (by decide)⟩
  | compound op members orderBy limit offset =>
      have hName : ∀ number : Nat, Plain ("anon_" ++ toString number) := by simp +decide
      exact ⟨fun number => (hName number).lacks law.sign, fun _ _ => law.plain (by decide)⟩

/-- What a part writes itself keeps to the words, unless it is a negation. -/
theorem Node.frame_worded (hp : t.profile.Worded c P) {n : Node} (h : LackAll c n.strings)
    (hNegation : ∀ sc operand, n = .expr sc (.unary .neg operand) → P "-") :
    (n.frame t).Worded c P := by
  refine Node.all_frame law.kind ?_
  cases n with
  | expr sc e =>
      exact Expr.own_worded law hp h fun operand he => hNegation sc operand (by rw [he])
  | item sc source => exact FromItem.own_worded law h
  | query sc outermost q => exact Query.own_worded law h

end Frames

end SqlStatements
