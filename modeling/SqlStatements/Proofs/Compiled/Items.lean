import Mathlib.Data.List.Forall2
import SqlStatements.Compiled.Compile
import SqlStatements.Proofs.Draft.HeadingNames

/-! The items of a list that yields columns, be it that of a SELECT or what a change of rows
hands back: the text of each, and the columns that it contributes to a row. -/
namespace SqlStatements

/-- A part of a draft is written out as the given text at its place, after what
has been decided by all that stands before it. -/
def Draft.WrittenIn (st : Setting) (whole part : Draft) (text : String) : Prop :=
  ∃ before after first L texts L', whole = before ++ part ++ after ∧
    Ledger.write st {} before = .ok (first, L) ∧ L.write st part = .ok (texts, L') ∧
    String.join texts = text

/-- What an item offers to a row if bare stars stand for the columns of the
given tables: for each column its type, and its name where it has one. -/
def Expr.offers (tables : List TableRef) : Expr → List (Option String × SqlType)
  | .star none => (tables.flatMap (·.table.fields)).map fun field => (some field.1, field.2)
  | .star (some (.table ref)) => ref.table.fields.map fun field => (some field.1, field.2)
  | .star (some (.derived _)) => []
  | e => [(e.outputName?, e.type)]

/-- A column of a row that shows what is offered: it is of that type and
converted as such, and it goes by that name, up to a number that tells it from
others and the limit of names. -/
structure ResultColumn.Shows (t : Target) (offer : Option String × SqlType) (c : ResultColumn) :
    Prop where
  type : c.type = offer.2
  conversion : c.conversion = t.profile.resultConversion t.caps offer.2
  unnamed : offer.1 = none → c.name = none
  named : ∀ base, offer.1 = some base →
    ∃ i, c.name = some (t.rules.truncate (numbered base i))

/-- What becomes of an item: it is written as it is or under a label, and each
column it offers is one of the row. An item with a name goes by just that name:
it is its label, or the item is a column of that name. -/
structure Expr.Exposes (t : Target) (written : Expr → String → Prop) (tables : List TableRef)
    (e : Expr) (item : String × List ResultColumn) : Prop where
  columns : List.Forall₂ (ResultColumn.Shows t) (e.offers tables) item.2
  text : ∃ own, written e own ∧ (item.1 = own ∨
    ∃ name, item.2.map (·.name) = [some name] ∧ item.1 = own ++ " AS " ++ t.rules.quote name)
  named : (∀ source, e ≠ .star source) → ∀ c ∈ item.2, ∀ name, c.name = some name →
    (∃ own, written e own ∧ item.1 = own ++ " AS " ++ t.rules.quote name) ∨
    ∃ ref qualifier, e = .column ref ∧ ref.name = name ∧
      item.1 = qualifier ++ t.rules.quote name ∧ (ref.source = none → qualifier = "")

section Texts

variable {st : Setting} {L L' : Ledger} {whole before after : Draft} {first texts : List String}

/-- A list is written item by item. Each text is that of its item at its place,
after all that stands before it. -/
theorem Ledger.exists_write_join {separator : String} {ds : List Draft}
    (hWhole : whole = before ++ Draft.join separator ds ++ after)
    (hBefore : Ledger.write st {} before = .ok (first, L))
    (h : L.write st (Draft.join separator ds) = .ok (texts, L')) :
    ∃ parts, String.join texts = Text.join separator parts ∧
      List.Forall₂ (Draft.WrittenIn st whole) ds parts := by
  induction ds generalizing before first L texts with
  | nil =>
      cases h
      exact ⟨[], rfl, .nil⟩
  | cons d ds ih =>
      cases ds with
      | nil =>
          refine ⟨[String.join texts], rfl, .cons ?_ .nil⟩
          exact ⟨before, after, first, L, texts, L', hWhole, hBefore, h, rfl⟩
      | cons next ds =>
          obtain ⟨xs, ys, M, hFirst, hRest, rfl⟩ := exists_write_append h
          obtain ⟨text, N, rest, hText, hRest, rfl⟩ := write_cons hRest
          cases hText
          have hNext : Ledger.write st {} (before ++ d ++ [.text separator]) =
              .ok (first ++ xs ++ [separator], M) :=
            write_append (write_append hBefore hFirst) rfl
          obtain ⟨parts, hParts, hEach⟩ := ih (by simp [hWhole, Draft.join]) hNext hRest
          refine ⟨String.join xs :: parts, ?_, .cons ?_ hEach⟩
          · cases hEach with
            | cons hNext hLater =>
                rw [String.join_append, String.join_cons, hParts, Text.join, String.append_assoc]
          · refine ⟨before, .text separator :: (Draft.join separator (next :: ds) ++ after), first,
              L, xs, M, ?_, hBefore, hFirst, rfl⟩
            simp [hWhole, Draft.join]

/-- A column is written as its name, behind its qualifier. Without a qualifier
the name stands alone. -/
theorem ColumnRef.written {ref : ColumnRef} {text : String}
    (h : Draft.WrittenIn st whole ref.draft text) :
    ∃ qualifier, text = qualifier ++ st.target.rules.quote ref.name ∧
      (ref.source = none → qualifier = "") := by
  obtain ⟨-, -, -, L, texts, L', -, -, hWrite, rfl⟩ := h
  rw [ColumnRef.draft] at hWrite
  split at hWrite
  · rename_i source hSource
    obtain ⟨xs, ys, M, hFirst, hRest, rfl⟩ := Ledger.exists_write_append hWrite
    cases hRest
    refine ⟨String.join xs ++ ".", ?_, ?_⟩
    · simp [String.join_append, String.append_assoc]
    · intro hNone
      rw [hSource] at hNone
      cases hNone
  · cases hWrite
    exact ⟨"", by simp, fun _ => rfl⟩

end Texts

section Columns

variable {t : Target}

/-- A name that is free is that of the column, up to a number and the limit.
Each base has one, in the order of the bases. -/
theorem IdentifierRules.freshAll_numbered {rules : IdentifierRules}
    {taken bases names : List String} (h : rules.freshAll taken bases = .ok names) :
    List.Forall₂ (fun base name => ∃ i, name = rules.truncate (numbered base i)) bases names := by
  induction bases generalizing taken names with
  | nil =>
      cases h
      exact .nil
  | cons base bases ih =>
      obtain ⟨name, hName, h⟩ := exists_ok_of_bind_ok h
      obtain ⟨rest, hRest, h⟩ := exists_ok_of_bind_ok h
      cases h
      obtain ⟨i, hNumbered, -⟩ := exists_of_fresh hName
      exact .cons ⟨0 + i, hNumbered⟩ (ih hRest)

/-- A column without a name shows its type alone; nothing is said about the name
that it goes by. -/
theorem OutputField.shows_unnamed (position : Nat) (type : SqlType) :
    ((OutputField.mk none type).column t position).Shows t (none, type) :=
  ⟨rfl, rfl, fun _ => rfl, nofun⟩

/-- A column shows its name if it goes by a numbered form of it that has been
cut to the limit. -/
theorem OutputField.shows_named {base name : String} {i : Nat}
    (h : name = t.rules.truncate (numbered base i)) (position : Nat) (type : SqlType) :
    ((OutputField.mk (some name) type).column t position).Shows t (some base, type) := by
  refine ⟨rfl, rfl, nofun, ?_⟩
  rintro _ ⟨⟩
  exact ⟨i, congrArg some h⟩

/-- The columns of a row go by the names that were given to them. Columns
without a name are passed over. -/
theorem names_columns (t : Target) (recorded : Nat) (hs : List Heading) :
    (resultColumns t recorded (hs.flatMap (·.fields))).filterMap (·.name) =
      hs.flatMap Heading.names := by
  have hNames := map_resultColumns (t := t) (·.name) (fun _ _ => rfl) recorded
    (hs.flatMap (·.fields))
  replace hNames := congrArg (List.filterMap id) hNames
  rw [List.filterMap_map, List.filterMap_map, List.filterMap_flatMap] at hNames
  exact hNames

/-- The columns that a star stands for show the fields it is made from. -/
theorem shows_zipWith {recorded : Nat} {fields : List Field} {names : List String}
    (h : List.Forall₂ (fun base name => ∃ i, name = t.rules.truncate (numbered base i))
      (fields.map (·.1)) names) :
    List.Forall₂ (ResultColumn.Shows t) (fields.map fun field => (some field.1, field.2))
      (resultColumns t recorded
        (List.zipWith (fun name field => OutputField.mk (some name) field.2) names fields)) := by
  induction fields generalizing names recorded with
  | nil =>
      cases h
      exact .nil
  | cons field fields ih =>
      cases h with
      | cons hFirst hRest =>
          obtain ⟨i, hName⟩ := hFirst
          rw [List.zipWith_cons_cons, resultColumns_cons]
          exact .cons (OutputField.shows_named hName recorded field.2) (ih hRest)

end Columns

section Headings

variable {t : Target} {st : Setting} {whole : Draft} {pager : Pager} {sc : Scope}
  {tables : List TableRef}
  {star : Option ColumnSource → List Field} {taken : List String}

/-- A draft under a label is written with the label behind it, quoted as a
name. -/
theorem Heading.written {label : String} {fields : List OutputField} {d : Draft} {text : String}
    (h : Draft.WrittenIn st whole ((Heading.mk (some label) fields).draft d) text) :
    ∃ own, Draft.WrittenIn st whole d own ∧
      text = own ++ " AS " ++ st.target.rules.quote label := by
  obtain ⟨before, after, first, L, texts, L', hWhole, hBefore, hWrite, rfl⟩ := h
  obtain ⟨xs, ys, M, hFirst, hRest, rfl⟩ := Ledger.exists_write_append hWrite
  cases hRest
  refine ⟨String.join xs, ⟨before, [.text " AS ", .name label] ++ after, first, L, xs, _, ?_,
    hBefore, hFirst, rfl⟩, ?_⟩
  · simp [hWhole, Heading.draft]
  · simp [String.join_append, String.append_assoc]

/-- The stars among the items stand for the columns of the given tables. -/
def StarsOver (star : Option ColumnSource → List Field) (tables : List TableRef)
    (es : List Expr) : Prop :=
  ∀ source, .star source ∈ es →
    (star source).map (fun field => (some field.1, field.2)) = (Expr.star source).offers tables

/-- An item with a name is labelled with the name it is given, unless it is a
column of that name. -/
theorem Expr.heading_label {e : Expr} {base : String} (hBase : e.outputName? = some base)
    {heading : Heading} (h : e.heading t.rules star taken = .ok heading) :
    ∃ i name, name = t.rules.truncate (numbered base i) ∧
      heading.fields = [⟨some name, e.type⟩] ∧
      (heading.label = some name ∨
        heading.label = none ∧ ∃ ref, e = .column ref ∧ ref.name = name) := by
  cases e with
  | column ref =>
      cases hBase
      obtain ⟨name, hName, h⟩ := exists_ok_of_bind_ok h
      cases h
      obtain ⟨i, hNumbered, -⟩ := IdentifierRules.exists_of_fresh hName
      refine ⟨0 + i, name, hNumbered, rfl, ?_⟩
      by_cases hOwn : name = ref.name
      · exact .inr ⟨if_neg (by simpa [Expr.isLabel] using hOwn), ref, rfl, hOwn.symm⟩
      · exact .inl (if_pos (.inr hOwn))
  | label operand own =>
      cases hBase
      obtain ⟨name, hName, h⟩ := exists_ok_of_bind_ok h
      cases h
      obtain ⟨i, hNumbered, -⟩ := IdentifierRules.exists_of_fresh hName
      exact ⟨0 + i, name, hNumbered, rfl, .inl rfl⟩
  | _ => cases hBase

/-- An expression with a name offers exactly one column. It is no star, so the
tables do not matter. -/
theorem Expr.offers_of_named {e : Expr} {base : String} (hBase : e.outputName? = some base) :
    e.offers tables = [(some base, e.type)] := by
  cases e with
  | column | label =>
      cases hBase
      rfl
  | _ => cases hBase

/-- An item under its heading: it is written as it is or with the label, and its
columns are those that it offers. -/
theorem Expr.exposes_of_heading (hTarget : st.target = t) {e : Expr}
    (hStar : StarsOver star tables [e]) {heading : Heading} {text : String} (recorded : Nat)
    (h : e.heading t.rules star taken = .ok heading)
    (hText : Draft.WrittenIn st whole (heading.draft (e.draft t pager sc)) text) :
    e.Exposes t (fun e => Draft.WrittenIn st whole (e.draft t pager sc)) tables
      (text, resultColumns t recorded heading.fields) := by
  cases hBase : e.outputName? with
  | some base =>
      obtain ⟨label, fields⟩ := heading
      obtain ⟨i, name, hNumbered, rfl, hLabel⟩ := heading_label hBase h
      have hColumns : List.Forall₂ (ResultColumn.Shows t) (e.offers tables)
          [(OutputField.mk (some name) e.type).column t recorded] := by
        rw [offers_of_named hBase]
        exact .cons (OutputField.shows_named hNumbered recorded e.type) .nil
      rcases hLabel with rfl | ⟨rfl, ref, rfl, hName⟩
      · obtain ⟨own, hOwn, rfl⟩ := Heading.written hText
        rw [hTarget]
        refine ⟨hColumns, ⟨own, hOwn, .inr ⟨name, rfl, rfl⟩⟩, ?_⟩
        intro _ c hc other hOther
        cases List.mem_singleton.mp hc
        cases hOther
        exact .inl ⟨own, hOwn, rfl⟩
      · refine ⟨hColumns, ⟨text, hText, .inl rfl⟩, ?_⟩
        intro _ c hc other hOther
        cases List.mem_singleton.mp hc
        cases hOther
        obtain ⟨qualifier, hQualifier, hBare⟩ := ColumnRef.written hText
        rw [hTarget, hName] at hQualifier
        exact .inr ⟨ref, qualifier, rfl, hName, hQualifier, hBare⟩
  | none =>
      cases e with
      | star source =>
          obtain ⟨names, hNames, h⟩ := exists_ok_of_bind_ok h
          cases h
          refine ⟨?_, ⟨text, hText, .inl rfl⟩, fun hOther => absurd rfl (hOther source)⟩
          rw [← hStar source (List.mem_singleton_self _)]
          exact shows_zipWith (IdentifierRules.freshAll_numbered hNames)
      | column | label => cases hBase
      | _ =>
          cases h
          refine ⟨.cons (OutputField.shows_unnamed recorded _) .nil, ⟨text, hText, .inl rfl⟩, ?_⟩
          intro _ c hc name hName
          cases List.mem_singleton.mp hc
          cases hName

/-- Items under their headings, one after the other. Their columns follow each
other in the row as the items do in the text. -/
theorem exposes_of_headings (hTarget : st.target = t) {es : List Expr} {hs : List Heading}
    {parts : List String} (recorded : Nat) (hStar : StarsOver star tables es)
    (h : headings t.rules star taken es = .ok hs)
    (hParts : List.Forall₂ (Draft.WrittenIn st whole)
      (List.zipWith Heading.draft hs (exprDrafts t pager sc es)) parts) :
    ∃ items, items.map (·.1) = parts ∧
      items.flatMap (·.2) = resultColumns t recorded (hs.flatMap (·.fields)) ∧
      List.Forall₂ (Expr.Exposes t (fun e => Draft.WrittenIn st whole (e.draft t pager sc)) tables)
        es items := by
  induction es generalizing taken hs parts recorded with
  | nil =>
      cases h
      cases hParts
      exact ⟨[], rfl, rfl, .nil⟩
  | cons e es ih =>
      obtain ⟨first, hFirst, h⟩ := exists_ok_of_bind_ok h
      obtain ⟨rest, hRest, h⟩ := exists_ok_of_bind_ok h
      cases h
      cases hParts with
      | @cons _ text _ texts hText hTexts =>
          obtain ⟨items, rfl, hColumns, hItems⟩ :=
            ih (recorded + first.fields.length)
              (fun source hSource => hStar source (List.mem_cons_of_mem _ hSource)) hRest hTexts
          have hOwn : StarsOver star tables [e] := by
            intro source hSource
            exact hStar source (List.mem_singleton.mp hSource ▸ List.mem_cons_self)
          refine ⟨(text, resultColumns t recorded first.fields) :: items, rfl, ?_,
            .cons (Expr.exposes_of_heading hTarget hOwn recorded hFirst hText) hItems⟩
          rw [List.flatMap_cons, hColumns, List.flatMap_cons, resultColumns_append]

end Headings

end SqlStatements
