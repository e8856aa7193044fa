import SqlStatements.Proofs.Dialect.Identity
import SqlStatements.Proofs.Dialect.LiteralTexts
import SqlStatements.Proofs.Ledger.Modes
import SqlStatements.Proofs.Ledger.Worded

/-! Minus signs in what is written out. Two things are said of a draft, whatever the ledger
it is written with: that the minus signs of its text stand apart, and whether its text begins
with one. The first passes to drafts in a row; a minus sign in front needs the second. -/
namespace SqlStatements

open Text

/-- No word of the dialect has a minus sign, operators between blanks apart, and
none is empty. -/
structure Profile.Parted (p : Profile) : Prop where
  worded : p.Worded '-' Text.Parted
  function : ∀ entry ∈ p.functions, entry.2.word ≠ ""
  placeholder : ∀ name position, Lacks '-' (p.placeholders.placeholder name position) ∧
    p.placeholders.placeholder name position ≠ ""

section Dialects

theorem Postgres.plain_types : ∀ s ∈ types, ∀ type caps, Plain (s.render type caps) := by
  intro s hs type caps
  simp only [types, List.mem_cons, List.not_mem_nil, or_false] at hs
  rcases hs with rfl | rfl | rfl <;> simp only
  · split
    · split <;> decide
    · decide
  · decide
  · split <;> decide

/-- Standard SQL keeps minus signs apart: only operators have one, and these
stand between blanks. -/
theorem Profile.standard_parted : Profile.standard.Parted where
  worded :=
    { opening := by decide
      closing := by decide
      operator := fun op => by cases op <;> decide
      function := fun _ h => by cases h
      type := fun _ h => by cases h }
  function := fun _ h => by cases h
  placeholder := fun _ _ => ⟨show Lacks '-' "?" by decide, show "?" ≠ "" by decide⟩

theorem Postgres.profile_parted : Postgres.profile.Parted where
  worded :=
    { opening := show '-' ≠ '"' by decide
      closing := show '-' ≠ '"' by decide
      operator := fun op => by cases op <;> decide
      function := fun _ h => by cases h
      type := fun s hs type caps => (plain_types s hs type caps).lacks sign_minus }
  function := fun _ h => by cases h
  placeholder := fun _ position => by
    have hLacks : Lacks '-' ("$" ++ position.repr) :=
      lacks_append.mpr ⟨by decide, lacks_nat (by decide) position⟩
    exact ⟨hLacks, show "$" ++ position.repr ≠ "" by simp⟩

theorem SqlServer.profile_parted (driver : Driver) (textAsVarchar : Bool) :
    (profile driver textAsVarchar).Parted where
  worded :=
    { opening := show '-' ≠ '[' by decide
      closing := show '-' ≠ ']' by decide
      operator := by
        intro op
        show Text.Parted
          (" " ++ (([(.concat, "+")] : List (BinaryOp × String)).lookup op |>.getD op.token) ++ " ")
        cases op <;> decide
      function := by
        intro entry h
        simp only [profile, List.mem_cons, List.not_mem_nil, or_false] at h
        rcases h with rfl | rfl | rfl <;> decide
      type := fun s hs type caps => (plain_types s hs type caps).lacks sign_minus }
  function := by
    intro entry h
    simp only [profile, List.mem_cons, List.not_mem_nil, or_false] at h
    rcases h with rfl | rfl | rfl <;> decide
  placeholder := fun _ _ => ⟨show Lacks '-' "?" by decide, show "?" ≠ "" by decide⟩

/-- The dialects there are keep their words free of minus signs, operators
apart, which stand between blanks. -/
theorem Profile.Identified.parted {identity : String} {p : Profile} (h : Identified identity p) :
    p.Parted := by
  cases h with
  | standard => exact standard_parted
  | postgres => exact Postgres.profile_parted
  | sqlServer driver textAsVarchar => exact SqlServer.profile_parted driver textAsVarchar

end Dialects

namespace IdentifierRules

/-- Even an empty name is written as something, since it gets quotes. -/
theorem quote_ne_empty (rules : IdentifierRules) (ident : String) : rules.quote ident ≠ "" := by
  rw [quote]
  split
  · exact fun h => List.cons_ne_nil _ _ (String.ofList_eq_empty_iff.mp h)
  · rename_i hPlain
    rintro rfl
    exact hPlain rfl

theorem table_ne_empty (rules : IdentifierRules) (x : Table) (qualified : Bool) :
    rules.table x qualified ≠ "" := by
  rw [table]
  split
  · split
    · simp
    · exact quote_ne_empty _ _
  · exact quote_ne_empty _ _

end IdentifierRules

/-- A value in the place of a parameter is a literal of its type. -/
theorem Target.literalText_of_spelling {t : Target} {type : SqlType} {v : Value} {x : String}
    (h : t.spelling? type v = some x) : t.profile.literalText t.caps type v = .ok x := by
  rw [spelling?] at h
  rw [Profile.literalText]
  split at h
  · rename_i hNull
    cases h
    rw [if_pos hNull]
  · rename_i hNull
    obtain ⟨style, hStyle, hRender⟩ := Option.bind_eq_some_iff.mp h
    rw [if_neg hNull, hStyle, Option.getD_some]
    cases hText : style.render v with
    | error e => simp [hText, Except.toOption] at hRender
    | ok y =>
        rw [hText] at hRender
        cases hRender
        rfl

/-- Whether the parameter is written as a negative number. -/
def BindParam.leadsMinus (mode : ParameterMode) (p : BindParam) : Bool :=
  mode = .literals && p.value.any Value.isNegative

namespace Ledger

variable {s : Setting} {L M : Ledger} {text : String}

/-- A placeholder has no minus sign, and a value in its place has one in front
if it is a negative number. -/
theorem writePiece_param (hp : s.target.profile.Parted) {p : BindParam} {generated : Bool}
    (h : L.writePiece s (.param p generated) = .ok (text, M)) :
    ((s.mode = .literals → ∀ v, p.value = some v → LackAll '-' v.strings) → Text.Parted text) ∧
      leads text = some (p.leadsMinus s.mode) := by
  rw [BindParam.leadsMinus]
  rw [writePiece] at h
  split at h
  · rename_i hMode
    obtain ⟨i, name, new, N, -, rfl, rfl⟩ := slot_step h
    obtain ⟨hLacks, hSome⟩ := hp.placeholder name (i + 1)
    rw [hMode]
    exact ⟨fun _ => hLacks.parted, hLacks.leads hSome⟩
  · rename_i hMode
    obtain ⟨x, hLiteral, h⟩ := exists_ok_of_bind_ok h
    cases h
    obtain ⟨v, hv, hSpelling⟩ := literal_ok hLiteral
    have hText := Target.literalText_of_spelling hSpelling
    refine ⟨fun hValue => Profile.parted_literalText hText fun x hx =>
      (hValue hMode v hv x hx).parted, ?_⟩
    rw [hMode, hv]
    exact (Profile.opening_literalText hText).leads

/-- A name begins with no minus sign. -/
theorem leads_name (hp : s.target.profile.Parted) {ident : String}
    (h : L.writePiece s (.name ident) = .ok (text, M)) (hIdent : Lacks '-' ident) :
    leads text = some false := by
  cases h
  exact (hp.worded.lacks_quote hIdent).leads (IdentifierRules.quote_ne_empty _ _)

/-- Nor does a table in front of a column, by its name or by its alias. -/
theorem leads_qualifier (hp : s.target.profile.Parted) {x : Table}
    (h : L.writePiece s (.qualifier x) = .ok (text, M)) (hTitles : LackAll '-' x.titles)
    (hL : L.AliasesLack '-') : leads text = some false := by
  obtain ⟨⟨name?, N⟩, hAlias, h⟩ := exists_ok_of_bind_ok h
  obtain ⟨hName, -⟩ := alias?_lacks sign_minus hAlias hL (lackAll_cons.mp hTitles).1
  cases name? with
  | none =>
      cases h
      exact (hp.worded.lacks_table law_parted hTitles true).leads
        (IdentifierRules.table_ne_empty _ _ _)
  | some name =>
      cases h
      exact (hp.worded.lacks_quote (hName name rfl)).leads (IdentifierRules.quote_ne_empty _ _)

end Ledger

namespace Draft

variable {s : Setting} {d e : Draft} {b : Bool}

/-- Written out, the minus signs of the draft stand apart. -/
def Apart (s : Setting) (d : Draft) : Prop :=
  ∀ (L M : Ledger) (texts : List String), L.AliasesLack '-' → L.write s d = .ok (texts, M) →
    Text.Parted (String.join texts) ∧ M.AliasesLack '-'

/-- Written out, the draft begins with a minus sign, or with something else. -/
def Leads (s : Setting) (b : Bool) (d : Draft) : Prop :=
  ∀ (L M : Ledger) (texts : List String), L.AliasesLack '-' → L.write s d = .ok (texts, M) →
    leads (String.join texts) = some b

theorem apart_nil : Apart s [] := by
  intro L M texts hL h
  cases h
  exact ⟨by decide, hL⟩

/-- Two drafts whose minus signs stand apart do so together: no text ends in a
sign, so it does not matter how the next one begins. -/
theorem Apart.append (hd : Apart s d) (he : Apart s e) : Apart s (d ++ e) := by
  intro L M texts hL h
  obtain ⟨xs, ys, N, hFirst, hSecond, rfl⟩ := Ledger.exists_write_append h
  obtain ⟨hx, hN⟩ := hd L N xs hL hFirst
  obtain ⟨hy, hM⟩ := he N M ys hN hSecond
  rw [String.join_append]
  exact ⟨hx.append hy, hM⟩

/-- A single piece keeps minus signs apart if its texts do. Values count only
where they are written out. -/
theorem apart_piece (hp : s.target.profile.Parted) {piece : Piece}
    (h : piece.Worded '-' Text.Parted)
    (hParam : ∀ p generated, piece = .param p generated → s.mode = .literals →
      ∀ v, p.value = some v → LackAll '-' v.strings) : Apart s [piece] := by
  intro L M texts hL hWrite
  obtain ⟨text, N, rest, hPiece, hRest, rfl⟩ := Ledger.write_cons hWrite
  cases hRest
  rw [String.join_cons, String.join_nil, String.append_empty]
  cases piece with
  | param p generated =>
      refine ⟨(Ledger.writePiece_param hp hPiece).1 (hParam p generated rfl), ?_⟩
      rw [Ledger.AliasesLack, Ledger.aliases_param hPiece]
      exact hL
  | text | name | table | source | qualifier | stop =>
      exact Ledger.writePiece_worded law_parted hp.worded hPiece (by simp) h hL

/-- The first piece decides how a draft begins, since no piece is written as
nothing. -/
theorem leads_cons {piece : Piece}
    (h : ∀ (L M : Ledger) (text : String), L.AliasesLack '-' →
      L.writePiece s piece = .ok (text, M) → leads text = some b) : Leads s b (piece :: d) := by
  intro L M texts hL hWrite
  obtain ⟨text, N, rest, hPiece, hRest, rfl⟩ := Ledger.write_cons hWrite
  rw [String.join_cons]
  exact leads_append (h L N text hL hPiece)

theorem leads_text {x : String} (h : leads x = some b) : Leads s b (.text x :: d) :=
  leads_cons fun _ _ _ _ hPiece => by cases hPiece; exact h

/-- A minus sign in front of a draft that begins with something else. -/
theorem Apart.minus (hd : Apart s d) (h : Leads s false d) : Apart s (.text "-" :: d) := by
  intro L M texts hL hWrite
  obtain ⟨text, N, rest, hPiece, hRest, rfl⟩ := Ledger.write_cons hWrite
  cases hPiece
  obtain ⟨hText, hM⟩ := hd L M rest hL hRest
  rw [String.join_cons]
  exact ⟨hText.behind (h L M rest hL hRest), hM⟩

end Draft

end SqlStatements
