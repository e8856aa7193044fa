import Mathlib.Data.List.Forall2
import SqlStatements.Proofs.Ledger.Step

/-! One draft written out twice: with placeholders, and with its values. The two
runs choose the same aliases, so their texts differ at the parameters only. -/
namespace SqlStatements

/-- A text with gaps: what stands in front of the first gap, and what follows
each of them. -/
structure GappedText where
  start : String
  rest : List String
deriving DecidableEq

namespace GappedText

/-- The text with a string in each gap. -/
def fill (g : GappedText) (xs : List String) : String :=
  g.start ++ String.join (List.zipWith (· ++ ·) xs g.rest)

def prepend (x : String) (g : GappedText) : GappedText := { g with start := x ++ g.start }

def gap (g : GappedText) : GappedText := ⟨"", g.start :: g.rest⟩

/-- More text in front does not touch the gaps. -/
theorem fill_prepend (x : String) (g : GappedText) (xs : List String) :
    (g.prepend x).fill xs = x ++ g.fill xs :=
  String.append_assoc

theorem fill_gap (x : String) (g : GappedText) (xs : List String) :
    g.gap.fill (x :: xs) = x ++ g.fill xs := by
  simp only [gap, fill, List.zipWith_cons_cons, String.join_cons, String.empty_append,
    String.append_assoc]

end GappedText

/-- A value in the place of a parameter: the missing value is a word, and any
other is written in the style of the type, if the type has one. -/
def Target.spelling? (t : Target) (type : SqlType) (v : Value) : Option String :=
  if v.isNull then some "NULL"
  else (t.profile.literalStyle t.caps type).bind fun style => (style.render v).toOption

namespace Ledger

variable {s : Setting} {L L' M M' : Ledger} {d : Draft}

/-- The setting in which values are written out. -/
def literally (s : Setting) : Setting := { s with mode := .literals }

/-- A parameter is written out only if it has a value, and then as the spelling
of that value. -/
theorem literal_ok {p : BindParam} {text : String} (h : literal s p = .ok text) :
    ∃ v, p.value = some v ∧ s.target.spelling? p.type v = some text := by
  rw [literal] at h
  split at h
  · cases h
  · rename_i v hValue
    refine ⟨v, hValue, ?_⟩
    rw [Target.spelling?]
    split at h
    · rename_i hNull
      cases h
      rw [if_pos hNull]
    · rename_i hNull
      rw [if_neg hNull]
      split at h
      · cases h
      · rename_i style hStyle
        rw [hStyle, Option.bind_some]
        split at h
        · cases h
        · rw [h]
          rfl

/-- The choice of an alias looks at nothing but the aliases so far. -/
theorem alias?_congr {key : TableKey} {a : Option String} (h : L.alias? s key = .ok (a, L'))
    (hAliases : L.aliases = M.aliases) :
    M.alias? s key = .ok (a, { M with aliases := L'.aliases }) := by
  rw [alias?] at h
  rw [alias?, ← hAliases]
  split at h
  · cases h
    rw [hAliases]
  · split at h
    · rename_i hPlain
      cases h
      simp only [if_pos hPlain, hAliases]
    · rename_i hPlain
      obtain ⟨name, hFresh, h⟩ := exists_ok_of_bind_ok h
      cases h
      simp only [if_neg hPlain, hFresh]
      rfl

/-- A piece that is no parameter is written in the same way in both modes.
Aliases are chosen alike. -/
theorem writePiece_modes {piece : Piece} {text text' : String}
    (hParam : ∀ p generated, piece ≠ .param p generated)
    (h : L.writePiece s piece = .ok (text, L'))
    (h' : M.writePiece (literally s) piece = .ok (text', M')) (hAliases : L.aliases = M.aliases) :
    text = text' ∧ L'.aliases = M'.aliases := by
  cases piece with
  | text | name | table =>
      cases h
      cases h'
      exact ⟨rfl, hAliases⟩
  | source t | qualifier t =>
      obtain ⟨⟨a, N⟩, hAlias, h⟩ := exists_ok_of_bind_ok h
      have hAlias' : M.alias? (literally s) t.key = _ := alias?_congr hAlias hAliases
      simp only [writePiece, hAlias'] at h'
      cases a <;> cases h <;> cases h' <;> exact ⟨rfl, rfl⟩
  | param p generated => exact absurd rfl (hParam p generated)
  | stop e => cases h

/-- A parameter is a question mark in one mode and its value in the other.
Aliases are not touched in either. -/
theorem writePiece_param_modes {p : BindParam} {generated : Bool} {text text' : String}
    (hStyle : s.target.profile.placeholders = .questionMark) (hMode : s.mode = .placeholders)
    (h : L.writePiece s (.param p generated) = .ok (text, L'))
    (h' : M.writePiece (literally s) (.param p generated) = .ok (text', M'))
    (hAliases : L.aliases = M.aliases) :
    text = "?" ∧ literal s p = .ok text' ∧ L'.aliases = M'.aliases := by
  rcases writePiece_cases h with ⟨_, _, he, _, hSlot⟩ | ⟨hLiteral, _⟩
  · cases he
    obtain ⟨i, name, new, N, hStep, rfl, rfl⟩ := slot_step hSlot
    obtain ⟨text', hLiteral, h'⟩ := exists_ok_of_bind_ok h'
    cases h'
    refine ⟨by rw [hStyle]; rfl, hLiteral, ?_⟩
    rw [← hAliases, ← hStep.aliases]
    rfl
  · rw [(hLiteral p generated rfl).1] at hMode
    cases hMode

/-- Both texts of a draft are one text with gaps: question marks fill them in
one mode, the values of the parameters in the other. -/
theorem write_modes {texts texts' : List String}
    (hStyle : s.target.profile.placeholders = .questionMark) (hMode : s.mode = .placeholders)
    (h : L.write s d = .ok (texts, L')) (h' : M.write (literally s) d = .ok (texts', M'))
    (hAliases : L.aliases = M.aliases) :
    ∃ (g : GappedText) (xs : List String), g.rest.length = d.params.length ∧
      String.join texts = g.fill (List.replicate d.params.length "?") ∧
      String.join texts' = g.fill xs ∧
      List.Forall₂ (fun p x => literal s p = .ok x) d.params xs := by
  induction d generalizing L M texts texts' with
  | nil =>
      cases h
      cases h'
      exact ⟨⟨"", []⟩, [], rfl, rfl, rfl, .nil⟩
  | cons piece d ih =>
      obtain ⟨text, N, rest, hPiece, hRest, rfl⟩ := write_cons h
      obtain ⟨text', N', rest', hPiece', hRest', rfl⟩ := write_cons h'
      rw [String.join_cons, String.join_cons]
      by_cases hParam : ∃ p generated, piece = .param p generated
      · obtain ⟨p, generated, rfl⟩ := hParam
        obtain ⟨rfl, hLiteral, hNext⟩ :=
          writePiece_param_modes hStyle hMode hPiece hPiece' hAliases
        obtain ⟨g, xs, hLength, hMarks, hValues, hEach⟩ := ih hRest hRest' hNext
        refine ⟨g.gap, text' :: xs, congrArg (· + 1) hLength, ?_, ?_, .cons hLiteral hEach⟩
        · rw [hMarks]
          exact (g.fill_gap "?" _).symm
        · rw [hValues, g.fill_gap]
      · have hOther : ∀ p generated, piece ≠ .param p generated := by
          intro p generated he
          exact hParam ⟨p, generated, he⟩
        obtain ⟨rfl, hNext⟩ := writePiece_modes hOther hPiece hPiece' hAliases
        obtain ⟨g, xs, hLength, hMarks, hValues, hEach⟩ := ih hRest hRest' hNext
        have hParams : Draft.params (piece :: d) = Draft.params d := by
          cases piece with
          | param p generated => exact absurd rfl (hOther p generated)
          | text | name | table | source | qualifier | stop => rfl
        rw [hParams]
        exact ⟨g.prepend text, xs, hLength, by rw [hMarks, g.fill_prepend],
          by rw [hValues, g.fill_prepend], hEach⟩

/-- Writing values out leaves the parameters and the positions alone: nothing is
left to be sent. -/
theorem write_literals {texts : List String} (hMode : s.mode = .literals)
    (h : L.write s d = .ok (texts, L')) :
    L'.binds = L.binds ∧ L'.positional = L.positional := by
  refine write_invariant (P := fun N => N.binds = L.binds ∧ N.positional = L.positional) h
    ⟨rfl, rfl⟩ ?_
  intro piece _ N N' text hPiece hSame
  rcases writePiece_cases hPiece with ⟨_, _, _, hPlace, _⟩ | ⟨_, aliases, _, rfl⟩
  · rw [hPlace] at hMode
    cases hMode
  · exact hSame

end Ledger

end SqlStatements
