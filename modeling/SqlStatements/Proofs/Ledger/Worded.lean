import SqlStatements.Proofs.Draft.Worded
import SqlStatements.Proofs.Ledger.Step

/-! Pieces written out. What is chosen while a draft is written are aliases and the names of
placeholders, and an alias brings no sign but those of the name of its table. -/
namespace SqlStatements.Ledger

open Text

variable {c : Char} {P : String → Prop} {s : Setting} {L M : Ledger}

/-- The aliases chosen lack the sign. -/
def AliasesLack (c : Char) (L : Ledger) : Prop := LackAll c (L.aliases.map (·.2))

theorem aliasesLack_empty : AliasesLack c {} := lackAll_nil

/-- An alias lacks the sign if the name of its table does; its number brings
none. -/
theorem alias?_lacks (hc : Sign c) {key : TableKey} {name? : Option String}
    (h : L.alias? s key = .ok (name?, M)) (hL : L.AliasesLack c) (hKey : Lacks c key.name) :
    (∀ name ∈ name?, Lacks c name) ∧ M.AliasesLack c := by
  rw [alias?] at h
  split at h
  · rename_i name hName
    cases h
    obtain ⟨before, after, hSplit, _⟩ := List.lookup_eq_some_iff.mp hName
    have hMem : name ∈ L.aliases.map (·.2) := List.mem_map.mpr ⟨(key, name), by simp [hSplit], rfl⟩
    refine ⟨?_, hL⟩
    simpa using hL name hMem
  · split at h
    · cases h
      exact ⟨by simp, hL⟩
    · obtain ⟨name, hFresh, h⟩ := exists_ok_of_bind_ok h
      cases h
      have hName := IdentifierRules.lacks_fresh hc hFresh hKey
      refine ⟨by simpa using hName, ?_⟩
      simpa [AliasesLack] using ⟨hL, hName⟩

/-- A piece that is no placeholder is written in words, with the aliases of the
ledger lacking the sign as well. -/
theorem writePiece_worded (law : Law c P) (hp : s.target.profile.Worded c P) {piece : Piece}
    {text : String} (h : L.writePiece s piece = .ok (text, M))
    (hParam : ∀ p generated, piece ≠ .param p generated) (hPiece : piece.Worded c P)
    (hL : L.AliasesLack c) : P text ∧ M.AliasesLack c := by
  cases piece with
  | text x =>
      cases h
      exact ⟨hPiece, hL⟩
  | name ident =>
      cases h
      exact ⟨law.lacks (hp.lacks_quote hPiece), hL⟩
  | table t =>
      cases h
      exact ⟨law.lacks (hp.lacks_table law hPiece true), hL⟩
  | source t =>
      obtain ⟨⟨name?, N⟩, hAlias, h⟩ := exists_ok_of_bind_ok h
      have hTable : P (s.target.rules.table t true) := law.lacks (hp.lacks_table law hPiece true)
      obtain ⟨hName, hN⟩ := alias?_lacks law.sign hAlias hL (lackAll_cons.mp hPiece).1
      cases name? with
      | none =>
          cases h
          exact ⟨hTable, hN⟩
      | some name =>
          cases h
          exact ⟨law.append (law.append hTable (law.plain (by decide)))
            (law.lacks (hp.lacks_quote (hName name rfl))), hN⟩
  | qualifier t =>
      obtain ⟨⟨name?, N⟩, hAlias, h⟩ := exists_ok_of_bind_ok h
      obtain ⟨hName, hN⟩ := alias?_lacks law.sign hAlias hL (lackAll_cons.mp hPiece).1
      cases name? with
      | none =>
          cases h
          exact ⟨law.lacks (hp.lacks_table law hPiece true), hN⟩
      | some name =>
          cases h
          exact ⟨law.lacks (hp.lacks_quote (hName name rfl)), hN⟩
  | param p generated => exact absurd rfl (hParam p generated)
  | stop e => cases h

/-- Parameters give no aliases. -/
theorem aliases_param {p : BindParam} {generated : Bool} {text : String}
    (h : L.writePiece s (.param p generated) = .ok (text, M)) : M.aliases = L.aliases := by
  rw [writePiece] at h
  split at h
  · obtain ⟨_, _, _, _, hStep, -, rfl⟩ := slot_step h
    exact hStep.aliases
  · obtain ⟨_, _, h⟩ := exists_ok_of_bind_ok h
    cases h
    rfl

/-- So aliases lack the sign wherever the writing of a draft has got to. -/
theorem write_aliasesLack (law : Law c P) (hp : s.target.profile.Worded c P) {d : Draft}
    {texts : List String} (h : L.write s d = .ok (texts, M)) (hd : d.Worded c P)
    (hL : L.AliasesLack c) : M.AliasesLack c := by
  refine write_invariant h hL fun piece hMem N N' text hPiece hN => ?_
  cases piece with
  | param =>
      rw [AliasesLack, aliases_param hPiece]
      exact hN
  | text | name | table | source | qualifier | stop =>
      exact (writePiece_worded law hp hPiece (by simp) (hd _ hMem) hN).2

end SqlStatements.Ledger
