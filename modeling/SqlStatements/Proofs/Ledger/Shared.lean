import SqlStatements.Proofs.Draft.Params
import SqlStatements.Proofs.Ledger.Slots

/-! Shared parameters. What a ledger knows of one stems from its occurrences, so one that
clashes with it clashes with an occurrence; and there is no other way for parameters to
clash. -/
namespace SqlStatements

/-- A shared parameter of the given name, which is its key within the limit. -/
structure BindParam.SharedAs (rules : IdentifierRules) (name : String) (p : BindParam) : Prop where
  unique : p.unique = false
  name : rules.truncate p.key = name

/-- How two occurrences of one parameter clash: in their types, or in their
values where both have one. -/
inductive BindParam.Clash (p q : BindParam) : BindClash → Prop where
  | types (h : p.type ≠ q.type) : Clash p q (.types p.type.kind.name q.type.kind.name)
  | values {v w : Value} (hType : p.type = q.type) (hp : p.value = some v)
      (hq : q.value = some w) (h : v ≠ w) : Clash p q .values

/-- What is known of a parameter stems from shared ones of its name: its type,
and its value where it has one. -/
structure BindInfo.Stems (rules : IdentifierRules) (ps : List BindParam) (b : BindInfo) :
    Prop where
  type : ∃ p ∈ ps, p.SharedAs rules b.name ∧ p.type = b.type
  value : ∀ v, b.value = some v →
    ∃ p ∈ ps, p.SharedAs rules b.name ∧ p.type = b.type ∧ p.value = some v

/-- A value that is filled in is that of the occurrence, so what is known still
stems from shared parameters of the name. -/
theorem BindInfo.Stems.absorb {rules : IdentifierRules} {ps : List BindParam} {b b' : BindInfo}
    {p : BindParam} (h : b.Stems rules ps) (hp : p ∈ ps) (hShared : p.SharedAs rules b.name)
    (hAbsorb : b.absorb p = .ok b') : b'.Stems rules ps := by
  rw [BindInfo.absorb] at hAbsorb
  split at hAbsorb
  · cases hAbsorb
  · rename_i hType
    have hType : b.type = p.type := by simpa using hType
    split at hAbsorb
    · split at hAbsorb
      · cases hAbsorb
        exact h
      · cases hAbsorb
    · rename_i w _ hValue
      cases hAbsorb
      refine ⟨h.type, ?_⟩
      rintro v ⟨⟩
      exact ⟨p, hp, hShared, hType.symm, hValue⟩
    · cases hAbsorb
      exact h

/-- An occurrence that cannot be absorbed clashes with one that the parameter
stems from. -/
theorem BindInfo.Stems.clash {rules : IdentifierRules} {ps : List BindParam} {b : BindInfo}
    {q : BindParam} {e : Error} (h : b.Stems rules ps) (hAbsorb : b.absorb q = .error e) :
    ∃ p ∈ ps, p.SharedAs rules b.name ∧ ∃ cause, e = .bindConflict b.name cause ∧
      p.Clash q cause := by
  rw [BindInfo.absorb] at hAbsorb
  split at hAbsorb
  · rename_i hType
    cases hAbsorb
    obtain ⟨p, hp, hShared, hSame⟩ := h.type
    rw [← hSame] at hType ⊢
    exact ⟨p, hp, hShared, _, rfl, .types hType⟩
  · rename_i hType
    have hType : b.type = q.type := by simpa using hType
    split at hAbsorb
    · rename_i v w hv hw
      split at hAbsorb
      · cases hAbsorb
      · rename_i hOther
        cases hAbsorb
        obtain ⟨p, hp, hShared, hSame, hValue⟩ := h.value v hv
        exact ⟨p, hp, hShared, _, rfl, .values (hSame.trans hType) hValue hw hOther⟩
    · cases hAbsorb
    · cases hAbsorb

namespace Ledger

variable {s : Setting} {L M : Ledger} {d : Draft} {p : BindParam}

/-- All shared parameters of the ledger stem from the given ones. -/
def Stems (s : Setting) (ps : List BindParam) (L : Ledger) : Prop :=
  ∀ b ∈ L.binds, b.unique = false → b.Stems s.target.rules ps

/-- What a parameter adds to the ledger stems from it, and what was there stems
from what it did before. -/
theorem BindStep.stems {ps : List BindParam} {i : Nat} {name : String} {new : Bool}
    (h : BindStep s L p i name new M) (hp : p ∈ ps) (hL : L.Stems s ps) : M.Stems s ps := by
  intro b hb hUnique
  cases h with
  | unique name hOwn =>
      rcases List.mem_append.mp hb with hb | hb
      · exact hL b hb hUnique
      · rw [List.mem_singleton.mp hb, BindParam.info, hOwn] at hUnique
        cases hUnique
  | first hShared =>
      rcases List.mem_append.mp hb with hb | hb
      · exact hL b hb hUnique
      · rw [List.mem_singleton.mp hb]
        exact ⟨⟨p, hp, ⟨hShared, rfl⟩, rfl⟩, fun v hv => ⟨p, hp, ⟨hShared, rfl⟩, rfl, hv⟩⟩
  | found before after a a' hShared hBinds hKnown hName hAbsorb =>
      rw [Stems, hBinds] at hL
      rcases List.mem_append.mp hb with hb | hb
      · exact hL b (List.mem_append_left _ hb) hUnique
      · rcases List.mem_cons.mp hb with hb | hb
        · rw [hb]
          have hStems := hL a (List.mem_append_right _ List.mem_cons_self) hKnown
          exact hStems.absorb hp ⟨hShared, hName.symm⟩ hAbsorb
        · exact hL b (List.mem_append_right _ (List.mem_cons_of_mem _ hb)) hUnique

theorem writePiece_stems {ps : List BindParam} {piece : Piece} {text : String}
    (h : L.writePiece s piece = .ok (text, M)) (hp : ∀ p generated, piece = .param p generated →
      p ∈ ps) (hL : L.Stems s ps) : M.Stems s ps := by
  rcases writePiece_cases h with ⟨p, generated, hPiece, _, hSlot⟩ | ⟨_, aliases, _, rfl⟩
  · obtain ⟨i, name, new, N, hStep, _, rfl⟩ := slot_step hSlot
    exact hStep.stems (hp p generated hPiece) hL
  · exact hL

/-- A draft that is written out leaves shared parameters that stem from its
own. -/
theorem write_stems {ps : List BindParam} {texts : List String}
    (h : L.write s d = .ok (texts, M)) (hd : d.params ⊆ ps) (hL : L.Stems s ps) :
    M.Stems s ps := by
  refine write_invariant h hL ?_
  intro piece hPiece K K' text hWrite hK
  refine writePiece_stems hWrite ?_ hK
  rintro p generated rfl
  exact hd (Draft.mem_params hPiece)

/-- A parameter that is written out is one of the ledger afterwards. -/
theorem exists_stands {texts : List String} (h : L.write s d = .ok (texts, M))
    (hMode : s.mode = .placeholders) (hp : p ∈ d.params) :
    ∃ b ∈ M.binds, b.Stands s.target.rules p := by
  obtain ⟨generated, hPiece⟩ := Draft.exists_mem_of_mem_params hp
  obtain ⟨i, hi, hGet⟩ := List.getElem_of_mem hPiece
  have hEach := write_texts h hMode
  have hText : i < texts.length := by
    rw [← hEach.length_eq]
    exact hi
  obtain ⟨j, b, hb, hStands, _⟩ := hEach.get hi hText p generated hGet
  exact ⟨b, List.mem_of_getElem? hb, hStands⟩

/-- A draft that cannot be written out is written out up to the piece at fault.
What follows that piece plays no part. -/
theorem exists_piece_of_error {e : Error} (h : L.write s d = .error e) :
    ∃ before piece after texts M, d = before ++ piece :: after ∧
      L.write s before = .ok (texts, M) ∧ M.writePiece s piece = .error e := by
  induction d generalizing L with
  | nil => cases h
  | cons piece d ih =>
      rw [write] at h
      rcases error_of_bind_error h with hPiece | ⟨⟨text, K⟩, hPiece, h⟩
      · exact ⟨[], piece, d, [], L, rfl, rfl, hPiece⟩
      · rcases error_of_bind_error h with hRest | ⟨rest, _, h⟩
        · obtain ⟨before, fault, after, texts, M, rfl, hBefore, hFault⟩ := ih hRest
          exact ⟨piece :: before, fault, after, text :: texts, M, rfl,
            write_cons_ok hPiece hBefore, hFault⟩
        · cases h

/-- A shared parameter fails to be absorbed only by one of its own name. -/
theorem share_error {name : String} {bs : List BindInfo} {e : Error}
    (h : share name p bs = .error e) :
    ∃ b ∈ bs, b.unique = false ∧ b.name = name ∧ b.absorb p = .error e := by
  induction bs with
  | nil => cases h
  | cons b bs ih =>
      rw [share] at h
      split at h
      · rename_i hHere
        rcases error_of_bind_error h with hAbsorb | ⟨b', _, h⟩
        · exact ⟨b, List.mem_cons_self, hHere.1, hHere.2, hAbsorb⟩
        · cases h
      · rcases error_of_bind_error h with hRest | ⟨found, _, h⟩
        · obtain ⟨a, ha, hFound⟩ := ih hRest
          exact ⟨a, List.mem_cons_of_mem _ ha, hFound⟩
        · cases h

/-- A shared parameter of the ledger does not go together with an occurrence. -/
def Refuses (s : Setting) (L : Ledger) (p : BindParam) (e : Error) : Prop :=
  p.unique = false ∧ ∃ b ∈ L.binds, b.unique = false ∧
    b.name = s.target.rules.truncate p.key ∧ b.absorb p = .error e

/-- A parameter fails for want of a name, or because it does not go together
with one of the ledger. -/
theorem bind_error {e : Error} (h : L.bind s p = .error e) : e.InDraft ∨ L.Refuses s p e := by
  rw [bind] at h
  split at h
  · rcases error_of_bind_error h with hFresh | ⟨name, _, h⟩
    · exact .inl (IdentifierRules.errorsInDraft_fresh _ _ _ e hFresh)
    · cases h
  · rename_i hUnique
    rcases error_of_bind_error h with hShare | ⟨found, _, h⟩
    · exact .inr ⟨by simpa using hUnique, share_error hShare⟩
    · cases found <;> cases h

/-- The search for an alias never ends in a clash of parameters. -/
theorem alias?_error {key : TableKey} {e : Error} (h : L.alias? s key = .error e) : e.InDraft := by
  rw [alias?] at h
  split at h
  · cases h
  · split at h
    · cases h
    · rcases error_of_bind_error h with hFresh | ⟨name, _, h⟩
      · exact IdentifierRules.errorsInDraft_fresh _ _ _ e hFresh
      · cases h

/-- A piece that cannot be written out stops the draft, finds no free name, or
is a parameter that the ledger refuses. -/
theorem writePiece_error {piece : Piece} {e : Error} (h : L.writePiece s piece = .error e)
    (hMode : s.mode = .placeholders) :
    e.InDraft ∨ piece = .stop e ∨
      ∃ p generated, piece = .param p generated ∧ L.Refuses s p e := by
  cases piece with
  | text | name | table => cases h
  | source t | qualifier t =>
      rcases error_of_bind_error h with hAlias | ⟨⟨name?, K⟩, _, h⟩
      · exact .inl (alias?_error hAlias)
      · cases name? <;> cases h
  | param p generated =>
      rw [writePiece, hMode] at h
      rcases error_of_bind_error h with hBind | ⟨_, _, h⟩
      · rcases bind_error hBind with hDraft | hRefuses
        · exact .inl hDraft
        · exact .inr (.inr ⟨p, generated, rfl, hRefuses⟩)
      · cases h
  | stop fault =>
      cases h
      exact .inr (.inl rfl)

/-- A draft that stops for no clash is written out, or fails otherwise, unless
two occurrences of a shared parameter clash. -/
theorem clash_of_error {e : Error} (h : write s {} d = .error e) (hMode : s.mode = .placeholders)
    (hStops : ∀ fault, .stop fault ∈ d → fault.InDraft) :
    e.InDraft ∨ ∃ name cause, e = .bindConflict name cause ∧
      ∃ p ∈ d.params, ∃ q ∈ d.params,
        p.SharedAs s.target.rules name ∧ q.SharedAs s.target.rules name ∧ p.Clash q cause := by
  obtain ⟨before, piece, after, texts, M, rfl, hBefore, hFault⟩ := exists_piece_of_error h
  have hPiece : piece ∈ before ++ piece :: after := List.mem_append_right _ List.mem_cons_self
  rcases writePiece_error hFault hMode with hDraft | rfl | ⟨q, generated, rfl, hRefuses⟩
  · exact .inl hDraft
  · exact .inl (hStops e hPiece)
  · obtain ⟨hShared, b, hb, hKnown, hName, hAbsorb⟩ := hRefuses
    have hStems : M.Stems s (before ++ .param q generated :: after).params := by
      apply write_stems hBefore
      · rw [Draft.params, Draft.params, List.filterMap_append]
        exact List.subset_append_left _ _
      · intro a ha
        cases ha
    obtain ⟨p, hp, hSharedAs, cause, rfl, hClash⟩ := (hStems b hb hKnown).clash hAbsorb
    exact .inr ⟨b.name, cause, rfl, p, hp, q, Draft.mem_params hPiece, hSharedAs,
      ⟨hShared, hName.symm⟩, hClash⟩

end Ledger

end SqlStatements
