import SqlStatements.Proofs.Draft.Forget
import SqlStatements.Proofs.Ledger.Step

/-! A ledger takes notice of values only to refuse two that disagree. A draft
that is written out can therefore be written out without its values, to the same
texts, the same names and the same aliases. -/
namespace SqlStatements

def BindInfo.forget (b : BindInfo) : BindInfo := { b with value := none }

/-- Without values, a parameter is the same before and after its value was
filled in. -/
theorem BindInfo.Fills.forget {b b' : BindInfo} (h : b.Fills b') : b'.forget = b.forget := by
  simp only [BindInfo.forget, h.name, h.key, h.type, h.conversion, h.unique]

/-- An occurrence that can be absorbed can also be absorbed without values. The
converse fails, since values may clash. -/
theorem BindInfo.absorb_forget {b b' : BindInfo} {p : BindParam} (h : b.absorb p = .ok b') :
    b.forget.absorb p.forget = .ok b'.forget := by
  obtain ⟨hFills, hType, _⟩ := absorb_ok h
  have hSame : ¬b.forget.type ≠ p.forget.type := not_not_intro hType
  rw [hFills.forget, absorb, if_neg hSame]
  rfl

namespace Ledger

def forget (L : Ledger) : Ledger := { L with binds := L.binds.map BindInfo.forget }

theorem forget_add (L : Ledger) (b : BindInfo) : (L.add b).forget = L.forget.add b.forget := by
  simp [forget, add]

theorem share_forget {name : String} {p : BindParam} {bs : List BindInfo}
    {found : Option (Nat × List BindInfo)} (h : share name p bs = .ok found) :
    share name p.forget (bs.map BindInfo.forget) =
      .ok (found.map fun (i, bs') => (i, bs'.map BindInfo.forget)) := by
  induction bs generalizing found with
  | nil =>
      cases h
      rfl
  | cons b bs ih =>
      rw [share] at h
      rw [List.map_cons, share]
      split at h
      · rename_i hHere
        obtain ⟨b', hAbsorb, h⟩ := exists_ok_of_bind_ok h
        cases h
        have hHere : b.forget.unique = false ∧ b.forget.name = name := hHere
        rw [if_pos hHere, BindInfo.absorb_forget hAbsorb]
        rfl
      · rename_i hOther
        obtain ⟨later, hLater, h⟩ := exists_ok_of_bind_ok h
        cases h
        have hOther : ¬(b.forget.unique = false ∧ b.forget.name = name) := hOther
        rw [if_neg hOther, ih hLater]
        cases later <;> rfl

/-- A parameter takes the same place and the same name without values. -/
theorem bind_forget {s : Setting} {L L' : Ledger} {p : BindParam} {i : Nat} {name : String}
    {new : Bool} (h : L.bind s p = .ok (i, name, new, L')) :
    L.forget.bind s p.forget = .ok (i, name, new, L'.forget) := by
  have hNames : L.forget.binds.map (·.name) = L.binds.map (·.name) := by
    simp [forget, BindInfo.forget, Function.comp_def]
  have hLength : L.forget.binds.length = L.binds.length := List.length_map _
  rw [bind] at h
  rw [bind]
  simp only [hNames, hLength]
  split at h
  · rename_i hUnique
    have hUnique : p.forget.unique = true := hUnique
    obtain ⟨fresh, hFresh, h⟩ := exists_ok_of_bind_ok h
    cases h
    have hFresh : s.target.rules.fresh p.forget.key (L.binds.map (·.name) ++ s.reserved) 0 =
        .ok name := hFresh
    rw [if_pos hUnique, hFresh, forget_add]
    rfl
  · rename_i hUnique
    have hUnique : ¬p.forget.unique = true := hUnique
    obtain ⟨found, hShare, h⟩ := exists_ok_of_bind_ok h
    have hForget : share (s.target.rules.truncate p.forget.key) p.forget L.forget.binds = _ :=
      share_forget hShare
    rw [if_neg hUnique, hForget]
    cases found with
    | none =>
        cases h
        rw [forget_add]
        rfl
    | some pair =>
        cases h
        rfl

theorem slot_forget {s : Setting} {L L' : Ledger} {p : BindParam} {generated : Bool}
    {text : String} (h : L.slot s p generated = .ok (text, L')) :
    L.forget.slot s p.forget generated = .ok (text, L'.forget) := by
  obtain ⟨⟨i, name, new, M⟩, hBind, h⟩ := exists_ok_of_bind_ok h
  cases h
  rw [slot, bind_forget hBind]
  rfl

theorem alias?_forget {s : Setting} {L L' : Ledger} {key : TableKey} {name? : Option String}
    (h : L.alias? s key = .ok (name?, L')) : L.forget.alias? s key = .ok (name?, L'.forget) := by
  have hAliases : L.forget.aliases = L.aliases := rfl
  rw [alias?] at h
  rw [alias?, hAliases]
  split at h
  · cases h
    rfl
  · split at h
    · rename_i hPlain
      cases h
      exact if_pos hPlain
    · rename_i hPlain
      obtain ⟨name, hFresh, h⟩ := exists_ok_of_bind_ok h
      cases h
      simp only [if_neg hPlain, hFresh]
      rfl

/-- A piece is written as the same text without values, if parameters stay open.
Some drafts can be written only without. -/
theorem writePiece_forget {s : Setting} (hMode : s.mode = .placeholders) {L L' : Ledger}
    {piece : Piece} {text : String} (h : L.writePiece s piece = .ok (text, L')) :
    L.forget.writePiece s piece.forget = .ok (text, L'.forget) := by
  cases piece with
  | text | name | table =>
      cases h
      rfl
  | source x | qualifier x =>
      obtain ⟨⟨name?, M⟩, hAlias, h⟩ := exists_ok_of_bind_ok h
      simp only [Piece.forget, writePiece, alias?_forget hAlias]
      cases name? <;> cases h <;> rfl
  | param p generated =>
      simp only [writePiece, hMode] at h
      simp only [Piece.forget, writePiece, hMode, slot_forget h]
  | stop e => cases h

/-- Writing out a draft without its values gives the same texts, as long as
writing it with them succeeds. -/
theorem write_forget {s : Setting} (hMode : s.mode = .placeholders) {L L' : Ledger} {d : Draft}
    {texts : List String} (h : L.write s d = .ok (texts, L')) :
    L.forget.write s d.forget = .ok (texts, L'.forget) := by
  induction d generalizing L texts with
  | nil =>
      cases h
      rfl
  | cons piece d ih =>
      obtain ⟨text, M, rest, hPiece, hRest, rfl⟩ := write_cons h
      rw [Draft.forget_cons, write, writePiece_forget hMode hPiece]
      show (M.forget.write s (Draft.forget d) >>= _) = _
      rw [ih hRest]
      rfl

end Ledger

end SqlStatements
