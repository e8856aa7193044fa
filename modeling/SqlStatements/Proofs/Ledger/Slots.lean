import Mathlib.Data.List.Forall2
import SqlStatements.Proofs.Dialect.Unmarked
import SqlStatements.Proofs.Ledger.Worded

/-! The placeholders of a text. Each parameter of a draft is written as the
placeholder of the parameter that stands for it, and where every occurrence
takes a value of its own, positions list these parameters from left to right. -/
namespace SqlStatements.Ledger

open Text

variable {s : Setting} {L L' : Ledger} {d : Draft} {texts : List String}

/-- A piece is written as a placeholder if it is a parameter: that of the
parameter which stands for it, under its name and at its place. -/
def Written (s : Setting) (binds : List BindInfo) (piece : Piece) (text : String) : Prop :=
  ∀ p generated, piece = .param p generated →
    ∃ i b, binds[i]? = some b ∧ b.Stands s.target.rules p ∧
      text = s.target.profile.placeholders.placeholder b.name (i + 1)

/-- What is found at the place of a parameter stays there until the end, under
the same name. -/
theorem slot_written {p : BindParam} {generated : Bool} {text : String} {M : Ledger}
    (h : L.slot s p generated = .ok (text, M)) (hRest : M.Extends L') :
    ∃ i b, L'.binds[i]? = some b ∧ b.Stands s.target.rules p ∧
      text = s.target.profile.placeholders.placeholder b.name (i + 1) := by
  obtain ⟨i, name, new, N, hStep, rfl, rfl⟩ := slot_step h
  obtain ⟨b, hb, hName, hStands⟩ := hStep.stands
  obtain ⟨b', hb', hFills⟩ := hRest.binds i b hb
  exact ⟨i, b', hb', hStands.fills hFills, by rw [hFills.name, hName]⟩

/-- Every piece is written at its place, and each parameter as the placeholder
of the one that stands for it in the end. -/
theorem write_texts (h : L.write s d = .ok (texts, L')) (hMode : s.mode = .placeholders) :
    List.Forall₂ (Written s L'.binds) d texts := by
  induction d generalizing L texts with
  | nil =>
      cases h
      exact .nil
  | cons piece d ih =>
      obtain ⟨text, M, rest, hPiece, hRest, rfl⟩ := write_cons h
      refine .cons ?_ (ih hRest)
      rintro p generated rfl
      rcases writePiece_cases hPiece with ⟨_, _, he, _, hSlot⟩ | ⟨hLiteral, _⟩
      · cases he
        exact slot_written hSlot (write_extends hRest)
      · rw [(hLiteral p generated rfl).1] at hMode
        cases hMode

/-- A placeholder that takes a value of its own adds a position, under the name
of the parameter that stands for it. -/
theorem slot_position {p : BindParam} {generated : Bool} {text : String} {M : Ledger}
    (h : L.slot s p generated = .ok (text, M))
    (hRepeats : s.target.profile.placeholders.repeats = true) :
    ∃ (i : Nat) (b : BindInfo), M.binds[i]? = some b ∧ b.Stands s.target.rules p ∧
      M.positional = L.positional ++ [b.name] := by
  obtain ⟨i, name, new, N, hStep, rfl, rfl⟩ := slot_step h
  obtain ⟨b, hb, hName, hStands⟩ := hStep.stands
  refine ⟨i, b, hb, hStands, ?_⟩
  simp only [place, hRepeats, Bool.or_true, if_true, hName, hStep.positional]

/-- Positions list the parameters of a draft as they occur, a shared one each
time. -/
theorem write_positions (h : L.write s d = .ok (texts, L')) (hMode : s.mode = .placeholders)
    (hRepeats : s.target.profile.placeholders.repeats = true) :
    ∃ added, L'.positional = L.positional ++ added ∧
      List.Forall₂ (fun p name => ∃ b ∈ L'.binds, b.Stands s.target.rules p ∧ b.name = name)
        d.params added := by
  induction d generalizing L texts with
  | nil =>
      cases h
      exact ⟨[], (List.append_nil _).symm, .nil⟩
  | cons piece d ih =>
      obtain ⟨text, M, rest, hPiece, hRest, rfl⟩ := write_cons h
      obtain ⟨added, hAdded, hParams⟩ := ih hRest
      rcases writePiece_cases hPiece with ⟨p, generated, rfl, _, hSlot⟩ | ⟨hLiteral, _, _, rfl⟩
      · obtain ⟨i, b, hb, hStands, hPosition⟩ := slot_position hSlot hRepeats
        obtain ⟨b', hb', hFills⟩ := (write_extends hRest).binds i b hb
        refine ⟨b.name :: added, by rw [hAdded, hPosition, List.append_assoc]; rfl, ?_⟩
        exact .cons ⟨b', List.mem_of_getElem? hb', hStands.fills hFills, hFills.name⟩ hParams
      · refine ⟨added, hAdded, ?_⟩
        cases piece with
        | param p generated =>
            rw [(hLiteral p generated rfl).1] at hMode
            cases hMode
        | text | name | table | source | qualifier | stop => exact hParams

/-- The question marks of a text are its placeholders, and each has a position.
No word and no name brings another one. -/
theorem count_write (hStyle : s.target.profile.placeholders = .questionMark)
    (hMode : s.mode = .placeholders) (ht : s.target.profile.Unmarked)
    (h : L.write s d = .ok (texts, L')) (hd : d.Worded '?' (Text.Lacks '?'))
    (hL : L.AliasesLack '?') :
    (String.join texts).toList.count '?' + L.positional.length = L'.positional.length := by
  induction d generalizing L texts with
  | nil =>
      cases h
      rw [String.join_nil]
      exact Nat.zero_add _
  | cons piece d ih =>
      obtain ⟨text, M, rest, hPiece, hRest, rfl⟩ := write_cons h
      obtain ⟨hHead, hTail⟩ := List.forall_mem_cons.mp hd
      rw [String.join_cons, String.toList_append, List.count_append]
      -- A parameter is one question mark and one position; any other piece is neither.
      rcases writePiece_cases hPiece with ⟨p, generated, rfl, _, hSlot⟩ | ⟨hLiteral, aliases, _, hM⟩
      · obtain ⟨i, name, new, N, hStep, rfl, hM⟩ := slot_step hSlot
        have hMark : M.positional.length = L.positional.length + 1 := by
          simp [hM, place, hStyle, PlaceholderStyle.repeats, hStep.positional]
        have hRestCount := ih hRest hTail (by rw [AliasesLack, aliases_param hPiece]; exact hL)
        have hOne : ((s.target.profile.placeholders.placeholder name (i + 1)).toList).count '?' =
            1 := by
          rw [hStyle]
          show "?".toList.count '?' = 1
          decide
        omega
      · have hParam : ∀ p generated, piece ≠ .param p generated := by
          intro p generated he
          rw [(hLiteral p generated he).1] at hMode
          cases hMode
        obtain ⟨hText, hNext⟩ := writePiece_worded law_unmarked ht.worded hPiece hParam hHead hL
        have hRestCount := ih hRest hTail hNext
        have hNone : text.toList.count '?' = 0 := List.count_eq_zero.mpr hText
        have hSame : M.positional = L.positional := by rw [hM]
        rw [hSame] at hRestCount
        omega

end SqlStatements.Ledger
