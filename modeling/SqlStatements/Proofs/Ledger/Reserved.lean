import SqlStatements.Compiled.Ledger

/-! The names that are kept for shared parameters form a set: in what order they are listed
makes no difference to what is written out. -/
namespace SqlStatements

/-- Only which names are taken matters for the search, not their order. -/
theorem firstFree?_congr {candidate : Nat → String} {taken taken' : List String}
    (h : ∀ name, name ∈ taken ↔ name ∈ taken') (fuel start : Nat) :
    firstFree? candidate taken fuel start = firstFree? candidate taken' fuel start := by
  induction fuel generalizing start with
  | zero => rfl
  | succ fuel ih =>
      have hContains : taken.contains (candidate start) = taken'.contains (candidate start) := by
        rw [Bool.eq_iff_iff, List.contains_iff_mem, List.contains_iff_mem, h]
      rw [firstFree?, firstFree?, hContains, ih]

theorem IdentifierRules.fresh_perm (rules : IdentifierRules) (base : String) (start : Nat)
    {taken taken' : List String} (h : taken.Perm taken') :
    rules.fresh base taken start = rules.fresh base taken' start := by
  rw [fresh, fresh, fresh?, fresh?, searchLength, searchLength, h.length_eq,
    firstFree?_congr fun _ => h.mem_iff]

namespace Ledger

variable {s : Setting} {names : List String} (h : s.reserved.Perm names)

include h

/-- The order of the reserved names does not matter for a parameter. -/
theorem bind_perm (L : Ledger) (p : BindParam) :
    L.bind { s with reserved := names } p = L.bind s p := by
  have hTaken := h.append_left (L.binds.map (·.name))
  rw [bind, bind, s.target.rules.fresh_perm p.key 0 hTaken]

theorem slot_perm (L : Ledger) (p : BindParam) (generated : Bool) :
    L.slot { s with reserved := names } p generated = L.slot s p generated := by
  rw [slot, slot, bind_perm h]

theorem writePiece_perm (L : Ledger) (piece : Piece) :
    L.writePiece { s with reserved := names } piece = L.writePiece s piece := by
  cases piece with
  | param p generated => rw [writePiece, writePiece, slot_perm h]; rfl
  | text | name | table | source | qualifier | stop => rfl

/-- The order of the reserved names does not matter for anything that is written
out. -/
theorem write_perm (L : Ledger) (d : Draft) :
    L.write { s with reserved := names } d = L.write s d := by
  induction d generalizing L with
  | nil => rfl
  | cons piece d ih => simp only [write, writePiece_perm h, ih]

end Ledger

end SqlStatements
