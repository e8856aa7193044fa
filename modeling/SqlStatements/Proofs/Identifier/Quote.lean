import Mathlib.Logic.Function.Basic
import SqlStatements.Proofs.Dialect.Identity
import SqlStatements.Proofs.Identifier.Truncate

/-! Different names are written differently. A quoted name starts with a character that no
unquoted name starts with, and between the quotes nothing is lost. -/
namespace SqlStatements

/-- Doubling a character loses nothing: texts with the same outcome are the
same. -/
theorem Text.double_injective (mark : Char) : Function.Injective (Text.double mark) := by
  intro cs ds h
  induction cs generalizing ds with
  | nil =>
      cases ds with
      | nil => rfl
      | cons d ds =>
          rw [double, double] at h
          split at h <;> cases h
  | cons c cs ih =>
      cases ds with
      | nil =>
          rw [double, double] at h
          split at h <;> cases h
      | cons d ds =>
          rw [double, double] at h
          split at h
          · rename_i hc
            split at h
            · rename_i hd
              rw [hc, hd, ih (List.cons.inj (List.cons.inj h).2).2]
            · rename_i hd
              exact absurd (List.cons.inj h).1.symm hd
          · rename_i hc
            split at h
            · exact absurd (List.cons.inj h).1 hc
            · obtain ⟨rfl, hRest⟩ := List.cons.inj h
              rw [ih hRest]

namespace IdentifierRules

variable {rules : IdentifierRules}

/-- Unquoted names start with a letter or an underscore. -/
def isNameStart (c : Char) : Bool := Text.isLetter c || c == '_'

/-- A name without quotes is not empty, and its first character is one that a
name may start with. -/
theorem exists_start_of_unquoted {ident : String} (h : rules.requiresQuotes ident = false) :
    ∃ first rest, ident.toList = first :: rest ∧ isNameStart first = true := by
  rw [requiresQuotes] at h
  split at h
  · cases h
  · rename_i first rest hChars
    refine ⟨first, rest, hChars, ?_⟩
    simp only [Bool.or_eq_false_iff, Bool.not_eq_false'] at h
    exact h.1.1.2

theorem quoted_injective : Function.Injective rules.quoted := by
  intro ident other h
  have hChars := List.tail_eq_of_cons_eq (String.ofList_injective h)
  exact String.toList_injective (Text.double_injective _ (List.append_cancel_right hChars))

/-- A quoted name is no name that needs no quotes. -/
theorem quoted_ne_of_unquoted (hOpening : isNameStart rules.opening = false)
    {ident other : String} (h : rules.requiresQuotes other = false) :
    rules.quoted ident ≠ other := by
  intro hSame
  obtain ⟨first, rest, hChars, hStart⟩ := exists_start_of_unquoted h
  rw [← hSame, quoted, String.toList_ofList] at hChars
  rw [← (List.cons.inj hChars).1, hOpening] at hStart
  cases hStart

/-- Names that are written alike are the same, quoted or not. The opening quote
must be no start of a name. -/
theorem quote_injective (hOpening : isNameStart rules.opening = false) :
    Function.Injective rules.quote := by
  intro ident other h
  rw [quote, quote] at h
  split at h <;> split at h
  · exact quoted_injective h
  · rename_i _ hPlain
    exact absurd h (quoted_ne_of_unquoted hOpening (by simpa using hPlain))
  · rename_i hPlain _
    exact absurd h.symm (quoted_ne_of_unquoted hOpening (by simpa using hPlain))
  · exact h

/-- A name is written as it was cut exactly if there was nothing to cut: a name
that is too long never survives. -/
theorem quote_truncate_eq_iff (hOpening : isNameStart rules.opening = false) (name : String) :
    rules.quote name = rules.quote (rules.truncate name) ↔ name.length ≤ rules.maxLength := by
  constructor
  · intro h
    rw [quote_injective hOpening h]
    exact rules.length_truncate_le name
  · intro h
    rw [truncate_eq_self h]

end IdentifierRules

/-- No dialect has quotes that a name could start with. -/
theorem Profile.Identified.opening {identity : String} {p : Profile} (h : Identified identity p) :
    IdentifierRules.isNameStart p.opening = false := by
  cases h with
  | standard | postgres => decide
  | sqlServer driver textAsVarchar rest =>
      show IdentifierRules.isNameStart '[' = false
      decide

end SqlStatements
