import SqlStatements.Identifier.Rules

/-! Cutting a name to the limit of a dialect. A name within the limit stays as
it is, so cutting it once more changes nothing. -/
namespace SqlStatements

theorem Text.length_hex (capitals : Bool) (bytes : List UInt8) :
    (Text.hex capitals bytes).length = 2 * bytes.length := by
  induction bytes with
  | nil => rfl
  | cons b bytes ih =>
      simp only [Text.hex, List.flatMap_cons, List.length_append, List.length_cons,
        List.length_nil] at ih ⊢
      omega

namespace IdentifierRules

theorem length_fingerprint (name : String) : (fingerprint name).length = 8 := by
  rw [fingerprint, Text.length_hex, List.length_take, Sha256.length_digest]
  rfl

/-- A name within the limit is not touched. -/
theorem truncate_eq_self {rules : IdentifierRules} {name : String}
    (h : name.length ≤ rules.maxLength) : rules.truncate name = name :=
  if_pos h

/-- Any name is within the limit after that, however short the limit is. -/
theorem length_truncate_le (rules : IdentifierRules) (name : String) :
    (rules.truncate name).length ≤ rules.maxLength := by
  rw [truncate]
  split
  · assumption
  · simp only
    split
    · rw [String.length_ofList, List.length_take]
      exact Nat.min_le_left ..
    · rw [String.length_ofList, List.length_append, List.length_cons, length_fingerprint,
        List.length_take]
      omega

@[simp] theorem truncate_truncate (rules : IdentifierRules) (name : String) :
    rules.truncate (rules.truncate name) = rules.truncate name :=
  truncate_eq_self (rules.length_truncate_le name)

end IdentifierRules

end SqlStatements
