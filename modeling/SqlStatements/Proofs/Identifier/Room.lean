import Mathlib.Data.FinEnum
import Mathlib.Data.Set.Card
import Mathlib.Data.Set.Finite.List
import SqlStatements.Proofs.Identifier.Fresh
import SqlStatements.Proofs.Identifier.Truncate

/-! How long the limit on names has to be for a search to end. Candidates that fit are not
cut, so they differ, and one of them is free. Behind the limit there are only finitely many
names, so a search can find all of them taken. -/
namespace SqlStatements

/-- A larger number has no fewer digits. -/
theorem length_toString_mono {m n : Nat} (h : m ≤ n) :
    (toString m).length ≤ (toString n).length := by
  have hPositive : 0 < n.repr.length := Nat.length_repr_pos
  have hBound : n < 10 ^ n.repr.length := (Nat.length_repr_le_iff hPositive).mp le_rfl
  exact (Nat.length_repr_le_iff hPositive).mpr (Nat.lt_of_le_of_lt h hBound)

/-- Candidates only grow with their number. -/
theorem length_numbered_mono (base : String) {m n : Nat} (h : m ≤ n) :
    (numbered base m).length ≤ (numbered base n).length := by
  cases n with
  | zero => rw [Nat.le_zero.mp h]
  | succ n =>
      cases m with
      | zero =>
          rw [numbered, numbered, String.length_append, String.length_append]
          omega
      | succ m =>
          have hDigits := length_toString_mono h
          rw [numbered, numbered, String.length_append, String.length_append (base ++ "_")]
          omega

/-- There are finitely many names of a length. -/
theorem finite_length_le (n : Nat) : {name : String | name.length ≤ n}.Finite := by
  have : Finite Char := Finite.of_injective Char.val fun _ _ => Char.ext
  refine ((List.finite_length_le Char n).image String.ofList).subset ?_
  intro name hName
  exact ⟨name.toList, hName, String.ofList_toList⟩

namespace IdentifierRules

variable (rules : IdentifierRules) {base : String} {taken : List String} {start : Nat}

/-- Where the base with a number as high as needed is within the limit, the
search ends with the first free candidate as it is. -/
theorem fresh_of_room (h : (numbered base (start + taken.length)).length ≤ rules.maxLength) :
    ∃ i ≤ taken.length, rules.fresh base taken start = .ok (numbered base (start + i)) ∧
      numbered base (start + i) ∉ taken ∧ ∀ j < i, numbered base (start + j) ∈ taken := by
  have hKept : ∀ i ≤ taken.length,
      rules.truncate (numbered base (start + i)) = numbered base (start + i) := by
    intro i hi
    exact truncate_eq_self ((length_numbered_mono base (Nat.add_le_add_left hi start)).trans h)
  have hInj : ∀ i ≤ taken.length, ∀ j ≤ taken.length,
      rules.truncate (numbered base (start + i)) = rules.truncate (numbered base (start + j)) →
        i = j := by
    intro i hi j hj hSame
    rw [hKept i hi, hKept j hj] at hSame
    exact Nat.add_left_cancel (numbered_injective base hSame)
  obtain ⟨n, hn, hFree⟩ := exists_free_candidate (fun n => rules.truncate (numbered base n)) hInj
  have hFuel : n < searchLength taken := by
    rw [searchLength]
    omega
  obtain ⟨i, hi, hFound, hEarlier⟩ := exists_firstFree?_of_free
    (fun n => rules.truncate (numbered base n)) hFuel hFree
  have hFresh :
      rules.fresh base taken start = .ok (rules.truncate (numbered base (start + i))) := by
    rw [fresh, fresh?, hFound]
  have hOwn := hKept i (hi.trans hn)
  refine ⟨i, hi.trans hn, hOwn ▸ hFresh, hOwn ▸ fresh_not_mem hFresh, ?_⟩
  intro j hj
  rw [← hKept j (by omega)]
  exact hEarlier j hj

/-- A search ends in failure where every candidate is taken. Failures of this
kind name the base. -/
theorem fresh_eq_error (h : ∀ n, rules.truncate (numbered base n) ∈ taken) (start : Nat) :
    rules.fresh base taken start = .error (.noFreeName base) := by
  cases hFresh : rules.fresh? base taken start with
  | none => rw [fresh, hFresh]
  | some name =>
      have hFound : rules.fresh base taken start = .ok name := by rw [fresh, hFresh]
      obtain ⟨i, rfl, -⟩ := exists_of_fresh hFound
      exact absurd (h _) (fresh_not_mem hFound)

/-- The names within the limit can all be taken, because there are finitely many
of them. -/
theorem exists_all_taken : ∃ taken : List String, ∀ name, rules.truncate name ∈ taken := by
  obtain ⟨taken, hTaken⟩ := (finite_length_le rules.maxLength).exists_finset
  refine ⟨taken.toList, ?_⟩
  intro name
  rw [Finset.mem_toList, hTaken]
  exact rules.length_truncate_le name

/-- Names within the limit that differ are no more than there are such names. -/
theorem length_le_ncard {names : List String} (hNodup : names.Nodup)
    (hFit : ∀ name ∈ names, name.length ≤ rules.maxLength) :
    names.length ≤ {name : String | name.length ≤ rules.maxLength}.ncard := by
  rw [← List.toFinset_card_of_nodup hNodup, ← Set.ncard_coe_finset]
  refine Set.ncard_le_ncard ?_ (finite_length_le _)
  intro name hName
  exact hFit name (by simpa using hName)

end IdentifierRules

end SqlStatements
