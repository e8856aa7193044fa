import Mathlib.Data.List.Nodup
import Mathlib.Data.List.Perm.Subperm
import SqlStatements.Identifier.Fresh

/-! A free name is found in time: the candidates differ, so there is one more of
them than there are names to avoid. -/
namespace SqlStatements

/-- A name that is found is not taken. -/
theorem firstFree?_not_mem {candidate : Nat → String} {taken : List String} {fuel start : Nat}
    {name : String} (h : firstFree? candidate taken fuel start = some name) : name ∉ taken := by
  induction fuel generalizing start with
  | zero => simp [firstFree?] at h
  | succ fuel ih =>
      rw [firstFree?] at h
      split at h
      · exact ih h
      · rename_i hFree
        simp only [Option.some.injEq] at h
        subst name
        simpa using hFree

/-- A fresh name is none of those taken. -/
theorem IdentifierRules.fresh_not_mem {rules : IdentifierRules} {base : String}
    {taken : List String} {start : Nat} {name : String}
    (h : rules.fresh base taken start = .ok name) : name ∉ taken := by
  rw [fresh] at h
  split at h
  · rename_i found hFound
    cases h
    exact firstFree?_not_mem hFound
  · cases h

/-- The name found is the first candidate that is not taken; all candidates
before it are taken. -/
theorem exists_of_firstFree? {candidate : Nat → String} {taken : List String} {fuel start : Nat}
    {name : String} (h : firstFree? candidate taken fuel start = some name) :
    ∃ i, name = candidate (start + i) ∧ ∀ j < i, candidate (start + j) ∈ taken := by
  induction fuel generalizing start with
  | zero => cases h
  | succ fuel ih =>
      rw [firstFree?] at h
      split at h
      · rename_i hTaken
        obtain ⟨i, hName, hEarlier⟩ := ih h
        refine ⟨i + 1, by rw [hName, Nat.add_right_comm, Nat.add_assoc], ?_⟩
        intro j hj
        cases j with
        | zero => simpa using hTaken
        | succ j =>
            have hNext := hEarlier j (Nat.lt_of_succ_lt_succ hj)
            rwa [Nat.add_right_comm, Nat.add_assoc] at hNext
      · cases h
        exact ⟨0, rfl, by simp⟩

/-- The name found is the first candidate that is free once cut to the limit:
all those before it are taken. -/
theorem IdentifierRules.exists_of_fresh {rules : IdentifierRules} {base : String}
    {taken : List String} {start : Nat} {name : String}
    (h : rules.fresh base taken start = .ok name) :
    ∃ i, name = rules.truncate (numbered base (start + i)) ∧
      ∀ j < i, rules.truncate (numbered base (start + j)) ∈ taken := by
  rw [fresh] at h
  split at h
  · rename_i found hFound
    cases h
    exact exists_of_firstFree? hFound
  · cases h

theorem toString_nat_injective : Function.Injective (toString : Nat → String) := by
  intro m n h
  have hDigits : Nat.toDigits 10 m = Nat.toDigits 10 n := by
    simpa only [Nat.toString_eq_repr, Nat.toList_repr] using congrArg String.toList h
  simpa using congrArg (fun digits => Nat.ofDigitChars 10 digits 0) hDigits

/-- Candidates with different numbers differ, the one without a number among
them. -/
theorem numbered_injective (base : String) : Function.Injective (numbered base) := by
  intro m n h
  have hMark : "_".length = 1 := rfl
  cases m with
  | zero =>
      cases n with
      | zero => rfl
      | succ n =>
          have hLength := congrArg String.length h
          simp only [numbered, String.length_append, hMark] at hLength
          omega
  | succ m =>
      cases n with
      | zero =>
          have hLength := congrArg String.length h
          simp only [numbered, String.length_append, hMark] at hLength
          omega
      | succ n => exact toString_nat_injective ((String.append_right_inj _).mp h)

/-- A search that finds nothing has met only names that are taken. -/
theorem mem_of_firstFree?_eq_none {candidate : Nat → String} {taken : List String}
    {fuel start : Nat} (h : firstFree? candidate taken fuel start = none) :
    ∀ i < fuel, candidate (start + i) ∈ taken := by
  induction fuel generalizing start with
  | zero =>
      intro i hi
      omega
  | succ fuel ih =>
      intro i hi
      rw [firstFree?] at h
      split at h
      · rename_i hTaken
        cases i with
        | zero => simpa using hTaken
        | succ i =>
            have hLater := ih h i (by omega)
            rwa [Nat.add_right_comm] at hLater
      · cases h

/-- A search that reaches a free candidate ends there, if not before. -/
theorem exists_firstFree?_of_free (candidate : Nat → String) {taken : List String}
    {fuel start i : Nat} (hi : i < fuel) (hFree : candidate (start + i) ∉ taken) :
    ∃ j ≤ i, firstFree? candidate taken fuel start = some (candidate (start + j)) ∧
      ∀ k < j, candidate (start + k) ∈ taken := by
  cases h : firstFree? candidate taken fuel start with
  | none => exact absurd (mem_of_firstFree?_eq_none h i hi) hFree
  | some name =>
      obtain ⟨j, rfl, hEarlier⟩ := exists_of_firstFree? h
      refine ⟨j, ?_, rfl, hEarlier⟩
      by_contra hLater
      exact hFree (hEarlier i (by omega))

/-- Of candidates that differ, one more than there are names taken, one is free.
Names cut to a limit need not differ. -/
theorem exists_free_candidate (candidate : Nat → String) {taken : List String} {start : Nat}
    (hInj : ∀ i ≤ taken.length, ∀ j ≤ taken.length,
      candidate (start + i) = candidate (start + j) → i = j) :
    ∃ i ≤ taken.length, candidate (start + i) ∉ taken := by
  by_contra hNone
  have hAll : ∀ i ≤ taken.length, candidate (start + i) ∈ taken := by
    intro i hi
    by_contra hFree
    exact hNone ⟨i, hi, hFree⟩
  have hSubset : (List.range (taken.length + 1)).map (fun i => candidate (start + i)) ⊆ taken := by
    intro name hName
    obtain ⟨i, hi, rfl⟩ := List.mem_map.mp hName
    exact hAll i (Nat.le_of_lt_succ (List.mem_range.mp hi))
  have hNodup : ((List.range (taken.length + 1)).map fun i => candidate (start + i)).Nodup := by
    refine List.Nodup.map_on ?_ List.nodup_range
    intro i hi j hj hSame
    exact hInj i (Nat.le_of_lt_succ (List.mem_range.mp hi)) j
      (Nat.le_of_lt_succ (List.mem_range.mp hj)) hSame
  have hLength := (hNodup.subperm hSubset).length_le
  rw [List.length_map, List.length_range] at hLength
  omega

/-- One candidate more than there are names taken is enough, since the
candidates differ. This is without a limit of names. -/
theorem exists_firstFree?_numbered (base : String) (taken : List String) :
    ∃ name, firstFree? (numbered base) taken (taken.length + 1) 0 = some name := by
  obtain ⟨i, hi, hFree⟩ : ∃ i ≤ taken.length, numbered base (0 + i) ∉ taken :=
    exists_free_candidate _ fun i _ j _ hSame =>
      Nat.add_left_cancel (numbered_injective base hSame)
  obtain ⟨j, -, hFound, -⟩ := exists_firstFree?_of_free _ (Nat.lt_succ_of_le hi) hFree
  exact ⟨_, hFound⟩

/-- A free name is none of those taken. -/
theorem freshName_not_mem (base : String) (taken : List String) : freshName base taken ∉ taken := by
  obtain ⟨name, hName⟩ := exists_firstFree?_numbered base taken
  rw [freshName, hName, Option.getD_some]
  exact firstFree?_not_mem hName

end SqlStatements
