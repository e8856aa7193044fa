import SqlStatements.Draft.Heading
import SqlStatements.Proofs.Identifier.Room

/-! The search for a free name from its first candidate to its last, and what is left of a name
that was cut. Where the base leaves room for the number of names in use, the search ends at the
least number that is free, which is no higher than that. -/
namespace SqlStatements

/-- The digits that bytes are written with, in small letters. -/
def Text.smallHexDigits : List Char := "0123456789abcdef".toList

/-- Bytes are written with small letters. -/
theorem Text.mem_smallHexDigits {bytes : List UInt8} {c : Char} (h : c ∈ hex false bytes) :
    c ∈ smallHexDigits := by
  have hDigit : ∀ n < 16, hexDigit false n ∈ smallHexDigits := by decide
  obtain ⟨b, -, h⟩ := List.mem_flatMap.mp h
  have hByte := b.toNat_lt
  rcases List.mem_cons.mp h with rfl | h
  · exact hDigit _ (by omega)
  · rw [List.mem_singleton.mp h]
    exact hDigit _ (by omega)

/-- How a search goes whose first free candidate is known: it ends there, unless
it is given up before. -/
theorem firstFree?_eq_ite {candidate : Nat → String} {taken : List String} {start k : Nat}
    (hFree : candidate (start + k) ∉ taken) (hEarlier : ∀ j < k, candidate (start + j) ∈ taken)
    (fuel : Nat) :
    firstFree? candidate taken fuel start =
      if k < fuel then some (candidate (start + k)) else none := by
  induction fuel generalizing start k with
  | zero => rfl
  | succ fuel ih =>
      rw [firstFree?]
      cases k with
      | zero => simp_all
      | succ k =>
          have hTaken : candidate start ∈ taken := hEarlier 0 (Nat.succ_pos k)
          have hNext : ∀ j, start + 1 + j = start + (j + 1) := by omega
          rw [if_pos (by simpa using hTaken), ih (k := k)]
          · simp only [hNext, Nat.add_lt_add_iff_right]
          · rwa [hNext]
          · intro j hj
            rw [hNext]
            exact hEarlier (j + 1) (Nat.add_lt_add_right hj 1)

theorem length_numbered_le (base : String) (n : Nat) :
    (numbered base n).length ≤ (base ++ "_" ++ toString n).length := by
  cases n with
  | zero =>
      rw [numbered, String.length_append, String.length_append]
      omega
  | succ n => exact le_rfl

namespace IdentifierRules

variable {rules : IdentifierRules} {base : String} {used : List String}

/-- Where the base leaves room for the number of names in use, one of the first
candidates is free, and none up to there is cut. -/
theorem exists_least_free
    (h : (base ++ "_" ++ toString used.toFinset.card).length ≤ rules.maxLength) :
    ∃ k ≤ used.toFinset.card, numbered base k ∉ used ∧ (∀ j < k, numbered base j ∈ used) ∧
      ∀ j ≤ k, rules.truncate (numbered base j) = numbered base j := by
  have hFree : ∃ k ≤ used.toFinset.card, numbered base k ∉ used := by
    -- The names in use are counted once each, so it is the list without repetitions that the
    -- candidates outnumber.
    obtain ⟨k, hk, hFree⟩ : ∃ k ≤ used.dedup.length, numbered base (0 + k) ∉ used.dedup :=
      exists_free_candidate (numbered base) fun i _ j _ hSame =>
        Nat.add_left_cancel (numbered_injective base hSame)
    rw [Nat.zero_add, List.mem_dedup] at hFree
    exact ⟨k, hk.trans_eq (List.card_toFinset used).symm, hFree⟩
  have hLeast := Nat.find_spec hFree
  refine ⟨Nat.find hFree, hLeast.1, hLeast.2, ?_, ?_⟩
  · intro j hj
    by_contra hTaken
    exact Nat.find_min hFree hj ⟨(Nat.le_of_lt hj).trans hLeast.1, hTaken⟩
  · intro j hj
    refine truncate_eq_self (Nat.le_trans ?_ h)
    exact (length_numbered_mono base (hj.trans hLeast.1)).trans (length_numbered_le base _)

/-- A fingerprint has eight hexadecimal digits and no other character. -/
theorem fingerprint_digits (name : String) :
    (fingerprint name).length = 8 ∧ ∀ c ∈ fingerprint name, c ∈ Text.smallHexDigits :=
  ⟨length_fingerprint name, fun _ => Text.mem_smallHexDigits⟩

/-- Where there is room, a name that is too long keeps its first characters, and
an underscore and its fingerprint follow. -/
theorem toList_truncate_of_room {name : String} (hLong : rules.maxLength < name.length)
    (hRoom : 9 < rules.maxLength) :
    (rules.truncate name).toList =
      name.toList.take (rules.maxLength - 9) ++ '_' :: fingerprint name := by
  rw [truncate, if_neg (Nat.not_le_of_lt hLong)]
  simp only
  rw [if_neg (by omega), String.toList_ofList]

/-- Where there is room for nothing else, as much of the fingerprint as fits is
all that is left. -/
theorem toList_truncate_of_no_room {name : String} (hLong : rules.maxLength < name.length)
    (hRoom : rules.maxLength ≤ 9) :
    (rules.truncate name).toList = (fingerprint name).take rules.maxLength := by
  rw [truncate, if_neg (Nat.not_le_of_lt hLong)]
  simp only
  rw [if_pos (by omega), String.toList_ofList]

/-- Names under any rules. If the base followed by an underscore and the number of names in use
is within the limit, the search for a free name ends, after no more steps than there are such
names: with the base itself if it is free, and otherwise with the base and the least number
that makes it free. From then on that name is in use, besides those that were before.

A name within the limit stays as it is. A longer one is cut to its first characters, an
underscore and eight digits of its fingerprint, or to digits alone if the limit has no room for
more; it is then within the limit, and cutting it again changes nothing. -/
theorem fresh_least_and_truncate_bounded (rules : IdentifierRules) :
    (∀ (base : String) (used : List String),
      (base ++ "_" ++ toString used.toFinset.card).length ≤ rules.maxLength →
      ∃ (k : Nat) (name : String), k ≤ used.toFinset.card ∧
        (∀ fuel, firstFree? (fun n => rules.truncate (numbered base n)) used fuel 0 =
          if k < fuel then some name else none) ∧
        rules.fresh base used 0 = .ok name ∧
        (base ∉ used → k = 0 ∧ name = base) ∧
        (base ∈ used → 1 ≤ k ∧ name = base ++ "_" ++ toString k ∧ name ∉ used ∧
          ∀ j, 1 ≤ j → j < k → base ++ "_" ++ toString j ∈ used) ∧
        ∀ rest, rules.freshAll used (base :: rest) =
          (rules.freshAll (name :: used) rest).map (name :: ·)) ∧
    ∀ name : String,
      (name.length ≤ rules.maxLength → rules.truncate name = name) ∧
      (rules.maxLength < name.length → 9 < rules.maxLength →
        (rules.truncate name).toList =
          name.toList.take (rules.maxLength - 9) ++ '_' :: fingerprint name) ∧
      (rules.maxLength < name.length → rules.maxLength ≤ 9 →
        (rules.truncate name).toList = (fingerprint name).take rules.maxLength) ∧
      (fingerprint name).length = 8 ∧ (∀ c ∈ fingerprint name, c ∈ Text.smallHexDigits) ∧
      (rules.truncate name).length ≤ rules.maxLength ∧
      rules.truncate (rules.truncate name) = rules.truncate name := by
  refine ⟨fun base used hRoom => ?_, fun name => ?_⟩
  · obtain ⟨k, hk, hFree, hEarlier, hKept⟩ := exists_least_free hRoom
    have hSearch : ∀ fuel, firstFree? (fun n => rules.truncate (numbered base n)) used fuel 0 =
        if k < fuel then some (numbered base k) else none := by
      intro fuel
      rw [firstFree?_eq_ite (k := k)]
      · rw [Nat.zero_add, hKept k le_rfl]
      · rwa [Nat.zero_add, hKept k le_rfl]
      · intro j hj
        rw [Nat.zero_add, hKept j (Nat.le_of_lt hj)]
        exact hEarlier j hj
    have hFresh : rules.fresh base used 0 = .ok (numbered base k) := by
      have hLength := used.toFinset_card_le
      rw [fresh, fresh?, hSearch, if_pos (by rw [searchLength]; omega)]
    refine ⟨k, numbered base k, hk, hSearch, hFresh, ?_, ?_, ?_⟩
    · intro hBase
      cases k with
      | zero => exact ⟨rfl, rfl⟩
      | succ k => exact absurd (hEarlier 0 (Nat.succ_pos k)) hBase
    · intro hBase
      cases k with
      | zero => exact absurd hBase hFree
      | succ k =>
          refine ⟨Nat.succ_pos k, rfl, hFree, ?_⟩
          intro j hPositive hj
          obtain ⟨i, rfl⟩ := Nat.exists_eq_succ_of_ne_zero (Nat.ne_of_gt hPositive)
          exact hEarlier (i + 1) hj
    · intro rest
      rw [freshAll, hFresh]
      show (rules.freshAll (numbered base k :: used) rest >>= fun names => pure (_ :: names)) = _
      cases rules.freshAll (numbered base k :: used) rest <;> rfl
  · obtain ⟨hLength, hDigits⟩ := fingerprint_digits name
    exact ⟨truncate_eq_self, toList_truncate_of_room, toList_truncate_of_no_room, hLength, hDigits,
      rules.length_truncate_le name, rules.truncate_truncate name⟩

/-- With room for one number only, two names in use leave the second number: the
limit is just enough. A longer base is cut to its fingerprint. -/
theorem fresh_least_and_truncate_bounded_short :
    let rules : IdentifierRules :=
      { opening := '"', closing := '"', reserved := [], foldsCase := true, maxLength := 4 }
    rules.fresh "id" ["id_1", "id", "id"] 0 = .ok "id_2" ∧
      rules.freshAll ["id_1", "id", "id"] ["id", "id"] =
        (rules.freshAll ["id_2", "id_1", "id", "id"] ["id"]).map ("id_2" :: ·) ∧
      (rules.truncate "identity").toList = (fingerprint "identity").take 4 := by
  intro rules
  have hAll := fresh_least_and_truncate_bounded rules
  obtain ⟨k, name, hk, hSearch, hFresh, -, hTaken, hGrown⟩ :=
    hAll.1 "id" ["id_1", "id", "id"] (by decide)
  have hFound : firstFree? (fun n => rules.truncate (numbered "id" n)) ["id_1", "id", "id"] 3 0 =
      some "id_2" := by decide
  rw [hSearch, Option.ite_none_right_eq_some] at hFound
  obtain ⟨-, ⟨⟩⟩ := hFound
  exact ⟨hFresh, hGrown ["id"], (hAll.2 "identity").2.2.1 (by decide) (by decide)⟩

end IdentifierRules

end SqlStatements
