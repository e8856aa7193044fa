import SqlStatements.Execution.Session
import SqlStatements.Proofs.Execution.Dialogue

/-! What one step of a session can do. A session that may have to permit values
for a generated column is used in cycles: it prepares a statement, it may be
asked for ids, and it is restored. Permission, table and values are kept in
fields of their own, and what ties them together is shown here. -/
namespace SqlStatements.IdentitySession

variable {s s' : IdentitySession} {c : Compiled} {bound : Bound} {cur : Cursor}

/-- The plan to run a statement as it is, in the time that the session
allows. -/
def plainPlan (s : IdentitySession) (c : Compiled) (bound : Bound) : Plan :=
  { c.plan bound with timeout := s.timeout }

/-- The session once it has permitted values for the generated column. -/
def permitting (s : IdentitySession) (table : String) (ids : List Value) : IdentitySession :=
  { s with state := .permitted, pending := some table, known := some ids }

/-- What the preparation of a statement can come to: a permission in front of
it, a query for the id behind it, or neither. -/
inductive Prepares (s : IdentitySession) (c : Compiled) (bound : Bound) :
    Plan × IdentitySession → Prop where
  | permit (info : InsertInfo) (ids : List Value) (hInsert : c.insert = some info)
      (hIds : info.explicitIds? bound = some ids) (hAuto : s.auto = true) :
      Prepares s c bound
        ({ s.plainPlan c bound with preamble := [permit (s.rules.table info.table true)] },
          s.permitting (s.rules.table info.table true) ids)
  | batch (info : InsertInfo) (hInsert : c.insert = some info)
      (hIds : info.explicitIds? bound = none) (hFetches : info.fetchesId = true)
      (hFetch : s.fetch = .batched) :
      Prepares s c bound
        ({ s.plainPlan c bound with sql := c.sql ++ batchSuffix, inBatch := true }, s)
  | plain (hUngiven : ∀ info ids, c.insert = some info → info.explicitIds? bound = some ids →
        s.auto = false)
      (hUnbatched : ∀ info, c.insert = some info → info.explicitIds? bound = none →
        info.fetchesId = true → s.fetch ≠ .batched) :
      Prepares s c bound (s.plainPlan c bound, s)

/-- Preparation comes to one of three plans, depending on whether ids are given,
are to be fetched, or neither. -/
theorem prepares (s : IdentitySession) (c : Compiled) (bound : Bound) :
    s.Prepares c bound (s.prepare c bound) := by
  unfold prepare
  split
  · rename_i hInsert
    exact .plain (by simp [hInsert]) (by simp [hInsert])
  · rename_i info hInsert
    split
    · rename_i ids hIds
      split
      · rename_i hAuto
        exact .permit info ids hInsert hIds hAuto
      · rename_i hAuto
        exact .plain (fun _ _ _ _ => by simpa using hAuto) (by simp [hInsert, hIds])
    · rename_i hIds
      split
      · rename_i hBatch
        exact .batch info hInsert hIds hBatch.1 hBatch.2
      · rename_i hBatch
        refine .plain ?_ (by simpa [hInsert, hIds] using hBatch)
        intro info' ids hInfo hGiven
        rw [hInsert] at hInfo
        cases hInfo
        rw [hIds] at hGiven
        cases hGiven

/-- The cases are told apart by what they require, so they give back the
preparation itself. -/
theorem Prepares.eq {prepared : Plan × IdentitySession} (h : s.Prepares c bound prepared) :
    s.prepare c bound = prepared := by
  cases h with
  | permit info ids hInsert hIds hAuto =>
      simp only [prepare, hInsert, hIds, if_pos hAuto]
      rfl
  | batch info hInsert hIds hFetches hFetch =>
      simp only [prepare, hInsert, hIds, if_pos (And.intro hFetches hFetch)]
      rfl
  | plain hUngiven hUnbatched =>
      unfold prepare
      split
      · rfl
      · rename_i info hInsert
        split
        · rename_i ids hIds
          rw [if_neg (by simp [hUngiven info ids hInsert hIds])]
          rfl
        · rename_i hIds
          rw [if_neg (fun hBatch => hUnbatched info hInsert hIds hBatch.1 hBatch.2)]
          rfl

/-- A permission is withdrawn once. The answer of the driver is not looked
at. -/
theorem run_restore_permitted {table : String} (hState : s.state = .permitted)
    (hPending : s.pending = some table) :
    s.restore.run cur =
      ({ s with state := .restored, pending := none }, cur.after (withdraw table) []) := by
  rw [restore, if_pos hState, hPending]
  show (_, ((Cursor.execute (withdraw table) []).run.run cur).2) = _
  rw [Cursor.run_execute]

/-- Nothing is sent where nothing was permitted, so restoring twice withdraws
once. -/
theorem run_restore_other (hState : s.state ≠ .permitted) : s.restore.run cur = (s, cur) := by
  rw [restore, if_neg hState]
  rfl

/-- Asking for ids is a single query at most, and goes by the permission, by the
values known and by the way to fetch ids. -/
theorem ids_congr (hFetch : s.fetch = s'.fetch)
    (hState : s.state = .permitted ↔ s'.state = .permitted)
    (hKnown : s.state = .permitted → s.known = s'.known) (c : Compiled) (plan : Plan)
    (rows : List Row) : s.ids c plan rows = s'.ids c plan rows := by
  rw [ids, ids]
  split
  · rfl
  · by_cases hPermitted : s.state = .permitted
    · rw [if_pos hPermitted, if_pos (hState.mp hPermitted), hKnown hPermitted]
    · rw [if_neg hPermitted, if_neg (hPermitted ∘ hState.mpr), hFetch]

/-- Ids are known without asking the driver, or fetched by one query. The latter
only where no values were permitted. -/
theorem ids_cases (s : IdentitySession) (c : Compiled) (plan : Plan) (rows : List Row) :
    (∃ found, s.ids c plan rows = pure found) ∨
    (∃ query, s.fetch = .separate query ∧ s.state ≠ .permitted ∧
      s.ids c plan rows = do return (← fetchValue query).map ([·])) := by
  unfold ids
  split
  · exact .inl ⟨none, rfl⟩
  · rename_i info _
    split
    · exact .inl ⟨_, rfl⟩
    · rename_i hState
      split
      · exact .inl ⟨_, rfl⟩
      · split
        · rename_i query hFetch
          cases info.fetchesId with
          | true => exact .inr ⟨query, hFetch, hState, rfl⟩
          | false => exact .inl ⟨none, rfl⟩
        · exact .inl ⟨none, rfl⟩

/-- The ids that were given are reported without asking the server, and an empty
list counts as none. -/
theorem run_ids_of_permitted {known : List Value} (hState : s.state = .permitted)
    (hKnown : s.known = some known) {info : InsertInfo} (hInsert : c.insert = some info)
    (plan : Plan) (rows : List Row) :
    s.ids c plan rows = pure (if known.isEmpty then none else some known) := by
  rw [ids, hInsert]
  simp only [if_pos hState, hKnown]
  cases known <;> rfl

end SqlStatements.IdentitySession
