import SqlStatements.Proofs.Execution.Session

/-! One session that is used again and again. Each cycle leaves it at rest, with
nothing permitted, although the values of the last permission are still around;
so no cycle can be told from the first one of a new session. -/
namespace SqlStatements

/-- One use of a session: a statement is prepared, ids may be asked for with the
rows that it yielded, and the session is restored. -/
structure Cycle where
  compiled : Compiled
  bound : Bound
  /-- The rows with which ids are asked for, if they are. -/
  rows : Option (List Row)

def Cycle.ids (cycle : Cycle) (prepared : Plan × IdentitySession) :
    StateM Cursor (Option (Except Error (Option (List Value)))) :=
  match cycle.rows with
  | none => return none
  | some rows => return some (← (prepared.2.ids cycle.compiled prepared.1 rows).run)

/-- Asking for ids adds to the log and does not look at it. What it finds
depends on the answers that are left. -/
theorem Cycle.run_ids (cycle : Cycle) (prepared : Plan × IdentitySession) (script : List Reply) :
    ∃ found rest calls, ∀ log,
      (cycle.ids prepared).run ⟨script, log⟩ = (found, ⟨rest, log ++ calls⟩) := by
  unfold Cycle.ids
  split
  · exact ⟨none, script, [], fun log => by rw [List.append_nil]; rfl⟩
  · rename_i rows _
    rcases IdentitySession.ids_cases prepared.2 cycle.compiled prepared.1 rows with
      ⟨found, hKnown⟩ | ⟨query, _, _, hQuery⟩
    · rw [hKnown]
      exact ⟨some (.ok found), script, [], fun log => by rw [List.append_nil]; rfl⟩
    · refine ⟨some (((replyAt script 0).result.map firstValue).map fun id => id.map ([·])),
        script.tail, [.execute query []], ?_⟩
      intro log
      have hFetch :=
        Dialogue.run_bind_pure (fetchValue query) (fun id => id.map ([·])) ⟨script, log⟩
      rw [run_fetchValue] at hFetch
      rw [hQuery, StateT.run_bind, hFetch]
      rfl

namespace IdentitySession

/-- Takes a session through a cycle. -/
def cycle (s : IdentitySession) (cycle : Cycle) : StateM Cursor IdentitySession := do
  let prepared := s.prepare cycle.compiled cycle.bound
  let _ ← cycle.ids prepared
  prepared.2.restore

def cycles (s : IdentitySession) : List Cycle → StateM Cursor IdentitySession
  | [] => return s
  | first :: rest => do (← s.cycle first).cycles rest

/-- A new session that is set up in the same way. -/
def renewed (s : IdentitySession) : IdentitySession :=
  { rules := s.rules, auto := s.auto, fetch := s.fetch, timeout := s.timeout }

/-- Nothing is permitted, and no table waits for a withdrawal. -/
structure AtRest (s : IdentitySession) : Prop where
  state : s.state ≠ .permitted
  pending : s.pending = none

/-- Values are permitted exactly as long as a table waits for the withdrawal. -/
def Consistent (s : IdentitySession) : Prop := s.state = .permitted ↔ s.pending.isSome = true

variable {s : IdentitySession}

/-- A session at rest permits nothing and has no table that waits, so the two
agree. -/
theorem AtRest.consistent (h : s.AtRest) : s.Consistent := by
  simp [Consistent, h.state, h.pending]

theorem consistent_permitting (s : IdentitySession) (table : String) (ids : List Value) :
    (s.permitting table ids).Consistent := by
  simp [Consistent, permitting]

/-- What preparing a statement does to a session shows in the plan: a permission
in front, or a session as it was. -/
theorem prepare_session (s : IdentitySession) (c : Compiled) (bound : Bound) :
    (∃ table ids, (s.prepare c bound).1.preamble = [permit table] ∧
      (s.prepare c bound).2 = s.permitting table ids) ∨
    ((s.prepare c bound).1.preamble = [] ∧ (s.prepare c bound).2 = s) := by
  have hPrepares := prepares s c bound
  generalize s.prepare c bound = prepared at hPrepares ⊢
  cases hPrepares with
  | permit info ids => exact .inl ⟨_, ids, rfl, rfl⟩
  | batch | plain => exact .inr ⟨rfl, rfl⟩

/-- A session that has permitted values sends the withdrawal and is restored,
whatever the driver answers. -/
theorem run_restore_permitting (s : IdentitySession) (table : String) (ids : List Value)
    (cur : Cursor) :
    (s.permitting table ids).restore.run cur =
      ({ s.permitting table ids with state := .restored, pending := none },
        cur.after (withdraw table) []) :=
  run_restore_permitted rfl rfl

/-- After a statement was prepared, restoring the session withdraws what the
plan permitted and leaves the session at rest. -/
theorem AtRest.restore (h : s.AtRest) (c : Compiled) (bound : Bound) (cur : Cursor) :
    ((s.prepare c bound).2.restore.run cur).1.AtRest ∧
      ((s.prepare c bound).2.restore.run cur).1.renewed = s.renewed ∧
      ((∃ table, (s.prepare c bound).1.preamble = [permit table] ∧
          ((s.prepare c bound).2.restore.run cur).2 = cur.after (withdraw table) []) ∨
        ((s.prepare c bound).1.preamble = [] ∧
          ((s.prepare c bound).2.restore.run cur).2 = cur)) := by
  rcases prepare_session s c bound with ⟨table, ids, hPlan, hSession⟩ | ⟨hPlan, hSession⟩
  · rw [hSession, run_restore_permitting]
    exact ⟨⟨by simp, rfl⟩, rfl, .inl ⟨table, hPlan, rfl⟩⟩
  · rw [hSession, run_restore_other h.state]
    exact ⟨h, rfl, .inr ⟨hPlan, rfl⟩⟩

/-- Between two cycles a session is at rest, and set up as it was. This holds
for any statements and any answers. -/
theorem AtRest.cycles (h : s.AtRest) (history : List Cycle) (cur : Cursor) :
    ((s.cycles history).run cur).1.AtRest ∧
      ((s.cycles history).run cur).1.renewed = s.renewed := by
  induction history generalizing s cur with
  | nil => exact ⟨h, rfl⟩
  | cons first rest ih =>
      obtain ⟨hRest, hRenewed, _⟩ := h.restore first.compiled first.bound
        ((first.ids (s.prepare first.compiled first.bound)).run cur).2
      have hNext := ih hRest ((s.cycle first).run cur).2
      rw [hRenewed] at hNext
      exact hNext

/-- A new session prepares a statement as one does that has been used: the plan
is the same, and so is what happens to the session. -/
theorem prepare_renewed (s : IdentitySession) (c : Compiled) (bound : Bound) :
    (s.renewed.prepare c bound).1 = (s.prepare c bound).1 ∧
      ((∃ table ids, (s.prepare c bound).2 = s.permitting table ids ∧
          (s.renewed.prepare c bound).2 = s.renewed.permitting table ids) ∨
        ((s.prepare c bound).2 = s ∧ (s.renewed.prepare c bound).2 = s.renewed)) := by
  have hPrepares := prepares s c bound
  generalize s.prepare c bound = prepared at hPrepares ⊢
  cases hPrepares with
  | permit info ids hInsert hIds hAuto =>
      rw [(Prepares.permit info ids hInsert hIds hAuto : s.renewed.Prepares c bound _).eq]
      exact ⟨rfl, .inl ⟨_, ids, rfl, rfl⟩⟩
  | batch info hInsert hIds hFetches hFetch =>
      rw [(Prepares.batch info hInsert hIds hFetches hFetch : s.renewed.Prepares c bound _).eq]
      exact ⟨rfl, .inr ⟨rfl, rfl⟩⟩
  | plain hUngiven hUnbatched =>
      rw [(Prepares.plain hUngiven hUnbatched : s.renewed.Prepares c bound _).eq]
      exact ⟨rfl, .inr ⟨rfl, rfl⟩⟩

/-- The ids do not depend on the past of the session either, if it was at rest
when the statement was prepared. -/
theorem AtRest.ids_renewed (h : s.AtRest) (cycle : Cycle) :
    cycle.ids (s.renewed.prepare cycle.compiled cycle.bound) =
      cycle.ids (s.prepare cycle.compiled cycle.bound) := by
  obtain ⟨hPlan, hSession⟩ := prepare_renewed s cycle.compiled cycle.bound
  unfold Cycle.ids
  split
  · rfl
  · rename_i rows _
    have hIds : ∀ plan,
        (s.renewed.prepare cycle.compiled cycle.bound).2.ids cycle.compiled plan rows =
          (s.prepare cycle.compiled cycle.bound).2.ids cycle.compiled plan rows := by
      intro plan
      rcases hSession with ⟨table, ids, hUsed, hNew⟩ | ⟨hUsed, hNew⟩
      · rw [hUsed, hNew]
        exact ids_congr rfl Iff.rfl (fun _ => rfl) ..
      · rw [hUsed, hNew]
        refine ids_congr (show s.renewed.fetch = s.fetch from rfl) ?_ ?_ ..
        · simp [h.state, renewed]
        · simp [renewed]
    rw [hPlan, hIds]

/-- What a session does in a cycle is the same however often it has been used
before, and whatever the driver answers. Values are permitted exactly as long as
a table waits for the withdrawal. If the plan starts with a permission,
restoring the session withdraws it by one statement for the same table, and
otherwise sends nothing; restoring it once more sends nothing in any case. The
plan and the ids are those of a new session that gets the same answers. -/
theorem cycle_after_cycles (rules : IdentifierRules) (auto : Bool) (fetch : IdFetch)
    (timeout : Option Nat) (history : List Cycle) (cycle : Cycle) (cur : Cursor) :
    let new : IdentitySession := { rules, auto, fetch, timeout }
    let before := (new.cycles history).run cur
    let prepared := before.1.prepare cycle.compiled cycle.bound
    let asked := (cycle.ids prepared).run before.2
    let restored := prepared.2.restore.run asked.2
    (∀ s ∈ [before.1, prepared.2, restored.1], s.state = .permitted ↔ s.pending.isSome = true) ∧
    ((∃ table, prepared.1.preamble = [permit table] ∧ restored.2.script = asked.2.script.tail ∧
        restored.2.log = asked.2.log ++ [.execute (withdraw table) []]) ∨
      prepared.1.preamble = [] ∧ restored.2 = asked.2) ∧
    (∀ cur, restored.1.restore.run cur = (restored.1, cur)) ∧
    prepared.1 = (new.prepare cycle.compiled cycle.bound).1 ∧
    ∃ calls, asked.2.log = before.2.log ++ calls ∧
      (cycle.ids (new.prepare cycle.compiled cycle.bound)).run ⟨before.2.script, []⟩ =
        (asked.1, ⟨asked.2.script, calls⟩) := by
  intro new before prepared asked restored
  have hStart : new.AtRest := ⟨by simp [new], rfl⟩
  obtain ⟨hBefore, hNew⟩ : before.1.AtRest ∧ before.1.renewed = new := hStart.cycles history cur
  obtain ⟨hRestored, _, hWithdraws⟩ := hBefore.restore cycle.compiled cycle.bound asked.2
  have hPrepared : prepared.2.Consistent := by
    rcases prepare_session before.1 cycle.compiled cycle.bound with
      ⟨table, ids, _, hSession⟩ | ⟨_, hSession⟩
    · exact hSession ▸ consistent_permitting before.1 table ids
    · exact hSession ▸ hBefore.consistent
  have hPlan := (prepare_renewed before.1 cycle.compiled cycle.bound).1
  have hIds := hBefore.ids_renewed cycle
  rw [hNew] at hPlan hIds
  refine ⟨?_, ?_, fun _ => run_restore_other hRestored.state, hPlan.symm, ?_⟩
  · simp only [List.forall_mem_cons]
    exact ⟨hBefore.consistent, hPrepared, hRestored.consistent, by simp⟩
  · rcases hWithdraws with ⟨table, hPermit, hCursor⟩ | hNothing
    · exact .inl ⟨table, hPermit, congrArg Cursor.script hCursor, congrArg Cursor.log hCursor⟩
    · exact .inr hNothing
  · obtain ⟨found, rest, calls, hRun⟩ := cycle.run_ids prepared before.2.script
    have hAsked : asked = (found, ⟨rest, before.2.log ++ calls⟩) := hRun before.2.log
    refine ⟨calls, by rw [hAsked], ?_⟩
    rw [hIds, hAsked]
    exact hRun []

end IdentitySession

end SqlStatements
