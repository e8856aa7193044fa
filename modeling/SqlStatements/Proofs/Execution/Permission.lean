import SqlStatements.Proofs.Dialect.SqlServer
import SqlStatements.Proofs.Draft.Opening
import SqlStatements.Proofs.Execution.Run

/-! Permissions around an execution on SQL Server. A permission is the first
statement that is sent, and its withdrawal is the last one, whatever the driver
answers in between. Nothing else that is sent can be mistaken for either. -/
namespace SqlStatements

open IdentitySession

namespace Sample

/-- A row with a value for the id, which the server would generate. -/
def given : Statement :=
  .insert
    { table := accounts
      source := .rows ["id", "balance"]
        [[.param ⟨"id", some (.int 7), .of .integer, false⟩,
          .param ⟨"balance", some (.int 0), .of .integer, false⟩]]
      returning := [] }

end Sample

/-- An insertion gives values for the generated column: in its text, or by a
parameter that is not null. -/
def InsertInfo.GivesIdentity (info : InsertInfo) (bound : Bound) : Prop :=
  match info.identity with
  | none => False
  | some .inline => True
  | some (.bound names) => ∃ name ∈ names, ∃ v, bound.lookup name = some v ∧ v.isNull = false

/-- An insertion gives values for the generated column exactly if a session
takes any for explicit. -/
theorem InsertInfo.givesIdentity_iff (info : InsertInfo) (bound : Bound) :
    info.GivesIdentity bound ↔ ∃ ids, info.explicitIds? bound = some ids := by
  obtain ⟨table, generated, identity, fetchesId⟩ := info
  cases identity with
  | none => simp [GivesIdentity, explicitIds?]
  | some source =>
      cases source with
      | inline => simp [GivesIdentity, explicitIds?]
      | bound names =>
          simp only [GivesIdentity, explicitIds?]
          generalize hIds : (names.filterMap fun name => bound.lookup name).filter
            (fun v => !v.isNull) = ids
          have hMem : ∀ v, v ∈ ids ↔
              ∃ name ∈ names, bound.lookup name = some v ∧ v.isNull = false := by
            intro v
            rw [← hIds, List.mem_filter, List.mem_filterMap]
            constructor
            · rintro ⟨⟨name, hName, hFound⟩, hNull⟩
              exact ⟨name, hName, hFound, by simpa using hNull⟩
            · rintro ⟨name, hName, hFound, hNull⟩
              exact ⟨⟨name, hName, hFound⟩, by simpa using hNull⟩
          cases ids with
          | nil =>
              refine iff_of_false ?_ (by simp)
              rintro ⟨name, hName, v, hFound, hNull⟩
              exact List.not_mem_nil ((hMem v).mpr ⟨name, hName, hFound, hNull⟩)
          | cons v ids =>
              obtain ⟨name, hName, hFound, hNull⟩ := (hMem v).mp (List.mem_cons_self ..)
              exact iff_of_true ⟨name, hName, v, hFound, hNull⟩ ⟨v :: ids, rfl⟩

namespace IdentitySession

theorem toList_permit (table : String) :
    (permit table).toList = "SET IDENTITY_INSERT ".toList ++ (table.toList ++ " ON".toList) := by
  unfold permit
  rw [String.toList_append, String.toList_append, List.append_assoc]

theorem toList_withdraw (table : String) :
    (withdraw table).toList = "SET IDENTITY_INSERT ".toList ++ (table.toList ++ " OFF".toList) := by
  unfold withdraw
  rw [String.toList_append, String.toList_append, List.append_assoc]

/-- A permission names its table: equal statements permit values for the same
one. -/
theorem permit_injective {table table' : String} (h : permit table = permit table') :
    table = table' := by
  have hChars := congrArg String.toList h
  rw [toList_permit, toList_permit] at hChars
  exact String.toList_injective (List.append_cancel_right (List.append_cancel_left hChars))

theorem withdraw_injective {table table' : String} (h : withdraw table = withdraw table') :
    table = table' := by
  have hChars := congrArg String.toList h
  rw [toList_withdraw, toList_withdraw] at hChars
  exact String.toList_injective (List.append_cancel_right (List.append_cancel_left hChars))

/-- The two statements end in different words, so none of them can be taken for
the other, for any tables. -/
theorem permit_ne_withdraw (table table' : String) : permit table ≠ withdraw table' := by
  intro h
  have hChars := congrArg String.toList h
  rw [toList_permit, toList_withdraw] at hChars
  have hLast := congrArg List.getLast? (List.append_cancel_left hChars)
  simp at hLast

/-- Both are about the session. -/
theorem set_prefix_append (rest : List Char) :
    "SET".toList <+: "SET IDENTITY_INSERT ".toList ++ rest :=
  (show "SET".toList <+: "SET IDENTITY_INSERT ".toList by decide).trans (List.prefix_append _ _)

end IdentitySession

/-- The text permits nothing and withdraws nothing. -/
def Text.Neutral (x : String) : Prop := ∀ table, x ≠ permit table ∧ x ≠ withdraw table

/-- Only statements that start with `SET` permit or withdraw anything. -/
theorem Text.neutral_of_not_set {x : String} (h : ¬"SET".toList <+: x.toList) :
    Text.Neutral x := by
  intro table
  constructor
  · rintro rfl
    exact h (toList_permit table ▸ set_prefix_append _)
  · rintro rfl
    exact h (toList_withdraw table ▸ set_prefix_append _)

/-- No compiled statement permits or withdraws anything, with or without what a
batch appends to it. -/
theorem Statement.neutral_sql {s : Statement} {t : Target} {mode : ParameterMode} {c : Compiled}
    (h : s.compile t mode = .ok c) :
    Text.Neutral c.sql ∧ Text.Neutral (c.sql ++ batchSuffix) := by
  rcases compile_opens h with hEmpty | hOpens
  · rw [hEmpty]
    exact ⟨Text.neutral_of_not_set (by decide), Text.neutral_of_not_set (by decide)⟩
  · refine ⟨Text.neutral_of_not_set ?_, Text.neutral_of_not_set (hOpens _)⟩
    simpa using hOpens ""

/-- The call sends a statement that permits nothing and withdraws nothing. -/
def Event.Neutral : Event → Prop
  | .execute sql _ => Text.Neutral sql
  | .timeout _ => False

/-- Calls that are neutral send only texts that are. The timeout sends
nothing. -/
theorem neutral_of_mem_sent {calls : List Event} (h : ∀ call ∈ calls, call.Neutral) :
    ∀ x ∈ sent calls, Text.Neutral x := by
  intro x hx
  obtain ⟨call, hCall, hSql⟩ := List.mem_filterMap.mp hx
  cases call with
  | timeout seconds => cases hSql
  | execute sql values =>
      cases hSql
      exact h _ hCall

/-- Without a permission the session is not changed, so restoring it sends
nothing, whatever the outcome. -/
theorem Compiled.execute_unpermitted {c : Compiled} {d : Dialect} {params : Params}
    {bound : Bound} {session : IdentitySession} {plan : Plan} (hBind : c.bind params = .ok bound)
    (hSession : d.openSession = .identity session) (hState : session.state ≠ .permitted)
    (hFetch : ∀ query, session.fetch = .separate query → query = SqlServer.lastIdQuery)
    (hPlan : session.prepare c bound = (plan, session)) (hPreamble : plan.preamble = [])
    (hSql : Text.Neutral plan.sql) (script : List Reply) :
    ∃ calls, ((c.execute d params).run ⟨script, []⟩).2.log = .timeout plan.timeout :: calls ∧
      ∀ call ∈ calls, call.Neutral := by
  obtain ⟨calls, hLog, hCalls⟩ := Plan.run_cursor_of_no_preamble hPreamble session c ⟨script, []⟩
  refine ⟨.execute plan.sql plan.values :: calls, ?_, List.forall_mem_cons.mpr ⟨hSql, ?_⟩⟩
  · rw [run_execute_of_bind hBind hSession hPlan, run_restore_other hState]
    exact hLog
  · rcases hCalls with rfl | ⟨query, hQuery, rfl⟩
    · exact List.forall_mem_nil _
    · rw [hFetch query hQuery]
      exact List.forall_mem_singleton.mpr (Text.neutral_of_not_set (by decide))

namespace SqlServer.Configured

variable {driver : SqlServer.Driver} {o : Options} {d : Dialect} {s : Statement}
  {caps : Capabilities} {mode : ParameterMode} {c : Compiled} {params : Params} {bound : Bound}

/-- The session of a dialect is set up by its options. It starts at rest, with
the rules for names of the dialect. -/
theorem exists_session (h : SqlServer.Configured driver o d) :
    ∃ session : IdentitySession, d.openSession = .identity session ∧ session.rules = d.rules ∧
      session.auto = o.autoIdentityInsert ∧ session.timeout = o.queryTimeout ∧
      session.state = .normal ∧ ∀ query, session.fetch = .separate query → query = lastIdQuery := by
  obtain ⟨cell, rfl, _⟩ := h.exists_cell
  refine ⟨_, rfl, rfl, rfl, rfl, rfl, ?_⟩
  intro query hQuery
  dsimp only at hQuery
  split at hQuery
  · cases hQuery
  · cases hQuery
    rfl

/-- An execution permits values, and then its calls and its outcome are known
from the answers; or it sends nothing that is about permissions. -/
theorem execute_cases (h : SqlServer.Configured driver o d)
    (hCompile : s.compile ⟨d.profile, caps⟩ mode = .ok c) (hBind : c.bind params = .ok bound) :
    (∃ info ids, c.insert = some info ∧ info.explicitIds? bound = some ids ∧
      o.autoIdentityInsert = true ∧
      ∀ script, ((c.execute d params).run ⟨script, []⟩).1 = permittedOutcome c ids script ∧
        ((c.execute d params).run ⟨script, []⟩).2.log = permittedLog o.queryTimeout
          (d.rules.table info.table true) c.sql (c.positionalValues bound) script) ∨
    ((∀ info ids, c.insert = some info → info.explicitIds? bound = some ids →
        o.autoIdentityInsert = false) ∧
      ∀ script, ∃ calls,
        ((c.execute d params).run ⟨script, []⟩).2.log = .timeout o.queryTimeout :: calls ∧
        ∀ call ∈ calls, call.Neutral) := by
  obtain ⟨session, hSession, hRules, hAuto, hTimeout, hState, hFetch⟩ := h.exists_session
  obtain ⟨hNeutral, hBatchNeutral⟩ := Statement.neutral_sql hCompile
  have hRest : session.state ≠ .permitted := by simp [hState]
  have hPrepares := prepares session c bound
  generalize hPrepared : session.prepare c bound = prepared at hPrepares
  rw [← hRules, ← hAuto, ← hTimeout]
  have hOther := fun plan hPlan => Compiled.execute_unpermitted hBind hSession hRest hFetch
    (show session.prepare c bound = (plan, session) from hPlan)
  cases hPrepares with
  | permit info ids hInsert hIds hPermitted =>
      refine .inl ⟨info, ids, hInsert, hIds, hPermitted, ?_⟩
      intro script
      obtain ⟨hOutcome, hLog⟩ := Plan.run_permitting
        { session.plainPlan c bound with
          preamble := [permit (session.rules.table info.table true)] }
        session ids hInsert rfl rfl ⟨script, []⟩
      rw [Compiled.run_execute_of_bind hBind hSession hPrepared, run_restore_permitted rfl rfl]
      refine ⟨hOutcome, ?_⟩
      show _ ++ [Event.execute (withdraw _) []] = _
      rw [hLog]
      rfl
  | batch info hInsert hIds hFetches hBatched =>
      refine .inr ⟨?_, hOther _ hPrepared rfl hBatchNeutral⟩
      intro info' ids hInfo hGiven
      rw [hInsert] at hInfo
      cases hInfo
      rw [hIds] at hGiven
      cases hGiven
  | plain hUngiven hUnbatched =>
      exact .inr ⟨hUngiven, hOther _ hPrepared rfl hNeutral⟩

end SqlServer.Configured

/-- A log with one permission: what is sent comes between the permission and the
withdrawal, and is neither. -/
structure Bracketed (texts : List String) (table : String) : Prop where
  first : texts.head? = some (permit table)
  last : texts.getLast? = some (withdraw table)
  permits : ∀ table', texts.count (permit table') = if table' = table then 1 else 0
  withdraws : ∀ table', texts.count (withdraw table') = if table' = table then 1 else 0

/-- A log with one permission permits values for its table and for no other. -/
theorem Bracketed.permit_mem_iff {texts : List String} {table table' : String}
    (h : Bracketed texts table) : permit table' ∈ texts ↔ table' = table := by
  rw [← List.count_pos_iff, h.permits]
  split <;> simp_all

theorem Bracketed.withdraw_mem_iff {texts : List String} {table table' : String}
    (h : Bracketed texts table) : withdraw table' ∈ texts ↔ table' = table := by
  rw [← List.count_pos_iff, h.withdraws]
  split <;> simp_all

/-- Neutral statements between a permission and the withdrawal for the same
table make such a log; there may be none at all. -/
theorem bracketed_of_neutral {inner : List String} (h : ∀ x ∈ inner, Text.Neutral x)
    (table : String) : Bracketed (permit table :: (inner ++ [withdraw table])) table := by
  have hPermit : ∀ table', permit table' ∉ inner := fun table' hMem => (h _ hMem table').1 rfl
  have hWithdraw : ∀ table', withdraw table' ∉ inner := fun table' hMem => (h _ hMem table').2 rfl
  refine ⟨rfl, List.getLast?_concat (l := permit table :: inner), ?_, ?_⟩
  · intro table'
    have hOther : permit table' ∉ [withdraw table] := by simp [permit_ne_withdraw]
    rw [List.count_cons, List.count_append, List.count_eq_zero_of_not_mem (hPermit table'),
      List.count_eq_zero_of_not_mem hOther]
    by_cases hTable : table' = table
    · simp [hTable]
    · have hPermits : permit table ≠ permit table' := fun hEq => hTable (permit_injective hEq).symm
      simp [hTable, hPermits]
  · intro table'
    rw [List.count_cons, List.count_append, List.count_eq_zero_of_not_mem (hWithdraw table'),
      beq_false_of_ne (permit_ne_withdraw table table')]
    by_cases hTable : table' = table
    · simp [hTable]
    · have hWithdraws : withdraw table ≠ withdraw table' :=
        fun hEq => hTable (withdraw_injective hEq).symm
      simp [hTable, hWithdraws]

section Permitted

variable (timeout : Option Nat) (table : String) {sql : String} (values : List Value)
  (script : List Reply)

/-- If the permission is granted the insertion is sent, else only the permission
and its withdrawal are. -/
theorem sent_permittedLog (sql : String) :
    ((∃ answer, replyAt script 0 = .rows answer) ∧
      sent (permittedLog timeout table sql values script) =
        permit table :: ([sql] ++ [withdraw table])) ∨
    ((∃ message, replyAt script 0 = .failure message) ∧
      sent (permittedLog timeout table sql values script) =
        permit table :: ([] ++ [withdraw table])) := by
  rw [permittedLog, permittedCalls]
  cases replyAt script 0 with
  | rows answer => exact .inl ⟨⟨answer, rfl⟩, rfl⟩
  | failure message => exact .inr ⟨⟨message, rfl⟩, rfl⟩

theorem bracketed_permittedLog (hSql : Text.Neutral sql) :
    Bracketed (sent (permittedLog timeout table sql values script)) table := by
  rcases sent_permittedLog timeout table values script sql with ⟨_, hSent⟩ | ⟨_, hSent⟩
  · rw [hSent]
    exact bracketed_of_neutral (List.forall_mem_singleton.mpr hSql) table
  · rw [hSent]
    exact bracketed_of_neutral (List.forall_mem_nil _) table

/-- The insertion is sent exactly if the permission was answered with rows. What
the other answers are does not matter. -/
theorem mem_sent_permittedLog (hSql : Text.Neutral sql) :
    sql ∈ sent (permittedLog timeout table sql values script) ↔
      ∃ answer, replyAt script 0 = .rows answer := by
  rcases sent_permittedLog timeout table values script sql with
    ⟨hGranted, hSent⟩ | ⟨⟨message, hRefused⟩, hSent⟩
  · rw [hSent]
    exact iff_of_true (by simp) hGranted
  · rw [hSent, hRefused]
    simp [hSql table]

/-- The timeout is set once, before all else. -/
theorem timeout_not_mem_permittedLog (seconds : Option Nat) :
    .timeout seconds ∉ (permittedLog timeout table sql values script).tail := by
  rw [permittedLog, permittedCalls]
  cases replyAt script 0 <;> simp

/-- The answer to the last statement is not looked at. That statement is the
withdrawal, so its failure goes unnoticed. -/
theorem permittedOutcome_congr (c : Compiled) (ids : List Value) (sql : String)
    {script' : List Reply}
    (hAgree : ∀ i, i + 1 < (sent (permittedLog timeout table sql values script)).length →
      replyAt script' i = replyAt script i) :
    permittedOutcome c ids script' = permittedOutcome c ids script := by
  rcases sent_permittedLog timeout table values script sql with
    ⟨_, hSent⟩ | ⟨⟨message, hRefused⟩, hSent⟩
  · rw [hSent] at hAgree
    rw [permittedOutcome, permittedOutcome, hAgree 0 (by simp), hAgree 1 (by simp)]
  · rw [hSent] at hAgree
    rw [permittedOutcome, permittedOutcome, hAgree 0 (by simp), hRefused]
    rfl

end Permitted

/-- What an execution sends: one permission around the insertion, and then the
answer to the withdrawal does not matter; or nothing that is about
permissions. -/
theorem SqlServer.Configured.execute_sends {driver : SqlServer.Driver} {o : Options} {d : Dialect}
    (h : SqlServer.Configured driver o d) {s : Statement} {caps : Capabilities}
    {mode : ParameterMode} {c : Compiled} (hCompile : s.compile ⟨d.profile, caps⟩ mode = .ok c)
    {params : Params} {bound : Bound} (hBind : c.bind params = .ok bound) (script : List Reply) :
    let run := (c.execute d params).run ⟨script, []⟩
    let texts := sent run.2.log
    (∃ calls, run.2.log = .timeout o.queryTimeout :: calls ∧
      ∀ seconds, .timeout seconds ∉ calls) ∧
    ((∃ info, c.insert = some info ∧ info.GivesIdentity bound ∧ o.autoIdentityInsert = true ∧
        Bracketed texts (d.rules.table info.table true) ∧
        (c.sql ∈ texts ↔ ∃ answer, replyAt script 0 = .rows answer) ∧
        ∀ script', (∀ i, i + 1 < texts.length → replyAt script' i = replyAt script i) →
          ((c.execute d params).run ⟨script', []⟩).1 = run.1) ∨
      ((∀ info, c.insert = some info → info.GivesIdentity bound → o.autoIdentityInsert = false) ∧
        ∀ x ∈ texts, Text.Neutral x)) := by
  intro run texts
  rcases h.execute_cases hCompile hBind with
    ⟨info, ids, hInsert, hIds, hAuto, hPermitted⟩ | ⟨hUngiven, hNeutral⟩
  · obtain ⟨hOutcome, hLog⟩ := hPermitted script
    have hSql := (Statement.neutral_sql hCompile).1
    have hTexts : texts = _ := congrArg sent hLog
    refine ⟨⟨_, hLog, timeout_not_mem_permittedLog o.queryTimeout _ _ _⟩, .inl ⟨info, hInsert,
      (info.givesIdentity_iff bound).mpr ⟨ids, hIds⟩, hAuto, ?_⟩⟩
    rw [hTexts]
    refine ⟨bracketed_permittedLog _ _ _ script hSql, mem_sent_permittedLog _ _ _ script hSql, ?_⟩
    intro script' hAgree
    rw [(hPermitted script').1, hOutcome]
    exact permittedOutcome_congr _ _ _ script c ids c.sql hAgree
  · obtain ⟨calls, hLog, hCalls⟩ := hNeutral script
    have hTexts : texts = sent calls := (congrArg sent hLog).trans rfl
    refine ⟨⟨calls, hLog, fun seconds hMem => hCalls _ hMem⟩, .inr ⟨?_, ?_⟩⟩
    · intro info hInsert hGives
      obtain ⟨ids, hIds⟩ := (info.givesIdentity_iff bound).mp hGives
      exact hUngiven info ids hInsert hIds
    · rw [hTexts]
      exact neutral_of_mem_sent hCalls

/-- What is known about an insertion is about the table of the statement. -/
theorem Statement.exists_insert_of_compile {s : Statement} {t : Target} {mode : ParameterMode}
    {c : Compiled} (h : s.compile t mode = .ok c) {info : InsertInfo}
    (hInsert : c.insert = some info) :
    ∃ insertion, s = .insert insertion ∧ info.table = insertion.table := by
  obtain ⟨texts, L, _, rfl⟩ := exists_ledger_of_compile h
  cases s with
  | insert insertion =>
      cases hInsert
      exact ⟨insertion, rfl, rfl⟩
  | query | update | delete | createTable | dropTable | createIndex | dropIndex => cases hInsert

/-- Whatever the options of the dialect, the statement, the values and the
answers of the driver: if values cannot be bound, nothing is sent, and otherwise
the timeout of the options is set first. Values for the generated column of a
table are permitted at most once, and exactly by an insertion that gives some
where the options ask for it. A permission is the first statement sent, the
insertion follows if and only if it was granted, and the last statement sent is
the withdrawal for the same table, which is sent once and on whose answer the
outcome does not depend. Without a permission nothing is withdrawn. -/
theorem Compiled.execute_brackets_permission (driver : SqlServer.Driver) (o : Options)
    (d : Dialect) (hDialect : SqlServer.Configured driver o d) (s : Statement)
    (caps : Capabilities) (mode : ParameterMode) (c : Compiled)
    (hCompile : s.compile ⟨d.profile, caps⟩ mode = .ok c) (params : Params)
    (script : List Reply) :
    let run := (c.execute d params).run ⟨script, []⟩
    let texts := sent run.2.log
    (∀ e, c.bind params = .error e → run.1 = .error e ∧ run.2.log = []) ∧
    ∀ bound, c.bind params = .ok bound →
      (∃ calls, run.2.log = .timeout o.queryTimeout :: calls ∧
        ∀ seconds, .timeout seconds ∉ calls) ∧
      ∀ table,
        texts.count (permit table) ≤ 1 ∧
        (permit table ∈ texts ↔ o.autoIdentityInsert = true ∧ ∃ insertion info,
          s = .insert insertion ∧ c.insert = some info ∧ info.GivesIdentity bound ∧
          table = d.rules.table insertion.table true) ∧
        (permit table ∈ texts →
          texts.head? = some (permit table) ∧
          (c.sql ∈ texts ↔ ∃ answer, replyAt script 0 = .rows answer) ∧
          texts.getLast? = some (withdraw table) ∧ texts.count (withdraw table) = 1 ∧
          ∀ script', (∀ i, i + 1 < texts.length → replyAt script' i = replyAt script i) →
            ((c.execute d params).run ⟨script', []⟩).1 = run.1) ∧
        (permit table ∉ texts → withdraw table ∉ texts) := by
  intro run texts
  refine ⟨?_, ?_⟩
  · intro e hBind
    have hRun : run = (.error e, ⟨script, []⟩) := run_execute_of_bind_error hBind
    rw [hRun]
    exact ⟨rfl, rfl⟩
  · intro bound hBind
    obtain ⟨hTimeout, hSends⟩ := hDialect.execute_sends hCompile hBind script
    refine ⟨hTimeout, fun table => ?_⟩
    rcases hSends with
      ⟨info, hInsert, hGives, hAuto, hBracket, hSql, hOutcome⟩ | ⟨hUngiven, hNeutral⟩
    · obtain ⟨insertion, rfl, hTable⟩ := Statement.exists_insert_of_compile hCompile hInsert
      rw [hTable] at hBracket
      refine ⟨?_, ?_, ?_, ?_⟩
      · rw [hBracket.permits]
        split <;> omega
      · rw [hBracket.permit_mem_iff]
        refine ⟨fun hEq => ⟨hAuto, insertion, info, rfl, hInsert, hGives, hEq⟩, ?_⟩
        rintro ⟨_, other, _, hSame, _, _, hEq⟩
        cases hSame
        exact hEq
      · intro hMem
        obtain rfl := hBracket.permit_mem_iff.mp hMem
        have hOnce := hBracket.withdraws (d.rules.table insertion.table true)
        rw [if_pos rfl] at hOnce
        exact ⟨hBracket.first, hSql, hBracket.last, hOnce, hOutcome⟩
      · rw [hBracket.permit_mem_iff, hBracket.withdraw_mem_iff]
        exact id
    · have hPermit : permit table ∉ texts := fun hMem => (hNeutral _ hMem table).1 rfl
      refine ⟨?_, iff_of_false hPermit ?_, fun hMem => (hPermit hMem).elim, ?_⟩
      · rw [List.count_eq_zero_of_not_mem hPermit]
        omega
      · rintro ⟨hAuto, _, info, _, hInsert, hGives, _⟩
        rw [hUngiven info hInsert hGives] at hAuto
        cases hAuto
      · exact fun _ hMem => (hNeutral _ hMem table).2 rfl

/-- The insertion fails after values were permitted. -/
theorem Compiled.execute_brackets_permission_failing :
    ∃ c bound, Sample.given.compile (SqlServer.build .odbc {}).target .placeholders = .ok c ∧
      c.bind {} = .ok bound ∧
      let run := (c.execute (SqlServer.build .odbc {}) {}).run ⟨[.rows [], .failure "refused"], []⟩
      run.1 = .error (.driver "refused") ∧ permit "accounts" ∈ sent run.2.log ∧
      (sent run.2.log).head? = some (permit "accounts") ∧
      (sent run.2.log).getLast? = some (withdraw "accounts") ∧
      (sent run.2.log).count (withdraw "accounts") = 1 := by
  obtain ⟨c, hCompile, hFound⟩ := exists_ok_of_toOption
    (x := Sample.given.compile (SqlServer.build .odbc {}).target .placeholders)
    (f := fun c => (c.bind {}, ((c.execute (SqlServer.build .odbc {}) {}).run
      ⟨[.rows [], .failure "refused"], []⟩).1, decide (permit "accounts" ∈ sent
      ((c.execute (SqlServer.build .odbc {}) {}).run ⟨[.rows [], .failure "refused"], []⟩).2.log)))
    (y := (.ok [("id", .int 7), ("balance", .int 0)], .error (.driver "refused"), true))
    (by decide)
  have hBind := congrArg Prod.fst hFound
  have hOutcome := congrArg (fun found => found.2.1) hFound
  have hMem := of_decide_eq_true (congrArg (fun found => found.2.2) hFound)
  obtain ⟨_, hBound⟩ := execute_brackets_permission .odbc {} (SqlServer.build .odbc {})
    (.built rfl) Sample.given _ .placeholders c hCompile {} [.rows [], .failure "refused"]
  obtain ⟨_, hTable⟩ := hBound _ hBind
  obtain ⟨hFirst, _, hLast, hOnce, _⟩ := (hTable "accounts").2.2.1 hMem
  exact ⟨c, _, hCompile, hBind, hOutcome, hMem, hFirst, hLast, hOnce⟩

end SqlStatements
