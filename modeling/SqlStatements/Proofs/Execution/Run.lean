import SqlStatements.Execution.Run
import SqlStatements.Proofs.Execution.Session

/-! How a plan is carried out. After its statement has been answered the driver is
asked for an id at most, so what it was sent is known from the plan and from
whether its answers were failures. -/
namespace SqlStatements

open IdentitySession

variable {s s' : IdentitySession} {c : Compiled} {plan : Plan} {cur : Cursor}

namespace Plan

/-- What is left to do once the statement of a plan has been answered. -/
def report (plan : Plan) (session : Session) (c : Compiled) (answer : List Row) :
    Dialogue Outcome := do
  let ids ← session.ids c plan answer
  let rows ← if plan.inBatch then pure [] else (answer.mapM c.decodeRow : Except Error _)
  return ⟨rows, ids⟩

/-- The rows of an answer, converted. Those of a batch are not handed on. -/
def decode (plan : Plan) (c : Compiled) (answer : List Row) : Except Error (List Row) :=
  if plan.inBatch then .ok [] else answer.mapM c.decodeRow

theorem run_eq (plan : Plan) (session : Session) (c : Compiled) :
    plan.run session c = (do
      Cursor.setTimeout plan.timeout
      plan.preamble.forM fun sql => discard (Cursor.execute sql [])
      plan.report session c (← Cursor.execute plan.sql plan.values)) := rfl

/-- Converting rows does not involve the driver. If it fails, the ids have been
asked for already. -/
theorem run_report {session : Session} {answer : List Row} {found : Option (List Value)}
    {cur' : Cursor} (h : (session.ids c plan answer).run.run cur = (.ok found, cur')) :
    (plan.report session c answer).run.run cur =
      ((plan.decode c answer).map fun rows => ⟨rows, found⟩, cur') := by
  rw [report, Dialogue.run_bind_ok h, decode]
  generalize answer.mapM c.decodeRow = decoded
  cases plan.inBatch with
  | true => rfl
  | false => cases decoded <;> rfl

/-- After the statement of a plan the driver is asked for the id, or for
nothing. -/
theorem run_report_cursor (plan : Plan) (s : IdentitySession) (c : Compiled) (answer : List Row)
    (cur : Cursor) :
    ((plan.report (.identity s) c answer).run.run cur).2 = cur ∨
    ∃ query, s.fetch = .separate query ∧
      ((plan.report (.identity s) c answer).run.run cur).2 = cur.after query [] := by
  rcases ids_cases s c plan answer with ⟨found, hKnown⟩ | ⟨query, hFetch, _, hQuery⟩
  · have hIds : (Session.ids (.identity s) c plan answer).run.run cur = (.ok found, cur) := by
      rw [Session.ids, hKnown, Dialogue.run_pure]
    exact .inl (by rw [run_report hIds])
  · refine .inr ⟨query, hFetch, ?_⟩
    have hIds : (Session.ids (.identity s) c plan answer).run.run cur =
        (((replyAt cur.script 0).result.map firstValue).map fun id => id.map ([·]),
          cur.after query []) := by
      rw [Session.ids, hQuery, Dialogue.run_bind_pure, run_fetchValue]
    cases hReply : (replyAt cur.script 0).result with
    | ok rows =>
        rw [hReply] at hIds
        rw [run_report hIds]
    | error e =>
        rw [hReply] at hIds
        rw [report, Dialogue.run_bind_error hIds]

/-- A preamble of one statement is run for its success only; its rows are
dropped. -/
theorem run_preamble (sql : String) (cur : Cursor) :
    ([sql].forM fun sql => discard (Cursor.execute sql []) : Dialogue Unit).run.run cur =
      ((replyAt cur.script 0).result.map fun _ => (), cur.after sql []) := by
  obtain ⟨script, log⟩ := cur
  cases script with
  | nil => rfl
  | cons reply script => cases reply <;> rfl

/-- Without a preamble the driver gets the statement of the plan, and then at
most the query for the id. -/
theorem run_cursor_of_no_preamble (hPreamble : plan.preamble = []) (s : IdentitySession)
    (c : Compiled) (cur : Cursor) :
    ∃ calls, ((plan.run (.identity s) c).run.run cur).2.log =
        cur.log ++ .timeout plan.timeout :: .execute plan.sql plan.values :: calls ∧
      (calls = [] ∨ ∃ query, s.fetch = .separate query ∧ calls = [.execute query []]) := by
  have hStart : (plan.run (.identity s) c).run.run cur =
      (Cursor.execute plan.sql plan.values >>= plan.report (.identity s) c).run.run
        (cur.record (.timeout plan.timeout)) := by
    rw [run_eq, Dialogue.run_bind_ok (Cursor.run_setTimeout _ _), hPreamble]
    rfl
  have hExecute := Cursor.run_execute plan.sql plan.values (cur.record (.timeout plan.timeout))
  rw [hStart]
  cases hReply : (replyAt cur.script 0).result with
  | error e =>
      refine ⟨[], ?_, .inl rfl⟩
      rw [Dialogue.run_bind_error (hExecute.trans (congrArg (·, _) hReply))]
      simp [Cursor.after, Cursor.record]
  | ok answer =>
      rw [Dialogue.run_bind_ok (hExecute.trans (congrArg (·, _) hReply))]
      rcases plan.run_report_cursor s c answer _ with hNone | ⟨query, hFetch, hQuery⟩
      · refine ⟨[], ?_, .inl rfl⟩
        rw [hNone]
        simp [Cursor.after, Cursor.record]
      · refine ⟨_, ?_, .inr ⟨query, hFetch, rfl⟩⟩
        rw [hQuery]
        simp [Cursor.after, Cursor.record]

end Plan

/-- The statements of an execution that starts with a permission. The insertion
is sent only if values were permitted. -/
def permittedCalls (table sql : String) (values : List Value) (script : List Reply) :
    List Event :=
  .execute (permit table) [] ::
    match replyAt script 0 with
    | .rows _ => [.execute sql values]
    | .failure _ => []

/-- The log of such an execution, from the timeout to the withdrawal. -/
def permittedLog (timeout : Option Nat) (table sql : String) (values : List Value)
    (script : List Reply) : List Event :=
  .timeout timeout :: permittedCalls table sql values script ++ [.execute (withdraw table) []]

/-- The outcome of an execution that starts with a permission, from the answers
to the permission and to the insertion. -/
def permittedOutcome (c : Compiled) (ids : List Value) (script : List Reply) :
    Except Error Outcome := do
  let _ ← (replyAt script 0).result
  let answer ← (replyAt script 1).result
  (answer.mapM c.decodeRow).map fun rows => ⟨rows, if ids.isEmpty then none else some ids⟩

/-- A plan with a permission in front. The ids are known beforehand, so nothing
is sent after the insertion. -/
theorem Plan.run_permitting (plan : Plan) (s : IdentitySession) (ids : List Value)
    {table : String} {info : InsertInfo} (hInsert : c.insert = some info)
    (hPreamble : plan.preamble = [permit table]) (hBatch : plan.inBatch = false) (cur : Cursor) :
    ((plan.run (.identity (s.permitting table ids)) c).run.run cur).1 =
        permittedOutcome c ids cur.script ∧
      ((plan.run (.identity (s.permitting table ids)) c).run.run cur).2.log =
        cur.log ++ .timeout plan.timeout ::
          permittedCalls table plan.sql plan.values cur.script := by
  have hIds : ∀ answer cur, (Session.ids (.identity (s.permitting table ids)) c plan answer).run.run
      cur = (.ok (if ids.isEmpty then none else some ids), cur) := by
    intro answer cur
    rw [Session.ids, run_ids_of_permitted rfl rfl hInsert, Dialogue.run_pure]
  have hPermit := run_preamble (permit table) (cur.record (.timeout plan.timeout))
  rw [run_eq, Dialogue.run_bind_ok (Cursor.run_setTimeout _ _), hPreamble, permittedOutcome,
    permittedCalls]
  cases hFirst : replyAt cur.script 0 with
  | failure message =>
      have hRefused : (replyAt (cur.record (.timeout plan.timeout)).script 0).result =
          .error (.driver message) := congrArg Reply.result hFirst
      rw [hRefused] at hPermit
      rw [Dialogue.run_bind_error hPermit]
      exact ⟨rfl, by simp [Cursor.after, Cursor.record]⟩
  | rows permission =>
      have hGranted : (replyAt (cur.record (.timeout plan.timeout)).script 0).result =
          .ok permission := congrArg Reply.result hFirst
      rw [hGranted] at hPermit
      rw [Dialogue.run_bind_ok hPermit]
      have hExecute := Cursor.run_execute plan.sql plan.values
        ((cur.record (.timeout plan.timeout)).after (permit table) [])
      have hSecond :
          replyAt ((cur.record (.timeout plan.timeout)).after (permit table) []).script 0 =
            replyAt cur.script 1 := replyAt_tail cur.script 0
      rw [hSecond] at hExecute
      cases hInsertion : replyAt cur.script 1 with
      | failure message =>
          rw [hInsertion] at hExecute
          rw [Dialogue.run_bind_error hExecute]
          exact ⟨rfl, by simp [Cursor.after, Cursor.record]⟩
      | rows answer =>
          rw [hInsertion] at hExecute
          rw [Dialogue.run_bind_ok hExecute, run_report (hIds _ _)]
          refine ⟨?_, by simp [Cursor.after, Cursor.record]⟩
          rw [decode, hBatch]
          rfl

namespace Compiled

variable {d : Dialect} {params : Params} {bound : Bound}

/-- Where a parameter gets no value, nothing is sent and the log stays as it
is. -/
theorem run_execute_of_bind_error {e : Error} (h : c.bind params = .error e) :
    (c.execute d params).run cur = (.error e, cur) := by
  unfold execute
  rw [h]
  rfl

/-- The session is restored whatever the plan has come to, and the outcome is
that of the plan. -/
theorem run_execute_of_bind (hBind : c.bind params = .ok bound)
    (hSession : d.openSession = .identity s) (hPrepare : s.prepare c bound = (plan, s')) :
    (c.execute d params).run cur =
      (((plan.run (.identity s') c).run.run cur).1,
        (s'.restore.run ((plan.run (.identity s') c).run.run cur).2).2) := by
  unfold execute
  rw [hBind, hSession]
  simp only [Session.prepare, hPrepare]
  rfl

end Compiled

end SqlStatements
