import SessionLayer.Proofs.Wire.ScriptedSetup

/-!
# Statements on a scripted session

A statement that the transport lets through comes to the same on both ways of running it: in one span on
a blocking connection, or submitted and then polled for until its result is there. Here is what each
part of the two ways does on a session that follows a script.
-/

set_option autoImplicit false

namespace SessionLayer

namespace Script

/-- What the owner of a statement is told that the transport lets through. -/
def outcome (script : Script) (sql : String) : Except Fault (List QueryResult) :=
  (Span.verdict (.ok (script.answer sql))).map fun result => [result]

end Script

/-- A single result makes the same outcome on both ways. -/
theorem collectOutcome_singleton (result : QueryResult) :
    collectOutcome [result] = (Span.verdict (.ok result)).map fun result => [result] := by
  have hfirst : ([result].find? (·.isError)).bind (·.error) = result.rejection? := by
    unfold QueryResult.rejection?
    cases herror : result.isError with
    | true =>
      rw [List.find?_cons_of_pos herror]
      rfl
    | false =>
      rw [List.find?_cons_of_neg (by simp [herror])]
      rfl
  simp only [collectOutcome, Span.verdict, hfirst]
  cases result.rejection? with
  | none => rfl
  | some rejection => rfl

/-- The phase in which a statement is after it has been flushed for the first time. -/
def FlushOutcome.phase : FlushOutcome → QueryPhase
  | .done => .reading
  | .pending => .writing

/-- What a connection that has been set up guards. -/
def Guarded.serving {σ : Type} (level : Isolation) (info : SessionInfo) (inFlight : Option InFlight)
    (session : σ) : Guarded σ :=
  { session := some session, status := .ready, inFlight, info := some info, isolation := level }

namespace ScriptedSession

open Guarded

variable {level target : Isolation} {info : SessionInfo} {s : ScriptedSession} {sql : String}
  {owner : QueryOwner} {flight : InFlight}

/-! ## In one span -/

/-- Outside of transactional levels a statement is run as it stands. -/
theorem lasts_execute (h : s.script.failures.lookup sql = none) :
    Span.Lasts (Span.execute sql) (serving .autocommit info none s)
      (Span.verdict (.ok (s.script.answer sql))) (serving .autocommit info none (s.run sql).2) := by
  have hbegin : Span.Runs Span.beginIfNeeded (serving .autocommit info none s) [] (.ok ())
      (serving .autocommit info none s) := by
    unfold Span.beginIfNeeded
    refine .bind_silent (.guarded _) ?_
    exact .pure () _
  have hanswer : (WireSession.respond (.exec sql) s).1 = .ok (s.script.answer sql) :=
    (run_of_success h).1
  unfold Span.execute
  refine .bind_silent hbegin ⟨[{ call := .exec sql, answer := .ok (s.script.answer sql) }], rfl, ?_⟩
  intro t ht
  have hsession : t.guarded.session = some s := by
    rw [ht]
    rfl
  rw [Span.exec_command hsession, hanswer, SpanState.after, ht]
  rfl

/-! ## By polls -/

/-- A statement is submitted, and flushed once. -/
theorem lasts_submit {outcome : FlushOutcome} {next : ScriptedSession}
    (h : s.script.failures.lookup sql = none)
    (hflushed : WireSession.respond .flush (s.queued sql) = (.ok outcome, next)) :
    Span.Lasts (Span.submit sql owner) (serving level info none s) (.ok ())
      (serving level info (some { owner, phase := outcome.phase }) next) := by
  have hsent : (WireSession.respond (.send sql) s).1 = .ok () := (submit_of_accepted h).1
  unfold Span.submit
  refine .bind_silent (.guarded _) ?_
  refine .bind_silent (.guarded _) ?_
  refine .bind_ask rfl (by simp) ?_
  rw [hsent]
  refine .bind_silent (.sent_ok _ _) ?_
  refine .bind_ask rfl (by simp) ?_
  show Span.Lasts (Span.sent (WireSession.respond .flush (s.queued sql)).1 >>= _)
    ((serving level info none s).on (WireSession.respond .flush (s.queued sql)).2) _ _
  rw [hflushed]
  refine .bind_silent (.sent_ok _ _) ?_
  exact (Span.Runs.update _ _).lasts

/-- Once a connection has been set up, a poll is a step with the statement in flight. -/
theorem lasts_poll {r : Except Fault Readiness} {g : Guarded ScriptedSession}
    {step : Span ScriptedSession Readiness} (hstep : step = match flight.phase with
      | .writing => Span.stepFlight flight
      | .reading => Span.stepResults flight)
    (h : Span.Lasts step (serving level info (some flight) s) r g) :
    Span.Lasts (Span.poll true target) (serving level info (some flight) s) r g := by
  subst hstep
  unfold Span.poll
  refine .bind_silent (.guarded _) ?_
  unfold Span.step
  refine .bind_silent (.guarded _) ?_
  unfold Span.stepReady
  exact .bind_silent (.guarded _) h

/-- The rest of the statement is written. -/
theorem lasts_poll_writing (h : s.flushesLeft = 0) :
    Span.Lasts (Span.poll true target)
      (serving level info (some { owner, phase := .writing }) s) (.ok .needRead)
      (serving level info (some { owner, phase := .reading }) s) := by
  refine lasts_poll rfl ?_
  unfold Span.stepFlight
  refine .bind_ask rfl (by simp) ?_
  rw [respond_flush h]
  exact .bind_silent (.update _ _) (Span.Runs.pure _ _).lasts

/-- A part of the statement stays unwritten. -/
theorem lasts_poll_writing_pending {n : Nat} (h : s.flushesLeft = n + 1) :
    Span.Lasts (Span.poll true target)
      (serving level info (some { owner, phase := .writing }) s) (.ok .needWrite)
      (serving level info (some { owner, phase := .writing }) { s with flushesLeft := n }) := by
  refine lasts_poll rfl ?_
  unfold Span.stepFlight
  refine .bind_ask rfl (by simp) ?_
  rw [respond_flush_pending h]
  exact (Span.Runs.pure _ _).lasts

/-- The result is not there yet. -/
theorem lasts_poll_busy (h : 1 < s.busyLeft) :
    Span.Lasts (Span.poll true target)
      (serving level info (some { owner, phase := .reading }) s) (.ok .needRead)
      (serving level info (some { owner, phase := .reading }) s.consumed) := by
  refine lasts_poll rfl ?_
  unfold Span.stepResults
  refine .bind_ask rfl (by simp) ?_
  refine .bind_ask rfl (by simp) ?_
  show Span.Lasts (if (WireSession.respond .isBusy s.consumed).1 then _ else _)
    ((serving level info (some { owner, phase := .reading }) s.consumed).on
      (WireSession.respond .isBusy s.consumed).2) _ _
  rw [respond_isBusy h]
  exact (Span.Runs.pure _ _).lasts

/-- The one result that there is completes the statement. -/
theorem exec_complete_fetched {t : SpanState ScriptedSession} {result : QueryResult}
    (ht : t.guarded.session = some s) (hresults : s.results = [result]) :
    Span.exec (do
        Span.complete flight (collectOutcome (← Span.askResults))
        return Readiness.complete) t =
      (.ok .complete,
        { guarded := { t.guarded with session := some { s with results := [] }, inFlight := none }
          exchanges := t.exchanges ++ Span.fetchExchanges [result]
          completion := some { owner := flight.owner, outcome := collectOutcome [result] } }) := by
  rw [Span.exec_bind_ok (Span.exec_askResults_some ht), fetchAll_of_single hresults]
  rfl

/-- The result is there, and the statement is completed with it. -/
theorem exec_poll_completing (target level : Isolation) (info : SessionInfo) (owner : QueryOwner)
    {result : QueryResult} (hbusy : s.busyLeft ≤ 1)
    (hresults : s.results = [result]) :
    ∃ xs, (Span.poll true target).exec
        { guarded := serving level info (some { owner, phase := .reading }) s } =
      (.ok .complete,
        { guarded := serving level info none s.answered
          exchanges := xs
          completion := some { owner, outcome := collectOutcome [result] } }) := by
  have hconsumed : (WireSession.respond .consume s).1 = .ok () := rfl
  unfold Span.poll
  rw [Span.exec_bind_ok (Span.exec_guarded _)]
  show ∃ xs, (Span.step true target).exec _ = _
  unfold Span.step
  rw [Span.exec_bind_ok (Span.exec_guarded _)]
  show ∃ xs, Span.stepReady.exec _ = _
  unfold Span.stepReady
  rw [Span.exec_bind_ok (Span.exec_guarded _)]
  show ∃ xs, (Span.stepResults _).exec _ = _
  unfold Span.stepResults
  rw [Span.exec_bind_ok (Span.exec_ask_some rfl _), hconsumed]
  dsimp only
  rw [Span.exec_bind_ok (Span.exec_ask_some rfl _)]
  show ∃ xs, Span.exec (if (WireSession.respond .isBusy s.consumed).1 then _ else _) _ = _
  rw [respond_isBusy_idle hbusy, if_neg Bool.false_ne_true]
  exact ⟨_, exec_complete_fetched rfl hresults⟩

end ScriptedSession

end SessionLayer
