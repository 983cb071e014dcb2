import SessionLayer.Proofs.Connection.Likeness
import SessionLayer.Proofs.Connection.Refusal
import SessionLayer.Proofs.Wire.ScriptedSetup

/-!
# Resetting a blocking connection

A blocking connection queues no statements. So, messages apart, a scripted session that serves one
remembers only the transaction: it is `ScriptedSession.resting` after every operation. A reset that
succeeds ends the transaction and runs the whole setup again, which leaves the connection as new
(`Connection.IsNew`), whatever happened to it before.
-/

set_option autoImplicit false

namespace SessionLayer

/-- The state of a connection that has just been set up, apart from its session and from messages. -/
def Guarded.setUp {σ : Type} (info : SessionInfo) (level : Isolation) : Guarded σ :=
  { status := .ready, info := some info, isolation := level }

namespace Script

/-- What the log of a script shows of exchanges. -/
def log (xs : List Exchange) : List String :=
  xs.filterMap fun x => callEntry x.call

theorem callEntry_of_collects {call : Call} (h : call.collects) : callEntry call = none := by
  cases call with
  | takeNotices | takeNotifications => rfl
  | _ => exact nomatch h

/-- The log does not show that messages were handed over. -/
theorem log_talk (xs : List Exchange) : log (talk xs) = log xs := by
  unfold log talk
  rw [List.filterMap_filter]
  congr 1
  funext x
  cases hcollects : x.call.collects with
  | false => rfl
  | true => exact (callEntry_of_collects hcollects).symm

end Script

namespace ScriptedSession

variable {script : Script} {transaction : TransactionStatus} {s : ScriptedSession}

/-- The session without its messages. -/
def unheard (s : ScriptedSession) : ScriptedSession :=
  { s with notices := [], incoming := [], arrived := [] }

/-- A session with nothing under way but the transaction, and without messages. -/
def resting (script : Script) (transaction : TransactionStatus) : ScriptedSession :=
  { script, handshake := [], incoming := [], transaction }

theorem script_of_unheard (h : s.unheard = resting script transaction) : s.script = script :=
  congrArg ScriptedSession.script h

/-! ## Calls -/

theorem run_eq_of_success {sql : String} (h : s.script.failures.lookup sql = none) :
    s.run sql = (.ok (s.script.answer sql),
      { s with
        notices := s.notices ++ s.script.raisedBy sql
        transaction := transactionAfter s.transaction sql (s.script.answer sql) }) := by
  unfold run
  rw [h]
  rfl

/-- A statement runs alike without the messages. -/
theorem run_unheard (s : ScriptedSession) (sql : String) :
    (s.unheard.run sql).1 = (s.run sql).1 ∧
      (s.unheard.run sql).2.unheard = (s.run sql).2.unheard := by
  cases hfailures : s.script.failures.lookup sql with
  | some text =>
    rw [run_of_failure hfailures, run_of_failure (s := s.unheard) hfailures]
    exact ⟨rfl, rfl⟩
  | none =>
    rw [run_eq_of_success hfailures, run_eq_of_success (s := s.unheard) hfailures]
    exact ⟨rfl, rfl⟩

/-- Flushing goes alike without the messages. -/
theorem respond_flush_unheard (s : ScriptedSession) :
    (WireSession.respond .flush s.unheard).1 = (WireSession.respond .flush s).1 ∧
      (WireSession.respond .flush s.unheard).2.unheard =
        (WireSession.respond .flush s).2.unheard := by
  cases hleft : s.flushesLeft with
  | zero =>
    rw [respond_flush hleft, respond_flush (s := s.unheard) hleft]
    exact ⟨rfl, rfl⟩
  | succ n =>
    rw [respond_flush_pending hleft, respond_flush_pending (s := s.unheard) hleft]
    exact ⟨rfl, rfl⟩

/-- No other answers depend on messages than those that hand them over. -/
theorem fst_respond_unheard (s : ScriptedSession) {call : Call} (hordinary : call.isOrdinary)
    (hqueues : call.queues = false) :
    (WireSession.respond call s.unheard).1 = (WireSession.respond call s).1 := by
  cases call with
  | exec sql => exact (run_unheard s sql).1
  | flush => exact (respond_flush_unheard s).1
  | send _ => exact nomatch hqueues
  | takeNotices | takeNotifications | finish => exact nomatch hordinary
  | _ => rfl

theorem unheard_respond (s : ScriptedSession) {call : Call} (hqueues : call.queues = false) :
    (WireSession.respond call s.unheard).2.unheard = (WireSession.respond call s).2.unheard := by
  cases call with
  | exec sql => exact (run_unheard s sql).2
  | flush => exact (respond_flush_unheard s).2
  | send _ => exact nomatch hqueues
  | _ => rfl

/-- A statement changes nothing but the transaction of a session that rests. -/
theorem unheard_run_resting (script : Script) (transaction : TransactionStatus) (sql : String) :
    ∃ after, ((resting script transaction).run sql).2.unheard = resting script after := by
  cases hfailures : script.failures.lookup sql with
  | some text =>
    rw [run_of_failure (s := resting script transaction) hfailures]
    exact ⟨_, rfl⟩
  | none =>
    rw [run_eq_of_success (s := resting script transaction) hfailures]
    exact ⟨_, rfl⟩

/-- A session that rests goes on resting, as long as no statement is queued. -/
theorem unheard_respond_resting (script : Script) (transaction : TransactionStatus) {call : Call}
    (hqueues : call.queues = false) :
    ∃ after, (WireSession.respond call (resting script transaction)).2.unheard =
      resting script after := by
  cases call with
  | exec sql => exact unheard_run_resting script transaction sql
  | send _ => exact nomatch hqueues
  | _ => exact ⟨_, rfl⟩

/-- Sessions that rest in the same transaction of the same script answer alike. -/
def likeness (script : Script) : Span.Likeness ScriptedSession where
  relates a b := ∃ transaction,
    a.unheard = resting script transaction ∧ b.unheard = resting script transaction
  answer_eq := by
    rintro a b call ⟨transaction, ha, hb⟩ hordinary hqueues
    rw [← fst_respond_unheard a hordinary hqueues, ha, ← hb, fst_respond_unheard b hordinary hqueues]
  next := by
    rintro a b call ⟨transaction, ha, hb⟩ hqueues
    obtain ⟨after, hafter⟩ := unheard_respond_resting script transaction hqueues
    refine ⟨after, ?_, ?_⟩
    · rw [← unheard_respond a hqueues, ha, hafter]
    · rw [← unheard_respond b hqueues, hb, hafter]

/-! ## The setup -/

/-- Neither question of the setup is a matter of transactions. -/
theorem transactionAfter_statement (q : SetupQuery) (result : QueryResult) :
    transactionAfter .idle q.statement result = .idle := by
  unfold transactionAfter
  split
  · rfl
  · cases q with
    | dateStyle | clientEncoding => rfl

theorem unheard_asked (h : s.unheard = resting script .idle) (q : SetupQuery) :
    (s.asked q).unheard = resting script .idle := by
  have hrun : ((resting script .idle).run q.statement).2.unheard = resting script .idle := by
    cases hfailures : script.failures.lookup q.statement with
    | some text =>
      rw [run_of_failure (s := resting script .idle) hfailures]
      rfl
    | none =>
      rw [run_eq_of_success (s := resting script .idle) hfailures]
      show resting script (transactionAfter .idle q.statement _) = _
      rw [transactionAfter_statement]
  rw [asked, ← (run_unheard s q.statement).2, h, hrun]

/-- The session after both questions of the setup. -/
def afterSetup (s : ScriptedSession) : ScriptedSession :=
  (s.asked .dateStyle).asked .clientEncoding

theorem unheard_afterSetup (h : s.unheard = resting script .idle) :
    s.afterSetup.unheard = resting script .idle :=
  unheard_asked (unheard_asked h .dateStyle) .clientEncoding

/-- The session after a reset. -/
def afterReset (s : ScriptedSession) : ScriptedSession :=
  (WireSession.respond .reset s).2

theorem unheard_afterReset (h : s.unheard = resting script transaction) :
    s.afterReset.unheard = resting script .idle := by
  rw [afterReset, ← unheard_respond s rfl, h]
  rfl

/-- The exchanges of the whole setup in one go. -/
def setupExchanges (s : ScriptedSession) : List Exchange :=
  s.script.greeting ++ [s.asking .dateStyle, (s.asked .dateStyle).asking .clientEncoding]

variable {g : Guarded ScriptedSession} {level : Isolation} {info : SessionInfo}

/-- A reset that the transport lets through, and what follows it. -/
theorem runs_reset {next : Span ScriptedSession Unit} {xs : List Exchange} {r : Except Fault Unit}
    {g₁ : Guarded ScriptedSession} (hs : g.session = some s) (hreset : s.script.resetFailure = none)
    (h : Span.Runs next (g.on s.afterReset) xs r g₁) :
    Span.Runs (do Span.sent (← Span.ask .reset); next) g ({ call := .reset, answer := .ok () } :: xs)
      r g₁ := by
  have hanswer : (WireSession.respond .reset s).1 = .ok () := by
    simp only [WireSession.respond, respond, hreset]
  have hasked := Span.Runs.ask hs .reset
  rw [hanswer] at hasked
  exact .bind hasked (.bind_silent (.sent_ok () _) h)

/-- A reset that fails in the transport. -/
theorem runs_reset_error {next : Span ScriptedSession Unit} {text : String} (hs : g.session = some s)
    (hreset : s.script.resetFailure = some text) :
    Span.Runs (do Span.sent (← Span.ask .reset); next) g [{ call := .reset, answer := .error text }]
      (.error (.transport text)) (g.on s.afterReset) := by
  have hanswer : (WireSession.respond .reset s).1 = .error text := by
    simp only [WireSession.respond, respond, hreset]
  have hasked := Span.Runs.ask hs .reset
  rw [hanswer] at hasked
  exact .bind hasked (.bind_error (.sent_error text _))

/-- The session is reopened and set up again. -/
theorem runs_reopen (hs : g.session = some s) (hreset : s.script.resetFailure = none)
    (hsetup : s.script.setup = .ok info) :
    Span.Runs (Span.reopen level) g ({ call := .reset, answer := .ok () } :: s.afterReset.setupExchanges)
      (.ok ()) ((g.on s.afterReset.afterSetup).established info level) :=
  .orTearDown (runs_reset hs hreset (runs_runSetup rfl hsetup))

/-- Reopening a session succeeds only if the transport lets the reset through and the setup succeeds. -/
theorem runs_reopen_or_fails (hs : g.session = some s) (level : Isolation) :
    (∃ info, s.script.setup = .ok info ∧ Span.Runs (Span.reopen level) g
      ({ call := .reset, answer := .ok () } :: s.afterReset.setupExchanges) (.ok ())
      ((g.on s.afterReset.afterSetup).established info level)) ∨
    ∃ xs fault g₁, Span.Runs (Span.reopen level) g xs (.error fault) g₁ := by
  cases hreset : s.script.resetFailure with
  | some text => exact Or.inr ⟨_, _, _, .orTearDown_error (runs_reset_error hs hreset) _ rfl⟩
  | none =>
    cases hsetup : s.script.setup with
    | ok info => exact Or.inl ⟨info, rfl, runs_reopen hs hreset hsetup⟩
    | error fault =>
      have hlasts : ∃ next notes, Span.Lasts (Span.runSetup level) (g.on s.afterReset) (.error fault)
          (((g.on s.afterReset).on next).noting notes) :=
        lasts_runSetup_error (s := s.afterReset) rfl hsetup
      obtain ⟨next, notes, xs, -, hfails⟩ := hlasts
      exact Or.inr ⟨_, _, _, .orTearDown_error (runs_reset hs hreset hfails) _ rfl⟩

end ScriptedSession

namespace Connection

open ScriptedSession

variable {script : Script} {info : SessionInfo} {c c' : Connection ScriptedSession}

/-- A blocking connection with nothing but the setup behind it. -/
structure IsNew (script : Script) (info : SessionInfo) (c : Connection ScriptedSession) : Prop
    extends c.Serves where
  bare : c.guarded.bare = .setUp info c.defaultIsolation
  session : ∃ s, c.guarded.session = some s ∧ s.unheard = resting script .idle

/-- What a setup that has succeeded leaves behind. -/
theorem bare_established {g : Guarded ScriptedSession} (hflight : g.inFlight = none)
    (level : Isolation) : (g.established info level).bare = .setUp info level := by
  unfold Guarded.bare Guarded.established Guarded.setUp
  rw [hflight]

/-- New connections on the same script, at the same level, are twins. -/
theorem IsNew.twins (h : c.IsNew script info) (h' : c'.IsNew script info)
    (hlevel : c.defaultIsolation = c'.defaultIsolation) : (likeness script).Twins c c' where
  serves := h.toServes
  serves' := h'.toServes
  level := hlevel
  guarded := by
    obtain ⟨s, hs, hresting⟩ := h.session
    obtain ⟨s', hs', hresting'⟩ := h'.session
    refine ⟨?_, by rw [h.bare, h'.bare, hlevel]⟩
    rw [hs, hs']
    exact .some ⟨.idle, hresting, hresting'⟩

/-- A reset of a blocking connection that succeeds has reopened the session and run the whole setup. -/
theorem runs_span_of_reset (h : c.Serves) (hreset : (c.perform .reset).result = .ok ()) :
    ∃ s info, c.guarded.session = some s ∧ s.script.setup = .ok info ∧
      Span.Runs (c.span .reset) c.guarded
        ({ call := .reset, answer := .ok () } :: s.afterReset.setupExchanges) (.ok ())
        ((c.guarded.on s.afterReset.afterSetup).established info c.defaultIsolation) := by
  have hopen : c.guarded.status ≠ .closed := by
    intro hclosed
    have hrefused := refuses_of_closed hclosed (by decide : Operation.reset ≠ .close)
    cases hreset.symm.trans hrefused.result
  have hlevel : c.setupIsolation = c.defaultIsolation := by
    rw [setupIsolation, h.blocking]
    rfl
  have hspan : c.span .reset = c.blocking "reset" (Span.reopen c.defaultIsolation) := by
    rw [← hlevel]
    rfl
  obtain ⟨s, hs⟩ := Option.isSome_iff_exists.1 (h.settled.1.session_iff.2 hopen)
  obtain ⟨info, hsetup, hruns⟩ | ⟨xs, fault, g₁, hruns⟩ := runs_reopen_or_fails hs c.defaultIsolation
  · rw [hspan]
    exact ⟨s, info, hs, hsetup, runs_blocking hopen h.blocking hruns⟩
  · have hfails : Span.Runs (c.span .reset) c.guarded xs (.error fault) g₁ := by
      rw [hspan]
      exact runs_blocking hopen h.blocking hruns
    cases hreset.symm.trans hfails.result_run

/-- A session that serves a connection that is like itself rests. -/
theorem resting_of_twins (h : (likeness script).Twins c c) {s : ScriptedSession}
    (hs : c.guarded.session = some s) : ∃ transaction, s.unheard = resting script transaction := by
  have hmatches := h.guarded.session
  rw [hs] at hmatches
  cases hmatches with
  | some hrelated =>
    obtain ⟨transaction, hresting, -⟩ := hrelated
    exact ⟨transaction, hresting⟩

/-- After a reset that has succeeded the connection is as new, and three calls show in the log. -/
theorem isNew_of_reset (h : (likeness script).Twins c c) (hreset : (c.perform .reset).result = .ok ()) :
    ∃ info, script.setup = .ok info ∧
      IsNew script info { c with guarded := (c.perform .reset).guarded } ∧
      Script.log (c.perform .reset).exchanges =
        ["reset", "exec:SHOW DATESTYLE", "exec:SHOW client_encoding"] := by
  obtain ⟨s, info, hs, hsetup, hruns⟩ := runs_span_of_reset h.serves hreset
  obtain ⟨transaction, hresting⟩ := resting_of_twins h hs
  have hidle := unheard_afterSetup (unheard_afterReset hresting)
  have hperform : c.perform .reset = _ := hruns.run_some s.afterReset.afterSetup rfl
  rw [script_of_unheard hresting] at hsetup
  refine ⟨info, hsetup, ⟨h.serves.perform .reset c.mailbox, ?_, ?_⟩, ?_⟩
  · rw [hperform]
    exact bare_established h.serves.settled.1.inFlight_eq_none c.defaultIsolation
  · rw [hperform]
    exact ⟨_, rfl, hidle⟩
  · rw [hperform]
    rfl

end Connection

end SessionLayer
