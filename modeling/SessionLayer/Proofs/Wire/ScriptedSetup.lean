import SessionLayer.Proofs.Connection.Steps
import SessionLayer.Proofs.Span.Runs
import SessionLayer.Wire.Script

/-!
# The setup on a scripted session

What a script answers to the questions of the setup determines how the setup ends: `Script.setup` says
how. Here is what each part of the two ways of asking, the blocking one and the one by polls, does on a
session that follows the script.
-/

set_option autoImplicit false

namespace SessionLayer

namespace Script

/-- What is noted of the answer to a question. -/
def noted (script : Script) (q : SetupQuery) (progress : SetupProgress) :
    Except Fault SetupProgress :=
  match script.failures.lookup q.statement with
  | some text => .error (.transport text)
  | none => q.note (some (script.answer q.statement)) progress

def firstNotes (script : Script) : SetupProgress :=
  { standardConformingStrings :=
      script.parameters.lookup Span.standardStringsParameter == some "on"
    serverVersion := script.serverVersion
    protocolVersion := script.protocolVersion }

/-- The exchanges in which the handshake is asked what it tells about the server. -/
def greeting (script : Script) : List Exchange :=
  [{ call := .parameter Span.standardStringsParameter,
     answer := script.parameters.lookup Span.standardStringsParameter },
    { call := .serverVersion, answer := script.serverVersion },
    { call := .protocolVersion, answer := script.protocolVersion }]

def setup (script : Script) : Except Fault SessionInfo := do
  let asked ← script.noted .dateStyle script.firstNotes
  let progress ← script.noted .clientEncoding asked
  progress.toInfo

/-- The notices that a statement raises. -/
def raisedBy (script : Script) (sql : String) : List String :=
  (script.notices.lookup sql).getD []

/-- The notices that a question raises. -/
def raised (script : Script) (q : SetupQuery) : List String :=
  (script.notices.lookup q.statement).getD []

variable {script : Script} {q : SetupQuery} {progress noted : SetupProgress}

theorem connect_of_none (h : script.connectFailure = none) (blocking : Bool) (dsn : String) :
    Connector.connect blocking dsn script =
      (.ok (ScriptedSession.start script (if blocking then [] else script.handshake)), script) := by
  show (match script.connectFailure with
    | some text => Except.error text
    | none => .ok _, script) = _
  rw [h]

theorem connect_of_some {text : String} (h : script.connectFailure = some text) (blocking : Bool)
    (dsn : String) : Connector.connect blocking dsn script = (.error text, script) := by
  show (match script.connectFailure with
    | some text => Except.error text
    | none => .ok _, script) = _
  rw [h]

/-- A question is noted only if the transport lets it through. -/
theorem noted_eq_ok (h : script.noted q progress = .ok noted) :
    script.failures.lookup q.statement = none ∧
      q.note (some (script.answer q.statement)) progress = .ok noted := by
  unfold Script.noted at h
  split at h
  · exact nomatch h
  · rename_i hfailures
    exact ⟨hfailures, h⟩

/-- A question that is not noted failed in the transport, or its answer cannot be used. -/
theorem noted_eq_error {fault : Fault} (h : script.noted q progress = .error fault) :
    (∃ text, script.failures.lookup q.statement = some text ∧ fault = .transport text) ∨
      (script.failures.lookup q.statement = none ∧
        q.note (some (script.answer q.statement)) progress = .error fault) := by
  unfold Script.noted at h
  split at h
  · rename_i text hfailures
    cases h
    exact Or.inl ⟨text, hfailures, rfl⟩
  · rename_i hfailures
    exact Or.inr ⟨hfailures, h⟩

/-- The setup succeeds if both answers can be noted and the notes are complete. -/
theorem setup_eq_ok {info : SessionInfo} (h : script.setup = .ok info) :
    ∃ asked notes, script.noted .dateStyle script.firstNotes = .ok asked ∧
      script.noted .clientEncoding asked = .ok notes ∧ notes.toInfo = .ok info := by
  unfold setup at h
  cases hasked : script.noted .dateStyle script.firstNotes with
  | error fault =>
    rw [hasked] at h
    exact nomatch h
  | ok asked =>
    rw [hasked] at h
    cases hnotes : script.noted .clientEncoding asked with
    | error fault =>
      simp only [bind, Except.bind, hnotes] at h
      exact nomatch h
    | ok notes =>
      simp only [bind, Except.bind, hnotes] at h
      exact ⟨asked, notes, rfl, hnotes, h⟩

/-- The setup fails with the first answer that cannot be noted, or because the notes are incomplete. -/
theorem setup_eq_error {fault : Fault} (h : script.setup = .error fault) :
    script.noted .dateStyle script.firstNotes = .error fault ∨
      ∃ asked, script.noted .dateStyle script.firstNotes = .ok asked ∧
        (script.noted .clientEncoding asked = .error fault ∨
          ∃ notes, script.noted .clientEncoding asked = .ok notes ∧ notes.toInfo = .error fault) := by
  unfold setup at h
  cases hasked : script.noted .dateStyle script.firstNotes with
  | error fault' =>
    rw [hasked] at h
    cases h
    exact Or.inl rfl
  | ok asked =>
    rw [hasked] at h
    refine Or.inr ⟨asked, rfl, ?_⟩
    cases hnotes : script.noted .clientEncoding asked with
    | error fault' =>
      simp only [bind, Except.bind, hnotes] at h
      cases h
      exact Or.inl rfl
    | ok notes =>
      simp only [bind, Except.bind, hnotes] at h
      exact Or.inr ⟨notes, rfl, h⟩

end Script

/-- What a connection that is being set up guards: its session, how far it is, and its notes. -/
def Guarded.settingUp {σ : Type} (level : Isolation) (session : σ) (status : Status)
    (progress : SetupProgress) : Guarded σ :=
  { session := some session, status, progress, isolation := level }

/-- What a step of the handshake asks the caller to wait for. -/
def HandshakeStep.readiness : HandshakeStep → Readiness
  | .reading => .needRead
  | _ => .needWrite

namespace ScriptedSession

open Guarded

variable {level target : Isolation} {g : Guarded ScriptedSession} {s : ScriptedSession}
  {status : Status} {progress noted : SetupProgress} {q : SetupQuery}

/-- The session after a question that the transport let through. -/
def asked (s : ScriptedSession) (q : SetupQuery) : ScriptedSession :=
  (s.run q.statement).2

theorem run_of_failure {sql text : String} (h : s.script.failures.lookup sql = some text) :
    s.run sql = (.error text, s) := by
  unfold ScriptedSession.run
  rw [h]

theorem run_of_success {sql : String} (h : s.script.failures.lookup sql = none) :
    (s.run sql).1 = .ok (s.script.answer sql) ∧ (s.run sql).2.script = s.script ∧
      (s.run sql).2.notices = s.notices ++ (s.script.notices.lookup sql).getD [] ∧
      (s.run sql).2.results = s.results := by
  unfold ScriptedSession.run
  rw [h]
  exact ⟨rfl, rfl, rfl, rfl⟩

/-! ## Parts that both ways have in common -/

theorem runs_recordHandshake (hs : g.session = some s) :
    Span.Runs Span.recordHandshake g s.script.greeting (.ok ()) (g.noting s.script.firstNotes) := by
  rw [← on_eq_self hs]
  exact .bind (.ask rfl _) (.bind (.ask rfl _) (.bind (.ask rfl _) (.update _ _)))

theorem lasts_recordHandshake :
    Span.Lasts Span.recordHandshake (settingUp level s status progress) (.ok ())
      (settingUp level s status s.script.firstNotes) :=
  ⟨_, rfl, runs_recordHandshake rfl⟩

theorem runs_noteAnswer {answer : Option QueryResult} (h : q.note answer g.progress = .ok noted) :
    Span.Runs (Span.noteAnswer q answer) g [] (.ok ()) (g.noting noted) := by
  unfold Span.noteAnswer
  refine .bind_silent (.guarded _) ?_
  exact .bind_silent (.lift h _) (.update _ _)

theorem runs_noteAnswer_error {answer : Option QueryResult} {fault : Fault}
    (h : q.note answer g.progress = .error fault) :
    Span.Runs (Span.noteAnswer q answer) g [] (.error fault) g := by
  unfold Span.noteAnswer
  exact .bind_silent (.guarded _) (.bind_error (.lift h _))

theorem runs_completeSetup {info : SessionInfo} (h : g.progress.toInfo = .ok info) :
    Span.Runs (Span.completeSetup target) g [] (.ok ()) (g.established info target) := by
  unfold Span.completeSetup
  refine .bind_silent (.guarded _) ?_
  refine .bind_silent (.update _ _) ?_
  refine .bind_silent (.lift h _) ?_
  exact .bind_silent (.update _ _) (.update _ _)

theorem runs_completeSetup_error {fault : Fault} (h : g.progress.toInfo = .error fault) :
    Span.Runs (Span.completeSetup target) g [] (.error fault) (g.noting {}) := by
  unfold Span.completeSetup
  refine .bind_silent (.guarded _) ?_
  exact .bind_silent (.update _ _) (.bind_error (.lift h _))

/-! ## Asking and waiting -/

/-- The exchange in which a question is asked in one go. -/
def asking (s : ScriptedSession) (q : SetupQuery) : Exchange where
  call := .exec q.statement
  answer := (s.run q.statement).1

/-- A question that is noted. -/
theorem runs_askQuery (hs : g.session = some s) (h : s.script.noted q g.progress = .ok noted) :
    Span.Runs (Span.askQuery q) g [s.asking q] (.ok ()) ((g.on (s.asked q)).noting noted) := by
  obtain ⟨hfailures, hnote⟩ := Script.noted_eq_ok h
  have hanswer : (WireSession.respond (.exec q.statement) s).1 =
      .ok (s.script.answer q.statement) := (run_of_success hfailures).1
  unfold Span.askQuery
  refine .bind_last (.ask hs _) ?_
  rw [hanswer]
  exact .bind_silent (.sent_ok _ _) (runs_noteAnswer hnote)

/-- A question that cannot be noted. -/
theorem runs_askQuery_error (hs : g.session = some s) {fault : Fault}
    (h : s.script.noted q g.progress = .error fault) :
    Span.Runs (Span.askQuery q) g [s.asking q] (.error fault) (g.on (s.asked q)) := by
  unfold Span.askQuery
  refine .bind_last (.ask hs _) ?_
  obtain ⟨text, hfailures, rfl⟩ | ⟨hfailures, hnote⟩ := Script.noted_eq_error h
  · have hanswer : (WireSession.respond (.exec q.statement) s).1 = .error text := by
      show (s.run q.statement).1 = _
      rw [run_of_failure hfailures]
    rw [hanswer]
    exact .bind_error (.sent_error _ _)
  · have hanswer : (WireSession.respond (.exec q.statement) s).1 =
        .ok (s.script.answer q.statement) := (run_of_success hfailures).1
    rw [hanswer]
    exact .bind_silent (.sent_ok _ _) (runs_noteAnswer_error hnote)

theorem script_asked (s : ScriptedSession) (q : SetupQuery) : (s.asked q).script = s.script := by
  unfold asked ScriptedSession.run
  split <;> rfl

theorem results_asked (s : ScriptedSession) (q : SetupQuery) : (s.asked q).results = s.results := by
  unfold asked ScriptedSession.run
  split <;> rfl

theorem notices_asked (h : s.script.noted q progress = .ok noted) :
    (s.asked q).notices = s.notices ++ s.script.raised q :=
  (run_of_success (Script.noted_eq_ok h).1).2.2.1

theorem runs_forM_askQuery {asked : SetupProgress} (hs : g.session = some s)
    (hasked : s.script.noted .dateStyle g.progress = .ok asked)
    (hnotes : (s.asked .dateStyle).script.noted .clientEncoding asked = .ok noted) :
    Span.Runs (SetupQuery.all.forM Span.askQuery) g
      [s.asking .dateStyle, (s.asked .dateStyle).asking .clientEncoding] (.ok ())
      ((g.on ((s.asked .dateStyle).asked .clientEncoding)).noting noted) :=
  .bind (runs_askQuery hs hasked) (.bind (runs_askQuery rfl hnotes) (.pure _ _))

/-- The setup in one go succeeds as the script says. -/
theorem runs_runSetup {info : SessionInfo} (hs : g.session = some s) (h : s.script.setup = .ok info) :
    Span.Runs (Span.runSetup target) g
      (s.script.greeting ++ [s.asking .dateStyle, (s.asked .dateStyle).asking .clientEncoding]) (.ok ())
      ((g.on ((s.asked .dateStyle).asked .clientEncoding)).established info target) := by
  obtain ⟨asked, notes, hasked, hnotes, hinfo⟩ := Script.setup_eq_ok h
  rw [← script_asked s .dateStyle] at hnotes
  have hquestions := runs_forM_askQuery (g := g.noting s.script.firstNotes) hs hasked hnotes
  exact .bind (runs_recordHandshake hs) (.bind_last hquestions (runs_completeSetup hinfo))

theorem lasts_runSetup {info : SessionInfo} (h : s.script.setup = .ok info) :
    ∃ (next : ScriptedSession) (notes : SetupProgress), next.script = s.script ∧
      next.results = s.results ∧
      next.notices = s.notices ++ (s.script.raised .dateStyle ++ s.script.raised .clientEncoding) ∧
      Span.Lasts (Span.runSetup target) (settingUp level s status progress) (.ok ())
        ((settingUp level next status notes).established info target) := by
  obtain ⟨asked, notes, hasked, hnotes, -⟩ := Script.setup_eq_ok h
  rw [← script_asked s .dateStyle] at hnotes
  refine ⟨(s.asked .dateStyle).asked .clientEncoding, notes, ?_, ?_, ?_, _, rfl, runs_runSetup rfl h⟩
  · rw [script_asked, script_asked]
  · rw [results_asked, results_asked]
  · rw [notices_asked hnotes, notices_asked hasked, script_asked, List.append_assoc]

/-- The setup in one go fails as the script says, with the session still there. -/
theorem lasts_runSetup_error (hs : g.session = some s) {fault : Fault}
    (h : s.script.setup = .error fault) :
    ∃ (next : ScriptedSession) (notes : SetupProgress),
      Span.Lasts (Span.runSetup target) g (.error fault) ((g.on next).noting notes) := by
  have hgreeted : Span.Lasts Span.recordHandshake g (.ok ()) (g.noting s.script.firstNotes) :=
    ⟨_, rfl, runs_recordHandshake hs⟩
  obtain hasked | ⟨asked, hasked, hrest⟩ := Script.setup_eq_error h
  · have hfirst := runs_askQuery_error (g := g.noting s.script.firstNotes) hs hasked
    exact ⟨s.asked .dateStyle, s.script.firstNotes, .bind hgreeted
      (.bind_error (.bind_error ⟨_, rfl, hfirst⟩))⟩
  · obtain hnotes | ⟨notes, hnotes, hinfo⟩ := hrest
    · rw [← script_asked s .dateStyle] at hnotes
      have hfirst := runs_askQuery (g := g.noting s.script.firstNotes) hs hasked
      exact ⟨(s.asked .dateStyle).asked .clientEncoding, asked, .bind hgreeted (.bind_error
        (.bind ⟨_, rfl, hfirst⟩ (.bind_error ⟨_, rfl, runs_askQuery_error rfl hnotes⟩)))⟩
    · rw [← script_asked s .dateStyle] at hnotes
      have hquestions := runs_forM_askQuery (g := g.noting s.script.firstNotes) hs hasked hnotes
      exact ⟨(s.asked .dateStyle).asked .clientEncoding, {}, .bind hgreeted
        (.bind ⟨_, rfl, hquestions⟩ (runs_completeSetup_error hinfo).lasts)⟩

/-! ## Asking by polls -/

/-- The session after a question has been submitted. -/
def submitted (s : ScriptedSession) (q : SetupQuery) : ScriptedSession :=
  (s.submit q.statement).2

/-- The session after input has been read. -/
def consumed (s : ScriptedSession) : ScriptedSession :=
  (ScriptedSession.respond .consume s).2

/-- The session after the answer to a question has been taken out. -/
def answered (s : ScriptedSession) : ScriptedSession :=
  { s.consumed with results := [] }

theorem submit_of_failure {text : String} (h : s.script.failures.lookup q.statement = some text) :
    s.submit q.statement = (.error text, s) := by
  unfold ScriptedSession.submit
  rw [run_of_failure h]

/-- The session after a statement has been submitted. -/
def queued (s : ScriptedSession) (sql : String) : ScriptedSession :=
  (s.submit sql).2

/-- A statement that the transport lets through is run, and waits to be written and read. -/
theorem submit_of_accepted {sql : String} (h : s.script.failures.lookup sql = none) :
    (s.submit sql).1 = .ok () ∧ (s.queued sql).script = s.script ∧
      (s.queued sql).notices = s.notices ++ s.script.raisedBy sql ∧
      (s.queued sql).results = s.results ++ [s.script.answer sql] ∧
      (s.queued sql).busyLeft = s.script.busyRounds + 1 ∧
      (s.queued sql).flushesLeft = s.script.pendingFlushes := by
  unfold queued ScriptedSession.submit ScriptedSession.run
  rw [h]
  exact ⟨rfl, rfl, rfl, rfl, rfl, rfl⟩

theorem submit_of_success (h : s.script.failures.lookup q.statement = none) :
    (s.submit q.statement).1 = .ok () ∧ (s.submitted q).script = s.script ∧
      (s.submitted q).notices = s.notices ++ s.script.raised q ∧
      (s.submitted q).results = s.results ++ [s.script.answer q.statement] ∧
      (s.submitted q).busyLeft = s.script.busyRounds + 1 ∧
      (s.submitted q).flushesLeft = s.script.pendingFlushes :=
  submit_of_accepted h

theorem respond_flush (h : s.flushesLeft = 0) : WireSession.respond .flush s = (.ok .done, s) :=
  if_pos h

theorem respond_flush_pending {n : Nat} (h : s.flushesLeft = n + 1) :
    WireSession.respond .flush s = (.ok .pending, { s with flushesLeft := n }) := by
  show (if s.flushesLeft = 0 then _ else _) = _
  rw [if_neg (by omega), h]
  rfl

theorem respond_isBusy (h : 1 < s.busyLeft) :
    WireSession.respond .isBusy s.consumed = (true, s.consumed) := by
  show (decide (0 < s.busyLeft - 1), s.consumed) = _
  rw [decide_eq_true (by omega)]

theorem respond_isBusy_idle (h : s.busyLeft ≤ 1) :
    WireSession.respond .isBusy s.consumed = (false, s.consumed) := by
  show (decide (0 < s.busyLeft - 1), s.consumed) = _
  rw [decide_eq_false (by omega)]

theorem lasts_step_setup :
    Span.Lasts (Span.step true target) (settingUp level s .setup progress) (.ok .needWrite)
      (settingUp level s .handshake progress) := by
  unfold Span.step
  refine .bind_silent (.guarded _) ?_
  exact .bind_silent (.update _ _) (Span.Runs.pure _ _).lasts

theorem respond_handshake {step : HandshakeStep} {rest : List HandshakeStep}
    (h : s.handshake = step :: rest) :
    WireSession.respond .handshake s = (step, { s with handshake := rest }) := by
  show (s.handshake.headD .established, { s with handshake := s.handshake.tail }) = _
  rw [h]
  rfl

theorem lasts_step_handshake {step : HandshakeStep} {rest : List HandshakeStep}
    (h : s.handshake = step :: rest) (hstep : step = .reading ∨ step = .writing) :
    Span.Lasts (Span.step true target) (settingUp level s .handshake progress) (.ok step.readiness)
      (settingUp level { s with handshake := rest } .handshake progress) := by
  unfold Span.step
  refine .bind_silent (.guarded _) ?_
  refine .bind_ask rfl (by simp) ?_
  rw [respond_handshake h]
  rcases hstep with rfl | rfl
  · exact (Span.Runs.pure _ _).lasts
  · exact (Span.Runs.pure _ _).lasts

theorem lasts_step_failed {rest : List HandshakeStep} (h : s.handshake = .failed :: rest) :
    Span.Lasts (Span.step true target) (settingUp level s .handshake progress)
      (.error (.handshakeFailed s.script.handshakeText))
      (settingUp level { s with handshake := rest } .handshake progress) := by
  unfold Span.step
  refine .bind_silent (.guarded _) ?_
  refine .bind_ask rfl (by simp) ?_
  rw [respond_handshake h]
  exact .bind_ask rfl (by simp) (Span.Runs.throw _ _).lasts

theorem lasts_step_unknown {code : Int} {rest : List HandshakeStep}
    (h : s.handshake = .unknown code :: rest) :
    Span.Lasts (Span.step true target) (settingUp level s .handshake progress)
      (.error (.handshakeUnknown code))
      (settingUp level { s with handshake := rest } .handshake progress) := by
  unfold Span.step
  refine .bind_silent (.guarded _) ?_
  refine .bind_ask rfl (by simp) ?_
  rw [respond_handshake h]
  exact (Span.Runs.throw _ _).lasts

theorem lasts_step_established (h : s.handshake.headD .established = .established) :
    Span.Lasts (Span.step true target) (settingUp level s .handshake progress) (.ok .needWrite)
      (settingUp level { s with handshake := s.handshake.tail } (.asking .dateStyle)
        s.script.firstNotes) := by
  have hanswer : (WireSession.respond .handshake s).1 = .established := h
  unfold Span.step
  refine .bind_silent (.guarded _) ?_
  refine .bind_ask rfl (by simp) ?_
  rw [hanswer]
  refine .bind lasts_recordHandshake ?_
  exact .bind_silent (.update _ _) (Span.Runs.pure _ _).lasts

/-- A question that cannot be submitted. -/
theorem lasts_step_asking_error {text : String}
    (h : s.script.failures.lookup q.statement = some text) :
    Span.Lasts (Span.step true target) (settingUp level s (.asking q) progress)
      (.error (.transport text)) (settingUp level s (.asking q) progress) := by
  have hanswer : WireSession.respond (.send q.statement) s = (.error text, s) := submit_of_failure h
  unfold Span.step
  refine .bind_silent (.guarded _) ?_
  refine .bind_ask rfl (by simp) ?_
  rw [hanswer]
  exact .bind_error (Span.Runs.sent_error _ _).lasts

/-- Everything can be written. -/
theorem lasts_flush (submitted : Bool) (h : s.flushesLeft = 0) :
    Span.Lasts (do Span.afterFlush q submitted (← Span.sent (← Span.ask .flush)))
      (settingUp level s status progress) (.ok .needRead)
      (settingUp level s (.awaiting q) progress) := by
  refine .bind_ask rfl (by simp) ?_
  rw [respond_flush h]
  refine .bind_silent (.sent_ok _ _) ?_
  exact .bind_silent (.update _ _) (Span.Runs.pure _ _).lasts

/-- Output stays pending. -/
theorem lasts_flush_pending {n : Nat} (submitted : Bool) (h : s.flushesLeft = n + 1)
    (hstatus : submitted = false → status = .writing q) :
    Span.Lasts (do Span.afterFlush q submitted (← Span.sent (← Span.ask .flush)))
      (settingUp level s status progress) (.ok .needWrite)
      (settingUp level { s with flushesLeft := n } (.writing q) progress) := by
  refine .bind_ask rfl (by simp) ?_
  rw [respond_flush_pending h]
  refine .bind_silent (.sent_ok _ _) ?_
  cases submitted with
  | true => exact .bind_silent (.update _ _) (Span.Runs.pure _ _).lasts
  | false =>
    rw [hstatus rfl]
    exact (Span.Runs.pure _ _).lasts

/-- A question is submitted and written at once. -/
theorem lasts_step_asking (h : s.script.failures.lookup q.statement = none)
    (hflushes : s.script.pendingFlushes = 0) :
    Span.Lasts (Span.step true target) (settingUp level s (.asking q) progress) (.ok .needRead)
      (settingUp level (s.submitted q) (.awaiting q) progress) := by
  obtain ⟨hanswer, -, -, -, -, hleft⟩ := submit_of_success h
  unfold Span.step
  refine .bind_silent (.guarded _) ?_
  refine .bind_ask rfl (by simp) ?_
  have hanswer : (WireSession.respond (.send q.statement) s).1 = .ok () := hanswer
  rw [hanswer]
  refine .bind_silent (.sent_ok _ _) ?_
  exact lasts_flush true (hleft.trans hflushes)

/-- A question is submitted, and part of it not written yet. -/
theorem lasts_step_asking_pending {n : Nat} (h : s.script.failures.lookup q.statement = none)
    (hflushes : s.script.pendingFlushes = n + 1) :
    Span.Lasts (Span.step true target) (settingUp level s (.asking q) progress) (.ok .needWrite)
      (settingUp level { s.submitted q with flushesLeft := n } (.writing q) progress) := by
  obtain ⟨hanswer, -, -, -, -, hleft⟩ := submit_of_success h
  unfold Span.step
  refine .bind_silent (.guarded _) ?_
  refine .bind_ask rfl (by simp) ?_
  have hanswer : (WireSession.respond (.send q.statement) s).1 = .ok () := hanswer
  rw [hanswer]
  refine .bind_silent (.sent_ok _ _) ?_
  exact lasts_flush_pending true (hleft.trans hflushes) (fun h => nomatch h)

theorem lasts_step_writing (h : s.flushesLeft = 0) :
    Span.Lasts (Span.step true target) (settingUp level s (.writing q) progress) (.ok .needRead)
      (settingUp level s (.awaiting q) progress) := by
  unfold Span.step
  refine .bind_silent (.guarded _) ?_
  exact lasts_flush false h

theorem lasts_step_writing_pending {n : Nat} (h : s.flushesLeft = n + 1) :
    Span.Lasts (Span.step true target) (settingUp level s (.writing q) progress) (.ok .needWrite)
      (settingUp level { s with flushesLeft := n } (.writing q) progress) := by
  unfold Span.step
  refine .bind_silent (.guarded _) ?_
  exact lasts_flush_pending false h fun _ => rfl

theorem fetchAll_of_single {result : QueryResult} (h : s.results = [result]) :
    Span.fetchAll s = ([result], { s with results := [] }) := by
  have hfirst : WireSession.respond .getResult s = (some result, { s with results := [] }) := by
    show (s.results.head?, { s with results := s.results.tail }) = _
    rw [h]
    rfl
  have hrest : Span.fetchAll { s with results := [] } = ([], { s with results := [] }) :=
    Span.fetchAll_of_none rfl
  rw [Span.fetchAll_of_some (by rw [hfirst]), hfirst, hrest]

/-- The answer to a question is not there yet. -/
theorem lasts_step_awaiting_busy (h : 1 < s.busyLeft) :
    Span.Lasts (Span.step true target) (settingUp level s (.awaiting q) progress) (.ok .needRead)
      (settingUp level s.consumed (.awaiting q) progress) := by
  unfold Span.step
  refine .bind_silent (.guarded _) ?_
  refine .bind_ask rfl (by simp) ?_
  refine .bind_silent (.sent_ok _ _) ?_
  refine .bind_ask rfl (by simp) ?_
  show Span.Lasts (if (WireSession.respond .isBusy s.consumed).1 then _ else _)
    ((settingUp level s.consumed (.awaiting q) progress).on
      (WireSession.respond .isBusy s.consumed).2) _ _
  rw [respond_isBusy h]
  exact (Span.Runs.pure _ _).lasts

/-- The answer to a question is there: it is taken out and noted. -/
theorem lasts_step_awaiting {result : QueryResult} {r : Except Fault Readiness}
    {g : Guarded ScriptedSession} (hbusy : s.busyLeft ≤ 1) (hresults : s.results = [result])
    (h : Span.Lasts (do
        Span.noteAnswer q (some result)
        match q with
        | .dateStyle =>
          Span.moveTo (.asking .clientEncoding)
          return .needWrite
        | .clientEncoding =>
          Span.completeSetup target
          return .complete)
      (settingUp level s.answered (.awaiting q) progress) r g) :
    Span.Lasts (Span.step true target) (settingUp level s (.awaiting q) progress) r g := by
  have hfetched : Span.fetchAll s.consumed = ([result], s.answered) :=
    fetchAll_of_single hresults
  unfold Span.step
  refine .bind_silent (.guarded _) ?_
  refine .bind_ask rfl (by simp) ?_
  refine .bind_silent (.sent_ok _ _) ?_
  refine .bind_ask rfl (by simp) ?_
  show Span.Lasts (if (WireSession.respond .isBusy s.consumed).1 then _ else _)
    ((settingUp level s.consumed (.awaiting q) progress).on
      (WireSession.respond .isBusy s.consumed).2) _ _
  rw [respond_isBusy_idle hbusy]
  refine .bind_askResults rfl ?_
  rw [hfetched]
  exact h

theorem lasts_step_noted {result : QueryResult} (hbusy : s.busyLeft ≤ 1)
    (hresults : s.results = [result])
    (hnote : SetupQuery.dateStyle.note (some result) progress = .ok noted) :
    Span.Lasts (Span.step true target) (settingUp level s (.awaiting .dateStyle) progress)
      (.ok .needWrite) (settingUp level s.answered (.asking .clientEncoding) noted) := by
  refine lasts_step_awaiting hbusy hresults (.bind_silent (runs_noteAnswer hnote) ?_)
  exact .bind_silent (.update _ _) (Span.Runs.pure _ _).lasts

/-- The answer to the second question is noted, and the setup is completed. -/
theorem lasts_step_completed {result : QueryResult} {info : SessionInfo} (hbusy : s.busyLeft ≤ 1)
    (hresults : s.results = [result])
    (hnote : SetupQuery.clientEncoding.note (some result) progress = .ok noted)
    (hinfo : noted.toInfo = .ok info) :
    Span.Lasts (Span.step true target) (settingUp level s (.awaiting .clientEncoding) progress)
      (.ok .complete)
      ((settingUp level s.answered (.awaiting .clientEncoding) noted).established info target) := by
  refine lasts_step_awaiting hbusy hresults (.bind_silent (runs_noteAnswer hnote) ?_)
  exact .bind_silent (runs_completeSetup hinfo) (Span.Runs.pure _ _).lasts

theorem lasts_step_unnoted {result : QueryResult} {fault : Fault} (hbusy : s.busyLeft ≤ 1)
    (hresults : s.results = [result]) (hnote : q.note (some result) progress = .error fault) :
    Span.Lasts (Span.step true target) (settingUp level s (.awaiting q) progress) (.error fault)
      (settingUp level s.answered (.awaiting q) progress) :=
  lasts_step_awaiting hbusy hresults (.bind_error (runs_noteAnswer_error hnote).lasts)

/-- The notes are not complete after the second question. -/
theorem lasts_step_incomplete {result : QueryResult} {fault : Fault} (hbusy : s.busyLeft ≤ 1)
    (hresults : s.results = [result])
    (hnote : SetupQuery.clientEncoding.note (some result) progress = .ok noted)
    (hinfo : noted.toInfo = .error fault) :
    Span.Lasts (Span.step true target) (settingUp level s (.awaiting .clientEncoding) progress)
      (.error fault) (settingUp level s.answered (.awaiting .clientEncoding) {}) := by
  refine lasts_step_awaiting hbusy hresults (.bind_silent (runs_noteAnswer hnote) ?_)
  exact .bind_error (runs_completeSetup_error hinfo).lasts

end ScriptedSession

end SessionLayer
