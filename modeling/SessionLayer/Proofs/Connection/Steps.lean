import SessionLayer.Proofs.Span.Ends

/-!
# What the operations of a connection can do

For each operation one statement lists every way in which its span can end, whatever the session
answers: the result, and what becomes of the guarded state. `Guarded.SetupStep` and `Guarded.ReadyStep`
do so for the steps of a poll. Later statements about connections cite these lists and unfold no span.
-/

set_option autoImplicit false

namespace SessionLayer

variable {σ : Type}

namespace Status

/-- A connection that is open is being set up or usable. -/
theorem isConnecting_or_isUsable {status : Status} (h : status ≠ .closed) :
    status.isConnecting ∨ status.isUsable := by
  cases status with
  | ready | inBlock => exact Or.inr rfl
  | closed => exact absurd rfl h
  | _ => exact Or.inl rfl

theorem isUsable_of_isConnecting {status : Status} (h : status.isConnecting) :
    status.isUsable = false := by
  cases status with
  | ready | inBlock => exact nomatch h
  | _ => rfl

theorem ne_closed_of_isConnecting {status : Status} (h : status.isConnecting) :
    status ≠ .closed := by
  rintro rfl
  exact nomatch h

theorem ne_closed_of_isUsable {status : Status} (h : status.isUsable) : status ≠ .closed := by
  rintro rfl
  exact nomatch h

end Status

namespace Guarded

/-- The state with other notes of the setup. -/
def noting (g : Guarded σ) (progress : SetupProgress) : Guarded σ :=
  { g with progress }

/-- The notes with which the setup starts after the handshake. -/
def recorded (g : Guarded σ) (standard : Bool) (serverVersion protocolVersion : Int) : Guarded σ :=
  { g with progress := { standardConformingStrings := standard, serverVersion, protocolVersion } }

/-- The state in which the setup has been completed. -/
def established (g : Guarded σ) (info : SessionInfo) (level : Isolation) : Guarded σ :=
  { g with progress := {}, info := some info, isolation := level, status := .ready }

/-- How the blocking setup ends, apart from closing the connection where it fails. -/
inductive SetupRun (level : Isolation) (g : Guarded σ) : Except Fault Unit → Guarded σ → Prop
  | completed (info : SessionInfo) (session : σ) :
      SetupRun level g (.ok ()) ((g.on session).established info level)
  | failed (fault : Fault) (progress : SetupProgress) (session : σ) :
      SetupRun level g (.error fault) ((g.on session).noting progress)

/-- How the setup ends does not depend on the state of the session before it. -/
theorem SetupRun.of_on {level : Isolation} {g g' : Guarded σ} {session : σ} {r : Except Fault Unit}
    (h : SetupRun level (g.on session) r g') : SetupRun level g r g' := by
  cases h with
  | completed info next => exact .completed info next
  | failed fault progress next => exact .failed fault progress next

/-- A setup that succeeds has found out everything that there is to know. -/
theorem SetupRun.of_ok {level : Isolation} {g g' : Guarded σ} {x : Unit}
    (h : SetupRun level g (.ok x) g') :
    ∃ info session, g' = (g.on session).established info level := by
  cases h with
  | completed info session => exact ⟨info, session, rfl⟩

/-- One step of a poll while the connection is being set up, and what it answers. A step that fails
leaves the status, the information and the isolation level as they were. -/
inductive SetupStep (level : Isolation) (g : Guarded σ) : Except Fault Readiness → Guarded σ → Prop
  | started : g.status = .setup →
      SetupStep level g (.ok .needWrite) { g with status := .handshake }
  | handshakeWaits (readiness : Readiness) (session : σ) :
      g.status = .handshake → readiness ≠ .complete → SetupStep level g (.ok readiness) (g.on session)
  | handshakeDone (standard : Bool) (serverVersion protocolVersion : Int) (session : σ) :
      g.status = .handshake → SetupStep level g (.ok .needWrite)
        { (g.on session).recorded standard serverVersion protocolVersion with
          status := .asking .dateStyle }
  | written (q : SetupQuery) (session : σ) :
      g.status = .asking q ∨ g.status = .writing q →
      SetupStep level g (.ok .needRead) { g.on session with status := .awaiting q }
  | pending (q : SetupQuery) (session : σ) :
      g.status = .asking q ∨ g.status = .writing q →
      SetupStep level g (.ok .needWrite) { g.on session with status := .writing q }
  | awaits (q : SetupQuery) (session : σ) :
      g.status = .awaiting q → SetupStep level g (.ok .needRead) (g.on session)
  | dateStyleNoted (dateStyle : DateStyle) (session : σ) :
      g.status = .awaiting .dateStyle → SetupStep level g (.ok .needWrite)
        { g.on session with
          progress := { g.progress with dateStyle := some dateStyle }
          status := .asking .clientEncoding }
  | completed (info : SessionInfo) (session : σ) :
      g.status = .awaiting .clientEncoding → g.progress.dateStyle = some info.dateStyle →
      SetupStep level g (.ok .complete) ((g.on session).established info level)
  | failed (fault : Fault) (progress : SetupProgress) (session : σ) :
      SetupStep level g (.error fault) ((g.on session).noting progress)

/-- One step of a poll on a connection that is set up: what it answers, and the outcome that the owner
of a statement is told. -/
inductive ReadyStep (g : Guarded σ) :
    Except Fault Readiness → Guarded σ → Option Completion → Prop
  | idle (session : σ) : g.inFlight = none → ReadyStep g (.ok .complete) (g.on session) none
  | idleFailed (text : String) (session : σ) :
      g.inFlight = none → ReadyStep g (.error (.transport text)) (g.on session) none
  | pending (flight : InFlight) (session : σ) :
      g.inFlight = some flight → flight.phase = .writing →
      ReadyStep g (.ok .needWrite) (g.on session) none
  | written (flight : InFlight) (session : σ) :
      g.inFlight = some flight → flight.phase = .writing →
      ReadyStep g (.ok .needRead)
        { g.on session with inFlight := some { flight with phase := .reading } } none
  | awaits (flight : InFlight) (session : σ) :
      g.inFlight = some flight → flight.phase = .reading →
      ReadyStep g (.ok .needRead) (g.on session) none
  | completed (flight : InFlight) (results : List QueryResult) (session : σ) :
      g.inFlight = some flight → flight.phase = .reading →
      ReadyStep g (.ok .complete) { g.on session with inFlight := none }
        (some { owner := flight.owner, outcome := collectOutcome results })
  | abandoned (flight : InFlight) (text : String) (session : σ) :
      g.inFlight = some flight →
      ReadyStep g (.error (.transport text)) { g.on session with inFlight := none }
        (some { owner := flight.owner, outcome := .error (.transport text) })

/-- What one poll does, of a connection that is set up by polls if it is not set up already. -/
inductive PollStep (level : Isolation) (g : Guarded σ) :
    Except Fault Readiness → Guarded σ → Option Completion → Prop
  | closed : g.status = .closed → PollStep level g (.error .closed) g none
  | setup (readiness : Readiness) (g' : Guarded σ) :
      g.status.isConnecting → SetupStep level g (.ok readiness) g' →
      PollStep level g (.ok readiness) g' none
  | setupFailed (fault : Fault) (g' : Guarded σ) (stash : Batch) :
      g.status.isConnecting → SetupStep level g (.error fault) g' →
      PollStep level g (.error fault) (g'.shut.stashing stash) none
  | ready {r : Except Fault Readiness} {g' : Guarded σ} {completion : Option Completion} :
      g.status.isUsable → ReadyStep g r g' completion → PollStep level g r g' completion

end Guarded

namespace Span

variable [WireSession σ] {s : SpanState σ}

/-! ## Statements on a blocking connection -/

/-- What a statement comes to, given how the session answered it. -/
def verdict : Except String QueryResult → Except Fault QueryResult
  | .error text => .error (.transport text)
  | .ok result =>
    match result.rejection? with
    | some rejection => .error (.rejected rejection.state rejection.message)
    | none => .ok result

/-- A statement is one exchange with the session. -/
theorem exec_command {session : σ} (hs : s.guarded.session = some session) (sql : String) :
    exec (command sql) s =
      (verdict (WireSession.respond (.exec sql) session).1,
        s.after (WireSession.respond (.exec sql) session).2
          [{ call := .exec sql, answer := (WireSession.respond (.exec sql) session).1 }]) := by
  unfold command
  rw [exec_bind_ok (exec_ask_some hs _), exec_bind, exec_sent]
  cases (WireSession.respond (.exec sql) session).1 with
  | error text => rfl
  | ok result =>
    show exec (match result.rejection? with
      | some rejection => throw (.rejected rejection.state rejection.message)
      | none => pure result) _ = _
    simp only [verdict]
    cases result.rejection? <;> rfl

theorem ends_command (hs : s.guarded.session.isSome) (sql : String) :
    Ends (command sql) s fun _ t =>
      ∃ session exchanges, t = s.after session exchanges := by
  obtain ⟨session, hsession⟩ := Option.isSome_iff_exists.1 hs
  exact ends_of_exec (exec_command hsession sql) ⟨_, _, rfl⟩

/-- A block is opened only outside of one and only at a transactional level. -/
theorem ends_beginIfNeeded (hs : s.guarded.session.isSome) :
    Ends beginIfNeeded s fun r t =>
      t.completion = s.completion ∧ ∃ session,
        (t.guarded = s.guarded.on session ∧
          (r = .ok () → s.guarded.status ≠ .ready ∨ s.guarded.isolation = .autocommit)) ∨
        (r = .ok () ∧ s.guarded.status = .ready ∧ s.guarded.isolation ≠ .autocommit ∧
          t.guarded = { s.guarded.on session with status := .inBlock }) := by
  obtain ⟨session, same⟩ := Guarded.exists_eq_on hs
  unfold beginIfNeeded
  apply ends_bind_ok (exec_guarded s)
  by_cases hready : s.guarded.status = .ready
  · rw [if_pos hready]
    cases hlevel : s.guarded.isolation with
    | autocommit => exact ⟨rfl, session, Or.inl ⟨same, fun _ => Or.inr rfl⟩⟩
    | _ =>
      simp only [Isolation.beginStatement]
      apply ends_bind
      apply (ends_command hs _).mono
      rintro r t ⟨next, exchanges, rfl⟩
      refine ⟨fun x _ => ⟨rfl, next, Or.inr ⟨rfl, hready, by simp, rfl⟩⟩, fun f _ => ?_⟩
      exact ⟨rfl, next, Or.inl ⟨rfl, fun h => nomatch h⟩⟩
  · rw [if_neg hready]
    exact ⟨rfl, session, Or.inl ⟨same, fun _ => Or.inl hready⟩⟩

theorem ends_endBlock (hs : s.guarded.session.isSome) (statement : String) :
    Ends (endBlock statement) s fun r t =>
      t.completion = s.completion ∧ ∃ session,
        (t.guarded = s.guarded.on session ∧
          (r = .ok () → s.guarded.isolation = .autocommit ∨ s.guarded.status ≠ .inBlock)) ∨
        (r = .ok () ∧ s.guarded.isolation ≠ .autocommit ∧ s.guarded.status = .inBlock ∧
          t.guarded = { s.guarded.on session with status := .ready }) := by
  obtain ⟨session, same⟩ := Guarded.exists_eq_on hs
  unfold endBlock
  apply ends_bind_ok (exec_guarded s)
  by_cases hopen : s.guarded.isolation ≠ .autocommit ∧ s.guarded.status = .inBlock
  · rw [if_pos hopen]
    apply ends_bind
    apply (ends_command hs _).mono
    rintro r t ⟨next, exchanges, rfl⟩
    refine ⟨fun x _ => ⟨rfl, next, Or.inr ⟨rfl, hopen.1, hopen.2, rfl⟩⟩, fun f _ => ?_⟩
    exact ⟨rfl, next, Or.inl ⟨rfl, fun h => nomatch h⟩⟩
  · rw [if_neg hopen]
    refine ⟨rfl, session, Or.inl ⟨same, fun _ => ?_⟩⟩
    by_cases hlevel : s.guarded.isolation = .autocommit
    · exact Or.inl hlevel
    · exact Or.inr fun h => hopen ⟨hlevel, h⟩

/-- A statement of a caller changes at most that a block is open afterwards. -/
theorem ends_execute (hs : s.guarded.session.isSome) (sql : String) :
    Ends (execute sql) s fun _ t =>
      t.completion = s.completion ∧ ∃ session,
        t.guarded = s.guarded.on session ∨
        (s.guarded.status = .ready ∧ s.guarded.isolation ≠ .autocommit ∧
          t.guarded = { s.guarded.on session with status := .inBlock }) := by
  unfold execute
  apply ends_bind
  apply (ends_beginIfNeeded hs).mono
  rintro r t ⟨hc, session, ⟨ht, -⟩ | ⟨-, hready, hlevel, ht⟩⟩
  · refine ⟨fun _ _ => ?_, fun _ _ => ⟨hc, session, Or.inl ht⟩⟩
    apply (ends_command (by rw [ht]; rfl) sql).mono
    rintro r u ⟨next, exchanges, rfl⟩
    exact ⟨hc, next, Or.inl (by rw [SpanState.guarded_after, ht]; rfl)⟩
  · refine ⟨fun _ _ => ?_, fun _ _ => ⟨hc, session, Or.inr ⟨hready, hlevel, ht⟩⟩⟩
    apply (ends_command (by rw [ht]; rfl) sql).mono
    rintro r u ⟨next, exchanges, rfl⟩
    exact ⟨hc, next, Or.inr ⟨hready, hlevel, by rw [SpanState.guarded_after, ht]; rfl⟩⟩

/-- A change of the level that succeeds leaves no block of the old level open. -/
theorem ends_setIsolation (hs : s.guarded.session.isSome) (level : Int) :
    Ends (setIsolation level) s fun r t =>
      t.completion = s.completion ∧ ∃ session,
        (t.guarded = s.guarded.on session ∧
          (r = .ok () → Isolation.ofLevel level = .ok s.guarded.isolation)) ∨
        (r = .ok () ∧ ∃ target, Isolation.ofLevel level = .ok target ∧
          target ≠ s.guarded.isolation ∧
          ((t.guarded = { s.guarded.on session with isolation := target } ∧
              (s.guarded.isolation = .autocommit ∨ s.guarded.status ≠ .inBlock)) ∨
            (s.guarded.status = .inBlock ∧
              t.guarded = { s.guarded.on session with isolation := target, status := .ready }))) := by
  obtain ⟨session, same⟩ := Guarded.exists_eq_on hs
  unfold setIsolation
  cases hlevel : Isolation.ofLevel level with
  | error fault => exact ⟨rfl, session, Or.inl ⟨same, fun h => nomatch h⟩⟩
  | ok target =>
    apply ends_bind_ok (t := s) (x := target) rfl
    apply ends_bind_ok (exec_guarded s)
    by_cases htarget : target = s.guarded.isolation
    · rw [if_neg (not_not_intro htarget)]
      exact ⟨rfl, session, Or.inl ⟨same, fun _ => by rw [htarget]⟩⟩
    · rw [if_pos htarget]
      by_cases hauto : s.guarded.isolation = .autocommit
      · rw [if_neg (not_not_intro hauto)]
        refine ⟨rfl, session, Or.inr ⟨rfl, target, rfl, htarget, Or.inl ⟨?_, Or.inl hauto⟩⟩⟩
        rw [exec_update, ← same]
      · rw [if_pos hauto]
        apply ends_bind
        apply (ends_endBlock hs _).mono
        rintro r t ⟨hc, next, ⟨ht, hr⟩ | ⟨rfl, -, hblock, ht⟩⟩
        · refine ⟨fun x hx => ⟨hc, next, Or.inr ⟨rfl, target, rfl, htarget, Or.inl ⟨?_, ?_⟩⟩⟩,
            fun f _ => ⟨hc, next, Or.inl ⟨ht, fun h => nomatch h⟩⟩⟩
          · rw [exec_update, ht]
          · exact hr hx
        · refine ⟨fun x _ => ⟨hc, next, Or.inr ⟨rfl, target, rfl, htarget,
            Or.inr ⟨hblock, ?_⟩⟩⟩, fun f hf => nomatch hf⟩
          rw [exec_update, ht]

/-- A change of the encoding that fails leaves the information as it is. -/
theorem ends_setClientEncoding (hs : s.guarded.session.isSome) (name : String) :
    Ends (setClientEncoding name) s fun r t =>
      t.completion = s.completion ∧ ∃ session,
        ∃ status, (status = s.guarded.status ∨
            (s.guarded.isolation ≠ .autocommit ∧ s.guarded.status = .inBlock ∧ status = .ready)) ∧
          (t.guarded = { s.guarded.on session with status } ∨
            (r = .ok () ∧ t.guarded =
              { s.guarded.on session with
                status
                info := s.guarded.info.map fun info =>
                  { info with encoding := Encoding.normalize name } })) := by
  obtain ⟨session, same⟩ := Guarded.exists_eq_on hs
  unfold setClientEncoding
  apply ends_bind_ok (exec_guarded s)
  by_cases hname : s.guarded.info.map (·.encoding) ≠ some (Encoding.normalize name)
  · rw [if_pos hname]
    apply ends_bind
    apply (ends_endBlock hs _).mono
    rintro r t ⟨hc, middle, ht⟩
    obtain ⟨status, hstatus, ht⟩ : ∃ status, (status = s.guarded.status ∨
        (s.guarded.isolation ≠ .autocommit ∧ s.guarded.status = .inBlock ∧ status = .ready)) ∧
        t.guarded = { s.guarded.on middle with status } := by
      rcases ht with ⟨ht, -⟩ | ⟨-, hlevel, hblock, ht⟩
      · exact ⟨_, Or.inl rfl, ht⟩
      · exact ⟨_, Or.inr ⟨hlevel, hblock, rfl⟩, ht⟩
    refine ⟨fun _ _ => ?_, fun f _ => ⟨hc, middle, status, hstatus, Or.inl ht⟩⟩
    apply ends_bind
    apply (ends_command (by rw [ht]; rfl) _).mono
    rintro r u ⟨next, exchanges, rfl⟩
    refine ⟨fun _ _ => ⟨hc, next, status, hstatus, Or.inr ⟨rfl, ?_⟩⟩,
      fun f _ => ⟨hc, next, status, hstatus, Or.inl ?_⟩⟩
    · rw [exec_update, SpanState.guarded_after, ht]
      rfl
    · rw [SpanState.guarded_after, ht]
      rfl
  · rw [if_neg hname]
    exact ⟨rfl, session, _, Or.inl rfl, Or.inl same⟩

/-! ## The setup -/

/-- What the handshake tells is noted; nothing is known yet of the questions. -/
theorem ends_recordHandshake (hs : s.guarded.session.isSome) :
    Ends recordHandshake s fun r t =>
      r = .ok () ∧ t.completion = s.completion ∧
        ∃ session standard serverVersion protocolVersion, t.guarded =
          (s.guarded.on session).recorded standard serverVersion protocolVersion := by
  unfold recordHandshake
  apply ends_bind_ask hs
  intro standard session₁
  apply ends_bind_ask rfl
  intro serverVersion session₂
  apply ends_bind_ask rfl
  intro protocolVersion session₃
  exact ⟨rfl, rfl, session₃, _, serverVersion, protocolVersion, rfl⟩

/-- An answer that is noted fills in the note of its question and no other. -/
theorem note_eq_ok {q : SetupQuery} {answer : Option QueryResult} {progress noted : SetupProgress}
    (h : q.note answer progress = .ok noted) :
    (q = .dateStyle ∧ ∃ dateStyle, noted = { progress with dateStyle := some dateStyle }) ∨
      (q = .clientEncoding ∧ ∃ encoding, noted = { progress with encoding := some encoding }) := by
  unfold SetupQuery.note at h
  cases hv : q.singleValue answer with
  | error fault =>
    rw [hv] at h
    exact nomatch h
  | ok value =>
    rw [hv] at h
    cases q with
    | dateStyle =>
      cases hd : DateStyle.parse value with
      | error fault =>
        simp only [bind, Except.bind, hd] at h
        exact nomatch h
      | ok dateStyle =>
        simp only [bind, Except.bind, hd] at h
        cases h
        exact Or.inl ⟨rfl, dateStyle, rfl⟩
    | clientEncoding =>
      cases h
      exact Or.inr ⟨rfl, _, rfl⟩

omit [WireSession σ] in
/-- An answer that cannot be noted changes nothing. -/
theorem ends_noteAnswer (q : SetupQuery) (answer : Option QueryResult) :
    Ends (noteAnswer q answer) s fun r t =>
      t.completion = s.completion ∧
        ((∃ progress, r = .ok () ∧ q.note answer s.guarded.progress = .ok progress ∧
            t.guarded = s.guarded.noting progress) ∨
          (∃ fault, r = .error fault ∧ t.guarded = s.guarded)) := by
  unfold noteAnswer
  apply ends_bind_ok (exec_guarded s)
  cases hn : q.note answer s.guarded.progress with
  | error fault => exact ⟨rfl, Or.inr ⟨fault, rfl, rfl⟩⟩
  | ok progress => exact ⟨rfl, Or.inl ⟨progress, rfl, rfl, rfl⟩⟩

/-- The information agrees with the notes that it was made of. -/
theorem dateStyle_of_toInfo {progress : SetupProgress} {info : SessionInfo}
    (h : progress.toInfo = .ok info) : progress.dateStyle = some info.dateStyle := by
  unfold SetupProgress.toInfo at h
  split at h
  · exact nomatch h
  · exact nomatch h
  · rename_i dateStyle encoding hd he
    cases h
    exact hd

omit [WireSession σ] in
/-- The setup is completed with the information that the notes amount to. -/
theorem ends_completeSetup (level : Isolation) :
    Ends (completeSetup level) s fun r t =>
      t.completion = s.completion ∧
        ((∃ info, r = .ok () ∧ s.guarded.progress.toInfo = .ok info ∧
            t.guarded = s.guarded.established info level) ∨
          (∃ fault, r = .error fault ∧ t.guarded = { s.guarded with progress := {} })) := by
  unfold completeSetup
  apply ends_bind_ok (exec_guarded s)
  apply ends_bind_ok (exec_update _ s)
  cases hi : s.guarded.progress.toInfo with
  | error fault => exact ⟨rfl, Or.inr ⟨fault, rfl, rfl⟩⟩
  | ok info => exact ⟨rfl, Or.inl ⟨info, rfl, rfl, rfl⟩⟩

/-- A question of the blocking setup changes the notes at most. -/
theorem ends_askQuery (hs : s.guarded.session.isSome) (q : SetupQuery) :
    Ends (askQuery q) s fun _ t =>
      t.completion = s.completion ∧
        ∃ session progress, t.guarded = (s.guarded.on session).noting progress := by
  unfold askQuery
  apply ends_bind_ask hs
  intro answer session
  apply ends_bind_sent
  · intro result _
    apply (ends_noteAnswer q (some result)).mono
    rintro r t ⟨hc, ⟨progress, -, -, ht⟩ | ⟨fault, -, ht⟩⟩
    · exact ⟨hc, session, progress, ht⟩
    · exact ⟨hc, session, s.guarded.progress, ht⟩
  · intro text _
    exact ⟨rfl, session, s.guarded.progress, rfl⟩

/-- So do any number of questions. -/
theorem ends_forM_askQuery (hs : s.guarded.session.isSome) (qs : List SetupQuery) :
    Ends (qs.forM askQuery) s fun _ t =>
      t.completion = s.completion ∧
        ∃ session progress, t.guarded = (s.guarded.on session).noting progress := by
  induction qs generalizing s with
  | nil =>
    obtain ⟨session, same⟩ := Guarded.exists_eq_on hs
    refine ⟨rfl, session, s.guarded.progress, ?_⟩
    rw [← same]
    rfl
  | cons q qs ih =>
    show Ends (askQuery q >>= fun _ => qs.forM askQuery) s _
    apply ends_bind
    apply (ends_askQuery hs q).mono
    rintro r t ⟨hc, session, progress, ht⟩
    refine ⟨fun _ _ => ?_, fun _ _ => ⟨hc, session, progress, ht⟩⟩
    apply (ih (by rw [ht]; rfl)).mono
    rintro r u ⟨hcu, next, noted, hu⟩
    refine ⟨hcu.trans hc, next, noted, ?_⟩
    rw [hu, ht]
    rfl

/-- The blocking setup ends with a usable connection, or it fails with only the notes changed. -/
theorem ends_runSetup (hs : s.guarded.session.isSome) (level : Isolation) :
    Ends (runSetup level) s fun r t =>
      t.completion = s.completion ∧ s.guarded.SetupRun level r t.guarded := by
  unfold runSetup
  apply ends_bind
  apply (ends_recordHandshake hs).mono
  rintro r t ⟨rfl, hct, session₁, _, _, _, ht⟩
  refine ⟨fun _ _ => ?_, fun _ h => nomatch h⟩
  apply ends_bind
  apply (ends_forM_askQuery (by rw [ht]; rfl) _).mono
  rintro r u ⟨hcu, session₂, progress, hu⟩
  have hasked : u.guarded = (s.guarded.on session₂).noting progress := by
    rw [hu, ht]
    rfl
  refine ⟨fun _ _ => ?_, fun f _ => ⟨hcu.trans hct, hasked ▸ .failed f progress session₂⟩⟩
  apply (ends_completeSetup level).mono
  rintro r v ⟨hcv, ⟨info, rfl, -, hv⟩ | ⟨fault, rfl, hv⟩⟩
  · refine ⟨hcv.trans (hcu.trans hct), ?_⟩
    rw [hv, hasked]
    exact .completed info session₂
  · refine ⟨hcv.trans (hcu.trans hct), ?_⟩
    rw [hv, hasked]
    exact .failed fault {} session₂

/-- Where a step fails, the connection is closed. The notes may have changed before, and messages of
the session that has ended are kept. -/
theorem ends_orTearDown_of {α : Type} {span : Span σ α} {R : Except Fault α → Guarded σ → Prop}
    (h : Ends span s fun r t => t.completion = s.completion ∧ R r t.guarded) :
    Ends (orTearDown span) s fun r t =>
      t.completion = s.completion ∧
        ((∃ x, r = .ok x ∧ R r t.guarded) ∨
          ∃ f g stash, r = .error f ∧ R r g ∧ t.guarded = g.shut.stashing stash) := by
  apply ends_orTearDown
  apply h.mono
  rintro r t ⟨hc, hR⟩
  refine ⟨fun x hx => ⟨hc, Or.inl ⟨x, rfl, hx ▸ hR⟩⟩, fun f hf => ?_⟩
  apply (ends_tearDown t).mono
  rintro r' u ⟨rfl, hcu, stash, hu⟩
  exact ⟨rfl, hcu.trans hc, Or.inr ⟨f, t.guarded, stash, rfl, hf ▸ hR, hu⟩⟩

/-- A reset of the session runs the setup again, unless the session cannot be reopened. -/
theorem ends_reopen (hs : s.guarded.session.isSome) (level : Isolation) :
    Ends (reopen level) s fun r t =>
      t.completion = s.completion ∧
        ((∃ x, r = .ok x ∧ s.guarded.SetupRun level r t.guarded) ∨
          ∃ f g stash, r = .error f ∧ s.guarded.SetupRun level r g ∧
            t.guarded = g.shut.stashing stash) := by
  apply ends_orTearDown_of
  apply ends_bind_ask hs
  intro answer session
  apply ends_bind_sent
  · intro _ _
    apply (ends_runSetup rfl level).mono
    rintro r t ⟨hc, hrun⟩
    exact ⟨hc, hrun.of_on⟩
  · intro text _
    exact ⟨rfl, .failed _ s.guarded.progress session⟩

/-- Where the setup of a new session fails, the connection is closed. -/
theorem ends_establish (hs : s.guarded.session.isSome) (level : Isolation) :
    Ends (establish level) s fun r t =>
      t.completion = s.completion ∧
        ((∃ x, r = .ok x ∧ s.guarded.SetupRun level r t.guarded) ∨
          ∃ f g stash, r = .error f ∧ s.guarded.SetupRun level r g ∧
            t.guarded = g.shut.stashing stash) :=
  ends_orTearDown_of (ends_runSetup hs level)

/-! ## Polling -/

theorem ends_stepHandshake (hs : s.guarded.session.isSome) (hstatus : s.guarded.status = .handshake)
    (level : Isolation) :
    Ends stepHandshake s fun r t =>
      t.completion = s.completion ∧ s.guarded.SetupStep level r t.guarded := by
  unfold stepHandshake
  apply ends_bind_ask hs
  intro answer session
  cases answer with
  | reading => exact ⟨rfl, .handshakeWaits .needRead session hstatus (by decide)⟩
  | writing => exact ⟨rfl, .handshakeWaits .needWrite session hstatus (by decide)⟩
  | failed =>
    apply ends_bind_ask rfl
    intro text next
    exact ⟨rfl, .failed _ s.guarded.progress next⟩
  | unknown code => exact ⟨rfl, .failed _ s.guarded.progress session⟩
  | established =>
    apply ends_bind
    apply (ends_recordHandshake (by rfl)).mono
    rintro r t ⟨rfl, hc, next, standard, serverVersion, protocolVersion, ht⟩
    refine ⟨fun _ _ => ends_bind_moveTo (ends_pure ⟨hc, ?_⟩), fun _ h => nomatch h⟩
    rw [ht]
    exact .handshakeDone standard serverVersion protocolVersion next hstatus

omit [WireSession σ] in
/-- What follows an attempt to write a question, whose outcome the last exchange has brought. -/
theorem ends_afterFlush {q : SetupQuery} {submitted : Bool} {g : Guarded σ} {session : σ}
    (hg : s.guarded = g.on session) (hstatus : g.status = .asking q ∨ g.status = .writing q)
    (hsubmitted : submitted = false → g.status = .writing q) (level : Isolation)
    (outcome : FlushOutcome) :
    Ends (afterFlush q submitted outcome) s fun r t =>
      t.completion = s.completion ∧ g.SetupStep level r t.guarded := by
  cases outcome with
  | done =>
    apply ends_bind_moveTo
    refine ends_pure ⟨rfl, ?_⟩
    rw [hg]
    exact .written q session hstatus
  | pending =>
    unfold afterFlush
    cases submitted with
    | true =>
      apply ends_bind_moveTo
      refine ends_pure ⟨rfl, ?_⟩
      rw [hg]
      exact .pending q session hstatus
    | false =>
      refine ends_pure ⟨rfl, ?_⟩
      have hsame : s.guarded = { g.on session with status := .writing q } := by
        rw [hg, ← hsubmitted rfl]
        rfl
      rw [hsame]
      exact .pending q session hstatus

/-- A question is submitted, and as much of it written as goes without waiting. -/
theorem ends_stepAsking (hs : s.guarded.session.isSome) {q : SetupQuery}
    (hstatus : s.guarded.status = .asking q) (level : Isolation) :
    Ends (stepAsking q) s fun r t =>
      t.completion = s.completion ∧ s.guarded.SetupStep level r t.guarded := by
  unfold stepAsking
  apply ends_bind_ask hs
  intro sendAnswer session
  apply ends_bind_sent
  · intro _ _
    apply ends_bind_ask rfl
    intro flushAnswer next
    apply ends_bind_sent
    · intro outcome _
      exact ends_afterFlush (g := s.guarded) rfl (Or.inl hstatus) Bool.noConfusion level outcome
    · intro text _
      exact ⟨rfl, .failed _ s.guarded.progress next⟩
  · intro text _
    exact ⟨rfl, .failed _ s.guarded.progress session⟩

/-- More of a question is written. -/
theorem ends_stepWriting (hs : s.guarded.session.isSome) {q : SetupQuery}
    (hstatus : s.guarded.status = .writing q) (level : Isolation) :
    Ends (stepWriting q) s fun r t =>
      t.completion = s.completion ∧ s.guarded.SetupStep level r t.guarded := by
  unfold stepWriting
  apply ends_bind_ask hs
  intro answer session
  apply ends_bind_sent
  · intro outcome _
    exact ends_afterFlush (g := s.guarded) rfl (Or.inr hstatus) (fun _ => hstatus) level outcome
  · intro text _
    exact ⟨rfl, .failed _ s.guarded.progress session⟩

/-- An answer to a question is noted, and after the last one the setup is completed. -/
theorem ends_stepAwaiting (hs : s.guarded.session.isSome) {q : SetupQuery}
    (hstatus : s.guarded.status = .awaiting q) (level : Isolation) :
    Ends (stepAwaiting q level) s fun r t =>
      t.completion = s.completion ∧ s.guarded.SetupStep level r t.guarded := by
  unfold stepAwaiting
  apply ends_bind_ask hs
  intro consumed session₁
  apply ends_bind_sent
  case failed =>
    intro text _
    exact ⟨rfl, .failed _ s.guarded.progress session₁⟩
  intro _ _
  apply ends_bind_ask rfl
  intro busy session₂
  cases busy with
  | true => exact ⟨rfl, .awaits q session₂ hstatus⟩
  | false =>
    apply ends_bind_askResults rfl
    intro results session₃
    apply ends_bind
    apply (ends_noteAnswer q results.getLast?).mono
    rintro r t ⟨hc, ⟨progress, rfl, hnote, ht⟩ | ⟨fault, rfl, ht⟩⟩
    · refine ⟨fun _ _ => ?_, fun _ h => nomatch h⟩
      cases q with
      | dateStyle =>
        obtain ⟨-, dateStyle, rfl⟩ | ⟨h, -⟩ := note_eq_ok hnote
        · refine ends_bind_moveTo (ends_pure ⟨hc, ?_⟩)
          rw [ht]
          exact .dateStyleNoted dateStyle session₃ hstatus
        · exact nomatch h
      | clientEncoding =>
        obtain ⟨h, -⟩ | ⟨-, encoding, rfl⟩ := note_eq_ok hnote
        · exact nomatch h
        · apply ends_bind
          apply (ends_completeSetup level).mono
          rintro r u ⟨hcu, ⟨info, rfl, hinfo, hu⟩ | ⟨fault, rfl, hu⟩⟩
          · refine ⟨fun _ _ => ends_pure ⟨hcu.trans hc, ?_⟩, fun _ h => nomatch h⟩
            rw [hu, ht]
            rw [ht] at hinfo
            have hnoted := dateStyle_of_toInfo hinfo
            exact .completed info session₃ hstatus hnoted
          · refine ⟨fun _ h => (nomatch h), fun f _ => ⟨hcu.trans hc, ?_⟩⟩
            rw [hu, ht]
            exact .failed f {} session₃
    · refine ⟨fun _ h => (nomatch h), fun f _ => ⟨hc, ?_⟩⟩
      rw [ht]
      exact .failed f s.guarded.progress session₃

omit [WireSession σ] in
theorem exec_abandon (flight : InFlight) (text : String) (s : SpanState σ) :
    exec (abandon flight text) s =
      (.error (.transport text),
        { s with
          guarded := { s.guarded with inFlight := none }
          completion := some { owner := flight.owner, outcome := .error (.transport text) } }) :=
  rfl

/-- More of the statement in flight is written. -/
theorem ends_stepFlight (hs : s.guarded.session.isSome) (hc : s.completion = none)
    {flight : InFlight} (hflight : s.guarded.inFlight = some flight)
    (hphase : flight.phase = .writing) :
    Ends (stepFlight flight) s fun r t => s.guarded.ReadyStep r t.guarded t.completion := by
  unfold stepFlight
  apply ends_bind_ask hs
  intro answer session
  rcases answer with text | _ | _
  · exact ends_of_exec (exec_abandon flight text _) (.abandoned flight text session hflight)
  · refine ends_bind_update (ends_pure ?_)
    rw [SpanState.completion_after, hc]
    exact .written flight session hflight hphase
  · apply ends_pure
    rw [SpanState.completion_after, hc]
    exact .pending flight session hflight hphase

/-- More of the results in flight is read. -/
theorem ends_stepResults (hs : s.guarded.session.isSome) (hc : s.completion = none)
    {flight : InFlight} (hflight : s.guarded.inFlight = some flight)
    (hphase : flight.phase = .reading) :
    Ends (stepResults flight) s fun r t => s.guarded.ReadyStep r t.guarded t.completion := by
  unfold stepResults
  apply ends_bind_ask hs
  intro answer session₁
  cases answer with
  | error text =>
    exact ends_of_exec (exec_abandon flight text _) (.abandoned flight text session₁ hflight)
  | ok _ =>
    apply ends_bind_ask rfl
    intro busy session₂
    cases busy with
    | true =>
      apply ends_pure
      rw [SpanState.completion_after, SpanState.completion_after, hc]
      exact .awaits flight session₂ hflight hphase
    | false =>
      apply ends_bind_askResults rfl
      intro results session₃
      apply ends_bind_ok (exec_complete flight _ _)
      exact .completed flight results session₃ hflight hphase

/-- A step on a connection that is set up reads messages, or goes on with the statement in flight. -/
theorem ends_stepReady (hs : s.guarded.session.isSome) (hc : s.completion = none) :
    Ends stepReady s fun r t => s.guarded.ReadyStep r t.guarded t.completion := by
  unfold stepReady
  apply ends_bind_ok (exec_guarded s)
  cases hflight : s.guarded.inFlight with
  | none =>
    apply ends_bind_ask hs
    intro answer session
    apply ends_bind_sent
    · intro _ _
      apply ends_pure
      rw [SpanState.completion_after, hc]
      exact .idle session hflight
    · intro text _
      rw [SpanState.completion_after, hc]
      exact .idleFailed text session hflight
  | some flight =>
    cases hphase : flight.phase with
    | writing =>
      simp only [hphase]
      exact ends_stepFlight hs hc hflight hphase
    | reading =>
      simp only [hphase]
      exact ends_stepResults hs hc hflight hphase

/-- A step of the setup that is taken by a poll, which closes the connection where the step fails. -/
theorem ends_orTearDown_setup {span : Span σ Readiness} {level : Isolation}
    (hc : s.completion = none) (hconnecting : s.guarded.status.isConnecting)
    (h : Ends span s fun r t =>
      t.completion = s.completion ∧ s.guarded.SetupStep level r t.guarded) :
    Ends (orTearDown span) s fun r t => s.guarded.PollStep level r t.guarded t.completion := by
  apply (ends_orTearDown_of h).mono
  rintro r t ⟨hct, ⟨readiness, rfl, hstep⟩ | ⟨fault, g, stash, rfl, hstep, ht⟩⟩
  · rw [hct, hc]
    exact .setup readiness t.guarded hconnecting hstep
  · rw [hct, hc, ht]
    exact .setupFailed fault g stash hconnecting hstep

/-- While the connection is being set up, a step is one of the setup. -/
theorem ends_step_connecting (hs : s.guarded.session.isSome)
    (hconnecting : s.guarded.status.isConnecting) (level : Isolation) :
    Ends (step true level) s fun r t =>
      t.completion = s.completion ∧ s.guarded.SetupStep level r t.guarded := by
  unfold step
  apply ends_bind_ok (exec_guarded s)
  cases hstatus : s.guarded.status with
  | setup => exact ends_bind_moveTo (ends_pure ⟨rfl, .started hstatus⟩)
  | handshake => exact ends_stepHandshake hs hstatus level
  | asking q => exact ends_stepAsking hs hstatus level
  | writing q => exact ends_stepWriting hs hstatus level
  | awaiting q => exact ends_stepAwaiting hs hstatus level
  | ready | inBlock | closed =>
    rw [hstatus] at hconnecting
    exact nomatch hconnecting

/-- Once the connection is set up, a step reads messages or goes on with the statement in flight. -/
theorem ends_step_usable (hs : s.guarded.session.isSome) (hc : s.completion = none)
    (husable : s.guarded.status.isUsable) (asynchronous : Bool) (level : Isolation) :
    Ends (step asynchronous level) s fun r t =>
      s.guarded.ReadyStep r t.guarded t.completion := by
  unfold step
  apply ends_bind_ok (exec_guarded s)
  cases hstatus : s.guarded.status with
  | ready | inBlock => exact ends_stepReady hs hc
  | _ =>
    rw [hstatus] at husable
    exact nomatch husable

/-- One poll makes one step, of the setup or on a connection that is set up. -/
theorem ends_poll {asynchronous : Bool} {level : Isolation} (hc : s.completion = none)
    (hs : s.guarded.status ≠ .closed → s.guarded.session.isSome)
    (hasynchronous : s.guarded.status.isConnecting → asynchronous = true) :
    Ends (poll asynchronous level) s fun r t => s.guarded.PollStep level r t.guarded t.completion := by
  unfold poll
  by_cases hconnecting : s.guarded.status.isConnecting
  · have hopen := Status.ne_closed_of_isConnecting hconnecting
    rw [hasynchronous hconnecting]
    apply ends_bind_ok (exec_guarded s)
    rw [hconnecting]
    exact ends_orTearDown_setup hc hconnecting (ends_step_connecting (hs hopen) hconnecting level)
  · have hstep : Ends (step asynchronous level) s fun r t =>
        s.guarded.PollStep level r t.guarded t.completion := by
      by_cases hclosed : s.guarded.status = .closed
      · unfold step
        apply ends_bind_ok (exec_guarded s)
        rw [hclosed]
        apply ends_throw
        rw [hc]
        exact .closed hclosed
      · have husable := (Status.isConnecting_or_isUsable hclosed).resolve_left hconnecting
        apply (ends_step_usable (hs hclosed) hc husable asynchronous level).mono
        exact fun r t hready => .ready husable hready
    cases asynchronous with
    | true =>
      apply ends_bind_ok (exec_guarded s)
      rw [if_neg (by simpa using hconnecting)]
      exact hstep
    | false => exact hstep

/-- A statement is submitted only where none is in flight, and then it is; otherwise the submission
fails. -/
theorem ends_submit (hs : s.guarded.session.isSome) (sql : String) (owner : QueryOwner) :
    Ends (submit sql owner) s fun r t =>
      t.completion = s.completion ∧ ∃ session,
        ((∃ fault, r = .error fault) ∧ t.guarded = s.guarded.on session) ∨
          (r = .ok () ∧ s.guarded.status.isUsable ∧ s.guarded.inFlight = none ∧ ∃ phase,
            t.guarded = { s.guarded.on session with inFlight := some { owner, phase } }) := by
  obtain ⟨session, same⟩ := Guarded.exists_eq_on hs
  unfold submit
  apply ends_bind_ok (exec_guarded s)
  by_cases husable : s.guarded.status.isUsable
  · rw [husable]
    apply ends_bind_ok (exec_guarded s)
    cases hflight : s.guarded.inFlight with
    | some flight => exact ⟨rfl, session, Or.inl ⟨⟨_, rfl⟩, same⟩⟩
    | none =>
      apply ends_bind_ask hs
      intro sendAnswer session₁
      apply ends_bind_sent
      · intro _ _
        apply ends_bind_ask rfl
        intro flushAnswer session₂
        apply ends_bind_sent
        · intro outcome _
          cases outcome with
          | done => exact ⟨rfl, session₂, Or.inr ⟨rfl, rfl, rfl, .reading, rfl⟩⟩
          | pending => exact ⟨rfl, session₂, Or.inr ⟨rfl, rfl, rfl, .writing, rfl⟩⟩
        · intro text _
          exact ⟨rfl, session₂, Or.inl ⟨⟨_, rfl⟩, rfl⟩⟩
      · intro text _
        exact ⟨rfl, session₁, Or.inl ⟨⟨_, rfl⟩, rfl⟩⟩
  · rw [Bool.not_eq_true] at husable
    rw [husable]
    exact ⟨rfl, session, Or.inl ⟨⟨_, rfl⟩, same⟩⟩

/-! ## What is checked before -/

omit [WireSession σ] in
/-- A connection that is closed is refused. -/
theorem ends_bind_ensureOpen {α : Type} {next : Unit → Span σ α}
    {Q : Except Fault α → SpanState σ → Prop}
    (closed : s.guarded.status = .closed → Q (.error .closed) s)
    (isOpen : s.guarded.status ≠ .closed → Ends (next ()) s Q) :
    Ends (ensureOpen >>= next) s Q := by
  by_cases hstatus : s.guarded.status = .closed
  · have hexec : exec ensureOpen s = (.error .closed, s) := by
      rw [exec_ensureOpen, if_pos (by rw [Guarded.isClosed, hstatus]; rfl)]
    exact ends_of_exec (exec_bind_error hexec) (closed hstatus)
  · have hexec : exec ensureOpen s = (.ok (), s) := by
      rw [exec_ensureOpen, if_neg (by simpa [Guarded.isClosed] using hstatus)]
    exact ends_bind_ok hexec (isOpen hstatus)

end Span

namespace Connection

open SessionLayer.Span

variable [WireSession σ] {s : SpanState σ}

omit [WireSession σ] in
/-- An operation of blocking connections is refused on a connection that is closed or asynchronous. -/
theorem ends_blocking (c : Connection σ) {α : Type} {operation : String} {span : Span σ α}
    {Q : Except Fault α → SpanState σ → Prop}
    (closed : s.guarded.status = .closed → Q (.error .closed) s)
    (refused : c.asynchronous = true → Q (.error (.blockingOnly operation)) s)
    (run : s.guarded.status ≠ .closed → c.asynchronous = false → Ends span s Q) :
    Ends (c.blocking operation span) s Q := by
  unfold blocking
  apply ends_bind_ensureOpen closed
  intro hopen
  unfold ensureBlocking
  cases hasynchronous : c.asynchronous with
  | true => exact refused hasynchronous
  | false => exact run hopen hasynchronous

/-- A question to the session changes the session at most. -/
theorem ends_query (hs : s.guarded.status ≠ .closed → s.guarded.session.isSome) (call : Call) :
    Ends (query call) s fun _ t =>
      t.completion = s.completion ∧ (t.guarded = s.guarded ∨
        (s.guarded.status ≠ .closed ∧ ∃ session, t.guarded = s.guarded.on session)) := by
  unfold query
  apply ends_bind_ensureOpen
  · exact fun _ => ⟨rfl, Or.inl rfl⟩
  · intro hopen
    obtain ⟨session, hsession⟩ := Option.isSome_iff_exists.1 (hs hopen)
    exact ends_of_exec (exec_ask_some hsession call) ⟨rfl, Or.inr ⟨hopen, _, rfl⟩⟩

end Connection

end SessionLayer
