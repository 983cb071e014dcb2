import SessionLayer.Proofs.Scenario.Polls
import SessionLayer.Proofs.Wire.ScriptedQuery

/-!
# The setup by polls refines the blocking setup

Both ways of setting a scripted session up end as `Script.setup` says. For the blocking way this is one
span. For the way by polls, `Connection.Stage` says where a connection stands between two polls, and the
polls lead from stage to stage: through the handshake, and for each question until it is written and
until its answer is there.
-/

set_option autoImplicit false

namespace SessionLayer

/-- The notices in a mailbox are the newest of those that have been heard so far. -/
def Mailbox.HasHeard {ω : Type} (m : Mailbox ω) (capacity : Capacity) (heard : List String) : Prop :=
  m.notices.capacity = capacity ∧ m.notices.items = Bounded.newest capacity heard

theorem Mailbox.HasHeard.store {ω : Type} {m : Mailbox ω} {capacity : Capacity}
    {heard : List String} (h : m.HasHeard capacity heard) (batch : Batch) :
    (m.store batch).HasHeard capacity (heard ++ batch.notices) := by
  obtain ⟨rfl, hitems⟩ := h
  refine ⟨m.notices.capacity_pushAll batch.notices, ?_⟩
  rw [Mailbox.items_notices_store, hitems, Bounded.newest_newest_append]

theorem Mailbox.hasHeard_create {ω : Type} (noticeCapacity notificationCapacity : Capacity) :
    (Mailbox.create noticeCapacity notificationCapacity : Mailbox ω).HasHeard noticeCapacity [] :=
  ⟨rfl, (Bounded.newest_eq_self (Nat.zero_le _)).symm⟩

def Script.questionAnswers (script : Script) : List Readiness :=
  List.replicate script.pendingFlushes .needWrite ++
    List.replicate (script.busyRounds + 1) .needRead

/-- The session once its messages have been taken over. -/
def ScriptedSession.emptied (s : ScriptedSession) : ScriptedSession :=
  { s with notices := [], arrived := [] }

namespace Connection

open Guarded

/-- Where an asynchronous connection stands between two polls of its setup: the session, how far it is,
and the notices that it has heard. -/
structure Stage (capacity : Capacity) (heard : List String) (status : Status)
    (progress : SetupProgress) (s : ScriptedSession) (c : Connection ScriptedSession) : Prop where
  asynchronous : c.asynchronous = true
  guarded : c.guarded = settingUp .autocommit s status progress
  mailbox : c.mailbox.HasHeard capacity heard
  notices : s.notices = []

/-- A connection that has been set up: what is known about its session, the notices that it has heard,
the statement in flight, and the session. -/
structure Serving (asynchronous : Bool) (level : Isolation) (info : SessionInfo)
    (capacity : Capacity) (heard : List String) (inFlight : Option InFlight) (s : ScriptedSession)
    (c : Connection ScriptedSession) : Prop where
  asynchronous : c.asynchronous = asynchronous
  guarded : c.guarded = serving level info inFlight s
  mailbox : c.mailbox.HasHeard capacity heard
  notices : s.notices = []

/-- A connection that has been set up on a script, with nothing left of what was asked before. -/
def Idles (asynchronous : Bool) (level : Isolation) (info : SessionInfo) (capacity : Capacity)
    (heard : List String) (script : Script) (c : Connection ScriptedSession) : Prop :=
  ∃ s, s.script = script ∧ s.results = [] ∧
    Serving asynchronous level info capacity heard none s c

/-- The next poll completes the setup with the given information, and the notices that have been heard
by then are in the mailbox. -/
def CompletesWith (info : SessionInfo) (capacity : Capacity) (heard : List String) (script : Script)
    (c : Connection ScriptedSession) : Prop :=
  (c.perform .poll).result = .ok .complete ∧ (c.perform .poll).completion = none ∧
    (c.after (c.perform .poll)).Idles true .autocommit info capacity heard script

/-- The next poll fails and ends the session. -/
def FailsWith (fault : Fault) (c : Connection ScriptedSession) : Prop :=
  (c.perform .poll).result = .error fault ∧ (c.perform .poll).completion = none ∧
    Span.finishes (c.perform .poll).exchanges = 1

variable {asynchronous : Bool} {level : Isolation} {info : SessionInfo} {script : Script}
  {capacity : Capacity} {heard : List String} {status status' : Status}
  {progress progress' : SetupProgress} {s s' : ScriptedSession} {c c' : Connection ScriptedSession}

theorem Idles.info_eq (h : c.Idles asynchronous level info capacity heard script) :
    c.guarded.info = some info := by
  obtain ⟨s, -, -, hserving⟩ := h
  rw [hserving.guarded]
  rfl

theorem Idles.hasHeard (h : c.Idles asynchronous level info capacity heard script) :
    c.mailbox.HasHeard capacity heard := by
  obtain ⟨s, -, -, hserving⟩ := h
  exact hserving.mailbox

namespace Stage

theorem perform_poll_eq (h : Stage capacity heard status progress s c) :
    c.perform .poll = (Span.poll true .autocommit).run (settingUp .autocommit s status progress) := by
  show (Span.poll c.asynchronous c.setupIsolation).run c.guarded = _
  rw [h.guarded, setupIsolation, h.asynchronous]
  rfl

/-- A poll that leads on to another stage. -/
theorem polls_of_lasts (h : Stage capacity heard status progress s c)
    (hconnecting : status.isConnecting) {readiness : Readiness}
    (hstep : Span.Lasts (Span.step true .autocommit) (settingUp .autocommit s status progress)
      (.ok readiness) (settingUp .autocommit s' status' progress'))
    (hreadiness : readiness ≠ .complete) :
    ∃ c', c.Polls [readiness] c' ∧
      Stage capacity (heard ++ s'.notices) status' progress' s'.emptied c' := by
  obtain ⟨xs, hxs, hruns⟩ := hstep
  have hperform := (Span.Runs.poll hconnecting hruns.orTearDown).run_some s' rfl
  rw [← h.perform_poll_eq] at hperform
  refine ⟨_, .step (by rw [hperform]) hreadiness (by rw [hperform]) ?_ (.refl _), ?_⟩
  · rw [hperform, Span.finishes_append, hxs]
    rfl
  · rw [hperform]
    exact
      { asynchronous := h.asynchronous
        guarded := rfl
        mailbox := h.mailbox.store _
        notices := rfl }

/-- A poll that leads on to another stage without a notice being heard. -/
theorem polls_of_lasts_silent (h : Stage capacity heard status progress s c)
    (hconnecting : status.isConnecting) {readiness : Readiness}
    (hstep : Span.Lasts (Span.step true .autocommit) (settingUp .autocommit s status progress)
      (.ok readiness) (settingUp .autocommit s' status' progress'))
    (hreadiness : readiness ≠ .complete) (hsilent : s'.notices = []) :
    ∃ c', c.Polls [readiness] c' ∧ Stage capacity heard status' progress' s'.emptied c' := by
  obtain ⟨c', hpolls, hstage⟩ := h.polls_of_lasts hconnecting hstep hreadiness
  rw [hsilent, List.append_nil] at hstage
  exact ⟨c', hpolls, hstage⟩

/-- The poll that completes the setup. -/
theorem completesWith_of_lasts (h : Stage capacity heard status progress s c)
    (hconnecting : status.isConnecting) {info : SessionInfo}
    (hstep : Span.Lasts (Span.step true .autocommit) (settingUp .autocommit s status progress)
      (.ok .complete) ((settingUp .autocommit s' status' progress').established info .autocommit))
    (hresults : s'.results = []) :
    c.CompletesWith info capacity (heard ++ s'.notices) s'.script := by
  obtain ⟨xs, hxs, hruns⟩ := hstep
  have hperform := (Span.Runs.poll hconnecting hruns.orTearDown).run_some s' rfl
  rw [← h.perform_poll_eq] at hperform
  unfold CompletesWith
  rw [hperform]
  refine ⟨rfl, rfl, s'.emptied, rfl, hresults, ?_⟩
  exact
    { asynchronous := h.asynchronous
      guarded := rfl
      mailbox := h.mailbox.store _
      notices := rfl }

/-- A poll that fails ends the session. -/
theorem failsWith_of_lasts (h : Stage capacity heard status progress s c)
    (hconnecting : status.isConnecting) {fault : Fault}
    (hstep : Span.Lasts (Span.step true .autocommit) (settingUp .autocommit s status progress)
      (.error fault) (settingUp .autocommit s' status' progress')) : c.FailsWith fault := by
  obtain ⟨xs, hxs, hruns⟩ := hstep
  have htorn := hruns.orTearDown_error s' rfl
  have hperform := (Span.Runs.poll hconnecting htorn).run_none rfl
  rw [← h.perform_poll_eq] at hperform
  unfold FailsWith
  rw [hperform, Span.finishes_append, hxs]
  exact ⟨rfl, rfl, rfl⟩

/-! ## From stage to stage -/

/-- The first poll only starts the handshake. -/
theorem polls_start (h : Stage capacity heard .setup progress s c) :
    ∃ c', c.Polls [.needWrite] c' ∧ Stage capacity heard .handshake progress s.emptied c' :=
  h.polls_of_lasts_silent rfl ScriptedSession.lasts_step_setup (by simp) h.notices

/-- A handshake that is established leads to the first question. -/
theorem polls_established (h : Stage capacity heard .handshake progress s c)
    (hhead : s.handshake.headD .established = .established) :
    ∃ c' s', c.Polls [.needWrite] c' ∧
      Stage capacity heard (.asking .dateStyle) s.script.firstNotes s' c' ∧
      s'.script = s.script ∧ s'.results = s.results := by
  obtain ⟨c', hpolls, hstage⟩ := h.polls_of_lasts_silent rfl
    (ScriptedSession.lasts_step_established hhead) (by simp) h.notices
  exact ⟨c', _, hpolls, hstage, rfl, rfl⟩

/-- A handshake that only waits until it is established leads to the first question, too. -/
theorem polls_handshake {steps : List HandshakeStep} (hsteps : s.handshake = steps)
    (hwaits : ∀ step ∈ steps.takeWhile (· ≠ .established), step = .reading ∨ step = .writing)
    (h : Stage capacity heard .handshake progress s c) :
    ∃ c' s', c.Polls ((steps.takeWhile (· ≠ .established)).map HandshakeStep.readiness ++
        [.needWrite]) c' ∧
      Stage capacity heard (.asking .dateStyle) s.script.firstNotes s' c' ∧
      s'.script = s.script ∧ s'.results = s.results := by
  induction steps generalizing s c with
  | nil => exact h.polls_established (by rw [hsteps]; rfl)
  | cons step rest ih =>
    by_cases hstep : step = .established
    · subst hstep
      exact h.polls_established (by rw [hsteps]; rfl)
    · have htake : (step :: rest).takeWhile (· ≠ .established) =
          step :: rest.takeWhile (· ≠ .established) :=
        List.takeWhile_cons_of_pos (by simpa using hstep)
      rw [htake] at hwaits ⊢
      have hwait := hwaits step List.mem_cons_self
      have hreadiness : step.readiness ≠ .complete := by
        rcases hwait with rfl | rfl <;> simp [HandshakeStep.readiness]
      obtain ⟨c₁, hpoll, hstage⟩ := h.polls_of_lasts_silent rfl
        (ScriptedSession.lasts_step_handshake hsteps hwait) hreadiness h.notices
      obtain ⟨c', s', hpolls, hstage', hscript, hresults⟩ := ih rfl
        (fun step hmem => hwaits step (List.mem_cons_of_mem _ hmem)) hstage
      exact ⟨c', s', hpoll.trans hpolls, hstage', hscript, hresults⟩

/-- A question is written in as many polls as output stays pending, and one more. -/
theorem polls_writing {q : SetupQuery} {n : Nat} (hflushes : s.flushesLeft = n)
    (h : Stage capacity heard (.writing q) progress s c) :
    ∃ c' s', c.Polls (List.replicate n .needWrite ++ [.needRead]) c' ∧
      Stage capacity heard (.awaiting q) progress s' c' ∧
      s'.script = s.script ∧ s'.results = s.results ∧ s'.busyLeft = s.busyLeft := by
  induction n generalizing s c with
  | zero =>
    obtain ⟨c', hpolls, hstage⟩ := h.polls_of_lasts_silent rfl
      (ScriptedSession.lasts_step_writing hflushes) (by simp) h.notices
    exact ⟨c', _, hpolls, hstage, rfl, rfl, rfl⟩
  | succ n ih =>
    obtain ⟨c₁, hpoll, hstage⟩ := h.polls_of_lasts_silent rfl
      (ScriptedSession.lasts_step_writing_pending hflushes) (by simp) h.notices
    obtain ⟨c', s', hpolls, hstage', hscript, hresults, hbusy⟩ := ih rfl hstage
    exact ⟨c', s', hpoll.trans hpolls, hstage', hscript, hresults, hbusy⟩

/-- The answer to a question is there after as many polls as it takes to read it. -/
theorem polls_awaiting {q : SetupQuery} {n : Nat} (hbusy : s.busyLeft = n + 1)
    (h : Stage capacity heard (.awaiting q) progress s c) :
    ∃ c' s', c.Polls (List.replicate n .needRead) c' ∧
      Stage capacity heard (.awaiting q) progress s' c' ∧
      s'.script = s.script ∧ s'.results = s.results ∧ s'.busyLeft = 1 := by
  induction n generalizing s c with
  | zero => exact ⟨c, s, .refl c, h, rfl, rfl, hbusy⟩
  | succ n ih =>
    obtain ⟨c₁, hpoll, hstage⟩ := h.polls_of_lasts_silent rfl
      (ScriptedSession.lasts_step_awaiting_busy (by omega)) (by simp) h.notices
    have hleft : s.consumed.emptied.busyLeft = n + 1 := by
      show s.busyLeft - 1 = n + 1
      omega
    obtain ⟨c', s', hpolls, hstage', hscript, hresults, hone⟩ := ih hleft hstage
    exact ⟨c', s', hpoll.trans hpolls, hstage', hscript, hresults, hone⟩

/-- A question that the transport lets through leads to its answer. -/
theorem polls_asking {q : SetupQuery} (hfailures : s.script.failures.lookup q.statement = none)
    (hresults : s.results = []) (h : Stage capacity heard (.asking q) progress s c) :
    ∃ c' s', c.Polls s.script.questionAnswers c' ∧
      Stage capacity (heard ++ s.script.raised q) (.awaiting q) progress s' c' ∧
      s'.script = s.script ∧ s'.results = [s.script.answer q.statement] ∧ s'.busyLeft = 1 := by
  obtain ⟨-, hscript, hnotices, hqueued, hbusy, -⟩ := ScriptedSession.submit_of_success hfailures
  rw [h.notices, List.nil_append] at hnotices
  rw [hresults, List.nil_append] at hqueued
  -- The question is written by polls of its own if not with the first one.
  have hwritten : ∃ c' s',
      c.Polls (List.replicate s.script.pendingFlushes .needWrite ++ [.needRead]) c' ∧
      Stage capacity (heard ++ s.script.raised q) (.awaiting q) progress s' c' ∧
      s'.script = s.script ∧ s'.results = [s.script.answer q.statement] ∧
      s'.busyLeft = s.script.busyRounds + 1 := by
    cases hflushes : s.script.pendingFlushes with
    | zero =>
      obtain ⟨c', hpolls, hstage⟩ := h.polls_of_lasts rfl
        (ScriptedSession.lasts_step_asking hfailures hflushes) (by simp)
      rw [hnotices] at hstage
      exact ⟨c', _, hpolls, hstage, hscript, hqueued, hbusy⟩
    | succ n =>
      obtain ⟨c₁, hpoll, hstage⟩ := h.polls_of_lasts rfl
        (ScriptedSession.lasts_step_asking_pending hfailures hflushes) (by simp)
      obtain ⟨c', s', hpolls, hstage', hscript', hresults', hbusy'⟩ := polls_writing rfl hstage
      have hnotices' : ({ s.submitted q with flushesLeft := n } : ScriptedSession).notices =
          s.script.raised q := hnotices
      rw [hnotices'] at hstage'
      exact ⟨c', s', hpoll.trans hpolls, hstage', hscript'.trans hscript, hresults'.trans hqueued,
        hbusy'.trans hbusy⟩
  obtain ⟨c₁, s₁, hpolls, hstage, hscript₁, hresults₁, hbusy₁⟩ := hwritten
  obtain ⟨c', s', hpolls', hstage', hscript', hresults', hone⟩ := hstage.polls_awaiting hbusy₁
  refine ⟨c', s', ?_, hstage', hscript'.trans hscript₁, hresults'.trans hresults₁, hone⟩
  have hanswers := hpolls.trans hpolls'
  rw [List.append_assoc] at hanswers
  exact hanswers

/-! ## How the polls end -/

/-- The answer to the first question leads to the second one. -/
theorem polls_noted {result : QueryResult}
    (hnote : SetupQuery.dateStyle.note (some result) progress = .ok progress')
    (hresults : s.results = [result]) (hbusy : s.busyLeft = 1)
    (h : Stage capacity heard (.awaiting .dateStyle) progress s c) :
    ∃ c' s', c.Polls [.needWrite] c' ∧
      Stage capacity heard (.asking .clientEncoding) progress' s' c' ∧
      s'.script = s.script ∧ s'.results = [] := by
  obtain ⟨c', hpolls, hstage⟩ := h.polls_of_lasts_silent rfl
    (ScriptedSession.lasts_step_noted (Nat.le_of_eq hbusy) hresults hnote) (by simp) h.notices
  exact ⟨c', _, hpolls, hstage, rfl, rfl⟩

/-- A question that cannot be noted makes a poll fail. -/
theorem failsWith_of_noted_eq_error {q : SetupQuery} {fault : Fault}
    (hnoted : s.script.noted q progress = .error fault) (hresults : s.results = [])
    (h : Stage capacity heard (.asking q) progress s c) :
    ∃ answers c', c.Polls answers c' ∧ c'.FailsWith fault := by
  obtain ⟨text, hfailures, rfl⟩ | ⟨hfailures, hnote⟩ := Script.noted_eq_error hnoted
  · exact ⟨[], c, .refl c, h.failsWith_of_lasts rfl
      (ScriptedSession.lasts_step_asking_error hfailures)⟩
  · obtain ⟨c', s', hpolls, hstage, -, hresults', hbusy⟩ := h.polls_asking hfailures hresults
    exact ⟨_, c', hpolls, hstage.failsWith_of_lasts rfl
      (ScriptedSession.lasts_step_unnoted (Nat.le_of_eq hbusy) hresults' hnote)⟩

/-- What polls answer throughout a setup that succeeds, before the last poll. -/
def answers (script : Script) (steps : List HandshakeStep) : List Readiness :=
  [.needWrite] ++ ((steps.takeWhile (· ≠ .established)).map HandshakeStep.readiness ++
    [.needWrite]) ++ script.questionAnswers ++ [.needWrite] ++ script.questionAnswers

/-- Polls lead through the handshake to the first question. -/
theorem polls_setup
    (hwaits : ∀ step ∈ s.handshake.takeWhile (· ≠ .established), step = .reading ∨ step = .writing)
    (hresults : s.results = []) (h : Stage capacity heard .setup progress s c) :
    ∃ c' s', c.Polls ([.needWrite] ++
        ((s.handshake.takeWhile (· ≠ .established)).map HandshakeStep.readiness ++ [.needWrite])) c' ∧
      Stage capacity heard (.asking .dateStyle) s.script.firstNotes s' c' ∧
      s'.script = s.script ∧ s'.results = [] := by
  obtain ⟨c₁, hpolls, hstage⟩ := h.polls_start
  have hsteps : s.emptied.handshake = s.handshake := rfl
  obtain ⟨c', s', hpolls', hstage', hscript, hresults'⟩ := polls_handshake hsteps hwaits hstage
  exact ⟨c', s', hpolls.trans hpolls', hstage', hscript, hresults'.trans hresults⟩

/-- Polls lead from the first question to the second one. -/
theorem polls_first_question {asked : SetupProgress}
    (hasked : s.script.noted .dateStyle progress = .ok asked) (hresults : s.results = [])
    (h : Stage capacity heard (.asking .dateStyle) progress s c) :
    ∃ c' s', c.Polls (s.script.questionAnswers ++ [.needWrite]) c' ∧
      Stage capacity (heard ++ s.script.raised .dateStyle) (.asking .clientEncoding) asked s' c' ∧
      s'.script = s.script ∧ s'.results = [] := by
  obtain ⟨hfailures, hnote⟩ := Script.noted_eq_ok hasked
  obtain ⟨c₁, s₁, hpolls₁, hstage₁, hscript₁, hresults₁, hbusy₁⟩ := h.polls_asking hfailures hresults
  obtain ⟨c', s', hpolls, hstage, hscript, hresults'⟩ := hstage₁.polls_noted hnote hresults₁ hbusy₁
  exact ⟨c', s', hpolls₁.trans hpolls, hstage, hscript.trans hscript₁, hresults'⟩

/-- Where the script says so, the setup by polls succeeds. -/
theorem polls_of_setup_eq_ok
    (hwaits : ∀ step ∈ s.handshake.takeWhile (· ≠ .established), step = .reading ∨ step = .writing)
    (hresults : s.results = []) {info : SessionInfo} (hsetup : s.script.setup = .ok info)
    (h : Stage capacity heard .setup progress s c) :
    ∃ c', c.Polls (answers s.script s.handshake) c' ∧ c'.CompletesWith info capacity
      (heard ++ s.script.raised .dateStyle ++ s.script.raised .clientEncoding) s.script := by
  obtain ⟨asked, notes, hasked, hnotes, hinfo⟩ := Script.setup_eq_ok hsetup
  obtain ⟨hfailures, hnote⟩ := Script.noted_eq_ok hnotes
  obtain ⟨c₁, s₁, hpolls₁, hstage₁, hscript₁, hresults₁⟩ := h.polls_setup hwaits hresults
  rw [← hscript₁] at hasked hstage₁
  obtain ⟨c₂, s₂, hpolls₂, hstage₂, hscript₂, hresults₂⟩ :=
    hstage₁.polls_first_question hasked hresults₁
  rw [← hscript₁, ← hscript₂] at hfailures hnote
  obtain ⟨c₃, s₃, hpolls₃, hstage₃, hscript₃, hresults₃, hbusy₃⟩ :=
    hstage₂.polls_asking hfailures hresults₂
  have hpolls := (hpolls₁.trans hpolls₂).trans hpolls₃
  rw [hscript₂, hscript₁] at hpolls hstage₃
  refine ⟨c₃, ?_, ?_⟩
  · unfold answers
    rw [← List.append_assoc] at hpolls
    exact hpolls
  · have hcompletes := hstage₃.completesWith_of_lasts rfl
      (ScriptedSession.lasts_step_completed (Nat.le_of_eq hbusy₃) hresults₃ hnote hinfo) rfl
    have hsilent : s₃.answered.notices = [] := hstage₃.notices
    have hscript : s₃.answered.script = s.script := hscript₃.trans (hscript₂.trans hscript₁)
    rw [hsilent, List.append_nil, hscript] at hcompletes
    exact hcompletes

/-- Where the script says so, the setup by polls fails, with the fault that the script tells of. -/
theorem polls_of_setup_eq_error
    (hwaits : ∀ step ∈ s.handshake.takeWhile (· ≠ .established), step = .reading ∨ step = .writing)
    (hresults : s.results = []) {fault : Fault} (hsetup : s.script.setup = .error fault)
    (h : Stage capacity heard .setup progress s c) :
    ∃ answers c', c.Polls answers c' ∧ c'.FailsWith fault := by
  obtain ⟨c₁, s₁, hpolls₁, hstage₁, hscript₁, hresults₁⟩ := h.polls_setup hwaits hresults
  rw [← hscript₁] at hsetup hstage₁
  obtain hasked | ⟨asked, hasked, hrest⟩ := Script.setup_eq_error hsetup
  · obtain ⟨answers, c', hpolls, hfails⟩ := hstage₁.failsWith_of_noted_eq_error hasked hresults₁
    exact ⟨_, c', hpolls₁.trans hpolls, hfails⟩
  · obtain ⟨c₂, s₂, hpolls₂, hstage₂, hscript₂, hresults₂⟩ :=
      hstage₁.polls_first_question hasked hresults₁
    rw [← hscript₂] at hrest
    obtain hnotes | ⟨notes, hnotes, hinfo⟩ := hrest
    · obtain ⟨answers, c', hpolls, hfails⟩ := hstage₂.failsWith_of_noted_eq_error hnotes hresults₂
      exact ⟨_, c', (hpolls₁.trans hpolls₂).trans hpolls, hfails⟩
    · obtain ⟨hfailures, hnote⟩ := Script.noted_eq_ok hnotes
      obtain ⟨c₃, s₃, hpolls₃, hstage₃, -, hresults₃, hbusy₃⟩ :=
        hstage₂.polls_asking hfailures hresults₂
      exact ⟨_, c₃, (hpolls₁.trans hpolls₂).trans hpolls₃, hstage₃.failsWith_of_lasts rfl
        (ScriptedSession.lasts_step_incomplete (Nat.le_of_eq hbusy₃) hresults₃ hnote hinfo)⟩

end Stage

end Connection

namespace Scenario.World

open Connection Guarded

variable {script : Script} {w : World Script ScriptedSession} {dsn : String} {settings : Settings}
  {hooked : Bool}

/-! ## Opening a connection -/

/-- An asynchronous connection is opened at once, and waits for the first poll. -/
theorem openConnection_asynchronous (react : Reactor Script ScriptedSession)
    (h : w.connector.connectFailure = none) (dsn : String) (settings : Settings) (hooked : Bool) :
    ∃ w' c s, (openConnection react dsn true settings hooked).run w =
        (.ok w.connections.length, w') ∧
      w'.connections[w.connections.length]? = some c ∧ c.mailbox.observers = [] ∧
      Stage settings.noticeCapacity [] .setup {} s c ∧
      s.script = w.connector ∧ s.handshake = w.connector.handshake ∧ s.results = [] ∧
      Span.finishes (w'.exchanges w.connections.length) =
        Span.finishes (w.exchanges w.connections.length) := by
  let session := ScriptedSession.start w.connector w.connector.handshake
  let c : Connection ScriptedSession := create w.connections.length dsn true hooked settings
  have hruns : Span.Runs (openingSpan session false c) c.guarded [] (.ok ())
      (settingUp .autocommit session .setup {}) :=
    .bind_silent (.update _ _) (.pure () _)
  have houtcome := hruns.run_some session rfl
  obtain ⟨w', hopen, hc', hexchanges⟩ := openConnection_of_ok react true
    (Script.connect_of_none h false dsn) settings hooked rfl houtcome rfl
    (fun f hf => nomatch hf)
  refine ⟨w', _, session, hopen, hc' rfl, rfl, ?_, rfl, rfl, rfl, ?_⟩
  · exact
      { asynchronous := rfl
        guarded := rfl
        mailbox := (Mailbox.hasHeard_create _ settings.notificationCapacity).store .empty
        notices := rfl }
  · rw [hexchanges, Span.finishes_append]
    rfl

/-- Where the script says so, opening a blocking connection succeeds. -/
theorem openConnection_blocking (react : Reactor Script ScriptedSession)
    (h : w.connector.connectFailure = none) (dsn : String) (settings : Settings) (hooked : Bool)
    {info : SessionInfo} (hsetup : w.connector.setup = .ok info) :
    ∃ w' c, (openConnection react dsn false settings hooked).run w =
        (.ok w.connections.length, w') ∧
      w'.connections[w.connections.length]? = some c ∧ c.mailbox.observers = [] ∧
      c.Idles false settings.isolation info settings.noticeCapacity
        (w.connector.raised .dateStyle ++ w.connector.raised .clientEncoding) w.connector := by
  let session := ScriptedSession.start w.connector []
  let c : Connection ScriptedSession := create w.connections.length dsn false hooked settings
  have hsession : session.script.setup = .ok info := hsetup
  obtain ⟨next, notes, hscript, hresults, hnotices, xs, -, hsetup⟩ :=
    ScriptedSession.lasts_runSetup hsession
  have hruns : Span.Runs (openingSpan session true c) c.guarded xs (.ok ())
      ((settingUp settings.isolation next .setup notes).established info settings.isolation) :=
    .bind_silent (.update _ _) hsetup.orTearDown
  have houtcome := hruns.run_some next rfl
  obtain ⟨w', hopen, hc', -⟩ := openConnection_of_ok react false
    (Script.connect_of_none h true dsn) settings hooked rfl houtcome rfl (fun f hf => nomatch hf)
  have hstored : (c.mailbox.store (Span.messages next)).HasHeard settings.noticeCapacity
      next.notices :=
    (Mailbox.hasHeard_create _ settings.notificationCapacity).store (Span.messages next)
  rw [hnotices] at hstored
  refine ⟨w', _, hopen, hc' rfl, rfl, next.emptied, hscript, hresults, ?_⟩
  exact
    { asynchronous := rfl
      guarded := rfl
      mailbox := hstored
      notices := rfl }

/-- Where the script says so, opening a blocking connection fails, and the session is ended once. -/
theorem openConnection_blocking_error (react : Reactor Script ScriptedSession)
    (h : w.connector.connectFailure = none) (dsn : String) (settings : Settings) (hooked : Bool)
    {fault : Fault} (hsetup : w.connector.setup = .error fault) :
    ∃ w', (openConnection react dsn false settings hooked).run w = (.error fault, w') ∧
      Span.finishes (w'.exchanges w.connections.length) =
        Span.finishes (w.exchanges w.connections.length) + 1 := by
  let session := ScriptedSession.start w.connector []
  let c : Connection ScriptedSession := create w.connections.length dsn false hooked settings
  have hsession : session.script.setup = .error fault := hsetup
  obtain ⟨next, notes, xs, hxs, hsetup⟩ :=
    ScriptedSession.lasts_runSetup_error (g := c.guarded.on session) rfl hsession
  have hruns : Span.Runs (openingSpan session true c) c.guarded (xs ++ Span.Runs.farewell next)
      (.error fault) _ :=
    .bind_silent (.update _ _) (hsetup.orTearDown_error next rfl)
  have houtcome := hruns.run_none rfl
  obtain ⟨w', hopen, -, hexchanges⟩ := openConnection_of_ok react false
    (Script.connect_of_none h true dsn) settings hooked rfl houtcome rfl (fun f hf => ⟨rfl, rfl⟩)
  refine ⟨w', hopen, ?_⟩
  rw [hexchanges, Span.finishes_append, Span.finishes_append, hxs]
  rfl

/-! ## Driving the setup -/

/-- A drive of a connection that gets set up ends with the information, and with the session there. -/
theorem drive_of_completesWith (react : Reactor Script ScriptedSession) {key : Nat}
    {c c' : Connection ScriptedSession} {answers : List Readiness} {info : SessionInfo}
    {capacity : Capacity} {heard : List String} {script : Script} (hpolls : c.Polls answers c')
    (hcompletes : c'.CompletesWith info capacity heard script) (hc : w.connections[key]? = some c)
    (hobservers : c.mailbox.observers = []) :
    ∃ w' c'', (∀ n > answers.length, (drive react key n []).run w =
        (.driven (answers ++ [.complete]) none, w')) ∧
      w'.connections[key]? = some c'' ∧ c''.mailbox.observers = [] ∧
      c''.Idles true .autocommit info capacity heard script := by
  obtain ⟨hresult, hcompletion, hidles⟩ := hcompletes
  have hobservers' : c'.mailbox.observers = [] := hpolls.observers_eq.trans hobservers
  obtain ⟨w₁, hc₁, -, -, hdrive⟩ :=
    drive_of_polls hpolls hc (discreet_of_unobserved react key hobservers)
  obtain ⟨w₂, hperform, hc₂, -⟩ := perform_of_unobserved react hc₁ hobservers' .poll hcompletion
  rw [hresult] at hperform
  refine ⟨w₂, _, fun n hn => ?_, hc₂ Operation.noConfusion, hobservers', hidles⟩
  obtain ⟨m, rfl⟩ : ∃ m, n = answers.length + (m + 1) := ⟨n - answers.length - 1, by omega⟩
  rw [hdrive, drive_of_complete hperform]
  rfl

/-- A drive of a connection that fails to be set up ends with the fault, and the session is ended once. -/
theorem drive_of_failsWith (react : Reactor Script ScriptedSession) {key : Nat}
    {c c' : Connection ScriptedSession} {answers : List Readiness} {fault : Fault}
    (hpolls : c.Polls answers c') (hfails : c'.FailsWith fault)
    (hc : w.connections[key]? = some c) (hobservers : c.mailbox.observers = []) :
    ∃ w', (∀ n > answers.length, (drive react key n []).run w =
        (.driven answers (some fault), w')) ∧
      Span.finishes (w'.exchanges key) = Span.finishes (w.exchanges key) + 1 := by
  obtain ⟨hresult, hcompletion, hfinishes⟩ := hfails
  obtain ⟨w₁, hc₁, hlasting, -, hdrive⟩ :=
    drive_of_polls hpolls hc (discreet_of_unobserved react key hobservers)
  obtain ⟨w₂, hperform, -, hexchanges⟩ := perform_of_unobserved react hc₁
    (hpolls.observers_eq.trans hobservers) .poll hcompletion
  rw [hresult] at hperform
  refine ⟨w₂, fun n hn => ?_, ?_⟩
  · obtain ⟨m, rfl⟩ : ∃ m, n = answers.length + (m + 1) := ⟨n - answers.length - 1, by omega⟩
    rw [hdrive, drive_of_error hperform]
    rfl
  · rw [hexchanges, Span.finishes_append, hfinishes, hlasting]

/-- The setup by polls refines the blocking setup. Where the handshake only waits until it is
established, opening an asynchronous connection and polling it until a poll completes the setup or fails
ends like opening a blocking connection on the same script: both succeed, with the same information and
the same notices in the mailbox, or both fail, with the same fault and with the session ended once. -/
theorem drive_refines_blocking_open (react : Reactor Script ScriptedSession) (dsn : String)
    (settings : Settings) (hooked : Bool) (w : World Script ScriptedSession)
    (hconnect : w.connector.connectFailure = none)
    (hwaits : ∀ step ∈ w.connector.handshake.takeWhile (· ≠ .established),
      step = .reading ∨ step = .writing) :
    ∃ opened limit answers failure polled,
      (openConnection react dsn true settings hooked).run w = (.ok w.connections.length, opened) ∧
      (∀ n ≥ limit, (drive react w.connections.length n []).run opened =
        (.driven answers failure, polled)) ∧
      let key := w.connections.length
      let (result, blocking) := (openConnection react dsn false settings hooked).run w
      (result = .ok key ∧ failure = none ∧ answers.getLast? = some .complete ∧
        ∃ c c' info, blocking.connections[key]? = some c ∧ polled.connections[key]? = some c' ∧
          c.guarded.info = some info ∧ c'.guarded.info = some info ∧
          c'.mailbox.notices.items = c.mailbox.notices.items) ∨
      (∃ fault, result = .error fault ∧ failure = some fault ∧
        Span.finishes (blocking.exchanges key) = Span.finishes (w.exchanges key) + 1 ∧
        Span.finishes (polled.exchanges key) = Span.finishes (w.exchanges key) + 1) := by
  obtain ⟨opened, c, s, hopen, hc, hobservers, hstage, hscript, hhandshake, hresults, hlasting⟩ :=
    openConnection_asynchronous react hconnect dsn settings hooked
  rw [← hhandshake] at hwaits
  cases hsetup : w.connector.setup with
  | ok info =>
    obtain ⟨blocking, c₁, hblocking, hc₁, -, hidles₁⟩ :=
      openConnection_blocking react hconnect dsn settings hooked hsetup
    rw [← hscript] at hsetup
    obtain ⟨c', hpolls, hcompletes⟩ := hstage.polls_of_setup_eq_ok hwaits hresults hsetup
    obtain ⟨polled, c₂, hdrive, hc₂, -, hidles₂⟩ :=
      drive_of_completesWith react hpolls hcompletes hc hobservers
    refine ⟨opened, _, _, _, polled, hopen, hdrive, ?_⟩
    rw [hblocking]
    refine Or.inl ⟨rfl, rfl, List.getLast?_concat, c₁, c₂, info, hc₁, hc₂, hidles₁.info_eq,
      hidles₂.info_eq, ?_⟩
    rw [hidles₁.hasHeard.2, hidles₂.hasHeard.2, hscript, List.nil_append]
  | error fault =>
    obtain ⟨blocking, hblocking, hended⟩ :=
      openConnection_blocking_error react hconnect dsn settings hooked hsetup
    rw [← hscript] at hsetup
    obtain ⟨answers, c', hpolls, hfails⟩ := hstage.polls_of_setup_eq_error hwaits hresults hsetup
    obtain ⟨polled, hdrive, hended'⟩ := drive_of_failsWith react hpolls hfails hc hobservers
    refine ⟨opened, _, answers, _, polled, hopen, hdrive, ?_⟩
    rw [hblocking]
    refine Or.inr ⟨fault, rfl, rfl, hended, ?_⟩
    rw [hended', hlasting]

/-- A server that is slow in everything, and that raises a notice. -/
def sluggish : Script :=
  { handshake := [.reading, .writing, .established]
    busyRounds := 2
    pendingFlushes := 3
    notices := [("SHOW DATESTYLE", ["welcome"])] }

/-- On a slow server a drive completes the setup, and the notice is in the mailbox. -/
theorem drive_refines_blocking_open_sluggish :
    let w : World Script ScriptedSession := { connector := sluggish, hook := fun _ => 1 }
    w.connector.connectFailure = none ∧
      (∀ step ∈ w.connector.handshake.takeWhile (· ≠ .established),
        step = .reading ∨ step = .writing) ∧
      ∃ opened limit answers polled,
        (openConnection (fun _ _ => pure ()) "" true .standard false).run w = (.ok 0, opened) ∧
        (∀ n ≥ limit, (drive (fun _ _ => pure ()) 0 n []).run opened =
          (.driven answers none, polled)) ∧ answers.getLast? = some .complete ∧
        ∃ c info, polled.connections[0]? = some c ∧ c.guarded.info = some info ∧
          c.mailbox.notices.items = ["welcome"] := by
  intro w
  have hconnect : w.connector.connectFailure = none := rfl
  have hwaits : ∀ step ∈ w.connector.handshake.takeWhile (· ≠ .established),
      step = .reading ∨ step = .writing := by decide
  have hsetup : ∃ info, w.connector.setup = .ok info := ⟨_, rfl⟩
  obtain ⟨info, hsetup⟩ := hsetup
  obtain ⟨blocking, c, hblocking, hc, -, hidles⟩ :=
    openConnection_blocking (fun _ _ => pure ()) hconnect "" .standard false hsetup
  have hrefines :=
    drive_refines_blocking_open (fun _ _ => pure ()) "" .standard false w hconnect hwaits
  rw [hblocking] at hrefines
  obtain ⟨opened, limit, answers, failure, polled, hopen, hdrive, hends⟩ := hrefines
  obtain ⟨-, rfl, hlast, c₁, c₂, info', hc₁, hc₂, -, hinfo, hnotices⟩ | ⟨fault, hfault, -⟩ := hends
  · cases hc.symm.trans hc₁
    refine ⟨hconnect, hwaits, opened, limit, answers, polled, hopen, hdrive, hlast, c₂, info', hc₂,
      hinfo, ?_⟩
    rw [hnotices, hidles.hasHeard.2]
    rfl
  · cases hfault

end Scenario.World

end SessionLayer
