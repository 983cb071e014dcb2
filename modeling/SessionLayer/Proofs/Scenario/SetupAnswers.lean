import SessionLayer.Proofs.Scenario.SetupRefinement

/-!
# What the polls of a setup answer

How many polls the setup of a scripted session takes, and what each of them answers, is determined by
three lengths that the script gives: the waits of its handshake, the flushes that leave output pending,
and the readings that leave a question busy. The setup completes exactly if the handshake only waits until
the session is established and the questions have usable answers; in any other a poll fails.
-/

set_option autoImplicit false

namespace SessionLayer

namespace Script

/-- The steps of the handshake until the session is established. -/
def waits (script : Script) : List HandshakeStep :=
  script.handshake.takeWhile (· ≠ .established)

/-- What the polls answer throughout a setup that succeeds: the start and the waits of the handshake,
that it is established, and for each question the flushes that leave it pending and the readings that
leave it busy. -/
def setupAnswers (script : Script) : List Readiness :=
  [.needWrite] ++ script.waits.map HandshakeStep.readiness ++ [.needWrite] ++
    List.replicate script.pendingFlushes .needWrite ++
    List.replicate (script.busyRounds + 1) .needRead ++ [.needWrite] ++
    List.replicate script.pendingFlushes .needWrite ++
    List.replicate (script.busyRounds + 1) .needRead ++ [.complete]

theorem setupAnswers_eq (script : Script) :
    script.setupAnswers = Connection.Stage.answers script script.handshake ++ [.complete] := by
  simp only [setupAnswers, waits, Connection.Stage.answers, questionAnswers, List.append_assoc]

theorem length_setupAnswers (script : Script) :
    script.setupAnswers.length =
      2 + script.waits.length + 2 * (script.pendingFlushes + script.busyRounds + 2) := by
  simp only [setupAnswers, List.length_append, List.length_map, List.length_replicate,
    List.length_singleton]
  omega

end Script

namespace Connection.Stage

variable {capacity : Capacity} {heard : List String} {progress : SetupProgress}
  {s : ScriptedSession} {c : Connection ScriptedSession}

/-- A handshake that does not only wait makes a poll fail. -/
theorem failsWith_of_handshake {steps : List HandshakeStep} (hsteps : s.handshake = steps)
    (hwaits : ¬∀ step ∈ steps.takeWhile (· ≠ .established), step = .reading ∨ step = .writing)
    (h : Stage capacity heard .handshake progress s c) :
    ∃ answers c' fault, c.Polls answers c' ∧ c'.FailsWith fault := by
  induction steps generalizing s c with
  | nil => simp at hwaits
  | cons step rest ih =>
    -- Later steps count only after one that waits.
    have hlater (hwait : step = .reading ∨ step = .writing) :
        ∃ answers c' fault, c.Polls answers c' ∧ c'.FailsWith fault := by
      have hreadiness : step.readiness ≠ .complete := by
        rcases hwait with rfl | rfl <;> simp [HandshakeStep.readiness]
      obtain ⟨c₁, hpoll, hstage⟩ := h.polls_of_lasts_silent rfl
        (ScriptedSession.lasts_step_handshake hsteps hwait) hreadiness h.notices
      have hrest : ¬∀ step ∈ rest.takeWhile (· ≠ .established),
          step = .reading ∨ step = .writing := by
        rcases hwait with rfl | rfl <;> simpa using hwaits
      obtain ⟨answers, c', fault, hpolls, hfails⟩ := ih rfl hrest hstage
      exact ⟨_, c', fault, hpoll.trans hpolls, hfails⟩
    cases step with
    | established => simp at hwaits
    | reading => exact hlater (Or.inl rfl)
    | writing => exact hlater (Or.inr rfl)
    | failed =>
      exact ⟨[], c, _, .refl c,
        h.failsWith_of_lasts rfl (ScriptedSession.lasts_step_failed hsteps)⟩
    | unknown code =>
      exact ⟨[], c, _, .refl c,
        h.failsWith_of_lasts rfl (ScriptedSession.lasts_step_unknown hsteps)⟩

/-- Either the script lets a setup succeed, or the setup comes to a poll that fails. -/
theorem succeeds_or_fails (hresults : s.results = []) (hhandshake : s.handshake = s.script.handshake)
    (h : Stage capacity heard .setup progress s c) :
    ((∀ step ∈ s.script.waits, step = .reading ∨ step = .writing) ∧
      ∃ info, s.script.setup = .ok info) ∨
    ∃ answers c' fault, c.Polls answers c' ∧ c'.FailsWith fault := by
  by_cases hwaits : ∀ step ∈ s.script.waits, step = .reading ∨ step = .writing
  · have hsteps := hwaits
    rw [Script.waits, ← hhandshake] at hsteps
    cases hsetup : s.script.setup with
    | ok info => exact Or.inl ⟨hwaits, info, rfl⟩
    | error fault =>
      obtain ⟨answers, c', hpolls, hfails⟩ := h.polls_of_setup_eq_error hsteps hresults hsetup
      exact Or.inr ⟨answers, c', fault, hpolls, hfails⟩
  · obtain ⟨c₁, hpoll, hstage⟩ := h.polls_start
    have hsteps : s.emptied.handshake = s.script.handshake := hhandshake
    obtain ⟨answers, c', fault, hpolls, hfails⟩ := hstage.failsWith_of_handshake hsteps hwaits
    exact Or.inr ⟨_, c', fault, hpoll.trans hpolls, hfails⟩

end Connection.Stage

namespace Scenario.World

open Connection

variable {w : World Script ScriptedSession} {key : Nat} {c c' : Connection ScriptedSession}
  {answers : List Readiness}

/-- A drive of a connection that fails to be set up never says that the setup is complete. -/
theorem complete_notMem_of_failsWith {react : Reactor Script ScriptedSession} {fault : Fault}
    (hpolls : c.Polls answers c') (hfails : c'.FailsWith fault) (hc : w.connections[key]? = some c)
    (hobservers : c.mailbox.observers = []) {n : Nat} {driven : List Readiness}
    {failure : Option Fault} {w' : World Script ScriptedSession}
    (hdrive : (drive react key n []).run w = (.driven driven failure, w')) :
    Readiness.complete ∉ driven := by
  have hnone := hpolls.complete_notMem
  by_cases hn : n ≤ answers.length
  · obtain ⟨w₁, hstop⟩ :=
      drive_of_polls_take hpolls hc (discreet_of_unobserved react key hobservers) hn
    cases hstop.symm.trans hdrive
    exact fun hmem => hnone (List.mem_of_mem_take hmem)
  · obtain ⟨w₁, hfailed, -⟩ := drive_of_failsWith react hpolls hfails hc hobservers
    cases (hfailed n (by omega)).symm.trans hdrive
    exact hnone

/-- A drive through a setup that the script lets succeed gives as many of its answers as it makes polls,
and none after the last; then the connection is ready. -/
theorem drive_of_setup_eq_ok (react : Reactor Script ScriptedSession) {capacity : Capacity}
    {heard : List String} {progress : SetupProgress} {s : ScriptedSession} {info : SessionInfo}
    (hstage : Stage capacity heard .setup progress s c) (hresults : s.results = [])
    (hhandshake : s.handshake = s.script.handshake)
    (hwaits : ∀ step ∈ s.script.waits, step = .reading ∨ step = .writing)
    (hsetup : s.script.setup = .ok info) (hc : w.connections[key]? = some c)
    (hobservers : c.mailbox.observers = []) :
    let answers := s.script.setupAnswers
    (∀ n, ∃ polled, (drive react key n []).run w = (.driven (answers.take n) none, polled)) ∧
    ∃ polled c', (∀ n ≥ answers.length, (drive react key n []).run w = (.driven answers none, polled)) ∧
      polled.connections[key]? = some c' ∧ c'.guarded.status = .ready ∧ c'.guarded.inFlight = none ∧
      c'.guarded.info = some info := by
  intro answers
  have hsteps := hwaits
  rw [Script.waits, ← hhandshake] at hsteps
  obtain ⟨c', hpolls, hends⟩ := hstage.polls_of_setup_eq_ok hsteps hresults hsetup
  rw [hhandshake] at hpolls
  obtain ⟨polled, c₂, hdrive, hc₂, -, s₂, -, -, hserving⟩ :=
    drive_of_completesWith react hpolls hends hc hobservers
  have hanswers : answers = Stage.answers s.script s.script.handshake ++ [.complete] :=
    s.script.setupAnswers_eq
  have hlength : answers.length = (Stage.answers s.script s.script.handshake).length + 1 := by
    rw [hanswers, List.length_append, List.length_singleton]
  rw [← hanswers] at hdrive
  refine ⟨fun n => ?_, polled, c₂, fun n hn => hdrive n (by omega), hc₂, ?_, ?_, ?_⟩
  · by_cases hn : n < answers.length
    · have hbefore : n ≤ (Stage.answers s.script s.script.handshake).length := by omega
      obtain ⟨w', hstop⟩ :=
        drive_of_polls_take hpolls hc (discreet_of_unobserved react key hobservers) hbefore
      refine ⟨w', ?_⟩
      rw [hanswers, List.take_append_of_le_length hbefore]
      exact hstop
    · rw [List.take_of_length_le (by omega)]
      exact ⟨polled, hdrive n (by omega)⟩
  · rw [hserving.guarded]
    rfl
  · rw [hserving.guarded]
    rfl
  · rw [hserving.guarded]
    rfl

/-- The exact answers of a setup by polls. A connection that is opened asynchronously, where one can be made,
is completed by some drive exactly if the handshake only waits until it is established and the setup of
the script succeeds. Then for every number of polls a drive gives exactly that many of
`Script.setupAnswers`. So the setup takes as many polls as these are, and no drive goes on after them; then
the connection is ready, with nothing in flight. -/
theorem drive_setup_eq (react : Reactor Script ScriptedSession) (dsn : String) (settings : Settings)
    (hooked : Bool) (w : World Script ScriptedSession)
    (hconnect : w.connector.connectFailure = none) :
    let key := w.connections.length
    let script := w.connector
    let answers := script.setupAnswers
    ∃ opened, (openConnection react dsn true settings hooked).run w = (.ok key, opened) ∧
      ((∃ n driven polled, (drive react key n []).run opened = (.driven driven none, polled) ∧
          Readiness.complete ∈ driven) ↔
        (∀ step ∈ script.waits, step = .reading ∨ step = .writing) ∧
          ∃ info, script.setup = .ok info) ∧
      answers.length = 2 + script.waits.length + 2 * (script.pendingFlushes + script.busyRounds + 2) ∧
      ∀ info, (∀ step ∈ script.waits, step = .reading ∨ step = .writing) → script.setup = .ok info →
        (∀ n, ∃ polled, (drive react key n []).run opened = (.driven (answers.take n) none, polled)) ∧
        ∃ polled c, (∀ n ≥ answers.length,
            (drive react key n []).run opened = (.driven answers none, polled)) ∧
          polled.connections[key]? = some c ∧ c.guarded.status = .ready ∧ c.guarded.inFlight = none ∧
          c.guarded.info = some info := by
  intro key script answers
  obtain ⟨opened, c, s, hopen, hc, hobservers, hstage, hscript, hhandshake, hresults, -⟩ :=
    openConnection_asynchronous react hconnect dsn settings hooked
  have hsteps : s.handshake = s.script.handshake := by rw [hhandshake, hscript]
  have hends := hstage.succeeds_or_fails hresults hsteps
  have hsucceeds (info : SessionInfo)
      (hwaits : ∀ step ∈ s.script.waits, step = .reading ∨ step = .writing)
      (hsetup : s.script.setup = .ok info) :=
    drive_of_setup_eq_ok react hstage hresults hsteps hwaits hsetup hc hobservers
  rw [hscript] at hends hsucceeds
  refine ⟨opened, hopen, ⟨?_, ?_⟩, script.length_setupAnswers, hsucceeds⟩
  · rintro ⟨n, driven, polled, hdriven, hcomplete⟩
    obtain hsets | ⟨before, c', fault, hpolls, hfails⟩ := hends
    · exact hsets
    · exact absurd hcomplete (complete_notMem_of_failsWith hpolls hfails hc hobservers hdriven)
  · rintro ⟨hwaits, info, hsetup⟩
    obtain ⟨-, polled, -, hdrive, -⟩ := hsucceeds info hwaits hsetup
    refine ⟨_, answers, polled, hdrive _ (Nat.le_refl _), ?_⟩
    simp [answers, Script.setupAnswers]

/-- On a slow server the setup takes eighteen polls. -/
theorem drive_setup_sluggish :
    let w : World Script ScriptedSession := { connector := sluggish, hook := fun _ => 1 }
    w.connector.connectFailure = none ∧
      ∃ opened polled c info,
        (openConnection (fun _ _ => pure ()) "" true .standard false).run w = (.ok 0, opened) ∧
        (∀ n ≥ 18, (drive (fun _ _ => pure ()) 0 n []).run opened =
          (.driven [.needWrite, .needRead, .needWrite, .needWrite,
            .needWrite, .needWrite, .needWrite, .needRead, .needRead, .needRead, .needWrite,
            .needWrite, .needWrite, .needWrite, .needRead, .needRead, .needRead, .complete] none,
            polled)) ∧
        polled.connections[0]? = some c ∧ c.guarded.status = .ready ∧ c.guarded.inFlight = none ∧
        w.connector.setup = .ok info ∧ c.guarded.info = some info := by
  intro w
  have hconnect : w.connector.connectFailure = none := rfl
  have hwaits : ∀ step ∈ w.connector.waits, step = .reading ∨ step = .writing := by decide
  have hsetup : ∃ info, w.connector.setup = .ok info := ⟨_, rfl⟩
  obtain ⟨info, hsetup⟩ := hsetup
  obtain ⟨opened, hopen, -, -, hsucceeds⟩ :=
    drive_setup_eq (fun _ _ => pure ()) "" .standard false w hconnect
  obtain ⟨-, polled, c, hdrive, hc, hready, hflight, hinfo⟩ := hsucceeds info hwaits hsetup
  exact ⟨hconnect, opened, polled, c, info, hopen, hdrive, hc, hready, hflight, hsetup, hinfo⟩

end Scenario.World

end SessionLayer
