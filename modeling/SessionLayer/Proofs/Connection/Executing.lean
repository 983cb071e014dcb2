import SessionLayer.Proofs.Connection.Metadata

/-!
# What a poll answers and whether anything is under way

An event loop goes by two answers: the one of a poll tells it what to wait for, and the other one tells
whether an asynchronous connection has anything under way. `Guarded.Confirms` says that the two fit
together. Every step of a poll leaves them so, failures included.
-/

set_option autoImplicit false

namespace SessionLayer

variable {σ : Type}

namespace Guarded

variable {g g' : Guarded σ} {level : Isolation} {r : Except Fault Readiness}
  {completion : Option Completion}

/-- Whether the setup or a statement is under way. -/
def underway (g : Guarded σ) : Bool :=
  g.status.isConnecting || g.inFlight.isSome

/-- The state after a poll confirms its answer: something is under way exactly if there is
something to wait for. After a failure nothing is, unless the connection is closed. -/
def Confirms (g : Guarded σ) : Except Fault Readiness → Prop
  | .ok .complete => g.status ≠ .closed ∧ g.underway = false
  | .ok _ => g.status ≠ .closed ∧ g.underway = true
  | .error _ => g.status = .closed ∨ g.underway = false

/-! ## Steps of a poll -/

theorem underway_eq_false_of_isUsable (husable : g.status.isUsable) (hflight : g.inFlight = none) :
    g.underway = false := by
  rw [underway, hflight, Option.isSome_none, Bool.or_false, ← Bool.not_eq_true]
  exact fun hconnecting => nomatch (Status.isUsable_of_isConnecting hconnecting).symm.trans husable

theorem underway_of_isConnecting (h : g.status.isConnecting) : g.underway = true := by
  rw [underway, h, Bool.true_or]

theorem underway_of_inFlight {flight : InFlight} (h : g.inFlight = some flight) :
    g.underway = true := by
  rw [underway, h, Option.isSome_some, Bool.or_true]

theorem Confirms.of_waiting {readiness : Readiness} (hreadiness : readiness ≠ .complete)
    (hopen : g.status ≠ .closed) (hunderway : g.underway = true) : g.Confirms (.ok readiness) := by
  cases readiness with
  | complete => exact absurd rfl hreadiness
  | needRead | needWrite => exact ⟨hopen, hunderway⟩

/-- While the setup goes on, there is something to wait for; the last step of it leaves nothing. -/
theorem Confirms.of_setupStep {readiness : Readiness} (h : g.Consistent true)
    (hconnecting : g.status.isConnecting) (hstep : g.SetupStep level (.ok readiness) g') :
    g'.Confirms (.ok readiness) := by
  have hwaits : ∀ {readiness : Readiness} {g' : Guarded σ}, readiness ≠ .complete →
      g'.status.isConnecting → g'.Confirms (.ok readiness) := fun hreadiness hg' =>
    .of_waiting hreadiness (Status.ne_closed_of_isConnecting hg') (underway_of_isConnecting hg')
  cases hstep with
  | started _ => exact hwaits Readiness.noConfusion rfl
  | handshakeWaits _ session _ hreadiness => exact hwaits hreadiness hconnecting
  | handshakeDone standard serverVersion protocolVersion session _ =>
    exact hwaits Readiness.noConfusion rfl
  | written q session _ => exact hwaits Readiness.noConfusion rfl
  | pending q session _ => exact hwaits Readiness.noConfusion rfl
  | awaits q session _ => exact hwaits Readiness.noConfusion hconnecting
  | dateStyleNoted dateStyle session _ => exact hwaits Readiness.noConfusion rfl
  | completed info session _ _ =>
    -- A statement in flight would have needed a connection that is set up.
    have hflight : g.inFlight = none := by
      refine Option.not_isSome_iff_eq_none.1 fun hflight => ?_
      rw [(h.inFlight hflight).2] at hconnecting
      exact nomatch hconnecting
    exact ⟨Status.noConfusion, underway_eq_false_of_isUsable rfl hflight⟩

/-- On a connection that is set up, there is something to wait for as long as a statement is in flight. -/
theorem Confirms.of_readyStep (husable : g.status.isUsable) (hstep : g.ReadyStep r g' completion) :
    g'.Confirms r := by
  have hopen := Status.ne_closed_of_isUsable husable
  cases hstep with
  | idle session hflight => exact ⟨hopen, underway_eq_false_of_isUsable husable hflight⟩
  | idleFailed text session hflight =>
    exact Or.inr (underway_eq_false_of_isUsable husable hflight)
  | pending flight session hflight _ => exact ⟨hopen, underway_of_inFlight hflight⟩
  | written flight session hflight _ => exact ⟨hopen, underway_of_inFlight rfl⟩
  | awaits flight session hflight _ => exact ⟨hopen, underway_of_inFlight hflight⟩
  | completed flight results session _ _ =>
    exact ⟨hopen, underway_eq_false_of_isUsable husable rfl⟩
  | abandoned flight text session _ => exact Or.inr (underway_eq_false_of_isUsable husable rfl)

theorem Confirms.of_pollStep {asynchronous : Bool} (h : g.Consistent asynchronous)
    (hstep : g.PollStep level r g' completion) : g'.Confirms r := by
  cases hstep with
  | closed hclosed => exact Or.inl hclosed
  | setup readiness _ hconnecting hstep =>
    have ha := h.asynchronous_of_isConnecting hconnecting
    subst ha
    exact .of_setupStep h hconnecting hstep
  | setupFailed fault _ stash _ _ => exact Or.inl rfl
  | ready husable hstep => exact .of_readyStep husable hstep

/-- The metadata tell whether anything is under way. -/
theorem Confirms.of_metadata (h : g.Confirms r) (hsame : g'.metadata = g.metadata) : g'.Confirms r := by
  have hstatus : g'.status = g.status := congrArg Metadata.status hsame
  have hflight : g'.inFlight = g.inFlight := congrArg Metadata.inFlight hsame
  unfold Confirms underway at h ⊢
  rwa [hstatus, hflight]

/-- A poll of a blocking connection reads messages at most: there is nothing to wait for, and nothing
that is known about the session changes. -/
theorem PollStep.of_blocking (h : g.Consistent false) (hstep : g.PollStep level r g' completion) :
    r ≠ .ok .needRead ∧ r ≠ .ok .needWrite ∧ g'.metadata = g.metadata := by
  cases hstep with
  | closed _ => exact ⟨fun h => (nomatch h), fun h => (nomatch h), rfl⟩
  | setup readiness _ hconnecting _ =>
    exact nomatch h.asynchronous_of_isConnecting hconnecting
  | setupFailed fault _ stash hconnecting _ =>
    exact nomatch h.asynchronous_of_isConnecting hconnecting
  | ready _ hstep =>
    have hflight := h.inFlight_eq_none
    cases hstep with
    | idle session _ => exact ⟨fun h => (nomatch h), fun h => (nomatch h), rfl⟩
    | idleFailed text session _ => exact ⟨fun h => (nomatch h), fun h => (nomatch h), rfl⟩
    | pending flight session hsome _ | written flight session hsome _
    | awaits flight session hsome _ | completed flight results session hsome _
    | abandoned flight text session hsome => exact nomatch hflight.symm.trans hsome

end Guarded

namespace Connection

open SessionLayer.Span

variable [WireSession σ] {c : Connection σ}

/-! ## The two operations -/

/-- Whether anything is under way is answered at once. -/
theorem atOnce_isExecuting (hopen : c.guarded.status ≠ .closed) :
    c.AtOnce .isExecuting (.ok (c.asynchronous && c.guarded.underway)) := by
  apply AtOnce.of_runs
  exact runs_bind_ensureOpen hopen (.bind_silent (.guarded _) (.pure _ _))

theorem pollStep_perform (h : c.guarded.Settled c.asynchronous) :
    ∃ g', c.guarded.PollStep c.setupIsolation (c.perform .poll).result g'
        (c.perform .poll).completion ∧ (c.perform .poll).guarded.metadata = g'.metadata := by
  apply metadata_run_of_ends
    (Q := fun r completion m => ∃ g', c.guarded.PollStep c.setupIsolation r g' completion ∧ m = g'.metadata)
  apply (ends_poll rfl h.1.session_iff.2 h.1.asynchronous_of_isConnecting).mono
  exact fun r t hstep => ⟨t.guarded, hstep, rfl⟩

/-- The state that the span of a poll leaves behind confirms its answer. -/
theorem confirms_perform (h : c.guarded.Settled c.asynchronous) :
    (c.perform .poll).guarded.Confirms (c.perform .poll).result := by
  obtain ⟨g', hstep, hsame⟩ := pollStep_perform h
  exact (Guarded.Confirms.of_pollStep h.1 hstep).of_metadata hsame

/-- On a blocking connection there is nothing to wait for, and the metadata stay as they were. -/
theorem perform_poll_of_blocking (h : c.guarded.Settled c.asynchronous)
    (ha : c.asynchronous = false) :
    (c.perform .poll).result ≠ .ok .needRead ∧ (c.perform .poll).result ≠ .ok .needWrite ∧
      (c.perform .poll).guarded.metadata = c.guarded.metadata := by
  obtain ⟨g', hstep, hsame⟩ := pollStep_perform h
  rw [ha] at h
  rw [hsame]
  exact hstep.of_blocking h.1

end Connection

end SessionLayer
