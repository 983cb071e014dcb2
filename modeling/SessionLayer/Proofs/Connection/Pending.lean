import SessionLayer.Proofs.Connection.Performance
import SessionLayer.Proofs.Wire.StatementQueue

/-!
# Statements that wait with the session

What the operations of an asynchronous connection do to the queue of statements of its session
(`Guarded.queued`): a statement that is submitted enters it, and fetching the results takes it out. An
operation strands a statement (`Performance.strands`) that it leaves in the queue although its owner has
been told that it failed.
-/

set_option autoImplicit false

namespace SessionLayer

open StatementQueue

/-- The session accepts a statement in the exchange. -/
def Exchange.acceptsStatement : Exchange → Bool
  | { call := .send _, answer := .ok _ } => true
  | _ => false

/-- The operation fails, but has left a statement with the session: one that it submitted, or the one in
flight, which it has given up. -/
def Performance.strands {σ : Type} (p : Performance σ) : Bool :=
  !p.outcome.result.toBool &&
    (p.outcome.completion.isSome || p.outcome.exchanges.any Exchange.acceptsStatement)

theorem Performance.strands_of_error {σ : Type} {p : Performance σ} {fault : Fault}
    (hresult : p.outcome.result = .error fault)
    (hleft : p.outcome.completion.isSome ∨ p.outcome.exchanges.any Exchange.acceptsStatement) :
    p.strands = true := by
  rw [strands, hresult, Bool.and_eq_true, Bool.or_eq_true]
  exact ⟨rfl, hleft⟩

namespace Guarded

variable {σ : Type} [WireSession σ] [StatementQueue σ] {g : Guarded σ}

/-- The statements that wait with the session. -/
def queued (g : Guarded σ) : List (Statement σ) :=
  g.session.elim [] pending

/-- How many statements may wait with the session. -/
def capacity (g : Guarded σ) : Nat :=
  match g.status with
  | .writing _ | .awaiting _ => 1
  | .ready | .inBlock => if g.inFlight.isSome then 1 else 0
  | _ => 0

omit [WireSession σ] [StatementQueue σ] in
theorem capacity_le_one (g : Guarded σ) : g.capacity ≤ 1 := by
  unfold capacity
  split
  · exact Nat.le_refl 1
  · exact Nat.le_refl 1
  · split
    · exact Nat.le_refl 1
    · exact Nat.zero_le 1
  · split
    · exact Nat.le_refl 1
    · exact Nat.zero_le 1
  · exact Nat.zero_le 1

omit [WireSession σ] [StatementQueue σ] in
theorem capacity_of_isUsable (h : g.status.isUsable) :
    g.capacity = if g.inFlight.isSome then 1 else 0 := by
  unfold capacity
  cases hstatus : g.status with
  | ready | inBlock => rfl
  | _ =>
    rw [hstatus] at h
    exact nomatch h

theorem queued_of_session {session : σ} (h : g.session = some session) :
    g.queued = pending session := by
  rw [queued, h]
  rfl

theorem queued_eq_nil (h : g.session = none) : g.queued = [] := by
  rw [queued, h]
  rfl

/-- What a poll does with the queue of a connection that is set up: results that it collects for an owner
were produced by statements in the queue. -/
inductive Drained (g : Guarded σ) : Except Fault Readiness → Guarded σ → Option Completion → Prop
  | kept (r : Except Fault Readiness) (g' : Guarded σ) : g'.queued = g.queued →
      g'.capacity = g.capacity → Drained g r g' none
  | collected (owner : QueryOwner) (results : List QueryResult) (g' : Guarded σ) :
      (∀ result ∈ results, ∃ statement ∈ g.queued, Produces statement result) →
      (g.queued.length ≤ 1 → g'.queued = []) →
      Drained g (.ok .complete) g' (some { owner, outcome := collectOutcome results })
  | abandoned (owner : QueryOwner) (text : String) (g' : Guarded σ) :
      Drained g (.error (.transport text)) g' (some { owner, outcome := .error (.transport text) })

end Guarded

namespace Span

variable {σ α β : Type} [WireSession σ] [StatementQueue σ] {s : SpanState σ}

/-- A call aside leaves the queue as it is, whatever it is answered. -/
theorem ends_bind_aside {call : Call} (hcall : call.isAside) {next : call.Answer → Span σ β}
    {Q : Except Fault β → SpanState σ → Prop} {session : σ} (hs : s.guarded.session = some session)
    (h : ∀ answer session', pending session' = pending session →
      Ends (next answer) (s.after session' [{ call, answer }]) Q) : Ends (ask call >>= next) s Q :=
  ends_bind_ok (exec_ask_some hs call) (h _ _ (pending_aside call session hcall))

/-- Once a span has been run, its messages are taken over, which leaves the queue as it is. -/
theorem run_of_ends_queued {span : Span σ α} {g : Guarded σ}
    {Q : Except Fault α → SpanState σ → Prop} (h : Ends span { guarded := g } Q) :
    ∃ t, Q (span.run g).result t ∧ (span.run g).completion = t.completion ∧
      (span.run g).guarded.queued = t.guarded.queued ∧
      (span.run g).guarded.capacity = t.guarded.capacity ∧
      t.exchanges <+: (span.run g).exchanges := by
  unfold Ends at h
  rcases hx : span.exec { guarded := g } with ⟨r, t⟩
  rw [hx] at h
  refine ⟨t, ?_⟩
  cases hs : t.guarded.session with
  | none =>
    rw [run_of_exec_none hx hs]
    exact ⟨h, rfl, rfl, rfl, List.prefix_rfl⟩
  | some session =>
    rw [run_of_exec_some hx hs, Guarded.queued_of_session hs]
    refine ⟨h, rfl, ?_, rfl, List.prefix_append _ _⟩
    show pending (relieved session) = pending session
    rw [relieved, pending_aside _ _ rfl, pending_aside _ _ rfl]

/-! ## Setting the connection up -/

/-- Unless the span fails, no more statements wait than may. -/
def Within (r : Except Fault α) (t : SpanState σ) : Prop :=
  ∀ x, r = .ok x → t.guarded.queued.length ≤ t.guarded.capacity

theorem within_error (f : Fault) (t : SpanState σ) : Within (.error f : Except Fault α) t :=
  fun _ h => nomatch h

theorem within_of_pending {r : Except Fault α} {t : SpanState σ} {session : σ}
    (hs : t.guarded.session = some session)
    (h : (pending session).length ≤ t.guarded.capacity) : Within r t := by
  intro x hx
  rwa [Guarded.queued_of_session hs]

theorem ends_stepHandshake_within {session : σ} (hs : s.guarded.session = some session)
    (h : pending session = []) : Ends stepHandshake s Within := by
  unfold stepHandshake
  refine ends_bind_aside rfl hs fun answer session₁ h₁ => ?_
  have hnil₁ : pending session₁ = [] := h₁.trans h
  cases answer with
  | reading | writing =>
    exact within_of_pending rfl (by rw [hnil₁]; exact Nat.zero_le _)
  | failed => exact ends_bind_aside rfl rfl fun text _ _ => within_error _ _
  | unknown code => exact within_error _ _
  | established =>
    refine ends_bind ?_
    unfold recordHandshake
    refine ends_bind_aside rfl rfl fun standard session₂ h₂ => ?_
    refine ends_bind_aside rfl rfl fun serverVersion session₃ h₃ => ?_
    refine ends_bind_aside rfl rfl fun protocolVersion session₄ h₄ => ?_
    have hnil : pending session₄ = [] := ((h₄.trans h₃).trans h₂).trans hnil₁
    refine ⟨fun _ _ => ?_, fun f _ => within_error f _⟩
    refine ends_bind_moveTo (within_of_pending rfl ?_)
    rw [hnil]
    exact Nat.zero_le _

theorem ends_afterFlush_within {q : SetupQuery} {submitted : Bool} {session : σ}
    (hs : s.guarded.session = some session) (h : (pending session).length ≤ 1)
    (hstatus : submitted = true ∨ s.guarded.status = .writing q) (outcome : FlushOutcome) :
    Ends (afterFlush q submitted outcome) s Within := by
  cases outcome with
  | done => exact ends_bind_moveTo (within_of_pending hs h)
  | pending =>
    unfold afterFlush
    cases submitted with
    | true => exact ends_bind_moveTo (within_of_pending hs h)
    | false =>
      refine ends_pure (within_of_pending hs ?_)
      rw [Guarded.capacity, hstatus.resolve_left Bool.false_ne_true]
      exact h

theorem ends_stepAsking_within {session : σ} (hs : s.guarded.session = some session)
    (h : pending session = []) (q : SetupQuery) : Ends (stepAsking q) s Within := by
  unfold stepAsking
  have hsent := pending_accepted q.statement session
  refine ends_bind_ok (exec_ask_some hs _) ?_
  generalize WireSession.respond (.send q.statement) session = answered at hsent ⊢
  obtain ⟨answer, session₁⟩ := answered
  refine ends_bind_sent (fun x hx => ?_) fun text _ => within_error _ _
  refine ends_bind_aside rfl rfl fun flushed session₂ h₂ => ?_
  refine ends_bind_sent (fun outcome _ => ?_) fun text _ => within_error _ _
  refine ends_afterFlush_within rfl ?_ (Or.inl rfl) outcome
  rw [h₂, hsent hx, h]
  exact Nat.le_refl 1

theorem ends_stepWriting_within {session : σ} (hs : s.guarded.session = some session)
    (h : (pending session).length ≤ 1) {q : SetupQuery} (hstatus : s.guarded.status = .writing q) :
    Ends (stepWriting q) s Within := by
  unfold stepWriting
  refine ends_bind_aside rfl hs fun answer session₁ h₁ => ?_
  refine ends_bind_sent (fun outcome _ => ?_) fun text _ => within_error _ _
  exact ends_afterFlush_within (s := s.after session₁ _) rfl (by rwa [h₁]) (Or.inr hstatus) outcome

/-- Once the answer to a question has been fetched, nothing waits any more. -/
theorem ends_stepAwaiting_within {session : σ} (hs : s.guarded.session = some session)
    (h : (pending session).length ≤ 1) {q : SetupQuery} (hstatus : s.guarded.status = .awaiting q)
    (level : Isolation) : Ends (stepAwaiting q level) s Within := by
  unfold stepAwaiting
  refine ends_bind_aside rfl hs fun answer session₁ h₁ => ?_
  refine ends_bind_sent (fun _ _ => ?_) fun text _ => within_error _ _
  refine ends_bind_aside rfl rfl fun busy session₂ h₂ => ?_
  -- The question is still in the queue, and it is taken out only if the session is not busy.
  have hone : (pending session₂).length ≤ 1 := by rwa [h₂, h₁]
  cases busy with
  | true =>
    refine ends_pure (within_of_pending rfl ?_)
    have hcapacity : (s.guarded.on session₂).capacity = 1 := by
      simp only [Guarded.capacity, Guarded.on, hstatus]
    exact hcapacity ▸ hone
  | false =>
    refine ends_bind_ok (exec_askResults_some rfl) ?_
    have hnil : (pending (fetchAll session₂).2).length ≤ 0 := by
      rw [pending_fetchAll session₂ hone]
      exact Nat.le_refl 0
    generalize fetchAll session₂ = fetched at hnil ⊢
    refine ends_bind ((ends_noteAnswer q fetched.1.getLast?).mono ?_)
    rintro r t ⟨-, ⟨progress, rfl, -, ht⟩ | ⟨fault, rfl, -⟩⟩
    · refine ⟨fun _ _ => ?_, fun f _ => within_error f _⟩
      have hsession : t.guarded.session = some fetched.2 := by rw [ht]; rfl
      cases q with
      | dateStyle =>
        exact ends_bind_moveTo (within_of_pending hsession (Nat.le_trans hnil (Nat.zero_le _)))
      | clientEncoding =>
        refine ends_bind ((ends_completeSetup level).mono ?_)
        rintro r u ⟨-, ⟨info, rfl, -, hu⟩ | ⟨fault, rfl, -⟩⟩
        · refine ⟨fun _ _ => ?_, fun f _ => within_error f _⟩
          have hsession' : u.guarded.session = some fetched.2 := by rw [hu]; exact hsession
          exact ends_pure (within_of_pending hsession' (Nat.le_trans hnil (Nat.zero_le _)))
        · exact ⟨fun _ h => (nomatch h), fun f _ => within_error f _⟩
    · exact ⟨fun _ h => (nomatch h), fun f _ => within_error f _⟩

/-- A step of the setup that succeeds keeps to the capacity of the connection. -/
theorem ends_step_within {session : σ} (hs : s.guarded.session = some session)
    (hconnecting : s.guarded.status.isConnecting)
    (h : s.guarded.queued.length ≤ s.guarded.capacity) (level : Isolation) :
    Ends (step true level) s Within := by
  rw [Guarded.queued_of_session hs, Guarded.capacity] at h
  unfold step
  apply ends_bind_ok (exec_guarded s)
  cases hstatus : s.guarded.status with
  | setup =>
    rw [hstatus] at h
    exact ends_bind_moveTo (within_of_pending hs h)
  | handshake =>
    rw [hstatus] at h
    exact ends_stepHandshake_within hs (List.eq_nil_of_length_eq_zero (Nat.le_zero.1 h))
  | asking q =>
    rw [hstatus] at h
    exact ends_stepAsking_within hs (List.eq_nil_of_length_eq_zero (Nat.le_zero.1 h)) q
  | writing q =>
    rw [hstatus] at h
    exact ends_stepWriting_within hs h hstatus
  | awaiting q =>
    rw [hstatus] at h
    exact ends_stepAwaiting_within hs h hstatus level
  | ready | inBlock | closed =>
    rw [hstatus] at hconnecting
    exact nomatch hconnecting

/-- So does a poll, which closes the connection if the step fails. -/
theorem ends_poll_within {session : σ} (hs : s.guarded.session = some session)
    (hconnecting : s.guarded.status.isConnecting)
    (h : s.guarded.queued.length ≤ s.guarded.capacity) (level : Isolation) :
    Ends (poll true level) s fun _ t => t.guarded.queued.length ≤ t.guarded.capacity := by
  unfold poll
  apply ends_bind_ok (exec_guarded s)
  rw [hconnecting]
  refine ends_orTearDown ((ends_step_within hs hconnecting h level).mono fun r t ht => ⟨ht, ?_⟩)
  intro f _
  apply (ends_tearDown t).mono
  rintro r' u ⟨hr, -, stash, hu⟩
  refine ⟨hr, ?_⟩
  rw [hu, Guarded.queued_eq_nil rfl]
  exact Nat.zero_le _

/-! ## Statements in flight -/

theorem drained_of_pending {r : Except Fault Readiness} {t : SpanState σ} {session session' : σ}
    (hs : s.guarded.session = some session) (ht : t.guarded.session = some session')
    (hsame : pending session' = pending session) (hcapacity : t.guarded.capacity = s.guarded.capacity)
    (hnone : t.completion = none) : s.guarded.Drained r t.guarded t.completion := by
  rw [hnone]
  refine .kept r t.guarded ?_ hcapacity
  rw [Guarded.queued_of_session hs, Guarded.queued_of_session ht, hsame]

theorem ends_stepReady_drained {session : σ} (hs : s.guarded.session = some session)
    (hc : s.completion = none) :
    Ends stepReady s fun r t => s.guarded.Drained r t.guarded t.completion := by
  unfold stepReady
  apply ends_bind_ok (exec_guarded s)
  cases hflight : s.guarded.inFlight with
  | none =>
    refine ends_bind_aside rfl hs fun answer session₁ h₁ => ?_
    refine ends_bind_sent (fun _ _ => ?_) fun text _ => ?_
    · exact drained_of_pending hs rfl h₁ rfl hc
    · exact drained_of_pending hs rfl h₁ rfl hc
  | some flight =>
    dsimp only
    cases flight.phase with
    | writing =>
      dsimp only
      unfold stepFlight
      refine ends_bind_aside rfl hs fun answer session₁ h₁ => ?_
      rcases answer with text | _ | _
      · exact ends_of_exec (exec_abandon flight text _) (.abandoned flight.owner text _)
      · refine ends_bind_update (ends_pure (drained_of_pending hs rfl h₁ ?_ hc))
        simp only [Guarded.capacity, SpanState.guarded_after, Guarded.on, hflight, Option.isSome_some]
      · exact drained_of_pending hs rfl h₁ rfl hc
    | reading =>
      dsimp only
      unfold stepResults
      refine ends_bind_aside rfl hs fun answer session₁ h₁ => ?_
      rcases answer with text | _
      · exact ends_of_exec (exec_abandon flight text _) (.abandoned flight.owner text _)
      · refine ends_bind_aside rfl rfl fun busy session₂ h₂ => ?_
        have hsame : pending session₂ = s.guarded.queued := by
          rw [h₂, h₁, Guarded.queued_of_session hs]
        cases busy with
        | true => exact drained_of_pending hs rfl (h₂.trans h₁) rfl hc
        | false =>
          refine ends_bind_ok (exec_askResults_some rfl) ?_
          refine ends_bind_ok (exec_complete flight _ _) (ends_pure ?_)
          refine .collected flight.owner _ _ (fun result hresult => ?_) fun hone => ?_
          · rw [← hsame]
            exact produces_of_mem_fetchAll session₂ hresult
          · exact pending_fetchAll session₂ (by rwa [hsame])

theorem ends_poll_drained {session : σ} (hs : s.guarded.session = some session)
    (husable : s.guarded.status.isUsable) (hc : s.completion = none) (asynchronous : Bool)
    (level : Isolation) :
    Ends (poll asynchronous level) s fun r t => s.guarded.Drained r t.guarded t.completion :=
  Connection.ends_poll_of_isUsable husable (ends_stepReady_drained hs hc) asynchronous level

/-- What a submission does with the queue: a statement that is accepted waits behind all others. -/
inductive Enqueued (s : SpanState σ) (sql : String) (owner : QueryOwner) :
    Except Fault Unit → SpanState σ → Prop
  | accepted (session : σ) (t : SpanState σ) : s.guarded.session = some session →
      s.guarded.status.isUsable → s.guarded.inFlight = none →
      t.guarded.queued = s.guarded.queued ++ [statement session sql] → t.guarded.capacity = 1 →
      Enqueued s sql owner (.ok ()) t
  | refused (fault : Fault) (t : SpanState σ) : t.guarded.queued = s.guarded.queued →
      t.guarded.capacity = s.guarded.capacity → Enqueued s sql owner (.error fault) t
  | stranded (fault : Fault) (t : SpanState σ) : t.exchanges.any Exchange.acceptsStatement →
      Enqueued s sql owner (.error fault) t

theorem ends_submit_enqueued {session : σ} (hs : s.guarded.session = some session) (sql : String)
    (owner : QueryOwner) : Ends (submit sql owner) s (Enqueued s sql owner) := by
  unfold submit
  apply ends_bind_ok (exec_guarded s)
  by_cases husable : s.guarded.status.isUsable
  · rw [husable]
    apply ends_bind_ok (exec_guarded s)
    cases hflight : s.guarded.inFlight with
    | some flight => exact .refused _ s rfl rfl
    | none =>
      have haccepted := pending_accepted sql session
      have hrefused := pending_refused sql session
      refine ends_bind_ok (exec_ask_some hs _) ?_
      generalize WireSession.respond (.send sql) session = answered at haccepted hrefused ⊢
      obtain ⟨answer, session₁⟩ := answered
      refine ends_bind_sent (fun x hx => ?_) fun text htext => .refused _ _ ?_ rfl
      · refine ends_bind_aside rfl rfl fun flushed session₂ h₂ => ?_
        refine ends_bind_sent (fun outcome _ => ?_) fun text _ => .stranded _ _ ?_
        · have hqueued : pending session₂ = s.guarded.queued ++ [statement session sql] := by
            rw [h₂, haccepted hx, Guarded.queued_of_session hs]
          have hcapacity : ∀ flight : InFlight,
              Guarded.capacity { s.guarded.on session₂ with inFlight := some flight } = 1 :=
            fun flight => Guarded.capacity_of_isUsable husable
          cases outcome with
          | done | pending => exact .accepted session _ hs husable hflight hqueued (hcapacity _)
        · subst hx
          refine List.any_eq_true.2 ⟨{ call := .send sql, answer := .ok x }, ?_, rfl⟩
          exact List.mem_append_left _ (List.mem_append_right _ (List.mem_singleton.2 rfl))
      · show pending session₁ = s.guarded.queued
        rw [hrefused text htext, Guarded.queued_of_session hs]
  · rw [Bool.not_eq_true] at husable
    rw [husable]
    exact .refused _ s rfl rfl

end Span

/-! ## Operations of asynchronous connections -/

namespace Connection

open SessionLayer.Span

variable {σ : Type} [WireSession σ] [StatementQueue σ] {c : Connection σ}

/-- The queue is as before, or there is no session left. -/
def Unmoved (s t : SpanState σ) : Prop :=
  t.guarded.queued = s.guarded.queued ∧ t.guarded.capacity = s.guarded.capacity ∨
    t.guarded.queued = []

theorem ends_query_unmoved {s : SpanState σ} (hs : s.guarded.status ≠ .closed → s.guarded.session.isSome)
    {call : Call} (hcall : call.isAside) : Ends (query call) s fun _ => Unmoved s := by
  unfold query
  refine ends_bind_ensureOpen (fun _ => Or.inl ⟨rfl, rfl⟩) fun hopen => ?_
  obtain ⟨session, hsession⟩ := Option.isSome_iff_exists.1 (hs hopen)
  refine ends_of_exec (exec_ask_some hsession call) (Or.inl ⟨?_, rfl⟩)
  rw [Guarded.queued_of_session hsession]
  exact pending_aside call session hcall

/-- An operation that neither polls nor submits leaves the queue as it is, unless it closes the
connection. -/
theorem ends_span_unmoved (h : c.guarded.Consistent c.asynchronous) (ha : c.asynchronous = true)
    {op : Operation} (hpoll : op ≠ .poll) (hsubmit : ∀ sql owner, op ≠ .submit sql owner) :
    Ends (c.span op) { guarded := c.guarded } fun _ => Unmoved { guarded := c.guarded } := by
  have hs := h.session_iff.2
  have hblocking : ∀ {α : Type} {operation : String} {span : Span σ α},
      Ends (c.blocking operation span) { guarded := c.guarded }
        fun _ => Unmoved { guarded := c.guarded } := fun {_ _ _} =>
    c.ends_blocking (fun _ => Or.inl ⟨rfl, rfl⟩) (fun _ => Or.inl ⟨rfl, rfl⟩)
      fun _ hblocks => nomatch ha.symm.trans hblocks
  cases op with
  | poll => exact absurd rfl hpoll
  | submit sql owner => exact absurd rfl (hsubmit sql owner)
  | close =>
    refine ends_bind_ok (exec_guarded _) ?_
    split
    · apply (ends_tearDown _).mono
      rintro r t ⟨-, -, stash, ht⟩
      refine Or.inr ?_
      rw [ht]
      exact Guarded.queued_eq_nil rfl
    · exact Or.inl ⟨rfl, rfl⟩
  | reset | commit | rollback | setIsolation _ | setClientEncoding _ | execute _ | admitLargeObject =>
    exact hblocking
  | transactionStatus | parameterStatus _ | backendPid | socket => exact ends_query_unmoved hs rfl
  | isExecuting =>
    exact ends_bind_ensureOpen (fun _ => Or.inl ⟨rfl, rfl⟩) fun _ => Or.inl ⟨rfl, rfl⟩
  | admitCursor =>
    refine ends_bind_ensureOpen (fun _ => Or.inl ⟨rfl, rfl⟩) fun _ => ends_bind_ok (exec_guarded _) ?_
    split <;> exact Or.inl ⟨rfl, rfl⟩

end Connection

end SessionLayer
