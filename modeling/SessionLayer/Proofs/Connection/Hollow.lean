import SessionLayer.Proofs.Connection.Performance

/-!
# Connections without a session

A connection that never got a session never has a statement in flight, whatever is asked of it: the
first question to the session fails. And a connection that is closed stays closed.
-/

set_option autoImplicit false

namespace SessionLayer

variable {σ : Type}

namespace Span

/-- There is no session, nothing is in flight, and nothing was completed. -/
def Hollow (s : SpanState σ) : Prop :=
  s.guarded.session = none ∧ s.guarded.inFlight = none ∧ s.completion = none

variable {α β : Type} {s : SpanState σ}

theorem hollow_bind {span : Span σ α} {next : α → Span σ β} (h : Ends span s fun _ => Hollow)
    (hnext : ∀ x t, Hollow t → Ends (next x) t fun _ => Hollow) :
    Ends (span >>= next) s fun _ => Hollow := by
  apply ends_bind
  exact h.mono fun r t ht => ⟨fun x _ => hnext x t ht, fun _ _ => ht⟩

theorem hollow_throw (hs : Hollow s) (fault : Fault) :
    Ends (throw fault : Span σ α) s fun _ => Hollow :=
  ends_throw hs

variable [WireSession σ]

/-- A question to a session that is not there fails. -/
theorem hollow_bind_ask (hs : Hollow s) (call : Call) (next : call.Answer → Span σ β) :
    Ends (ask call >>= next) s fun _ => Hollow :=
  ends_of_exec (exec_bind_error (exec_ask_none hs.1 call)) hs

theorem hollow_tearDown (hs : Hollow s) : Ends tearDown s fun _ => Hollow := by
  apply (ends_tearDown s).mono
  rintro r t ⟨-, hc, stash, ht⟩
  rw [Hollow, ht, hc]
  exact ⟨rfl, rfl, hs.2.2⟩

theorem hollow_orTearDown {span : Span σ α} (h : Ends span s fun _ => Hollow) :
    Ends (orTearDown span) s fun _ => Hollow := by
  apply ends_orTearDown
  apply h.mono
  intro r t ht
  refine ⟨fun _ _ => ht, fun _ _ => ?_⟩
  apply (ends_tearDown t).mono
  rintro r u ⟨hr, hc, stash, hu⟩
  refine ⟨hr, ?_⟩
  rw [Hollow, hu, hc]
  exact ⟨rfl, rfl, ht.2.2⟩

theorem hollow_command (hs : Hollow s) (sql : String) : Ends (command sql) s fun _ => Hollow :=
  hollow_bind_ask hs _ _

theorem hollow_endBlock (hs : Hollow s) (statement : String) :
    Ends (endBlock statement) s fun _ => Hollow := by
  unfold endBlock
  apply ends_bind_ok (exec_guarded s)
  split
  · exact hollow_bind (hollow_command hs _) fun _ t ht => ends_of_exec (exec_update _ t) ht
  · exact ends_pure hs

theorem hollow_execute (hs : Hollow s) (sql : String) : Ends (execute sql) s fun _ => Hollow := by
  have hbegun : Ends beginIfNeeded s fun _ => Hollow := by
    unfold beginIfNeeded
    apply ends_bind_ok (exec_guarded s)
    split
    · split
      · exact ends_pure hs
      · exact hollow_bind (hollow_command hs _) fun _ t ht => ends_of_exec (exec_update _ t) ht
    · exact ends_pure hs
  exact hollow_bind hbegun fun _ t ht => hollow_command ht sql

theorem hollow_setIsolation (hs : Hollow s) (level : Int) :
    Ends (setIsolation level) s fun _ => Hollow := by
  unfold setIsolation
  cases Isolation.ofLevel level with
  | error fault => exact hollow_throw hs fault
  | ok target =>
    have hlevel : exec (liftM (Except.ok target : Except Fault Isolation) : Span σ Isolation) s =
        (.ok target, s) := rfl
    apply ends_bind_ok hlevel
    apply ends_bind_ok (exec_guarded s)
    dsimp only
    split
    · split
      · exact hollow_bind (hollow_endBlock hs _) fun _ t ht => ends_of_exec (exec_update _ t) ht
      · exact ends_of_exec (exec_update _ s) hs
    · exact ends_pure hs

theorem hollow_setClientEncoding (hs : Hollow s) (name : String) :
    Ends (setClientEncoding name) s fun _ => Hollow := by
  unfold setClientEncoding
  apply ends_bind_ok (exec_guarded s)
  split
  · exact hollow_bind (hollow_endBlock hs _) fun _ t ht => hollow_bind (hollow_command ht _)
      fun _ u hu => ends_of_exec (exec_update _ u) hu
  · exact ends_pure hs

theorem hollow_poll (hs : Hollow s) (asynchronous : Bool) (level : Isolation) :
    Ends (poll asynchronous level) s fun _ => Hollow := by
  have hstep : Ends (step asynchronous level) s fun _ => Hollow := by
    unfold step
    apply ends_bind_ok (exec_guarded s)
    cases s.guarded.status with
    | closed => exact hollow_throw hs _
    | setup =>
      cases asynchronous with
      | true => exact ends_bind_moveTo (ends_pure hs)
      | false => exact hollow_throw hs _
    | handshake => exact hollow_bind_ask hs _ _
    | asking q => exact hollow_bind_ask hs _ _
    | writing q => exact hollow_bind_ask hs _ _
    | awaiting q => exact hollow_bind_ask hs _ _
    | ready | inBlock =>
      show Ends stepReady s _
      unfold stepReady
      apply ends_bind_ok (exec_guarded s)
      rw [hs.2.1]
      exact hollow_bind_ask hs _ _
  unfold poll
  cases asynchronous with
  | false => exact hstep
  | true =>
    apply ends_bind_ok (exec_guarded s)
    split
    · exact hollow_orTearDown hstep
    · exact hstep

end Span

namespace Connection

open SessionLayer.Span

variable [WireSession σ] {s : SpanState σ}

/-- Whatever is asked of a connection without a session, nothing comes of it. -/
theorem hollow_span (c : Connection σ) (hs : Hollow s) (op : Operation) :
    Ends (c.span op) s fun _ => Hollow := by
  have hblocking : ∀ {α : Type} {name : String} {span : Span σ α}, Ends span s (fun _ => Hollow) →
      Ends (c.blocking name span) s fun _ => Hollow := fun h =>
    c.ends_blocking (fun _ => hs) (fun _ => hs) fun _ _ => h
  have hquery : ∀ call, Ends (query call) s fun _ => Hollow := fun call =>
    ends_bind_ensureOpen (fun _ => hs) fun _ => ends_of_exec (exec_ask_none hs.1 call) hs
  cases op with
  | poll => exact hollow_poll hs _ _
  | close =>
    show Ends (Span.guarded >>= fun g => if !g.isClosed then tearDown else pure ()) s _
    apply ends_bind_ok (exec_guarded s)
    split
    · exact hollow_tearDown hs
    · exact ends_pure hs
  | reset => exact hblocking (hollow_orTearDown (hollow_bind_ask hs _ _))
  | commit | rollback => exact hblocking (hollow_endBlock hs _)
  | setIsolation level => exact hblocking (hollow_setIsolation hs level)
  | setClientEncoding name => exact hblocking (hollow_setClientEncoding hs name)
  | execute sql => exact hblocking (hollow_execute hs sql)
  | submit sql owner =>
    refine ends_bind_ensureOpen (fun _ => hs) fun _ => ?_
    cases c.asynchronous with
    | false => exact hollow_throw hs _
    | true =>
      show Ends (submit sql owner) s _
      unfold submit
      apply ends_bind_ok (exec_guarded s)
      split
      · exact hollow_throw hs _
      · apply ends_bind_ok (exec_guarded s)
        rw [hs.2.1]
        exact hollow_bind_ask hs _ _
  | transactionStatus | parameterStatus _ | backendPid | socket => exact hquery _
  | isExecuting =>
    exact ends_bind_ensureOpen (fun _ => hs) fun _ => hs
  | admitCursor =>
    refine ends_bind_ensureOpen (fun _ => hs) fun _ => ?_
    apply ends_bind_ok (exec_guarded s)
    split <;> exact hs
  | admitLargeObject =>
    refine hblocking ?_
    apply ends_bind_ok (exec_guarded s)
    split <;> exact hs

/-- A statement cannot be submitted without a session. -/
theorem refused_submit (c : Connection σ) (hs : Hollow s) (sql : String) (owner : QueryOwner) :
    Ends (c.span (.submit sql owner)) s fun r _ => ∃ fault, r = .error fault := by
  refine ends_bind_ensureOpen (fun _ => ⟨_, rfl⟩) fun _ => ?_
  cases c.asynchronous with
  | false => exact ends_throw ⟨_, rfl⟩
  | true =>
    show Ends (submit sql owner) s _
    unfold submit
    apply ends_bind_ok (exec_guarded s)
    split
    · exact ends_throw ⟨_, rfl⟩
    · apply ends_bind_ok (exec_guarded s)
      rw [hs.2.1]
      exact ends_of_exec (exec_bind_error (exec_ask_none hs.1 _)) ⟨_, rfl⟩

theorem hollow_perform {c : Connection σ} (hsession : c.guarded.session = none)
    (hflight : c.guarded.inFlight = none) (op : Operation) :
    (c.perform op).guarded.session = none ∧ (c.perform op).guarded.inFlight = none ∧
      (c.perform op).completion = none := by
  have hs : Hollow { guarded := c.guarded } := ⟨hsession, hflight, rfl⟩
  obtain ⟨t, ht, hcompletion, hguarded | ⟨session, hsome, -⟩⟩ := run_of_ends (hollow_span c hs op)
  · have hguarded : (c.perform op).guarded = t.guarded.stashing .empty := hguarded
    rw [hguarded]
    exact ⟨ht.1, ht.2.1, hcompletion.trans ht.2.2⟩
  · rw [ht.1] at hsome
    exact nomatch hsome

/-- Nothing becomes of a statement in flight on a connection without a session: there is none. -/
theorem turnover_of_hollow {c : Connection σ} (hsession : c.guarded.session = none)
    (hflight : c.guarded.inFlight = none) (op : Operation) :
    c.guarded.Turnover (c.performance op).outcome.guarded (c.performance op).accepted?
      (c.performance op).ended? := by
  obtain ⟨-, hafter, hcompletion⟩ := hollow_perform hsession hflight op
  have hbefore : c.guarded.owner? = none := by rw [Guarded.owner?, hflight]; rfl
  have hended : (c.performance op).ended? = none := by
    show op.ended? c.guarded (c.perform op).completion = none
    rw [hcompletion, Operation.ended?, hbefore]
    split <;> rfl
  have haccepted : (c.performance op).accepted? = none := by
    cases op with
    | submit sql owner =>
      obtain ⟨t, ⟨fault, hfault⟩, -⟩ := run_of_ends
        (c.refused_submit (s := { guarded := c.guarded }) ⟨hsession, hflight, rfl⟩ sql owner)
      have hresult : (c.perform (.submit sql owner)).result = .error fault := hfault
      show Operation.accepted? (.submit sql owner) (c.perform (.submit sql owner)).result = none
      rw [hresult]
      rfl
    | _ => rfl
  rw [haccepted, hended]
  refine .kept ?_
  rw [hbefore]
  show Option.map _ (c.perform op).guarded.inFlight = none
  rw [hafter]
  rfl

/-! ## Closed connections -/

theorem closed_span (c : Connection σ) (hclosed : s.guarded.status = .closed) (op : Operation) :
    Ends (c.span op) s fun _ t => t.guarded.status = .closed := by
  have hopen : ∀ {P : Prop}, s.guarded.status ≠ .closed → P := fun h => absurd hclosed h
  cases op with
  | poll =>
    have hstep : ∀ asynchronous, Ends (step asynchronous c.setupIsolation) s fun _ t =>
        t.guarded.status = .closed := by
      intro asynchronous
      unfold step
      apply ends_bind_ok (exec_guarded s)
      rw [hclosed]
      exact ends_throw hclosed
    show Ends (poll c.asynchronous c.setupIsolation) s _
    unfold poll
    cases c.asynchronous with
    | false => exact hstep false
    | true =>
      apply ends_bind_ok (exec_guarded s)
      rw [hclosed]
      exact hstep true
  | close =>
    show Ends (Span.guarded >>= fun g => if !g.isClosed then tearDown else pure ()) s _
    apply ends_bind_ok (exec_guarded s)
    rw [Guarded.isClosed, hclosed]
    exact ends_pure hclosed
  | reset | commit | rollback | setIsolation _ | setClientEncoding _ | execute _ | admitLargeObject =>
    exact c.ends_blocking (fun _ => hclosed) (fun _ => hclosed) fun h _ => hopen h
  | submit _ _ | transactionStatus | parameterStatus _ | backendPid | socket | isExecuting
  | admitCursor =>
    exact ends_bind_ensureOpen (fun _ => hclosed) fun h => hopen h

/-- A connection that is closed stays closed. -/
theorem closed_perform {c : Connection σ} (hclosed : c.guarded.status = .closed) (op : Operation) :
    (c.perform op).guarded.status = .closed := by
  exact status_run_of_ends (Q := fun _ status => status = .closed)
    (closed_span c (s := { guarded := c.guarded }) hclosed op)

theorem closed_close (c : Connection σ) : (c.perform .close).guarded.status = .closed := by
  have hends : Ends (c.span .close) { guarded := c.guarded } fun _ t =>
      t.guarded.status = .closed := by
    show Ends (Span.guarded >>= fun g => if !g.isClosed then tearDown else pure ()) _ _
    apply ends_bind_ok (exec_guarded _)
    split
    · apply (ends_tearDown _).mono
      rintro r t ⟨-, -, stash, ht⟩
      rw [ht]
      rfl
    · rename_i hclosed
      exact ends_pure (by simpa [Guarded.isClosed] using hclosed)
  exact status_run_of_ends (Q := fun _ status => status = .closed) hends

end Connection

end SessionLayer
