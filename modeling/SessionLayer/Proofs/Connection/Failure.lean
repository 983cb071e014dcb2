import SessionLayer.Proofs.Connection.Diagram
import SessionLayer.Proofs.Connection.Performance
import SessionLayer.Proofs.Span.Halts

/-!
# Operations that fail

An operation stops at the first failure of its session, whatever the session answers. If it is setting
the session up at that time, the connection is closed. In no other way but by `close` does a connection
that is open become closed: an operation that fails for any other reason leaves it open. A poll that
fetches the results of a submitted statement is complete, and its outcome is made of what it fetched.
-/

set_option autoImplicit false

namespace SessionLayer

variable {σ : Type}

/-- Whether an operation goes on with the setup of the session, or runs it again. -/
def Connection.setsUp (c : Connection σ) : Operation → Bool
  | .poll => c.guarded.status.isConnecting
  | .reset => !c.asynchronous
  | _ => false

/-- A step of the setup that succeeds leaves the connection open. -/
theorem Guarded.SetupStep.ne_closed {g g' : Guarded σ} {level : Isolation} {readiness : Readiness}
    (h : g.SetupStep level (.ok readiness) g') (hopen : g.status ≠ .closed) : g'.status ≠ .closed := by
  cases h with
  | handshakeWaits | awaits => exact hopen
  | _ => exact Status.noConfusion

/-- The result that was fetched in an exchange. -/
def Exchange.fetched? : Exchange → Option QueryResult
  | { call := .getResult, answer := result } => result
  | _ => none

/-- The results that were fetched in some exchanges. -/
def fetched (xs : List Exchange) : List QueryResult :=
  xs.filterMap Exchange.fetched?

theorem fetched_append (xs ys : List Exchange) : fetched (xs ++ ys) = fetched xs ++ fetched ys :=
  List.filterMap_append ..

theorem fetched_fetchExchanges (results : List QueryResult) :
    fetched (Span.fetchExchanges results) = results := by
  induction results with
  | nil => rfl
  | cons result results ih => exact congrArg (result :: ·) ih

theorem fetched_of_quiet {xs : List Exchange} (h : ∀ x ∈ xs, x.call.isQuiet) : fetched xs = [] := by
  rw [fetched, List.filterMap_eq_nil_iff]
  rintro ⟨call, answer⟩ hx
  have hquiet := h _ hx
  cases call with
  | getResult => exact nomatch hquiet
  | _ => rfl

variable [WireSession σ]

namespace Connection

open SessionLayer.Span Guarded SpanState

variable {c : Connection σ} {s : SpanState σ}

/-! ## Failures of the session -/

/-- A step while the connection is being set up ends at the first failure. -/
theorem halting_step_connecting (hs : s.Going true) (hconnecting : s.guarded.status.isConnecting)
    (level : Isolation) : Ends (step true level) s (Halting true) := by
  unfold step
  apply ends_bind_ok (exec_guarded s)
  cases hstatus : s.guarded.status with
  | setup =>
    have hstarted : Halts true (do moveTo .handshake; return .needWrite : Span σ Readiness) :=
      .bind (.moveTo _) fun _ => .pure _
    exact hstarted s hs
  | handshake => exact Halts.stepHandshake s hs
  | asking q => exact Halts.stepAsking q s hs
  | writing q => exact Halts.stepWriting q s hs
  | awaiting q => exact Halts.stepAwaiting q level s hs
  | ready | inBlock | closed =>
    rw [hstatus] at hconnecting
    exact nomatch hconnecting

/-- Whatever is asked of an open connection, what it comes to agrees with the watch over the
exchanges. -/
theorem agrees_span (h : c.guarded.Consistent c.asynchronous) (hopen : c.guarded.status ≠ .closed)
    (op : Operation) :
    Ends (c.span op) { guarded := c.guarded } fun r t =>
      (t.watch (c.setsUp op)).Agrees (Fault.Expected (c.setsUp op)) r := by
  have hs : ∀ setup, ({ guarded := c.guarded } : SpanState σ).Going setup :=
    fun setup => ⟨h.session_iff.2 hopen, rfl⟩
  have halts : ∀ {α : Type} {setup : Bool} {span : Span σ α}, Halts setup span →
      Ends span { guarded := c.guarded } fun r t => (t.watch setup).Agrees (Fault.Expected setup) r :=
    fun hspan => (hspan _ (hs _)).mono fun _ _ ht => ht.watch
  have blocking : ∀ {α : Type} {name : String} {span : Span σ α}, Halts false span →
      Ends (c.blocking name span) { guarded := c.guarded } fun r t =>
        (t.watch false).Agrees (Fault.Expected false) r := by
    intro α name span hspan
    refine c.ends_blocking (fun hclosed => absurd hclosed hopen) (fun _ => ?_) fun _ _ => halts hspan
    rintro f ⟨⟩
    exact Fault.expected_false _
  have query : ∀ call : Call,
      (∀ answer, (Watch.going none).next false { call, answer } = .going none) →
        Ends (query call) { guarded := c.guarded } fun r t =>
          (t.watch false).Agrees (Fault.Expected false) r :=
    fun call hcall => ends_bind_ensureOpen (fun hclosed => absurd hclosed hopen) fun _ =>
      halts (.ask hcall)
  have admitted : Halts false (do
      if !(← Span.guarded).status.isUsable then throw .setupUnderway : Span σ Unit) := by
    refine .bind .guarded fun g => ?_
    split
    · exact .throw (Fault.expected_false _)
    · exact .pure _
  cases op with
  | poll =>
    by_cases hconnecting : c.guarded.status.isConnecting
    · have hsetsUp : c.setsUp .poll = true := hconnecting
      show Ends (poll c.asynchronous c.setupIsolation) _ _
      unfold poll
      rw [hsetsUp, h.asynchronous_of_isConnecting hconnecting]
      apply ends_bind_ok (exec_guarded _)
      rw [hconnecting]
      exact Halts.orTearDown (halting_step_connecting (hs true) hconnecting _)
    · have husable := (Status.isConnecting_or_isUsable hopen).resolve_left hconnecting
      have hsetsUp : c.setsUp .poll = false := Bool.eq_false_iff.2 hconnecting
      rw [hsetsUp]
      exact ends_poll_of_isUsable husable (halts .stepReady) _ _
  | close =>
    show Ends (Span.guarded >>= fun g => if !g.isClosed then tearDown else pure ()) _ _
    apply ends_bind_ok (exec_guarded _)
    split
    · obtain ⟨session, hsession⟩ := Option.isSome_iff_exists.1 (h.session_iff.2 hopen)
      refine ends_of_exec (Runs.tearDown hsession _ rfl) ?_
      refine Watch.Agrees.of_quiet (Watch.Agrees.ok_iff.2 rfl) fun x hx => ?_
      exact Halts.isQuiet_of_farewell hx
    · exact ends_pure (Watch.Agrees.ok_iff.2 rfl)
  | reset =>
    refine c.ends_blocking (fun hclosed => absurd hclosed hopen) (fun ha => ?_) fun _ ha => ?_
    · have hsetsUp : c.setsUp .reset = false := by rw [setsUp, ha]; rfl
      rw [hsetsUp]
      rintro f ⟨⟩
      exact Fault.expected_false _
    · have hsetsUp : c.setsUp .reset = true := by rw [setsUp, ha]; rfl
      rw [hsetsUp]
      exact Halts.orTearDown (Halts.resetSetup _ _ (hs true))
  | commit | rollback => exact blocking (.endBlock _)
  | setIsolation level => exact blocking (.setIsolation level)
  | setClientEncoding name => exact blocking (.setClientEncoding name)
  | execute sql => exact blocking (.execute sql)
  | submit sql owner =>
    refine ends_bind_ensureOpen (fun hclosed => absurd hclosed hopen) fun _ => ?_
    cases c.asynchronous with
    | true => exact halts (.submit sql owner)
    | false => exact halts (.throw (Fault.expected_false _))
  | transactionStatus | parameterStatus _ | backendPid | socket => exact query _ fun _ => rfl
  | isExecuting =>
    refine ends_bind_ensureOpen (fun hclosed => absurd hclosed hopen) fun _ => ?_
    exact halts (.bind .guarded fun _ => .pure _)
  | admitCursor =>
    exact ends_bind_ensureOpen (fun hclosed => absurd hclosed hopen) fun _ => halts admitted
  | admitLargeObject => exact blocking admitted

theorem agrees_perform (h : c.guarded.Consistent c.asynchronous) (hopen : c.guarded.status ≠ .closed)
    (op : Operation) :
    ((Watch.going none).along (c.setsUp op) (c.perform op).exchanges).Agrees
      (Fault.Expected (c.setsUp op)) (c.perform op).result :=
  agrees_run (agrees_span h hopen op)

/-- Where the session is not being set up, the connection may be closed, too. -/
theorem agrees_perform_of_settled (h : c.guarded.Settled c.asynchronous) {op : Operation}
    (hsetsUp : c.setsUp op = false) :
    ((Watch.going none).along false (c.perform op).exchanges).Agrees (Fault.Expected false)
      (c.perform op).result := by
  by_cases hclosed : c.guarded.status = .closed
  · have hsession : c.guarded.session = none := by
      rw [← Option.not_isSome_iff_eq_none, h.1.session_iff]
      exact not_not_intro hclosed
    rw [((c.accounted_perform op).silent hsession).1]
    exact fun fault _ => fault.expected_false
  · exact hsetsUp ▸ agrees_perform h.1 hclosed op

/-- The class of the fault with which an operation fails that sets the session up. -/
structure SetupClass (xs : List Exchange) (fault : Fault) : Prop where
  unknown : ∀ code, { call := .handshake, answer := .unknown code } ∈ xs →
    fault = .handshakeUnknown code ∧ fault.cls = .unexpectedState
  other : (∀ code, { call := .handshake, answer := .unknown code } ∉ xs) → fault.cls = .operational

/-- Only an unknown answer of the handshake is no operational fault. -/
theorem setupClass_perform (h : c.guarded.Consistent c.asynchronous)
    (hopen : c.guarded.status ≠ .closed) {op : Operation} (hsetsUp : c.setsUp op = true) {fault : Fault}
    (hfault : (c.perform op).result = .error fault) :
    SetupClass (c.perform op).exchanges fault := by
  have hagrees := agrees_perform h hopen op
  rw [hsetsUp, hfault] at hagrees
  generalize (c.perform op).exchanges = xs at hagrees
  refine ⟨fun code hunknown => ?_, fun hother => ?_⟩
  · obtain ⟨before, after, rfl⟩ := List.append_of_mem hunknown
    have hfailure : Exchange.failure? true { call := .handshake, answer := .unknown code } =
        some (.handshakeUnknown code) := rfl
    obtain ⟨hresult, -⟩ := hagrees.of_failure hfailure
    cases hresult
    exact ⟨rfl, rfl⟩
  · cases hwatch : (Watch.going none).along true xs with
    | going last =>
      rw [hwatch] at hagrees
      cases last with
      | none => exact (hagrees fault rfl rfl).cls
      | some result => exact hagrees.elim
    | failed known =>
      rw [hwatch] at hagrees
      cases hagrees
      refine Watch.cls_of_along (w := .going none) nofun (fun x hx code hcode => ?_) hwatch
      exact hother code (hcode ▸ hx)
    | asking | astray =>
      rw [hwatch] at hagrees
      exact hagrees.elim

/-! ## Results of a submitted statement -/

/-- Results are fetched only where the statement in flight is completed with them. -/
def Fetches (s : SpanState σ) (r : Except Fault Readiness) (t : SpanState σ) : Prop :=
  fetched t.exchanges = [] ∨ ∃ flight, s.guarded.inFlight = some flight ∧ r = .ok .complete ∧
    t.completion = some { owner := flight.owner, outcome := collectOutcome (fetched t.exchanges) }

theorem ends_stepReady_fetches (hs : s.guarded.session.isSome) (hexchanges : s.exchanges = []) :
    Ends stepReady s (Fetches s) := by
  have hafter : ∀ (session : σ) (xs : List Exchange),
      fetched (s.after session xs).exchanges = fetched xs := by
    intro session xs
    rw [SpanState.exchanges_after, hexchanges, List.nil_append]
  have abandoned : ∀ (flight : InFlight) (text : String) {t : SpanState σ},
      fetched t.exchanges = [] → Ends (abandon flight text) t (Fetches s) :=
    fun flight text t ht => ends_of_exec (exec_abandon flight text t) (Or.inl ht)
  unfold stepReady
  apply ends_bind_ok (exec_guarded s)
  cases hflight : s.guarded.inFlight with
  | none =>
    apply ends_bind_ask hs
    intro answer session
    apply ends_bind_sent
    · exact fun _ _ => ends_pure (Or.inl (hafter session _))
    · exact fun text _ => Or.inl (hafter session _)
  | some flight =>
    dsimp only
    cases flight.phase with
    | writing =>
      dsimp only
      unfold stepFlight
      apply ends_bind_ask hs
      rintro (text | _ | _) session
      · exact abandoned flight text (hafter session _)
      · exact ends_bind_update (ends_pure (Or.inl (hafter session _)))
      · exact ends_pure (Or.inl (hafter session _))
    | reading =>
      dsimp only
      unfold stepResults
      apply ends_bind_ask hs
      rintro (text | _) session₁
      · exact abandoned flight text (hafter session₁ _)
      · apply ends_bind_ask rfl
        rintro (_ | _) session₂
        · apply ends_bind_askResults rfl
          intro results session₃
          apply ends_bind_ok (exec_complete flight _ _)
          refine ends_pure (Or.inr ⟨flight, hflight, rfl, ?_⟩)
          simp only [SpanState.exchanges_after, fetched_append, fetched_fetchExchanges, hexchanges]
          rfl
        · refine ends_pure (Or.inl ?_)
          simp only [SpanState.exchanges_after, fetched_append, hexchanges]
          rfl

/-- A poll of a usable connection that fetches results completes the statement in flight with them. -/
theorem fetched_perform_poll (h : c.guarded.Settled c.asynchronous)
    (husable : c.guarded.status.isUsable) :
    fetched (c.perform .poll).exchanges = [] ∨ ∃ flight, c.guarded.inFlight = some flight ∧
      (c.perform .poll).result = .ok .complete ∧ (c.perform .poll).completion = some
        { owner := flight.owner
          outcome := collectOutcome (fetched (c.perform .poll).exchanges) } := by
  have hs : c.guarded.session.isSome := h.1.session_iff.2 (Status.ne_closed_of_isUsable husable)
  have hends : Ends (c.span .poll) { guarded := c.guarded } (Fetches { guarded := c.guarded }) :=
    ends_poll_of_isUsable husable (ends_stepReady_fetches hs rfl) _ _
  unfold Ends at hends
  rcases hexec : exec (c.span .poll) { guarded := c.guarded } with ⟨r, t⟩
  rw [hexec] at hends
  obtain ⟨hresult, hcompletion, messages, hexchanges, hmessages⟩ := run_of_exec hexec
  have hquiet : fetched messages = [] := by
    refine fetched_of_quiet fun x hx => ?_
    rcases hmessages x hx with hcall | hcall <;> rw [hcall] <;> rfl
  have hfetched : fetched (c.perform .poll).exchanges = fetched t.exchanges := by
    show fetched (run (c.span .poll) c.guarded).exchanges = _
    rw [hexchanges, fetched_append, hquiet, List.append_nil]
  rw [hfetched]
  rcases hends with hnone | ⟨flight, hflight, rfl, ht⟩
  · exact Or.inl hnone
  · exact Or.inr ⟨flight, hflight, hresult, hcompletion.trans ht⟩

/-! ## Ways to be closed -/

/-- An operation that neither closes the connection nor sets its session up leaves it open. -/
theorem stays_span (h : c.guarded.Consistent c.asynchronous) (hopen : c.guarded.status ≠ .closed)
    {op : Operation} (hop : op ≠ .close) (hsetsUp : c.setsUp op = false) :
    Ends (c.span op) { guarded := c.guarded } fun _ t => t.guarded.status ≠ .closed := by
  have hs := h.session_iff.2 hopen
  have blocking : ∀ {α : Type} {name : String} {span : Span σ α},
      (Ends span { guarded := c.guarded } fun _ t => t.guarded.status ≠ .closed) →
      Ends (c.blocking name span) { guarded := c.guarded } fun _ t => t.guarded.status ≠ .closed :=
    fun hspan => c.ends_blocking (fun _ => hopen) (fun _ => hopen) fun _ _ => hspan
  have endBlock : ∀ statement, Ends (endBlock statement) { guarded := c.guarded } fun _ t =>
      t.guarded.status ≠ .closed := by
    intro statement
    apply (ends_endBlock hs statement).mono
    rintro r t ⟨-, session, ⟨ht, -⟩ | ⟨-, -, -, ht⟩⟩
    · rw [ht]
      exact hopen
    · rw [ht]
      exact Status.noConfusion
  have query : ∀ call : Call,
      Ends (query call) { guarded := c.guarded } fun _ t => t.guarded.status ≠ .closed := by
    intro call
    apply (ends_query (fun _ => hs) call).mono
    rintro r t ⟨-, ht | ⟨-, session, ht⟩⟩
    · rw [ht]
      exact hopen
    · rw [ht]
      exact hopen
  have admitted : Ends (do
      if !(← Span.guarded).status.isUsable then throw .setupUnderway : Span σ Unit)
      { guarded := c.guarded } fun _ t => t.guarded.status ≠ .closed := by
    apply ends_bind_ok (exec_guarded _)
    split <;> exact hopen
  cases op with
  | poll =>
    have husable := (Status.isConnecting_or_isUsable hopen).resolve_left (Bool.eq_false_iff.1 hsetsUp)
    apply ends_poll_of_isUsable husable
    apply (ends_stepReady hs rfl).mono
    intro r t hstep
    rw [status_of_readyStep hstep]
    exact hopen
  | close => exact absurd rfl hop
  | reset =>
    refine c.ends_blocking (fun _ => hopen) (fun _ => hopen) fun _ ha => ?_
    rw [setsUp, ha] at hsetsUp
    exact nomatch hsetsUp
  | commit | rollback => exact blocking (endBlock _)
  | setIsolation level =>
    apply blocking
    apply (ends_setIsolation hs level).mono
    rintro r t ⟨-, session, ⟨ht, -⟩ | ⟨-, target, -, -, ⟨ht, -⟩ | ⟨-, ht⟩⟩⟩
    · rw [ht]
      exact hopen
    · rw [ht]
      exact hopen
    · rw [ht]
      exact Status.noConfusion
  | setClientEncoding name =>
    apply blocking
    apply (ends_setClientEncoding hs name).mono
    rintro r t ⟨-, session, status, hstatus, ht⟩
    have hstatus : status ≠ .closed := by
      rcases hstatus with rfl | ⟨-, -, rfl⟩
      · exact hopen
      · exact Status.noConfusion
    rcases ht with ht | ⟨-, ht⟩
    · rw [ht]
      exact hstatus
    · rw [ht]
      exact hstatus
  | execute sql =>
    apply blocking
    apply (ends_execute hs sql).mono
    rintro r t ⟨-, session, ht | ⟨-, -, ht⟩⟩
    · rw [ht]
      exact hopen
    · rw [ht]
      exact Status.noConfusion
  | submit sql owner =>
    refine ends_bind_ensureOpen (fun _ => hopen) fun _ => ?_
    cases c.asynchronous with
    | false => exact ends_throw hopen
    | true =>
      apply (ends_submit hs sql owner).mono
      rintro r t ⟨-, session, ⟨-, ht⟩ | ⟨-, -, -, phase, ht⟩⟩
      · rw [ht]
        exact hopen
      · rw [ht]
        exact hopen
  | transactionStatus | parameterStatus _ | backendPid | socket => exact query _
  | isExecuting => exact ends_bind_ensureOpen (fun _ => hopen) fun _ => hopen
  | admitCursor => exact ends_bind_ensureOpen (fun _ => hopen) fun _ => admitted
  | admitLargeObject => exact blocking admitted

/-- Where an operation sets the session up, it fails if and only if it closes the connection. -/
theorem closed_span_setup (h : c.guarded.Consistent c.asynchronous)
    (hopen : c.guarded.status ≠ .closed) {op : Operation} (hsetsUp : c.setsUp op = true) :
    Ends (c.span op) { guarded := c.guarded } fun r t =>
      t.guarded.status = .closed ↔ ∃ fault, r = .error fault := by
  cases op with
  | poll =>
    have hconnecting : c.guarded.status.isConnecting = true := hsetsUp
    apply (ends_poll rfl (fun _ => h.session_iff.2 hopen) h.asynchronous_of_isConnecting).mono
    intro r t hstep
    generalize t.guarded = g at hstep
    generalize t.completion = completion at hstep
    cases hstep with
    | closed hclosed => exact absurd hclosed hopen
    | setup readiness _ _ hsetup => exact iff_of_false (hsetup.ne_closed hopen) nofun
    | setupFailed fault _ stash _ _ => exact iff_of_true rfl ⟨fault, rfl⟩
    | ready husable _ =>
      exact nomatch (Status.isUsable_of_isConnecting hconnecting).symm.trans husable
  | reset =>
    refine c.ends_blocking (fun hclosed => absurd hclosed hopen) (fun ha => ?_) fun _ _ => ?_
    · rw [setsUp, ha] at hsetsUp
      exact nomatch hsetsUp
    · apply (ends_reopen (h.session_iff.2 hopen) _).mono
      rintro r t ⟨-, ⟨x, rfl, hrun⟩ | ⟨fault, g, stash, rfl, -, ht⟩⟩
      · obtain ⟨info, session, ht⟩ := hrun.of_ok
        rw [ht]
        exact iff_of_false Status.noConfusion nofun
      · rw [ht]
        exact iff_of_true rfl ⟨fault, rfl⟩
  | _ => exact nomatch hsetsUp

/-- Why a connection that was open may be closed after an operation. -/
def ClosedBy (c : Connection σ) (op : Operation) (r : Except Fault op.Answer) : Prop :=
  op = .close ∨ (c.setsUp op = true ∧ ∃ fault, r = .error fault)

/-- An open connection is closed by `close`, and where its setup fails. -/
theorem closed_perform_iff (h : c.guarded.Consistent c.asynchronous)
    (hopen : c.guarded.status ≠ .closed) (op : Operation) :
    (c.perform op).guarded.status = .closed ↔ c.ClosedBy op (c.perform op).result := by
  by_cases hop : op = .close
  · subst hop
    have hclosed : Ends (c.span .close) { guarded := c.guarded } fun _ t =>
        t.guarded.status = .closed := by
      show Ends (Span.guarded >>= fun g => if !g.isClosed then tearDown else pure ()) _ _
      apply ends_bind_ok (exec_guarded _)
      rw [if_pos (by simpa [Guarded.isClosed] using hopen)]
      apply (ends_tearDown _).mono
      rintro r t ⟨-, -, stash, ht⟩
      rw [ht]
      rfl
    exact iff_of_true (status_run_of_ends (Q := fun _ status => status = .closed) hclosed) (Or.inl rfl)
  · cases hsetsUp : c.setsUp op with
    | true =>
      have hclosed := status_run_of_ends (Q := fun r status => status = .closed ↔ ∃ fault, r = .error fault)
        (closed_span_setup h hopen hsetsUp)
      refine hclosed.trans ⟨fun hfailed => Or.inr ⟨hsetsUp, hfailed⟩, ?_⟩
      rintro (hclose | ⟨-, hfailed⟩)
      · exact absurd hclose hop
      · exact hfailed
    | false =>
      have hstays := status_run_of_ends (Q := fun _ status => status ≠ .closed)
        (stays_span h hopen hop hsetsUp)
      refine iff_of_false hstays ?_
      rintro (hclose | ⟨hsetup, -⟩)
      · exact hop hclose
      · exact absurd (hsetsUp.symm.trans hsetup) Bool.false_ne_true

/-- The connection has been closed: it has no session any more, which was ended once and last, and
nothing is in flight. -/
structure TornDown {α : Type} (o : SpanOutcome σ α) : Prop where
  status : o.guarded.status = .closed
  session : o.guarded.session = none
  inFlight : o.guarded.inFlight = none
  finished : ∃ (xs : List Exchange) (last : σ), (∀ x ∈ xs, x.call ≠ .finish) ∧
    o.exchanges = xs ++ Runs.farewell last

/-- A connection with a session that is closed after an operation has been torn down by it. -/
theorem tornDown_of_closed (h : c.guarded.Settled c.asynchronous)
    (hopen : c.guarded.status ≠ .closed) {op : Operation}
    (hclosed : (c.perform op).guarded.status = .closed) : TornDown (c.perform op) := by
  have hafter := (settled_perform h op).1
  have hsession : (c.perform op).guarded.session = none := by
    rw [← Option.not_isSome_iff_eq_none, hafter.session_iff]
    exact not_not_intro hclosed
  obtain ⟨xs, last, hordinary, hexchanges⟩ :=
    (c.accounted_perform op).ended (h.1.session_iff.2 hopen) hsession
  refine ⟨hclosed, hsession, ?_, xs, last, fun x hx hfinish => ?_, hexchanges⟩
  · cases hflight : (c.perform op).guarded.inFlight with
    | none => rfl
    | some flight =>
      have hready := (hafter.inFlight (by rw [hflight]; rfl)).2
      exact nomatch hready.symm.trans hclosed
  · have hx := hordinary x hx
    rw [hfinish] at hx
    exact nomatch hx

end Connection

end SessionLayer
