import SessionLayer.Proofs.Connection.Refusal
import SessionLayer.Proofs.Connection.Statements
import SessionLayer.Proofs.Span.Sure

/-!
# Safeguards that nothing sets off

`Connection.SafeguardsIdle` says of one state of a connection that no safeguard of its operations is set
off there: the session is missing only once the connection has been closed, a poll always has something
to go on with, the setup is completed with both answers noted, and a client encoding that is set is
recorded. It follows from the invariant of connections, each part of it from another one.
-/

set_option autoImplicit false

namespace SessionLayer

variable {σ : Type}

namespace Connection

/-- The questions of the setup that an operation may put, or whose answers it may read. -/
def mayPut (c : Connection σ) : Operation → SetupQuery → Prop
  | .poll, q => c.guarded.status = .awaiting q
  | .reset, _ => True
  | _, _ => False

variable [WireSession σ]

/-- Whatever is asked of a connection, no safeguard is set off. -/
structure SafeguardsIdle (c : Connection σ) : Prop where
  session : c.guarded.session.isSome ↔ c.guarded.status ≠ .closed
  warranted : c.guarded.status ≠ .closed → ∀ op fault, (c.perform op).result = .error fault →
    fault.Warranted (c.mayPut op) (c.perform op).exchanges
  closed : c.guarded.status = .closed → ∀ op, op ≠ .close → (c.perform op).result = .error .closed
  usable : c.guarded.status.isUsable → ∀ fault, (c.perform .poll).result = .error fault →
    ∃ text, fault = .transport text
  recorded : ∀ name, (c.perform (.setClientEncoding name)).result = .ok () →
    c.guarded.info.isSome ∧
      (c.perform (.setClientEncoding name)).guarded.info.map (·.encoding) =
        some (Encoding.normalize name)

open SessionLayer.Span

variable {c : Connection σ} {s : SpanState σ}

/-! ## Faults -/

/-- A step while the connection is being set up reads no answers but those of the question that it
awaits. -/
theorem warrants_step_connecting (hs : s.guarded.session.isSome) (hexchanges : s.exchanges = [])
    (hnoted : s.guarded.status = .awaiting .clientEncoding → s.guarded.progress.notes .dateStyle)
    (hconnecting : s.guarded.status.isConnecting) (level : Isolation) :
    Ends (step true level) s (Warrants fun q => s.guarded.status = .awaiting q) := by
  unfold step
  apply ends_bind_ok (exec_guarded s)
  cases hstatus : s.guarded.status with
  | setup =>
    have hstarted : Sure (do moveTo .handshake; return .needWrite : Span σ Readiness) :=
      .bind (.moveTo _) fun _ => .pure _
    exact hstarted.warrants hs
  | handshake => exact Sure.stepHandshake.warrants hs
  | asking q => exact (Sure.stepAsking q).warrants hs
  | writing q => exact (Sure.stepWriting q).warrants hs
  | awaiting q =>
    have hawaited : Ends (stepAwaiting q level) s
        (Warrants fun asked => Status.awaiting q = .awaiting asked) := by
      apply warrants_stepAwaiting hs hexchanges
      · rfl
      · rintro rfl
        exact hnoted hstatus
    exact hawaited
  | ready | inBlock | closed =>
    rw [hstatus] at hconnecting
    exact nomatch hconnecting

/-- Whatever is asked of an open connection, there is a reason for a fault. -/
theorem warranted_span (h : c.guarded.Consistent c.asynchronous) (hopen : c.guarded.status ≠ .closed)
    (op : Operation) :
    Ends (c.span op) { guarded := c.guarded } fun r t =>
      ∀ fault, r = .error fault → fault.Warranted (c.mayPut op) t.exchanges := by
  have hs : c.guarded.session.isSome := h.session_iff.2 hopen
  have sure : ∀ {α : Type} {span : Span σ α} {permitted : SetupQuery → Prop}, Sure span →
      Ends span { guarded := c.guarded } fun r t =>
        ∀ fault, r = .error fault → fault.Warranted permitted t.exchanges :=
    fun hspan => (hspan.warrants hs).mono fun _ _ ht => ht.warranted
  have blockingOnly : ∀ {α : Type} {permitted : SetupQuery → Prop} (name : String) (fault : Fault),
      (Except.error (.blockingOnly name) : Except Fault α) = .error fault →
        fault.Warranted permitted [] := by
    rintro α permitted name _ ⟨⟩
    exact Fault.warranted_of_isSafeguard rfl
  have blocking : ∀ {α : Type} {name : String} {span : Span σ α} {permitted : SetupQuery → Prop},
      Sure span → Ends (c.blocking name span) { guarded := c.guarded } fun r t =>
        ∀ fault, r = .error fault → fault.Warranted permitted t.exchanges :=
    fun hspan => c.ends_blocking (fun hclosed => absurd hclosed hopen) (fun _ => blockingOnly _)
      fun _ _ => sure hspan
  have admitted : Sure (do
      if !(← Span.guarded).status.isUsable then throw .setupUnderway : Span σ Unit) := by
    refine .bind .guarded fun g => ?_
    split
    · exact .throw rfl
    · exact .pure _
  cases op with
  | poll =>
    by_cases hconnecting : c.guarded.status.isConnecting
    · show Ends (poll c.asynchronous c.setupIsolation) _ _
      unfold poll
      rw [h.asynchronous_of_isConnecting hconnecting]
      apply ends_bind_ok (exec_guarded _)
      rw [hconnecting]
      have hnoted : c.guarded.status = .awaiting .clientEncoding →
          c.guarded.progress.notes .dateStyle :=
        fun hstatus => h.dateStyle_noted (Or.inr (Or.inr hstatus))
      exact warranted_orTearDown (warrants_step_connecting hs rfl hnoted hconnecting _)
    · have husable := (Status.isConnecting_or_isUsable hopen).resolve_left hconnecting
      exact ends_poll_of_isUsable husable (sure .stepReady) _ _
  | close =>
    show Ends (Span.guarded >>= fun g => if !g.isClosed then tearDown else pure ()) _ _
    apply ends_bind_ok (exec_guarded _)
    split
    · exact (ends_tearDown _).mono fun r t ht => ht.1 ▸ nofun
    · exact ends_pure nofun
  | reset =>
    refine c.ends_blocking (fun hclosed => absurd hclosed hopen) (fun _ => blockingOnly _) fun _ _ => ?_
    apply warranted_orTearDown
    apply ends_bind_ask hs
    intro answer session
    apply ends_bind_sent
    · exact fun _ _ => warrants_runSetup rfl _
    · rintro text -
      refine ⟨rfl, ?_⟩
      rintro _ ⟨⟩
      exact Fault.warranted_of_isSafeguard rfl
  | commit | rollback => exact blocking (.endBlock _)
  | setIsolation level => exact blocking (.setIsolation level)
  | setClientEncoding name => exact blocking (.setClientEncoding name)
  | execute sql => exact blocking (.execute sql)
  | submit sql owner =>
    refine ends_bind_ensureOpen (fun hclosed => absurd hclosed hopen) fun _ => ?_
    cases c.asynchronous with
    | true => exact sure (.submit sql owner)
    | false => exact sure (.throw rfl)
  | transactionStatus | parameterStatus _ | backendPid | socket =>
    exact ends_bind_ensureOpen (fun hclosed => absurd hclosed hopen) fun _ => sure (.ask _)
  | isExecuting =>
    refine ends_bind_ensureOpen (fun hclosed => absurd hclosed hopen) fun _ => ?_
    exact sure (.bind .guarded fun _ => .pure _)
  | admitCursor =>
    exact ends_bind_ensureOpen (fun hclosed => absurd hclosed hopen) fun _ => sure admitted
  | admitLargeObject => exact blocking admitted

/-- A poll of a usable connection fails only because of the transport. -/
theorem exists_transport_of_poll (hs : c.guarded.session.isSome) (husable : c.guarded.status.isUsable)
    {fault : Fault} (hfault : (c.perform .poll).result = .error fault) :
    ∃ text, fault = .transport text := by
  have hspan : Ends (c.span .poll) { guarded := c.guarded } fun r _ =>
      ∀ fault, r = .error fault → ∃ text, fault = .transport text := by
    apply ends_poll_of_isUsable husable
    apply (ends_stepReady hs rfl).mono
    rintro r t hstep fault rfl
    generalize t.guarded = g at hstep
    generalize t.completion = completion at hstep
    cases hstep with
    | idleFailed text | abandoned _ text => exact ⟨text, rfl⟩
  exact status_run_of_ends (Q := fun r _ => ∀ fault, r = .error fault → ∃ text, fault = .transport text)
    hspan fault hfault

/-! ## The client encoding -/

omit [WireSession σ] in
/-- The stages that end a block leave the information alone. -/
theorem info_advanced_leaving (g : Guarded σ) (statement : String) :
    (g.advanced (g.leaving statement)).info = g.info := by
  unfold Guarded.leaving
  split <;> rfl

/-- A client encoding that has been set is recorded, whether a statement was necessary or not. -/
theorem recorded_setClientEncoding (h : c.guarded.Settled c.asynchronous) {name : String}
    (hok : (c.perform (.setClientEncoding name)).result = .ok ()) :
    c.guarded.info.isSome ∧
      (c.perform (.setClientEncoding name)).guarded.info.map (·.encoding) =
        some (Encoding.normalize name) := by
  have hopen : c.guarded.status ≠ .closed := by
    intro hclosed
    rw [(refuses_of_closed hclosed Operation.noConfusion).result] at hok
    exact nomatch hok
  have ha : c.asynchronous = false := by
    cases ha : c.asynchronous with
    | false => rfl
    | true =>
      rw [(refuses_of_asynchronous hopen ha rfl).result] at hok
      exact nomatch hok
  have husable : c.guarded.status.isUsable := by
    rcases h.1.blocking_status ha with hs | hs | hs
    · rw [hs]; rfl
    · rw [hs]; rfl
    · exact absurd hs hopen
  have hinfo := h.1.usable_info husable
  refine ⟨hinfo, ?_⟩
  have hplan : (Operation.setClientEncoding name).plan c.guarded = some
      { stages :=
          if c.guarded.info.map (·.encoding) = some (Encoding.normalize name) then []
          else c.guarded.leaving Sql.rollback ++
            [{ statement := Sql.setClientEncoding (Encoding.normalize name)
               encoding := some (Encoding.normalize name) }] } :=
    rfl
  obtain ⟨xs, g', session, hcarried, -, hguarded⟩ := carried_perform h ha hopen hplan
  rw [hok] at hcarried
  rw [hguarded]
  cases hcarried with
  | accepted accepted x session' haccepted hstages hread =>
    show (c.guarded.concluded _).info.map (·.encoding) = _
    unfold Guarded.concluded
    dsimp only
    split
    next hsame => exact hsame
    next =>
      rw [Guarded.advanced_append]
      show ((c.guarded.advanced (c.guarded.leaving Sql.rollback)).info.map _).map _ = _
      rw [info_advanced_leaving]
      obtain ⟨info, hinfo⟩ := Option.isSome_iff_exists.1 hinfo
      rw [hinfo]
      rfl

/-- No safeguard of a settled connection is set off. -/
theorem safeguardsIdle (h : c.guarded.Settled c.asynchronous) : c.SafeguardsIdle where
  session := h.1.session_iff
  warranted := fun hopen op _ => warranted_run (warranted_span h.1 hopen op)
  closed := fun hclosed _ hop => (refuses_of_closed hclosed hop).result
  usable := fun husable _ =>
    exists_transport_of_poll (h.1.session_iff.2 (Status.ne_closed_of_isUsable husable)) husable
  recorded := fun _ => recorded_setClientEncoding h

end Connection

end SessionLayer
