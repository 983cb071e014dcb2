import SessionLayer.Proofs.Connection.Performance
import SessionLayer.Proofs.Span.Likeness

/-!
# Operations on sessions that are alike

The operations of blocking connections make no calls but those that a likeness of sessions is about. So an
operation on one of two blocking connections whose states match yields what it yields on the other one,
says the same to the session, and leaves states that match.
-/

set_option autoImplicit false

namespace SessionLayer

variable {σ : Type} [WireSession σ]

namespace Span.Likeness

variable {α : Type} {ℓ : Likeness σ} {s t : SpanState σ}

namespace Respects

/-! ## Statements -/

theorem command (sql : String) : ℓ.Respects (Span.command sql) := by
  refine bind (ask rfl rfl) fun answer => bind (sent answer) fun result => ?_
  cases result.rejection? with
  | none => exact pure _
  | some rejection => exact throw _

theorem beginIfNeeded : ℓ.Respects Span.beginIfNeeded := by
  refine bind_guarded (fun _ => rfl) fun g => ?_
  split
  · cases g.isolation.beginStatement with
    | none => exact pure _
    | some statement => exact bind (command statement) fun _ => moveTo _
  · exact pure _

theorem endBlock (statement : String) : ℓ.Respects (Span.endBlock statement) := by
  refine bind_guarded (fun _ => rfl) fun g => ?_
  split
  · exact bind (command statement) fun _ => moveTo _
  · exact pure _

theorem execute (sql : String) : ℓ.Respects (Span.execute sql) :=
  bind beginIfNeeded fun _ => command sql

theorem setIsolation (level : Int) : ℓ.Respects (Span.setIsolation level) := by
  refine bind (lift _) fun target => bind_guarded (fun _ => rfl) fun g => ?_
  have hset : ℓ.Respects (Span.update ({ · with isolation := target })) :=
    update (fun _ => rfl) fun _ => rfl
  dsimp only
  split
  · split
    · exact bind (endBlock _) fun _ => hset
    · exact hset
  · exact pure _

theorem setClientEncoding (name : String) : ℓ.Respects (Span.setClientEncoding name) := by
  refine bind_guarded (fun _ => rfl) fun g => ?_
  split
  · refine bind (endBlock _) fun _ => bind (command _) fun _ => ?_
    exact update (fun _ => rfl) fun _ => rfl
  · exact pure _

/-! ## The setup -/

theorem recordHandshake : ℓ.Respects Span.recordHandshake := by
  refine bind (ask rfl rfl) fun _ => bind (ask rfl rfl) fun _ => bind (ask rfl rfl) fun _ => ?_
  exact update (fun _ => rfl) fun _ => rfl

theorem askQuery (q : SetupQuery) : ℓ.Respects (Span.askQuery q) := by
  refine bind (ask rfl rfl) fun answer => bind (sent answer) fun result => ?_
  refine bind_guarded (fun _ => rfl) fun g => bind (lift _) fun progress => ?_
  exact update (fun _ => rfl) fun _ => rfl

theorem completeSetup (level : Isolation) : ℓ.Respects (Span.completeSetup level) := by
  refine bind_guarded (fun _ => rfl) fun g => bind (update (fun _ => rfl) fun _ => rfl) fun _ => ?_
  refine bind (lift _) fun info => bind (update (fun _ => rfl) fun _ => rfl) fun _ => ?_
  exact moveTo _

theorem runSetup (level : Isolation) : ℓ.Respects (Span.runSetup level) :=
  bind recordHandshake fun _ =>
    bind (bind (askQuery _) fun _ => bind (askQuery _) fun _ => pure _) fun _ => completeSetup level

theorem establish (level : Isolation) : ℓ.Respects (Span.establish level) :=
  orTearDown (runSetup level)

theorem reopen (level : Isolation) : ℓ.Respects (Span.reopen level) :=
  orTearDown (bind (ask rfl rfl) fun answer => bind (sent answer) fun _ => runSetup level)

/-! ## Operations -/

theorem query {call : Call} (hordinary : call.isOrdinary) (hqueues : call.queues = false) :
    ℓ.Respects (Connection.query call) :=
  bind ensureOpen fun _ => ask hordinary hqueues

theorem blocking {c : Connection σ} {name : String} {span : Span σ α} (h : ℓ.Respects span) :
    ℓ.Respects (c.blocking name span) := by
  refine bind ensureOpen fun _ => bind ?_ fun _ => h
  unfold Connection.ensureBlocking
  split
  · exact throw _
  · exact pure _

theorem admission : ℓ.Respects (do
    if !(← Span.guarded).status.isUsable then MonadExcept.throw .setupUnderway : Span σ Unit) := by
  refine bind_guarded (fun _ => rfl) fun g => ?_
  split
  · exact throw _
  · exact pure _

end Respects

/-- With nothing in flight, a poll only reads messages. -/
theorem joins_poll (h : ℓ.Pairs s t) (hs : s.guarded.Consistent false) (level : Isolation) :
    ℓ.Joins (poll false level) s t := by
  have hready : ℓ.Joins stepReady s t := by
    refine joins_bind_guarded h (fun _ => rfl) ?_
    rw [hs.inFlight_eq_none]
    exact Respects.bind (.ask rfl rfl) (fun answer => .bind (.sent _) fun _ => .pure _) s t h
  refine joins_bind_guarded h (fun _ => rfl) ?_
  refine joins_bind_guarded h (fun _ => rfl) ?_
  rcases hs.blocking_status rfl with hstatus | hstatus | hstatus
  · rw [hstatus]
    exact hready
  · rw [hstatus]
    exact hready
  · rw [hstatus]
    exact Respects.throw _ s t h

/-- An operation of a blocking connection. -/
theorem joins_span {c : Connection σ} (hc : c.asynchronous = false) (h : ℓ.Pairs s t)
    (hs : s.guarded.Consistent false) (op : Operation) : ℓ.Joins (c.span op) s t := by
  cases op with
  | poll =>
    unfold Connection.span
    rw [hc]
    exact joins_poll h hs _
  | close =>
    refine joins_bind_guarded h (fun _ => rfl) ?_
    split
    · exact Respects.tearDown s t h
    · exact Respects.pure _ s t h
  | reset => exact (Respects.reopen _).blocking s t h
  | commit | rollback => exact (Respects.endBlock _).blocking s t h
  | setIsolation level => exact (Respects.setIsolation level).blocking s t h
  | setClientEncoding name => exact (Respects.setClientEncoding name).blocking s t h
  | execute sql => exact (Respects.execute sql).blocking s t h
  | submit sql owner =>
    unfold Connection.span
    rw [hc]
    refine Respects.bind .ensureOpen (fun _ => ?_) s t h
    exact .throw_bind _ _
  | transactionStatus | parameterStatus _ | backendPid | socket => exact Respects.query rfl rfl s t h
  | isExecuting =>
    exact Respects.bind .ensureOpen (fun _ => .bind_guarded (fun _ => rfl) fun _ => .pure _) s t h
  | admitCursor => exact Respects.bind .ensureOpen (fun _ => .admission) s t h
  | admitLargeObject => exact Respects.admission.blocking s t h

end Span.Likeness

/-! ## Connections -/

/-- A blocking connection outside of its spans. -/
structure Connection.Serves (c : Connection σ) : Prop where
  blocking : c.asynchronous = false
  settled : c.guarded.Settled false

namespace Connection.Serves

variable {c : Connection σ}

theorem perform (h : c.Serves) (op : Operation) (mailbox : Mailbox Nat) :
    Connection.Serves { c with guarded := (c.perform op).guarded, mailbox } where
  blocking := h.blocking
  settled := by
    have hsettled := h.settled
    rw [← h.blocking] at hsettled ⊢
    exact settled_perform hsettled op

/-- Blocking connections have no statements in flight that an operation could complete. -/
theorem completion_eq_none (h : c.Serves) (op : Operation) : (c.perform op).completion = none := by
  cases hcompletion : (c.perform op).completion with
  | none => rfl
  | some completion =>
    have hsettled := h.settled
    have hflight := hsettled.1.inFlight_eq_none
    rw [← h.blocking] at hsettled
    have howner := owner?_of_completion hsettled hcompletion
    rw [Guarded.owner?, hflight] at howner
    cases howner

end Connection.Serves

namespace Span.Likeness

variable {ℓ : Likeness σ} {c c' : Connection σ}

/-- Blocking connections that are set up at the same level, and whose states match. -/
structure Twins (ℓ : Likeness σ) (c c' : Connection σ) : Prop where
  serves : c.Serves
  serves' : c'.Serves
  level : c.defaultIsolation = c'.defaultIsolation
  guarded : ℓ.Matches c.guarded c'.guarded

namespace Twins

/-- The span of an operation depends on the kind of the connection and on the level of the setup. -/
theorem span_eq (h : ℓ.Twins c c') (op : Operation) : c.span op = c'.span op := by
  have hkind : c.asynchronous = c'.asynchronous := h.serves.blocking.trans h.serves'.blocking.symm
  have hlevel : c.setupIsolation = c'.setupIsolation := by
    rw [Connection.setupIsolation, Connection.setupIsolation, hkind, h.level]
  cases op <;>
    simp only [Connection.span, Connection.blocking, Connection.ensureBlocking, hkind, hlevel]

/-- An operation on twins comes to the same. -/
theorem outcomes (h : ℓ.Twins c c') (op : Operation) :
    ℓ.Outcomes (c.perform op) (c'.perform op) := by
  have hpairs : ℓ.Pairs { guarded := c.guarded } { guarded := c'.guarded } := ⟨h.guarded, rfl, rfl⟩
  unfold Connection.perform
  rw [← h.span_eq op]
  exact (joins_span h.serves.blocking hpairs h.serves.settled.1 op).run

/-- After an operation twins are still twins. -/
theorem perform (h : ℓ.Twins c c') (op : Operation) (mailbox mailbox' : Mailbox Nat) :
    ℓ.Twins { c with guarded := (c.perform op).guarded, mailbox }
      { c' with guarded := (c'.perform op).guarded, mailbox := mailbox' } where
  serves := h.serves.perform op mailbox
  serves' := h.serves'.perform op mailbox'
  level := h.level
  guarded := (h.outcomes op).guarded

/-- What is in the mailboxes is of no account. -/
theorem posted (h : ℓ.Twins c c') (mailbox mailbox' : Mailbox Nat) :
    ℓ.Twins { c with mailbox } { c' with mailbox := mailbox' } where
  serves := ⟨h.serves.blocking, h.serves.settled⟩
  serves' := ⟨h.serves'.blocking, h.serves'.settled⟩
  level := h.level
  guarded := h.guarded

end Twins

end Span.Likeness

end SessionLayer
