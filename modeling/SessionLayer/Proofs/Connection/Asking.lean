import SessionLayer.Proofs.Connection.Executing
import SessionLayer.Proofs.Connection.Hollow
import SessionLayer.Proofs.Connection.Inquiry

/-!
# The inquiries of the operations

Each step of a poll of an asynchronous connection inquires as the statuses before and after it say,
whether or not it succeeds: a step that finds a question not written yet, or its answer not complete, goes
on with it and submits nothing. Of the other operations only a submission inquires anything, since those
that run statements are refused.
-/

set_option autoImplicit false

namespace SessionLayer

variable {σ : Type}

/-! ## Spans -/

namespace Span

variable [WireSession σ] {g : Guarded σ}

/-- To inquire nothing. -/
def quietly : Discipline σ where
  relates s t := inquiries t.exchanges = inquiries s.exchanges
  permits call := call.inquires = false
  refl := fun _ => rfl
  trans := fun h h' => h'.trans h
  asked := by
    intro s call hcall _ answer session
    have hquiet : inquiries [{ call, answer }] = [] := inquiries_eq_nil (by simpa using hcall)
    rw [SpanState.exchanges_after, inquiries_append, hquiet, List.append_nil]
  touched := fun _ _ => rfl
  tornDown := fun s => by
    rw [exec_tearDown, inquiries_append]
    cases s.guarded.session with
    | none => exact List.append_nil _
    | some session => exact List.append_nil _

/-- What a span ends in, and that it has inquired nothing. -/
theorem ends_quietly {α : Type} {span : Span σ α} {s : SpanState σ}
    {Q : Except Fault α → SpanState σ → Prop} (h : Ends span s Q) (hquiet : quietly.Governs span) :
    Ends span s fun r t => Q r t ∧ inquiries t.exchanges = inquiries s.exchanges :=
  ⟨h, hquiet s⟩

/-- Once the guard is released, the status is the one that the span has left, and nothing more was
inquired. -/
theorem inquiries_run_of_ends {α : Type} {span : Span σ α}
    {Q : Except Fault α → Status → List Exchange → Prop}
    (h : Ends span { guarded := g } fun r t => Q r t.guarded.status (inquiries t.exchanges)) :
    Q (span.run g).result (span.run g).guarded.status (inquiries (span.run g).exchanges) := by
  unfold Ends at h
  rcases hexec : exec span { guarded := g } with ⟨r, t⟩
  rw [hexec] at h
  obtain ⟨hresult, -, messages, hexchanges, hmessages⟩ := run_of_exec hexec
  have hstatus : (span.run g).guarded.status = t.guarded.status :=
    status_run_of_ends (Q := fun _ status => status = t.guarded.status)
      (ends_of_exec hexec rfl)
  have hquiet : inquiries messages = [] := by
    refine inquiries_eq_nil fun x hx => ?_
    rcases hmessages x hx with hcall | hcall <;> rw [hcall] <;> rfl
  rw [hresult, hstatus, hexchanges, inquiries_append, hquiet, List.append_nil]
  exact h

/-! ## Steps of the setup -/

/-- What a step of the setup inquires, whether or not it succeeds. -/
def Inquired (s : Status) (r : Except Fault Readiness) (t : SpanState σ) : Prop :=
  match r with
  | .ok _ => s.Asks t.guarded.status (inquiries t.exchanges)
  | .error _ => s.GivesUp (inquiries t.exchanges)

theorem inquired_stepHandshake (hs : g.session.isSome) (hstatus : g.status = .handshake) :
    Ends stepHandshake { guarded := g } (Inquired .handshake) := by
  have hwaits : Status.Asks .handshake g.status [] := .shookHands (Or.inl hstatus)
  have hfails : Status.GivesUp .handshake [] := .silent nofun
  unfold stepHandshake
  apply ends_bind_ask hs
  intro answer session
  cases answer with
  | reading | writing => exact hwaits
  | failed =>
    apply ends_bind_ask rfl
    intro text next
    exact hfails
  | unknown code => exact hfails
  | established =>
    apply ends_bind
    unfold recordHandshake
    apply ends_bind_ask rfl
    intro standard session₁
    apply ends_bind_ask rfl
    intro serverVersion session₂
    apply ends_bind_ask rfl
    intro protocolVersion session₃
    refine ⟨fun _ _ => ends_bind_moveTo (ends_pure ?_), fun _ h => nomatch h⟩
    exact Status.Asks.shookHands (Or.inr rfl)

omit [WireSession σ] in
/-- After an attempt to write a question its status is one of the two that come next. -/
theorem inquired_afterFlush {status : Status} {q : SetupQuery} {submitted : Bool} {t : SpanState σ}
    (hasks : ∀ s, s = .writing q ∨ s = .awaiting q → status.Asks s (inquiries t.exchanges))
    (hsubmitted : submitted = false → t.guarded.status = .writing q) (outcome : FlushOutcome) :
    Ends (afterFlush q submitted outcome) t (Inquired status) := by
  cases outcome with
  | done => exact ends_bind_moveTo (ends_pure (hasks _ (Or.inr rfl)))
  | pending =>
    unfold afterFlush
    cases submitted with
    | true => exact ends_bind_moveTo (ends_pure (hasks _ (Or.inl rfl)))
    | false => exact ends_pure (hasks _ (Or.inl (hsubmitted rfl)))

/-- To ask a question is the one step that submits it. -/
theorem inquired_stepAsking (hs : g.session.isSome) (q : SetupQuery) :
    Ends (stepAsking q) { guarded := g } (Inquired (.asking q)) := by
  unfold stepAsking
  apply ends_bind_ask hs
  intro sendAnswer session
  apply ends_bind_sent
  · rintro _ rfl
    apply ends_bind_ask rfl
    intro flushAnswer next
    apply ends_bind_sent
    · exact fun outcome _ => inquired_afterFlush (fun _ => .submitted q) Bool.noConfusion outcome
    · exact fun text _ => Status.GivesUp.refused q (.ok ())
  · exact fun text _ => Status.GivesUp.refused q sendAnswer

/-- To write more of a question submits nothing. -/
theorem inquired_stepWriting (hs : g.session.isSome) {q : SetupQuery}
    (hstatus : g.status = .writing q) :
    Ends (stepWriting q) { guarded := g } (Inquired (.writing q)) := by
  unfold stepWriting
  apply ends_bind_ask hs
  intro answer session
  apply ends_bind_sent
  · exact fun outcome _ => inquired_afterFlush (fun _ => .written q) (fun _ => hstatus) outcome
  · exact fun text _ => Status.GivesUp.silent nofun

/-- To read an answer fetches all of its results, if it fetches any. -/
theorem inquired_stepAwaiting (hs : g.session.isSome) {q : SetupQuery}
    (hstatus : g.status = .awaiting q) (level : Isolation) :
    Ends (stepAwaiting q level) { guarded := g } (Inquired (.awaiting q)) := by
  unfold stepAwaiting
  apply ends_bind_ask hs
  intro consumed session₁
  apply ends_bind_sent
  case failed => exact fun text _ => Status.GivesUp.silent nofun
  intro _ _
  apply ends_bind_ask rfl
  intro busy session₂
  cases busy with
  | true =>
    have hwaits : Status.Asks (.awaiting q) g.status [] := by
      rw [hstatus]
      exact .awaits q
    exact hwaits
  | false =>
    apply ends_bind_askResults rfl
    intro results session₃
    have hfetched : ∀ t : SpanState σ, inquiries t.exchanges = inquiries (Span.fetchExchanges results) →
        inquiries t.exchanges = Span.fetchExchanges results :=
      fun t ht => ht.trans (inquiries_fetchExchanges results)
    apply ends_bind
    apply (ends_quietly (ends_noteAnswer q results.getLast?) (.noteAnswer q _)).mono
    rintro r t ⟨⟨-, ⟨progress, rfl, hnote, -⟩ | ⟨fault, rfl, -⟩⟩, hquiet⟩
    · refine ⟨fun _ _ => ?_, fun _ h => nomatch h⟩
      cases q with
      | dateStyle =>
        refine ends_bind_moveTo (ends_pure ?_)
        show Status.Asks _ _ (inquiries t.exchanges)
        rw [hfetched t hquiet]
        exact .noted results (.of_note hnote)
      | clientEncoding =>
        apply ends_bind
        apply (ends_quietly (ends_completeSetup level) (.completeSetup level)).mono
        rintro r u ⟨⟨-, ⟨info, rfl, -, hu⟩ | ⟨fault, rfl, -⟩⟩, hquiet'⟩
        · refine ⟨fun _ _ => ends_pure ?_, fun _ h => nomatch h⟩
          show Status.Asks _ u.guarded.status (inquiries u.exchanges)
          rw [hfetched u (hquiet'.trans hquiet), hu]
          exact .completed results
        · refine ⟨fun _ h => (nomatch h), fun _ _ => ?_⟩
          show Status.GivesUp _ (inquiries u.exchanges)
          rw [hfetched u (hquiet'.trans hquiet)]
          exact .fetched _ results
    · refine ⟨fun _ h => (nomatch h), fun _ _ => ?_⟩
      show Status.GivesUp _ (inquiries t.exchanges)
      rw [hfetched t hquiet]
      exact .fetched q results

theorem inquired_step (hs : g.session.isSome) (hconnecting : g.status.isConnecting)
    (level : Isolation) :
    Ends (step true level) { guarded := g } (Inquired g.status) := by
  unfold step
  apply ends_bind_ok (exec_guarded _)
  cases hstatus : g.status with
  | setup => exact ends_bind_moveTo (ends_pure Status.Asks.started)
  | handshake => exact inquired_stepHandshake hs hstatus
  | asking q => exact inquired_stepAsking hs q
  | writing q => exact inquired_stepWriting hs hstatus
  | awaiting q => exact inquired_stepAwaiting hs hstatus level
  | ready | inBlock | closed =>
    rw [hstatus] at hconnecting
    exact nomatch hconnecting

/-! ## Other steps -/

/-- On a connection that is set up, a step fetches the results of the statement in flight at most. -/
theorem inquires_stepReady (hs : g.session.isSome) (husable : g.status.isUsable) :
    Ends stepReady { guarded := g } fun _ t =>
      Operation.Inquires .poll g.status t.guarded.status (inquiries t.exchanges) := by
  have hsilent : Operation.Inquires .poll g.status g.status [] := by
    refine .silent (fun _ => Bool.eq_false_iff.2 fun hconnecting => ?_) (Or.inl rfl)
    exact nomatch (Status.isUsable_of_isConnecting hconnecting).symm.trans husable
  unfold stepReady
  apply ends_bind_ok (exec_guarded _)
  cases hflight : g.inFlight with
  | none =>
    apply ends_bind_ask hs
    intro answer session
    apply ends_bind_sent
    · exact fun _ _ => ends_pure hsilent
    · exact fun _ _ => hsilent
  | some flight =>
    cases hphase : flight.phase with
    | writing =>
      simp only [hphase]
      unfold stepFlight
      apply ends_bind_ask hs
      intro answer session
      rcases answer with text | _ | _
      · exact ends_of_exec (exec_abandon flight text _) hsilent
      · exact ends_bind_update (ends_pure hsilent)
      · exact ends_pure hsilent
    | reading =>
      simp only [hphase]
      unfold stepResults
      apply ends_bind_ask hs
      intro answer session₁
      cases answer with
      | error text => exact ends_of_exec (exec_abandon flight text _) hsilent
      | ok _ =>
        apply ends_bind_ask rfl
        intro busy session₂
        cases busy with
        | true => exact ends_pure hsilent
        | false =>
          apply ends_bind_askResults rfl
          intro results session₃
          apply ends_bind_ok (exec_complete flight _ _)
          apply ends_pure
          show Operation.Inquires .poll g.status g.status (inquiries (Span.fetchExchanges results))
          rw [inquiries_fetchExchanges]
          exact .fetches results husable

/-- A statement of a caller is submitted once, if at all. -/
theorem inquires_submit (hs : g.session.isSome) (husable : g.status.isUsable)
    (hflight : g.inFlight = none) (sql : String) (owner : QueryOwner) :
    Ends (submit sql owner) { guarded := g } fun _ t =>
      (Operation.submit sql owner).Inquires g.status t.guarded.status (inquiries t.exchanges) := by
  unfold submit
  apply ends_bind_ok (exec_guarded _)
  rw [husable]
  apply ends_bind_ok (exec_guarded _)
  rw [hflight]
  apply ends_bind_ask hs
  intro sendAnswer session₁
  have hsubmits : (Operation.submit sql owner).Inquires g.status g.status
      [{ call := .send sql, answer := sendAnswer }] := .submits sql owner sendAnswer husable
  apply ends_bind_sent
  · intro _ _
    apply ends_bind_ask rfl
    intro flushAnswer session₂
    apply ends_bind_sent
    · intro outcome _
      cases outcome with
      | done => exact hsubmits
      | pending => exact hsubmits
    · exact fun _ _ => hsubmits
  · exact fun _ _ => hsubmits

end Span

namespace Connection

open SessionLayer.Span

variable [WireSession σ] {c : Connection σ} {op : Operation}

/-! ## The operations of an asynchronous connection -/

/-- An operation that answers at once inquires nothing. -/
theorem AtOnce.inquires {r : Except Fault op.Answer} (h : c.AtOnce op r)
    (hop : op = .poll → c.guarded.status.isConnecting = false) :
    op.Inquires c.guarded.status (c.perform op).guarded.status
      (inquiries (c.perform op).exchanges) := by
  have hquiet : inquiries (c.perform op).exchanges = [] := by
    rw [h.exchanges]
    refine inquiries_eq_nil fun x hx => ?_
    rcases Guarded.call_of_mem_relief hx with hcall | hcall <;> rw [hcall] <;> rfl
  rw [hquiet]
  exact .silent hop (Or.inl (congrArg Metadata.status h.metadata))

theorem inquires_poll (h : c.guarded.Settled c.asynchronous) (ha : c.asynchronous = true)
    (hopen : c.guarded.status ≠ .closed) :
    Operation.Inquires .poll c.guarded.status (c.perform .poll).guarded.status
      (inquiries (c.perform .poll).exchanges) := by
  have hs := h.1.session_iff.2 hopen
  apply inquiries_run_of_ends (Q := fun _ => Operation.Inquires .poll c.guarded.status)
  show Ends (poll c.asynchronous c.setupIsolation) _ _
  unfold poll
  rw [ha]
  apply ends_bind_ok (exec_guarded _)
  by_cases hconnecting : c.guarded.status.isConnecting
  · rw [hconnecting]
    apply ends_orTearDown
    apply (inquired_step hs hconnecting c.setupIsolation).mono
    rintro r t hstep
    refine ⟨fun readiness hr => ?_, fun fault hr => ?_⟩
    · subst hr
      exact .asks hstep
    · subst hr
      apply (ends_quietly (ends_tearDown t) .tearDown).mono
      rintro r u ⟨⟨rfl, -, stash, hu⟩, hquiet⟩
      refine ⟨rfl, ?_⟩
      rw [hquiet, hu]
      exact .givesUp hconnecting hstep
  · have husable := (Status.isConnecting_or_isUsable hopen).resolve_left hconnecting
    rw [Bool.eq_false_iff.2 hconnecting]
    unfold step
    apply ends_bind_ok (exec_guarded _)
    have hready := inquires_stepReady hs husable
    cases hstatus : c.guarded.status with
    | ready | inBlock =>
      rw [hstatus] at hready
      exact hready
    | _ =>
      rw [hstatus] at husable
      exact nomatch husable

/-- To close a connection inquires nothing. -/
theorem inquires_close :
    Operation.Inquires .close c.guarded.status (c.perform .close).guarded.status
      (inquiries (c.perform .close).exchanges) := by
  have hquiet : quietly.Governs (c.span .close) := by
    refine .bind .guarded fun g => ?_
    split
    · exact .tearDown
    · exact .pure _
  have hsilent : inquiries (c.perform .close).exchanges = [] :=
    inquiries_run_of_ends (Q := fun _ _ xs => xs = []) (hquiet { guarded := c.guarded })
  rw [hsilent, closed_close]
  exact .silent nofun (Or.inr rfl)

/-- To ask the session for what it knows anyway inquires nothing. -/
theorem inquiries_query (h : c.guarded.Settled c.asynchronous) {call : Call}
    (hcall : call.inquires = false) :
    Ends (query call) { guarded := c.guarded } fun _ t =>
      t.guarded.status = c.guarded.status ∧ inquiries t.exchanges = [] := by
  have hquiet : quietly.Governs (query call : Span σ call.Answer) :=
    .bind .ensureOpen fun _ => .ask hcall
  apply (ends_quietly (ends_query h.1.session_iff.2 call) hquiet).mono
  rintro r t ⟨⟨-, hguarded | ⟨-, session, hguarded⟩⟩, hsilent⟩
  · exact ⟨congrArg (·.status) hguarded, hsilent⟩
  · exact ⟨congrArg (·.status) hguarded, hsilent⟩

/-- Whatever an asynchronous connection is asked to do, its statuses tell the inquiries. -/
theorem inquires_perform (h : c.guarded.Settled c.asynchronous) (ha : c.asynchronous = true)
    (op : Operation) :
    op.Inquires c.guarded.status (c.perform op).guarded.status
      (inquiries (c.perform op).exchanges) := by
  by_cases hclose : op = .close
  · subst hclose
    exact inquires_close
  by_cases hclosed : c.guarded.status = .closed
  · refine (refuses_of_closed hclosed hclose).inquires fun _ => ?_
    rw [hclosed]
    rfl
  have hs := h.1.session_iff.2 hclosed
  have hblocking : ∀ {name : String}, op.blockingName? = some name → op ≠ .poll →
      op.Inquires c.guarded.status (c.perform op).guarded.status
        (inquiries (c.perform op).exchanges) := fun hname hpoll =>
    (refuses_of_asynchronous hclosed ha hname).inquires fun hop => absurd hop hpoll
  have hquery : ∀ {status : Status} {xs : List Exchange}, op ≠ .poll →
      status = c.guarded.status ∧ xs = [] → op.Inquires c.guarded.status status xs := by
    rintro status xs hpoll ⟨rfl, rfl⟩
    exact .silent (fun hop => absurd hop hpoll) (Or.inl rfl)
  cases op with
  | close => exact absurd rfl hclose
  | poll => exact inquires_poll h ha hclosed
  | reset | commit | rollback | setIsolation _ | setClientEncoding _ | execute _
  | admitLargeObject => exact hblocking rfl nofun
  | submit sql owner =>
    cases husable : c.guarded.status.isUsable with
    | false => exact (refuses_submit_of_connecting hclosed ha husable sql owner).inquires nofun
    | true =>
      cases hflight : c.guarded.inFlight with
      | some flight =>
        have hsome : c.guarded.inFlight.isSome := by rw [hflight]; rfl
        exact (refuses_submit_of_inFlight hclosed ha husable hsome sql owner).inquires nofun
      | none =>
        apply inquiries_run_of_ends
          (Q := fun _ => (Operation.submit sql owner).Inquires c.guarded.status)
        apply ends_bind_ensureOpen (fun hc => absurd hc hclosed)
        intro _
        rw [ha]
        exact inquires_submit hs husable hflight sql owner
  | transactionStatus | parameterStatus _ | backendPid | socket =>
    exact hquery nofun (inquiries_run_of_ends
      (Q := fun _ status xs => status = c.guarded.status ∧ xs = []) (inquiries_query h rfl))
  | isExecuting => exact (atOnce_isExecuting hclosed).inquires nofun
  | admitCursor => exact (atOnce_admitCursor hclosed _ rfl).inquires nofun

end Connection

end SessionLayer
