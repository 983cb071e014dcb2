import SessionLayer.Proofs.Span.Runs

/-!
# Disciplines of spans

A `Span.Discipline` is a preorder on the states of a span that holds across the calls it permits, across
every change that the spans of a connection make to what is guarded, and across the end of a session. It
governs every span that makes no other calls. There is one rule for each way to build a span, so that a
property of this kind is shown for all operations of a connection by showing it for single calls and
changes.
-/

set_option autoImplicit false

namespace SessionLayer

namespace Call

/-- Whether a call neither takes messages over nor ends the session. -/
def isOrdinary : Call → Bool
  | .takeNotices | .takeNotifications | .finish => false
  | _ => true

/-- Whether a call may wait for the server. -/
def blocks : Call → Bool
  | .handshake | .exec _ | .reset => true
  | _ => false

end Call

variable {σ : Type}

/-- A change of what is guarded, as spans make it: the session and its messages are left alone, and a
client encoding is taken over from the notes of the setup, or written in upper case or in its normal
form. -/
structure Guarded.Touches (g g' : Guarded σ) : Prop where
  session : g'.session = g.session
  stash : g'.stash = g.stash
  progress : ∀ encoding, g'.progress.encoding = some encoding →
    g.progress.encoding = some encoding ∨ ∃ value, encoding = Encoding.upper value
  info : ∀ info, g'.info = some info → g.info = some info ∨
    g.progress.encoding = some info.encoding ∨ ∃ name, info.encoding = Encoding.normalize name

namespace Guarded

variable {g g' : Guarded σ}

/-- A change of anything else. -/
theorem Touches.of_eq (hsession : g'.session = g.session) (hstash : g'.stash = g.stash)
    (hprogress : g'.progress = g.progress) (hinfo : g'.info = g.info) : g.Touches g' where
  session := hsession
  stash := hstash
  progress := fun _ h => Or.inl (by rw [← hprogress, h])
  info := fun _ h => Or.inl (by rw [← hinfo, h])

end Guarded

namespace SetupQuery

/-- An answer that is noted leaves the noted encoding alone, or it is in upper case. -/
theorem encoding_of_note {q : SetupQuery} {answer : Option QueryResult}
    {progress noted : SetupProgress} (h : q.note answer progress = .ok noted) (encoding : String)
    (hencoding : noted.encoding = some encoding) :
    progress.encoding = some encoding ∨ ∃ value, encoding = Encoding.upper value := by
  unfold note at h
  cases hvalue : q.singleValue answer with
  | error f =>
    rw [hvalue] at h
    exact nomatch h
  | ok value =>
    rw [hvalue] at h
    cases q with
    | dateStyle =>
      cases hparse : DateStyle.parse value with
      | error f =>
        simp only [bind, Except.bind, hparse] at h
        exact nomatch h
      | ok dateStyle =>
        simp only [bind, Except.bind, hparse] at h
        cases h
        exact Or.inl hencoding
    | clientEncoding =>
      cases h
      exact Or.inr ⟨value, (Option.some.inj hencoding).symm⟩

end SetupQuery

/-- The encoding of the information is the one that was noted. -/
theorem SetupProgress.encoding_of_toInfo {progress : SetupProgress} {info : SessionInfo}
    (h : progress.toInfo = .ok info) : progress.encoding = some info.encoding := by
  unfold toInfo at h
  split at h
  · exact nomatch h
  · exact nomatch h
  · rename_i hencoding
    cases h
    exact hencoding

namespace Span

variable [WireSession σ]

/-- To end a session is to take its messages over and to close the connection; without a session the
connection is only closed. -/
theorem exec_tearDown (s : SpanState σ) :
    tearDown.exec s =
      (.ok (),
        { s with
          guarded := s.guarded.shut.stashing
            (s.guarded.session.elim s.guarded.stash fun session => s.guarded.stash ++ messages session)
          exchanges := s.exchanges ++ s.guarded.session.elim [] Runs.farewell }) := by
  cases hs : s.guarded.session with
  | none =>
    unfold tearDown
    rw [exec_bind_ok (exec_guarded s), hs]
    simp only [Option.isSome_none, Bool.false_eq_true, if_false, Option.elim_none, List.append_nil]
    rfl
  | some session => exact Runs.tearDown hs s rfl

/-- What may be said of the states before and after a span, given the calls that it makes. -/
structure Discipline (σ : Type) [WireSession σ] where
  relates : SpanState σ → SpanState σ → Prop
  permits : Call → Prop
  refl : ∀ s, relates s s
  trans : ∀ {s t u}, relates s t → relates t u → relates s u
  /-- A call that is permitted. -/
  asked : ∀ {s : SpanState σ} {call : Call}, permits call → s.guarded.session.isSome →
    ∀ answer session, relates s (s.after session [{ call, answer }])
  /-- A change of what is guarded, with an outcome or without one. -/
  touched : ∀ {s : SpanState σ} {g : Guarded σ}, s.guarded.Touches g →
    ∀ completion, relates s { s with guarded := g, completion }
  tornDown : ∀ s, relates s (tearDown.exec s).2

variable {α β : Type} {d : Discipline σ}

/-- The discipline holds across the span, whatever state it starts in. -/
def Discipline.Governs (d : Discipline σ) (span : Span σ α) : Prop :=
  ∀ s, d.relates s (span.exec s).2

namespace Discipline.Governs

/-! ## Ways to build a span -/

theorem pure (x : α) : d.Governs (Pure.pure x) :=
  fun s => d.refl s

theorem throw (f : Fault) : d.Governs (MonadExcept.throw f : Span σ α) :=
  fun s => d.refl s

theorem bind {span : Span σ α} {next : α → Span σ β} (h : d.Governs span)
    (hnext : ∀ x, d.Governs (next x)) : d.Governs (span >>= next) := by
  intro s
  have hspan := h s
  rw [exec_bind]
  generalize span.exec s = run at hspan
  obtain ⟨f | x, t⟩ := run
  · exact hspan
  · exact d.trans hspan (hnext x t)

/-- What holds across the rest of a span holds from where it goes on. -/
theorem relates_bind (span : Span σ α) {next : α → Span σ β} (hnext : ∀ x, d.Governs (next x))
    (s : SpanState σ) : d.relates (span.exec s).2 ((span >>= next).exec s).2 := by
  rw [exec_bind]
  obtain ⟨f | x, t⟩ := span.exec s
  · exact d.refl t
  · exact hnext x t

/-- What a span reads first is what is guarded then. -/
theorem bind_guarded {next : Guarded σ → Span σ β}
    (hnext : ∀ s : SpanState σ, d.relates s ((next s.guarded).exec s).2) :
    d.Governs (Span.guarded >>= next) := by
  intro s
  rw [exec_bind_ok (exec_guarded s)]
  exact hnext s

theorem guarded : d.Governs Span.guarded :=
  fun s => d.refl s

theorem tryCatch {span : Span σ α} {handler : Fault → Span σ α} (h : d.Governs span)
    (hhandler : ∀ f, d.Governs (handler f)) : d.Governs (tryCatchThe Fault span handler) := by
  intro s
  have hspan := h s
  show d.relates s ((MonadExcept.tryCatch span handler : Span σ α).exec s).2
  rw [exec_tryCatch]
  generalize span.exec s = run at hspan
  obtain ⟨f | x, t⟩ := run
  · exact d.trans hspan (hhandler f t)
  · exact hspan

theorem update {f : Guarded σ → Guarded σ} (hf : ∀ g, Guarded.Touches g (f g)) :
    d.Governs (Span.update f) :=
  fun s => d.touched (hf s.guarded) s.completion

theorem moveTo (status : Status) : d.Governs (Span.moveTo status) :=
  update fun _ => .of_eq rfl rfl rfl rfl

theorem complete (flight : InFlight) (outcome : Except Fault (List QueryResult)) :
    d.Governs (Span.complete flight outcome) :=
  fun s => d.touched (g := { s.guarded with inFlight := none }) (.of_eq rfl rfl rfl rfl) _

theorem sent (outcome : Except String α) : d.Governs (Span.sent outcome) := by
  cases outcome with
  | ok x => exact pure x
  | error text => exact throw _

theorem lift (x : Except Fault α) : d.Governs (liftM x) := by
  cases x with
  | ok y => exact pure y
  | error f => exact throw f

theorem ask {call : Call} (h : d.permits call) : d.Governs (Span.ask call) := by
  intro s
  cases hs : s.guarded.session with
  | none =>
    rw [exec_ask_none hs]
    exact d.refl s
  | some session =>
    rw [exec_ask_some hs]
    exact d.asked h (by simp [hs]) _ _

/-- The exchanges in which results are fetched are calls for single results. -/
theorem askResults (h : d.permits .getResult) : d.Governs Span.askResults := by
  have hfetched : ∀ (results : List QueryResult) (session : σ) (s : SpanState σ),
      s.guarded.session.isSome → d.relates s (s.after session (fetchExchanges results)) := by
    intro results session
    induction results with
    | nil => exact fun s hs => d.asked h hs none session
    | cons result results ih =>
      intro s hs
      have hone := d.asked h hs (some result) session
      have hrest := d.trans hone (ih (s.after session _) rfl)
      have hafter : s.after session (fetchExchanges (result :: results)) =
          (s.after session [{ call := .getResult, answer := some result }]).after session
            (fetchExchanges results) := by
        simp [SpanState.after, fetchExchanges, Guarded.on]
      rw [hafter]
      exact hrest
  intro s
  cases hs : s.guarded.session with
  | none =>
    rw [exec_askResults_none hs]
    exact d.refl s
  | some session =>
    rw [exec_askResults_some hs]
    exact hfetched _ _ s (by simp [hs])

theorem tearDown : d.Governs Span.tearDown :=
  d.tornDown

theorem orTearDown {span : Span σ α} (h : d.Governs span) : d.Governs (Span.orTearDown span) :=
  tryCatch h fun f => bind tearDown fun _ => throw f

theorem ensureOpen : d.Governs Span.ensureOpen := by
  refine bind guarded fun g => ?_
  split
  · exact throw _
  · exact pure _

/-- A check before something else. -/
theorem refuse {p : Prop} [Decidable p] {fault : Fault} {next : Unit → Span σ α}
    (h : d.Governs (next ())) :
    d.Governs (if p then MonadExcept.throw fault >>= next else next ()) := by
  split
  · exact bind (throw fault) fun _ => h
  · exact h

/-! ## Notes of the setup -/

theorem noteAnswer (q : SetupQuery) (answer : Option QueryResult) :
    d.Governs (Span.noteAnswer q answer) := by
  refine bind_guarded fun s => ?_
  cases hnote : q.note answer s.guarded.progress with
  | error f => exact d.refl s
  | ok noted =>
    show d.relates s { s with guarded := { s.guarded with progress := noted } }
    refine d.touched ?_ s.completion
    exact
      { session := rfl
        stash := rfl
        progress := SetupQuery.encoding_of_note hnote
        info := fun _ => Or.inl }

theorem completeSetup (level : Isolation) : d.Governs (Span.completeSetup level) := by
  refine bind_guarded fun s => ?_
  rw [exec_bind_ok (exec_update _ s)]
  cases hinfo : s.guarded.progress.toInfo with
  | error f =>
    show d.relates s { s with guarded := { s.guarded with progress := {} } }
    refine d.touched ?_ s.completion
    exact
      { session := rfl
        stash := rfl
        progress := fun _ h => nomatch h
        info := fun _ => Or.inl }
  | ok info =>
    show d.relates s { s with
      guarded :=
        { s.guarded with progress := {}, info := some info, isolation := level, status := .ready } }
    refine d.touched ?_ s.completion
    exact
      { session := rfl
        stash := rfl
        progress := fun _ h => nomatch h
        info := fun _ h => by
          cases h
          exact Or.inr (Or.inl (SetupProgress.encoding_of_toInfo hinfo)) }

/-- An encoding that was set is stored in its normal form. -/
theorem storeEncoding (name : String) : d.Governs (Span.update fun g : Guarded σ =>
    { g with info := g.info.map ({ · with encoding := Encoding.normalize name }) }) := by
  refine update fun g => ?_
  exact
    { session := rfl
      stash := rfl
      progress := fun _ => Or.inl
      info := fun info h => by
        obtain ⟨before, -, rfl⟩ := Option.map_eq_some_iff.1 h
        exact Or.inr (Or.inr ⟨name, rfl⟩) }

theorem afterFlush (q : SetupQuery) (submitted : Bool) (outcome : FlushOutcome) :
    d.Governs (Span.afterFlush q submitted outcome) := by
  cases outcome with
  | done => exact bind (moveTo _) fun _ => pure _
  | pending =>
    unfold Span.afterFlush
    cases submitted with
    | true => exact bind (moveTo _) fun _ => pure _
    | false => exact pure _

theorem abandon (flight : InFlight) (text : String) : d.Governs (Span.abandon flight text) :=
  bind (complete _ _) fun _ => throw _

/-! ## Without waiting for the server -/

section Prompt

variable (hprompt : ∀ call : Call, call.isOrdinary → call.blocks = false → d.permits call)
include hprompt

theorem stepAsking (q : SetupQuery) : d.Governs (Span.stepAsking q) := by
  refine bind (ask (hprompt _ rfl rfl)) fun answer => bind (sent answer) fun _ => ?_
  exact bind (ask (hprompt _ rfl rfl)) fun flushed => bind (sent flushed) (afterFlush q true)

theorem stepWriting (q : SetupQuery) : d.Governs (Span.stepWriting q) :=
  bind (ask (hprompt _ rfl rfl)) fun flushed => bind (sent flushed) (afterFlush q false)

theorem stepAwaiting (q : SetupQuery) (level : Isolation) :
    d.Governs (Span.stepAwaiting q level) := by
  refine bind (ask (hprompt _ rfl rfl)) fun consumed => bind (sent consumed) fun _ => ?_
  refine bind (ask (hprompt _ rfl rfl)) fun busy => ?_
  split
  · exact pure _
  · refine bind (askResults (hprompt _ rfl rfl)) fun results => bind (noteAnswer q _) fun _ => ?_
    cases q with
    | dateStyle => exact bind (moveTo _) fun _ => pure _
    | clientEncoding => exact bind (completeSetup level) fun _ => pure _

theorem stepFlight (flight : InFlight) : d.Governs (Span.stepFlight flight) := by
  refine bind (ask (hprompt _ rfl rfl)) fun answer => ?_
  cases answer with
  | error text => exact abandon flight text
  | ok outcome =>
    cases outcome with
    | pending => exact pure _
    | done => exact bind (update fun _ => .of_eq rfl rfl rfl rfl) fun _ => pure _

theorem stepResults (flight : InFlight) : d.Governs (Span.stepResults flight) := by
  refine bind (ask (hprompt _ rfl rfl)) fun answer => ?_
  cases answer with
  | error text => exact abandon flight text
  | ok _ =>
    refine bind (ask (hprompt _ rfl rfl)) fun busy => ?_
    split
    · exact pure _
    · exact bind (askResults (hprompt _ rfl rfl)) fun results =>
        bind (complete _ _) fun _ => pure _

theorem stepReady : d.Governs Span.stepReady := by
  refine bind guarded fun g => ?_
  cases g.inFlight with
  | none => exact bind (ask (hprompt _ rfl rfl)) fun answer => bind (sent answer) fun _ => pure _
  | some flight =>
    cases hphase : flight.phase with
    | writing =>
      simp only [hphase]
      exact stepFlight hprompt flight
    | reading =>
      simp only [hphase]
      exact stepResults hprompt flight

/-- A step of a poll, given what holds across a step of the handshake. -/
theorem relates_step {s : SpanState σ}
    (hhandshake : s.guarded.status = .handshake → d.relates s (Span.stepHandshake.exec s).2)
    (asynchronous : Bool) (level : Isolation) :
    d.relates s ((Span.step asynchronous level).exec s).2 := by
  unfold Span.step
  rw [exec_bind_ok (exec_guarded s)]
  cases hstatus : s.guarded.status with
  | closed => exact d.refl s
  | setup =>
    cases asynchronous with
    | true => exact (bind (moveTo _) fun _ => pure _ : d.Governs _) s
    | false => exact d.refl s
  | handshake => exact hhandshake hstatus
  | asking q => exact stepAsking hprompt q s
  | writing q => exact stepWriting hprompt q s
  | awaiting q => exact stepAwaiting hprompt q level s
  | ready | inBlock => exact stepReady hprompt s

theorem relates_poll {s : SpanState σ}
    (hhandshake : s.guarded.status = .handshake → d.relates s (Span.stepHandshake.exec s).2)
    (asynchronous : Bool) (level : Isolation) :
    d.relates s ((Span.poll asynchronous level).exec s).2 := by
  have hstep := relates_step hprompt hhandshake asynchronous level
  unfold Span.poll
  cases asynchronous with
  | false => exact hstep
  | true =>
    rw [exec_bind_ok (exec_guarded s), Bool.true_and]
    split
    · rw [exec_orTearDown]
      generalize (Span.step true level).exec s = run at hstep
      obtain ⟨f | x, t⟩ := run
      · exact d.trans hstep (d.tornDown t)
      · exact hstep
    · exact hstep

theorem submit (sql : String) (owner : QueryOwner) : d.Governs (Span.submit sql owner) := by
  refine bind guarded fun g => refuse (bind guarded fun g => refuse ?_)
  refine bind (ask (hprompt _ rfl rfl)) fun answer => bind (sent answer) fun _ => ?_
  refine bind (ask (hprompt _ rfl rfl)) fun flushed => bind (sent flushed) fun outcome => ?_
  exact update fun _ => .of_eq rfl rfl rfl rfl

end Prompt

/-! ## Waiting for the server -/

section Blocking

variable (hordinary : ∀ call : Call, call.isOrdinary → d.permits call)
include hordinary

theorem command (sql : String) : d.Governs (Span.command sql) := by
  refine bind (ask (hordinary _ rfl)) fun answer => bind (sent answer) fun result => ?_
  cases result.rejection? with
  | none => exact pure _
  | some rejection => exact throw _

theorem beginIfNeeded : d.Governs Span.beginIfNeeded := by
  refine bind guarded fun g => ?_
  split
  · cases g.isolation.beginStatement with
    | none => exact pure _
    | some statement => exact bind (command hordinary statement) fun _ => moveTo _
  · exact pure _

theorem endBlock (statement : String) : d.Governs (Span.endBlock statement) := by
  refine bind guarded fun g => ?_
  split
  · exact bind (command hordinary statement) fun _ => moveTo _
  · exact pure _

theorem setIsolation (level : Int) : d.Governs (Span.setIsolation level) := by
  refine bind (lift _) fun target => bind guarded fun g => ?_
  have hset : d.Governs (Span.update ({ · with isolation := target })) :=
    update fun _ => .of_eq rfl rfl rfl rfl
  dsimp only
  split
  · split
    · exact bind (endBlock hordinary _) fun _ => hset
    · exact hset
  · exact pure _

theorem setClientEncoding (name : String) : d.Governs (Span.setClientEncoding name) := by
  refine bind guarded fun g => ?_
  split
  · exact bind (endBlock hordinary _) fun _ => bind (command hordinary _) fun _ => storeEncoding name
  · exact pure _

theorem recordHandshake : d.Governs Span.recordHandshake := by
  refine bind (ask (hordinary _ rfl)) fun _ => bind (ask (hordinary _ rfl)) fun _ => ?_
  refine bind (ask (hordinary _ rfl)) fun _ => update fun g => ?_
  exact
    { session := rfl
      stash := rfl
      progress := fun _ h => nomatch h
      info := fun _ => Or.inl }

theorem askQuery (q : SetupQuery) : d.Governs (Span.askQuery q) := by
  refine bind (ask (hordinary _ rfl)) fun answer => bind (sent answer) fun result => ?_
  exact noteAnswer q _

theorem runSetup (level : Isolation) : d.Governs (Span.runSetup level) := by
  have hasked : ∀ qs : List SetupQuery, d.Governs (qs.forM Span.askQuery) := by
    intro qs
    induction qs with
    | nil => exact pure ()
    | cons q qs ih => exact bind (askQuery hordinary q) fun _ => ih
  exact bind (recordHandshake hordinary) fun _ => bind (hasked _) fun _ => completeSetup level

theorem establish (level : Isolation) : d.Governs (Span.establish level) :=
  orTearDown (runSetup hordinary level)

theorem reopen (level : Isolation) : d.Governs (Span.reopen level) := by
  refine orTearDown (bind (ask (hordinary _ rfl)) fun answer => bind (sent answer) fun _ => ?_)
  exact runSetup hordinary level

theorem stepHandshake : d.Governs Span.stepHandshake := by
  refine bind (ask (hordinary _ rfl)) fun answer => ?_
  cases answer with
  | reading => exact pure _
  | writing => exact pure _
  | failed => exact bind (ask (hordinary _ rfl)) fun _ => throw _
  | established => exact bind (recordHandshake hordinary) fun _ => bind (moveTo _) fun _ => pure _
  | unknown code => exact throw _

theorem poll (asynchronous : Bool) (level : Isolation) : d.Governs (Span.poll asynchronous level) :=
  fun s => relates_poll (fun call h _ => hordinary call h)
    (fun _ => stepHandshake hordinary s) asynchronous level

end Blocking

end Discipline.Governs

/-! ## The operations of a connection -/

namespace Discipline

theorem Governs.blocking {c : Connection σ} {name : String} {span : Span σ α} (h : d.Governs span) :
    d.Governs (c.blocking name span) := by
  refine .bind .ensureOpen fun _ => .bind ?_ fun _ => h
  unfold Connection.ensureBlocking
  split
  · exact .throw _
  · exact .pure _

theorem governs_admission : d.Governs (do
    if !(← Span.guarded).status.isUsable then throw .setupUnderway : Span σ Unit) := by
  refine .bind .guarded fun g => ?_
  split
  · exact .throw _
  · exact .pure _

/-- An operation that may not block keeps to every discipline that permits the ordinary calls that do not
wait for the server. -/
theorem relates_span_of_not_mayBlock
    (hprompt : ∀ call : Call, call.isOrdinary → call.blocks = false → d.permits call)
    {c : Connection σ} {op : Operation} (hop : c.mayBlock op = false) {s : SpanState σ}
    (hs : s.guarded.status = c.guarded.status) : d.relates s ((c.span op).exec s).2 := by
  have hquery : ∀ call : Call, call.isOrdinary → call.blocks = false →
      d.Governs (Connection.query call) :=
    fun call h h' => .bind .ensureOpen fun _ => .ask (hprompt call h h')
  cases op with
  | poll =>
    have hstatus : c.guarded.status ≠ .handshake := by simpa [Connection.mayBlock] using hop
    exact Governs.relates_poll hprompt (fun h => absurd (hs.symm.trans h) hstatus) _ _
  | submit sql owner =>
    have hsubmit : d.Governs (c.span (.submit sql owner)) :=
      .bind .ensureOpen fun _ => .refuse (.submit hprompt sql owner)
    exact hsubmit s
  | transactionStatus | parameterStatus _ | backendPid | socket => exact hquery _ rfl rfl s
  | isExecuting =>
    have hexecuting : d.Governs (c.span .isExecuting) :=
      .bind .ensureOpen fun _ => .bind .guarded fun _ => .pure _
    exact hexecuting s
  | admitCursor =>
    have hadmitted : d.Governs (c.span .admitCursor) := .bind .ensureOpen fun _ => governs_admission
    exact hadmitted s
  | admitLargeObject =>
    have hadmitted : d.Governs (c.span .admitLargeObject) := governs_admission.blocking
    exact hadmitted s
  | _ => exact nomatch hop

/-- A discipline that permits all ordinary calls governs every operation. -/
theorem governs_span (hordinary : ∀ call : Call, call.isOrdinary → d.permits call)
    (c : Connection σ) (op : Operation) : d.Governs (c.span op) := by
  intro s
  cases hop : ({ c with guarded := s.guarded } : Connection σ).mayBlock op with
  | false => exact relates_span_of_not_mayBlock (fun call h _ => hordinary call h) hop rfl
  | true =>
    cases op with
    | poll => exact Governs.poll hordinary _ _ s
    | close =>
      have hclose : d.Governs (c.span .close) := by
        refine .bind .guarded fun g => ?_
        split
        · exact .tearDown
        · exact .pure _
      exact hclose s
    | reset => exact (Governs.reopen hordinary _).blocking s
    | commit | rollback => exact (Governs.endBlock hordinary _).blocking s
    | setIsolation level => exact (Governs.setIsolation hordinary level).blocking s
    | setClientEncoding name => exact (Governs.setClientEncoding hordinary name).blocking s
    | execute sql =>
      have hexecute : d.Governs (Span.execute sql) :=
        .bind (.beginIfNeeded hordinary) fun _ => .command hordinary sql
      exact hexecute.blocking s
    | _ => exact nomatch hop

end Discipline

end Span

end SessionLayer
