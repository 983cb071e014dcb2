import SessionLayer.Proofs.Connection.Steps
import SessionLayer.Proofs.Wire.Watch

/-!
# Spans that halt at a failure

A span `Halts` if it ends at the first failure of its session, with the fault that the failure is; the
watch over its exchanges then agrees with its result. There is one rule for each way to build a span.
While a session is set up a span can only fail otherwise because an answer cannot be read.
-/

set_option autoImplicit false

namespace SessionLayer

/-- The answer to a question of the setup could not be read. -/
def Fault.IsUnreadable (f : Fault) : Prop :=
  (∃ parameter, f = .cannotFetch parameter) ∨ ∃ text, f = .unreadableDateStyle text

theorem Fault.IsUnreadable.cls {fault : Fault} (h : fault.IsUnreadable) : fault.cls = .operational := by
  rcases h with ⟨parameter, rfl⟩ | ⟨text, rfl⟩
  · rfl
  · rfl

/-- A fault that is no failure of the session, as it may occur in the setup and outside of it. -/
def Fault.Expected (setup : Bool) (f : Fault) : Prop :=
  setup = true → f.IsUnreadable

/-- Outside of the setup any fault may occur that is no failure of the session. -/
theorem Fault.expected_false (fault : Fault) : fault.Expected false :=
  fun h => nomatch h

namespace SetupQuery

variable {q : SetupQuery} {answer : Option QueryResult} {progress : SetupProgress} {fault : Fault}
  {e : ServerError}

/-- A rejected question is a fault of the setup. -/
theorem note_of_rejection (h : answer.bind (·.rejection?) = some e) :
    q.note answer progress = .error (.setupRejected e.message) := by
  obtain ⟨result, rfl, hresult⟩ := Option.bind_eq_some_iff.1 h
  have hvalue : q.singleValue (some result) = .error (.setupRejected e.message) := by
    rw [singleValue]
    simp only [hresult]
  rw [note, hvalue]
  rfl

/-- Another answer is noted, or it cannot be read. -/
theorem isUnreadable_of_note (h : answer.bind (·.rejection?) = none)
    (hnote : q.note answer progress = .error fault) : fault.IsUnreadable := by
  have hvalue : ∀ f, q.singleValue answer = .error f → f.IsUnreadable := by
    intro f hf
    unfold singleValue at hf
    split at hf
    · cases hf
      exact Or.inl ⟨_, rfl⟩
    · rename_i result
      have hnone : result.rejection? = none := h
      rw [hnone] at hf
      dsimp only at hf
      split at hf
      · split at hf
        · cases hf
        · cases hf
          exact Or.inl ⟨_, rfl⟩
      · cases hf
        exact Or.inl ⟨_, rfl⟩
  unfold note at hnote
  cases hread : q.singleValue answer with
  | error f =>
    rw [hread] at hnote
    cases hnote
    exact hvalue _ hread
  | ok value =>
    rw [hread] at hnote
    cases q with
    | clientEncoding => cases hnote
    | dateStyle =>
      cases hparse : DateStyle.parse value with
      | ok dateStyle =>
        simp only [bind, Except.bind, hparse] at hnote
        exact nomatch hnote
      | error f =>
        simp only [bind, Except.bind, hparse] at hnote
        cases hnote
        unfold DateStyle.parse at hparse
        split at hparse
        · cases hparse
          exact Or.inr ⟨_, rfl⟩
        · cases hparse

end SetupQuery

theorem SetupProgress.isUnreadable_of_toInfo {p : SetupProgress} {fault : Fault}
    (h : p.toInfo = .error fault) : fault.IsUnreadable := by
  unfold SetupProgress.toInfo at h
  split at h
  · cases h
    exact Or.inl ⟨_, rfl⟩
  · cases h
    exact Or.inl ⟨_, rfl⟩
  · cases h

variable {σ : Type}

namespace SpanState

/-- What is known of the exchanges so far. -/
def watch (setup : Bool) (s : SpanState σ) : Watch :=
  (Watch.going none).along setup s.exchanges

theorem watch_append {s t : SpanState σ} {xs : List Exchange} (setup : Bool)
    (h : t.exchanges = s.exchanges ++ xs) : t.watch setup = (s.watch setup).along setup xs := by
  rw [watch, h, Watch.along_append]
  rfl

/-- There is a session, and it has not failed. -/
structure Going (setup : Bool) (s : SpanState σ) : Prop where
  session : s.guarded.session.isSome
  watch : s.watch setup = .going none

/-- There is a session, and what is known agrees with a result. -/
structure Halting {α : Type} (setup : Bool) (r : Except Fault α) (t : SpanState σ) : Prop where
  session : t.guarded.session.isSome
  watch : (t.watch setup).Agrees (Fault.Expected setup) r

/-- Only the watch and the session count. -/
theorem Going.of_eq {setup : Bool} {s t : SpanState σ} (h : s.Going setup)
    (hsession : t.guarded.session = s.guarded.session) (hexchanges : t.exchanges = s.exchanges) :
    t.Going setup where
  session := hsession ▸ h.session
  watch := by rw [SpanState.watch, hexchanges]; exact h.watch

/-- A span that succeeds while the session has not failed. -/
theorem Going.halting_ok {α : Type} {setup : Bool} {t : SpanState σ} (h : t.Going setup) (x : α) :
    t.Halting setup (.ok x : Except Fault α) where
  session := h.session
  watch := Watch.Agrees.ok_iff.2 h.watch

/-- A span that fails while the session has not failed. -/
theorem Going.halting_error {α : Type} {setup : Bool} {t : SpanState σ} (h : t.Going setup)
    {fault : Fault} (hfault : fault.Expected setup) :
    t.Halting setup (.error fault : Except Fault α) where
  session := h.session
  watch := by
    rw [h.watch]
    rintro f ⟨⟩
    exact hfault

end SpanState

namespace Span

open SpanState

variable [WireSession σ] {α β : Type} {setup : Bool}

/-- The span ends at the first failure of the session, with its fault. -/
def Halts (setup : Bool) (span : Span σ α) : Prop :=
  ∀ s : SpanState σ, s.Going setup → Ends span s (Halting setup)

/-- The span says nothing to the session and ends with a fault. -/
def Gives (fault : Fault) (span : Span σ α) : Prop :=
  ∀ s : SpanState σ, Ends span s fun r t => r = .error fault ∧ t.exchanges = s.exchanges ∧
    t.guarded.session = s.guarded.session

omit [WireSession σ] in
theorem watch_after {s : SpanState σ} (h : s.Going setup) (session : σ) (xs : List Exchange) :
    (s.after session xs).watch setup = (Watch.going none).along setup xs := by
  rw [watch_append setup (s.exchanges_after session xs), h.watch]

namespace Halts

/-! ## Ways to build a span -/

omit [WireSession σ] in
theorem pure (x : α) : Halts setup (Pure.pure x : Span σ α) :=
  fun _ h => ends_pure (h.halting_ok x)

omit [WireSession σ] in
theorem throw {fault : Fault} (h : fault.Expected setup) :
    Halts setup (MonadExcept.throw fault : Span σ α) :=
  fun _ hs => ends_throw (hs.halting_error h)

omit [WireSession σ] in
theorem guarded : Halts setup (Span.guarded : Span σ (Guarded σ)) :=
  fun s h => ends_of_exec (exec_guarded s) (h.halting_ok _)

omit [WireSession σ] in
theorem bind {span : Span σ α} {next : α → Span σ β} (h : Halts setup span)
    (hnext : ∀ x, Halts setup (next x)) : Halts setup (span >>= next) := by
  intro s hs
  apply ends_bind
  apply (h s hs).mono
  rintro r t ht
  refine ⟨fun x hx => ?_, fun fault hfault => ?_⟩
  · subst hx
    exact hnext x t ⟨ht.session, Watch.Agrees.ok_iff.1 ht.watch⟩
  · subst hfault
    exact ⟨ht.session, ht.watch.of_error⟩

omit [WireSession σ] in
/-- A change that leaves the session alone. -/
theorem update {f : Guarded σ → Guarded σ} (hf : ∀ g, (f g).session = g.session) :
    Halts setup (Span.update f) :=
  fun s h =>
    have hafter : ({ s with guarded := f s.guarded } : SpanState σ).Going setup := h.of_eq (hf _) rfl
    ends_of_exec (exec_update f s) (hafter.halting_ok ())

omit [WireSession σ] in
theorem moveTo (status : Status) : Halts setup (Span.moveTo status : Span σ Unit) :=
  update fun _ => rfl

omit [WireSession σ] in
theorem complete (flight : InFlight) (outcome : Except Fault (List QueryResult)) :
    Halts setup (Span.complete flight outcome : Span σ Unit) := by
  intro s h
  refine ends_of_exec (exec_complete flight outcome s) (Going.halting_ok ?_ ())
  exact ⟨h.session, h.watch⟩

omit [WireSession σ] in
theorem lift {x : Except Fault α} (h : ∀ fault, x = .error fault → fault.Expected setup) :
    Halts setup (liftM x : Span σ α) := by
  cases x with
  | ok y => exact pure y
  | error fault => exact throw (h fault rfl)

/-- Goes on with the answer to a call. Where the answer is a failure, what follows must give its
fault. -/
theorem bind_ask {call : Call} {next : call.Answer → Span σ β}
    (h : ∀ answer : call.Answer,
      ((Watch.going none).next setup { call, answer } = .going none ∧ Halts setup (next answer)) ∨
        ∃ fault, (Watch.going none).next setup { call, answer } = .failed fault ∧
          Gives fault (next answer)) :
    Halts setup (Span.ask call >>= next) := by
  intro s hs
  apply ends_bind_ask hs.session
  intro answer session
  have hwatch := watch_after hs session [{ call, answer }]
  rcases h answer with ⟨hgoing, hnext⟩ | ⟨fault, hfailed, hgives⟩
  · exact hnext _ ⟨rfl, hwatch.trans hgoing⟩
  · apply (hgives _).mono
    rintro r t ⟨rfl, hexchanges, hsession⟩
    refine ⟨hsession ▸ rfl, ?_⟩
    rw [SpanState.watch, hexchanges]
    change ((s.after session _).watch setup).Agrees _ _
    rw [hwatch]
    change ((Watch.going none).next setup { call, answer }).Agrees _ _
    rw [hfailed]
    rfl

/-- A call that never fails. -/
theorem ask {call : Call}
    (h : ∀ answer, (Watch.going none).next setup { call, answer } = .going none) :
    Halts setup (Span.ask call : Span σ call.Answer) := by
  have hask : Halts setup (Span.ask call >>= Pure.pure : Span σ call.Answer) :=
    bind_ask fun answer => Or.inl ⟨h answer, pure answer⟩
  rwa [bind_pure] at hask

omit [WireSession σ] in
theorem gives_sent (text : String) (next : α → Span σ β) :
    Gives (.transport text) (Span.sent (.error text) >>= next) :=
  fun _ => ⟨rfl, rfl, rfl⟩

/-- A call that the transport may fail to make. -/
theorem bind_tried (call : Call) (read : call.Answer → Except String α) {next : α → Span σ β}
    (hok : ∀ answer x, read answer = .ok x →
      (Watch.going none).next setup { call, answer } = .going none)
    (herror : ∀ answer text, read answer = .error text →
      (Watch.going none).next setup { call, answer } = .failed (.transport text))
    (hnext : ∀ x, Halts setup (next x)) :
    Halts setup (Span.ask call >>= fun answer => Span.sent (read answer) >>= next) := by
  refine bind_ask fun answer => ?_
  cases hread : read answer with
  | ok x => exact Or.inl ⟨hok answer x hread, hnext x⟩
  | error text => exact Or.inr ⟨_, herror answer text hread, gives_sent text next⟩

theorem bind_send {sql : String} {next : Unit → Span σ β} (hnext : ∀ x, Halts setup (next x)) :
    Halts setup (Span.ask (.send sql) >>= fun answer => Span.sent answer >>= next) :=
  bind_tried (.send sql) id (by rintro _ _ rfl; rfl) (by rintro _ _ rfl; rfl) hnext

theorem bind_flush {next : FlushOutcome → Span σ β} (hnext : ∀ x, Halts setup (next x)) :
    Halts setup (Span.ask .flush >>= fun answer => Span.sent answer >>= next) :=
  bind_tried .flush id (by rintro _ _ rfl; rfl) (by rintro _ _ rfl; rfl) hnext

theorem bind_consume {next : Unit → Span σ β} (hnext : ∀ x, Halts setup (next x)) :
    Halts setup (Span.ask .consume >>= fun answer => Span.sent answer >>= next) :=
  bind_tried .consume id (by rintro _ _ rfl; rfl) (by rintro _ _ rfl; rfl) hnext

theorem bind_reset {next : Unit → Span σ β} (hnext : ∀ x, Halts setup (next x)) :
    Halts setup (Span.ask .reset >>= fun answer => Span.sent answer >>= next) :=
  bind_tried .reset id (by rintro _ _ rfl; rfl) (by rintro _ _ rfl; rfl) hnext

/-- What is fetched is no failure outside of the setup. -/
theorem askResults : Halts false (Span.askResults : Span σ (List QueryResult)) := by
  intro s hs
  obtain ⟨session, hsession⟩ := Option.isSome_iff_exists.1 hs.session
  refine ends_of_exec (exec_askResults_some hsession) ?_
  refine Going.halting_ok ⟨rfl, ?_⟩ _
  have hfetched := watch_after hs (fetchAll session).2 (fetchExchanges (fetchAll session).1)
  rw [Watch.along_fetchExchanges] at hfetched
  refine hfetched.trans ?_
  split
  · rfl
  · rfl

/-! ## Statements and the setup -/

/-- A statement outside of the setup. -/
theorem command (sql : String) : Halts false (Span.command sql : Span σ QueryResult) := by
  intro s hs
  obtain ⟨session, hsession⟩ := Option.isSome_iff_exists.1 hs.session
  refine ends_of_exec (exec_command hsession sql) ⟨rfl, ?_⟩
  rw [watch_after hs]
  cases (WireSession.respond (.exec sql) session).1 with
  | error text => exact rfl
  | ok result =>
    rw [verdict]
    have hfailure : ({ call := .exec sql, answer := .ok result } : Exchange).failure? false =
        result.rejection?.map (·.fault false) := rfl
    show (((({ call := .exec sql, answer := .ok result } : Exchange).failure? false).map
      Watch.failed).getD (.going none)).Agrees _ _
    rw [hfailure]
    cases result.rejection? with
    | none => exact Watch.Agrees.ok_iff.2 rfl
    | some e => exact rfl

theorem beginIfNeeded : Halts false (Span.beginIfNeeded : Span σ Unit) := by
  refine bind guarded fun g => ?_
  split
  · cases g.isolation.beginStatement with
    | none => exact pure _
    | some statement => exact bind (command statement) fun _ => moveTo _
  · exact pure _

theorem endBlock (statement : String) : Halts false (Span.endBlock statement : Span σ Unit) := by
  refine bind guarded fun g => ?_
  split
  · exact bind (command statement) fun _ => moveTo _
  · exact pure _

theorem execute (sql : String) : Halts false (Span.execute sql : Span σ QueryResult) :=
  bind beginIfNeeded fun _ => command sql

theorem setIsolation (level : Int) : Halts false (Span.setIsolation level : Span σ Unit) := by
  have hset : ∀ target : Isolation,
      Halts false (Span.update ({ · with isolation := target }) : Span σ Unit) :=
    fun target => update fun _ => rfl
  refine bind (lift fun fault _ => fault.expected_false) fun target => bind guarded fun g => ?_
  dsimp only
  split
  · split
    · exact bind (endBlock _) fun _ => hset target
    · exact hset target
  · exact pure _

theorem setClientEncoding (name : String) :
    Halts false (Span.setClientEncoding name : Span σ Unit) := by
  refine bind guarded fun g => ?_
  split
  · refine bind (endBlock _) fun _ => bind (command _) fun _ => ?_
    exact update fun _ => rfl
  · exact pure _

theorem recordHandshake : Halts setup (Span.recordHandshake : Span σ Unit) := by
  refine bind (ask fun _ => rfl) fun _ => bind (ask fun _ => rfl) fun _ => ?_
  exact bind (ask fun _ => rfl) fun _ => update fun _ => rfl

omit [WireSession σ] in
/-- An answer that is no rejection. -/
theorem noteAnswer {q : SetupQuery} {answer : Option QueryResult}
    (h : answer.bind (·.rejection?) = none) : Halts setup (Span.noteAnswer q answer : Span σ Unit) := by
  refine bind guarded fun g => bind (lift fun fault hfault _ => ?_) fun _ => update fun _ => rfl
  exact SetupQuery.isUnreadable_of_note h hfault

omit [WireSession σ] in
theorem gives_noteAnswer {q : SetupQuery} {answer : Option QueryResult} {e : ServerError}
    (h : answer.bind (·.rejection?) = some e) (next : Unit → Span σ α) :
    Gives (.setupRejected e.message) (Span.noteAnswer q answer >>= next) := by
  intro s
  have hexec : exec (Span.noteAnswer q answer) s = (.error (.setupRejected e.message), s) := by
    unfold Span.noteAnswer
    rw [exec_bind_ok (exec_guarded s), SetupQuery.note_of_rejection h]
    rfl
  exact ends_of_exec (exec_bind_error hexec) ⟨rfl, rfl, rfl⟩

omit [WireSession σ] in
theorem completeSetup (level : Isolation) :
    Halts setup (Span.completeSetup level : Span σ Unit) := by
  refine bind guarded fun g => bind (update fun _ => rfl) fun _ => ?_
  refine bind (lift fun fault hfault _ => ?_) fun info => ?_
  · exact SetupProgress.isUnreadable_of_toInfo hfault
  · exact bind (update fun _ => rfl) fun _ => moveTo _

/-- A question of the blocking setup. -/
theorem askQuery (q : SetupQuery) : Halts true (Span.askQuery q : Span σ Unit) := by
  refine bind_ask fun answer => ?_
  cases answer with
  | error text => exact Or.inr ⟨_, rfl, gives_sent text _⟩
  | ok result =>
    have hfailure : (Watch.going none).next true { call := .exec q.statement, answer := .ok result } =
        ((result.rejection?.map (·.fault true)).map Watch.failed).getD (.going none) := rfl
    rw [hfailure]
    cases hrejection : result.rejection? with
    | none => exact Or.inl ⟨rfl, noteAnswer hrejection⟩
    | some e =>
      have hanswer : (some result).bind (·.rejection?) = some e := hrejection
      have hgives := gives_noteAnswer (q := q) hanswer (Pure.pure : Unit → Span σ Unit)
      rw [bind_pure] at hgives
      exact Or.inr ⟨_, rfl, hgives⟩

theorem runSetup (level : Isolation) : Halts true (Span.runSetup level : Span σ Unit) := by
  have hasked : ∀ qs : List SetupQuery, Halts true (qs.forM Span.askQuery : Span σ Unit) := by
    intro qs
    induction qs with
    | nil => exact pure ()
    | cons q qs ih => exact bind (askQuery q) fun _ => ih
  exact bind recordHandshake fun _ => bind (hasked _) fun _ => completeSetup level

/-- What runs when a session is reopened. -/
theorem resetSetup (level : Isolation) :
    Halts true (do Span.sent (← Span.ask .reset); Span.runSetup level : Span σ Unit) :=
  bind_reset fun _ => runSetup level

/-! ## Polling -/

/-- A handshake that failed is asked for its text. -/
theorem stepHandshake : Halts true (Span.stepHandshake : Span σ Readiness) := by
  intro s hs
  apply ends_bind_ask hs.session
  intro answer session
  have hwatch := watch_after hs session [{ call := .handshake, answer }]
  cases answer with
  | reading | writing => exact ends_pure (Going.halting_ok ⟨rfl, hwatch⟩ _)
  | established =>
    have hrest : Halts true (do
        Span.recordHandshake
        Span.moveTo (.asking .dateStyle)
        return .needWrite : Span σ Readiness) :=
      bind recordHandshake fun _ => bind (moveTo _) fun _ => pure _
    exact hrest _ ⟨rfl, hwatch⟩
  | unknown code =>
    refine ends_throw ⟨rfl, ?_⟩
    rw [hwatch]
    rfl
  | failed =>
    apply ends_bind_ask rfl
    intro text next
    refine ends_throw ⟨rfl, ?_⟩
    rw [watch_append true (SpanState.exchanges_after ..), hwatch]
    rfl

omit [WireSession σ] in
theorem afterFlush (q : SetupQuery) (submitted : Bool) (outcome : FlushOutcome) :
    Halts setup (Span.afterFlush q submitted outcome : Span σ Readiness) := by
  cases outcome with
  | done => exact bind (moveTo _) fun _ => pure _
  | pending =>
    unfold Span.afterFlush
    cases submitted with
    | true => exact bind (moveTo _) fun _ => pure _
    | false => exact pure _

theorem stepAsking (q : SetupQuery) : Halts setup (Span.stepAsking q : Span σ Readiness) :=
  bind_send fun _ => bind_flush fun outcome => afterFlush q true outcome

theorem stepWriting (q : SetupQuery) : Halts setup (Span.stepWriting q : Span σ Readiness) :=
  bind_flush fun outcome => afterFlush q false outcome

/-- What follows the results of a question: the last one of them is noted, unless it is a rejection. -/
theorem bind_answers {q : SetupQuery} {next : List QueryResult → Unit → Span σ β}
    (hnext : ∀ results, Halts true (next results ())) :
    Halts true (Span.askResults >>= fun results =>
      Span.noteAnswer q results.getLast? >>= next results) := by
  intro s hs
  apply ends_bind_askResults hs.session
  intro results session
  have hwatch := watch_after hs session (fetchExchanges results)
  rw [Watch.along_fetchExchanges] at hwatch
  cases hrejection : results.getLast?.bind (·.rejection?) with
  | none =>
    rw [hrejection] at hwatch
    exact bind (noteAnswer hrejection) (fun _ => hnext results) _ ⟨rfl, hwatch⟩
  | some e =>
    rw [hrejection] at hwatch
    apply (gives_noteAnswer hrejection (next results) _).mono
    rintro r t ⟨rfl, hexchanges, hsession⟩
    refine ⟨hsession ▸ rfl, ?_⟩
    rw [SpanState.watch, hexchanges]
    change ((s.after session _).watch true).Agrees _ _
    rw [hwatch]
    rfl

theorem stepAwaiting (q : SetupQuery) (level : Isolation) :
    Halts true (Span.stepAwaiting q level : Span σ Readiness) := by
  refine bind_consume fun _ => bind (ask fun _ => rfl) fun busy => ?_
  split
  · exact pure _
  · refine bind_answers fun results => ?_
    cases q with
    | dateStyle => exact bind (moveTo _) fun _ => pure _
    | clientEncoding => exact bind (completeSetup level) fun _ => pure _

omit [WireSession σ] in
theorem gives_abandon (flight : InFlight) (text : String) :
    Gives (.transport text) (Span.abandon flight text : Span σ Readiness) :=
  fun s => ends_of_exec (exec_abandon flight text s) ⟨rfl, rfl, rfl⟩

theorem stepFlight (flight : InFlight) :
    Halts setup (Span.stepFlight flight : Span σ Readiness) := by
  refine bind_ask fun answer => ?_
  rcases answer with text | _ | _
  · exact Or.inr ⟨_, rfl, gives_abandon flight text⟩
  · exact Or.inl ⟨rfl, bind (update fun _ => rfl) fun _ => pure _⟩
  · exact Or.inl ⟨rfl, pure _⟩

theorem stepResults (flight : InFlight) :
    Halts false (Span.stepResults flight : Span σ Readiness) := by
  refine bind_ask fun answer => ?_
  cases answer with
  | error text => exact Or.inr ⟨_, rfl, gives_abandon flight text⟩
  | ok _ =>
    refine Or.inl ⟨rfl, bind (ask fun _ => rfl) fun busy => ?_⟩
    split
    · exact pure _
    · exact bind askResults fun results => bind (complete _ _) fun _ => pure _

theorem stepReady : Halts false (Span.stepReady : Span σ Readiness) := by
  refine bind guarded fun g => ?_
  cases g.inFlight with
  | none => exact bind_consume fun _ => pure _
  | some flight =>
    cases hphase : flight.phase with
    | writing =>
      simp only [hphase]
      exact stepFlight flight
    | reading =>
      simp only [hphase]
      exact stepResults flight

theorem submit (sql : String) (owner : QueryOwner) :
    Halts false (Span.submit sql owner : Span σ Unit) := by
  have hrefuse : ∀ {p : Prop} [Decidable p] {fault : Fault} {next : Unit → Span σ Unit},
      Halts false (next ()) →
        Halts false (if p then MonadExcept.throw fault >>= next else next ()) := by
    intro p _ fault next h
    split
    · exact bind (throw fault.expected_false) fun _ => h
    · exact h
  refine bind guarded fun g => hrefuse (bind guarded fun g => hrefuse ?_)
  exact bind_send fun _ => bind_flush fun outcome => update fun _ => rfl

/-! ## The end of a session -/

theorem isQuiet_of_farewell {session : σ} {x : Exchange} (hx : x ∈ Runs.farewell session) :
    x.call.isQuiet := by
  simp only [Runs.farewell, messageExchanges, List.mem_append, List.mem_cons, List.not_mem_nil,
    or_false] at hx
  rcases hx with (rfl | rfl) | rfl <;> rfl

/-- A failure closes the connection, which changes nothing of what is known. -/
theorem orTearDown {span : Span σ α} {s : SpanState σ} (h : Ends span s (Halting setup)) :
    Ends (Span.orTearDown span) s fun r t => (t.watch setup).Agrees (Fault.Expected setup) r := by
  apply ends_orTearDown
  apply h.mono
  rintro r t ⟨hsession, hwatch⟩
  refine ⟨fun x hx => hx ▸ hwatch, fun fault hfault => ?_⟩
  subst hfault
  obtain ⟨session, hsession⟩ := Option.isSome_iff_exists.1 hsession
  refine ends_of_exec (Runs.tearDown hsession t rfl) ⟨rfl, ?_⟩
  have htorn : SpanState.watch setup
      { t with
        guarded := t.guarded.shut.stashing (t.guarded.stash ++ messages session)
        exchanges := t.exchanges ++ Runs.farewell session } =
      (t.watch setup).along setup (Runs.farewell session) := watch_append setup rfl
  rw [htorn]
  exact hwatch.of_quiet fun x hx => isQuiet_of_farewell hx

end Halts

/-- Once the guard is released, only messages are taken over. -/
theorem agrees_run {span : Span σ α} {g : Guarded σ} {P : Fault → Prop}
    (h : Ends span { guarded := g } fun r t => (t.watch setup).Agrees P r) :
    ((Watch.going none).along setup (run span g).exchanges).Agrees P (run span g).result := by
  unfold Ends at h
  rcases hexec : exec span { guarded := g } with ⟨r, t⟩
  rw [hexec] at h
  obtain ⟨hresult, -, messages, hexchanges, hmessages⟩ := run_of_exec hexec
  rw [hresult, hexchanges, Watch.along_append]
  refine Watch.Agrees.of_quiet h fun x hx => ?_
  rcases hmessages x hx with hcall | hcall <;> rw [hcall] <;> rfl

end Span

end SessionLayer
