import SessionLayer.Proofs.Connection.Failure
import SessionLayer.Proofs.Scenario.Closing
import SessionLayer.Proofs.Scenario.Rejection

/-!
# Failures stop operations

An operation that consists of one span stops at the first failure of the session, and so does the opening
of a connection. A large object is made by several operations in turn; `World.Performs` says which
exchanges are those of the operations themselves, whatever the listeners of the client say to the session
meanwhile, and `World.Halts` that a computation of this kind stops at the first failure among them. A
statement that was submitted and rejected is no failure of the poll that fetches its results: the poll is
complete, and the owner is told.
-/

set_option autoImplicit false

namespace SessionLayer

variable {σ : Type} [WireSession σ]

/-- The setup of a session that has just been made ends at its first failure. -/
theorem Connection.agrees_opened (c : Connection σ) (session : σ) :
    ((Watch.going none).along true (c.opened session).exchanges).Agrees (Fault.Expected true)
      (c.opened session).result := by
  apply Span.agrees_run
  apply Span.ends_bind_update
  cases c.asynchronous with
  | true => exact Span.ends_pure (Watch.Agrees.ok_iff.2 rfl)
  | false => exact Span.Halts.orTearDown (Span.Halts.runSetup _ _ ⟨rfl, rfl⟩)

/-- Where the setup fails, the connection is closed. -/
theorem Connection.closed_opened_of_error (c : Connection σ) (session : σ) {fault : Fault}
    (h : (c.opened session).result = .error fault) : (c.opened session).guarded.status = .closed := by
  refine Span.status_run_of_ends
    (Q := fun r status => ∀ fault, r = .error fault → status = .closed) ?_ fault h
  apply Span.ends_bind_update
  cases c.asynchronous with
  | true => exact Span.ends_pure nofun
  | false =>
    apply (Span.ends_establish rfl _).mono
    rintro r t ⟨-, ⟨x, rfl, -⟩ | ⟨f, g, stash, rfl, -, ht⟩⟩
    · exact nofun
    · rw [ht]
      exact fun _ _ => rfl

/-- Where the rejected ones among some results carry an error, the first of them is the outcome. -/
theorem collectOutcome_of_fatalError {results : List QueryResult}
    (herror : ∃ r ∈ results, r.status = .fatalError)
    (hcarried : ∀ r ∈ results, r.status = .fatalError → r.error.isSome) :
    ∃ first e, results.find? (·.status == .fatalError) = some first ∧ first.error = some e ∧
      collectOutcome results = .error (.rejected e.state e.message) := by
  obtain ⟨r, hr, hfatal⟩ := herror
  have hfound : (results.find? (·.status == .fatalError)).isSome :=
    List.find?_isSome.2 ⟨r, hr, beq_iff_eq.2 hfatal⟩
  obtain ⟨first, hfirst⟩ := Option.isSome_iff_exists.1 hfound
  have hmem := List.mem_of_find?_eq_some hfirst
  have hstatus := List.find?_some hfirst
  obtain ⟨e, he⟩ := Option.isSome_iff_exists.1 (hcarried first hmem (beq_iff_eq.1 hstatus))
  exact ⟨first, e, hfirst, he, collectOutcome_eq_rejected hfirst he⟩

namespace Scenario.World

variable {κ : Type} {w w' w₁ w₂ : World κ σ} {key : Nat} {react : Reactor κ σ}

/-! ## Operations in turn -/

/-- Operations are performed on a connection one after the other, each in the world that the one before
it has left; the exchanges are those of their spans. -/
inductive Performs (react : Reactor κ σ) (key : Nat) : World κ σ → List Exchange → World κ σ → Prop
  | none (w : World κ σ) : Performs react key w [] w
  | next {w w' : World κ σ} {c : Connection σ} {xs : List Exchange} (op : Operation) :
      w.connections[key]? = some c → Performs react key ((perform react key op).run w).2 xs w' →
      Performs react key w ((c.perform op).exchanges ++ xs) w'

namespace Performs

variable {xs ys : List Exchange}

theorem trans (h : Performs react key w xs w₁) (h' : Performs react key w₁ ys w₂) :
    Performs react key w (xs ++ ys) w₂ := by
  induction h with
  | none w => exact h'
  | next op hc _ ih =>
    rw [List.append_assoc]
    exact .next op hc (ih h')

/-- Where no listener calls back into the connection, these are all exchanges with its session. -/
theorem exchanges_eq (hreact : Spares react key) (h : Performs react key w xs w') :
    w'.exchanges key = w.exchanges key ++ xs := by
  induction h with
  | none w => exact (List.append_nil _).symm
  | next op hc _ ih =>
    obtain ⟨w₁, mailbox, hrun, -, hexchanges⟩ := perform_of_spares hreact hc op
    rw [hrun, hexchanges, List.append_assoc] at ih
    exact ih

end Performs

/-- The computation performs operations on the connection up to the first failure of the session, which
is its outcome. -/
def Halts {α β : Type} (react : Reactor κ σ) (key : Nat) (outcome : β → Except Fault α)
    (p : Play κ σ β) : Prop :=
  ∀ w : World κ σ, w.Sound → w.Opened key → ∃ xs, Performs react key w xs (p.run w).2 ∧
    ((Watch.going none).along false xs).Agrees (Fault.Expected false) (outcome (p.run w).1) ∧
    (p.run w).2.Sound ∧ (p.run w).2.Opened key

namespace Halts

variable {α β γ : Type} {outcome : β → Except Fault α}

theorem pure (x : β) : Halts react key outcome (Pure.pure x : Play κ σ β) :=
  fun w hsound hopened => ⟨[], .none w, fun fault _ => fault.expected_false, hsound, hopened⟩

theorem bind_get {next : World κ σ → Play κ σ β} (h : ∀ w, Halts react key outcome (next w)) :
    Halts react key outcome (get >>= next) :=
  fun w => h w w

/-- Only what a computation succeeds with is gone on with. -/
theorem bind {p : Play κ σ (Except Fault γ)} {next : Except Fault γ → Play κ σ β}
    (hp : Halts react key id p)
    (herror : ∀ fault, ∃ x, next (.error fault) = Pure.pure x ∧ outcome x = .error fault)
    (hok : ∀ x, Halts react key outcome (next (.ok x))) : Halts react key outcome (p >>= next) := by
  intro w hsound hopened
  obtain ⟨xs, hperforms, hagrees, hsound₁, hopened₁⟩ := hp w hsound hopened
  rw [Play.run_bind]
  rcases hrun : p.run w with ⟨fault | x, w₁⟩
  · rw [hrun] at hperforms hagrees hsound₁ hopened₁
    obtain ⟨x, hx, houtcome⟩ := herror fault
    rw [hx]
    refine ⟨xs, hperforms, ?_, hsound₁, hopened₁⟩
    show ((Watch.going none).along false xs).Agrees _ (outcome x)
    rw [houtcome]
    exact hagrees.of_error
  · rw [hrun] at hperforms hagrees hsound₁ hopened₁
    obtain ⟨ys, hperforms', hagrees', hsound₂, hopened₂⟩ := hok x w₁ hsound₁ hopened₁
    refine ⟨xs ++ ys, hperforms.trans hperforms', ?_, hsound₂, hopened₂⟩
    rw [Watch.along_append, Watch.Agrees.ok_iff.1 hagrees]
    exact hagrees'

theorem map {outcome' : γ → Except Fault α} {f : β → γ} {p : Play κ σ β}
    (hp : Halts react key outcome p) (hf : ∀ x, outcome' (f x) = outcome x) :
    Halts react key outcome' (p >>= fun x => Pure.pure (f x)) := by
  intro w hsound hopened
  obtain ⟨xs, hperforms, hagrees, hafter⟩ := hp w hsound hopened
  rw [Play.run_bind]
  refine ⟨xs, hperforms, ?_, hafter⟩
  show ((Watch.going none).along false xs).Agrees _ (outcome' (f (p.run w).1))
  rw [hf]
  exact hagrees

variable [Connector κ σ]

/-- An operation that has nothing to do with the setup of the session. -/
theorem perform (hreact : ∀ listener signal, Keeps Reached (react listener signal)) {op : Operation}
    (hsetsUp : ∀ c : Connection σ, c.setsUp op = false) :
    Halts react key id (World.perform react key op) := by
  intro w hsound hopened
  have hreached : Reached w ((World.perform react key op).run w).2 := keeps_perform hreact key op w
  have hlt := hsound.lt_of_opened key hopened
  have hc := List.getElem?_eq_getElem hlt
  refine ⟨(w.connections[key].perform op).exchanges ++ [], .next op hc (.none _), ?_,
    hreached.preserves (fun _ _ => Move.sound) hsound, hopened.mono hreached.prefix_trace⟩
  rw [List.append_nil, id, fst_perform react hc op]
  exact Connection.agrees_perform_of_settled (hsound.settled key _ hc hopened) (hsetsUp _)

/-! ## Large objects -/

theorem number (hreact : ∀ listener signal, Keeps Reached (react listener signal)) (statement : String)
    (read : QueryResult → Option α) : Halts react key id (World.number react key statement read) := by
  refine bind (perform hreact fun _ => rfl) (fun fault => ⟨_, rfl, rfl⟩) fun result => ?_
  dsimp only
  split
  · exact pure _
  · exact pure _

theorem openLargeObject (hreact : ∀ listener signal, Keeps Reached (react listener signal))
    (request : LargeObjectRequest) :
    Halts react key id (World.openLargeObject react key request) := by
  have hoid : Halts react key id (resolveOid react key request) := by
    unfold resolveOid
    split
    · exact pure _
    · exact number hreact _ _
  have hdescriptor : ∀ oid, Halts react key id (resolveDescriptor react key request oid) := by
    intro oid
    unfold resolveDescriptor
    split
    · exact pure _
    · refine bind (number hreact _ _) (fun fault => ⟨_, rfl, rfl⟩) fun x => ?_
      exact pure _
  unfold World.openLargeObject
  refine bind_get fun w => ?_
  split
  · exact pure _
  · refine bind hoid (fun fault => ⟨_, rfl, rfl⟩) fun oid => ?_
    refine bind (hdescriptor oid) (fun fault => ⟨_, rfl, rfl⟩) fun descriptor => ?_
    exact pure _

/-- Whatever factory makes the object, it is enough that it stops at failures. -/
theorem largeObjectWith (hreact : ∀ listener signal, Keeps Reached (react listener signal))
    (demand : LargeObjectDemand) (connectionOf : γ → Nat)
    {factory : LargeObjectRequest → Play κ σ (Except Fault γ)}
    (hfactory : ∀ request, Halts react key id (factory request)) :
    Halts react key (·.made) (World.largeObjectWith react key demand connectionOf factory) := by
  refine bind (perform hreact fun _ => rfl) (fun fault => ⟨_, rfl, rfl⟩) fun _ => ?_
  dsimp only
  split
  · exact pure _
  · refine bind (hfactory _) (fun fault => ⟨_, rfl, rfl⟩) fun product => ?_
    dsimp only
    split
    · exact pure _
    · exact pure _

theorem makeLargeObject (hreact : ∀ listener signal, Keeps Reached (react listener signal))
    (demand : LargeObjectDemand) : Halts react key id (World.makeLargeObject react key demand) :=
  map (largeObjectWith hreact demand _ fun request => openLargeObject hreact request) fun _ => rfl

end Halts

/-! ## Opening a connection -/

section Opening

variable {c : Connection σ}

/-- To release a connection without a session says nothing to anybody. -/
theorem exchanges_release_of_none (react : Reactor κ σ) (hc : w.connections[key]? = some c)
    (hobservers : c.mailbox.observers = []) (hsession : c.guarded.session = none)
    (hflight : c.guarded.inFlight = none) :
    ((release react key).run w).2.exchanges key = w.exchanges key := by
  obtain ⟨-, -, hcompletion⟩ := Connection.hollow_perform hsession hflight .close
  have hsilent := ((c.accounted_perform .close).silent hsession).1
  exact release_of_silent react hc hobservers hcompletion hsilent

variable [Connector κ σ]

/-- Where no session can be made, nothing is said to any session, and the text is that of the fault. -/
theorem openConnection_of_unmade (react : Reactor κ σ) {asynchronous : Bool} {dsn text : String}
    {connector : κ}
    (hconnect : Connector.connect (!asynchronous) dsn w.connector = (.error text, connector))
    (settings : Settings) (hooked : Bool) :
    ((openConnection react dsn asynchronous settings hooked).run w).1 = .error (.transport text) ∧
      ((openConnection react dsn asynchronous settings hooked).run w).2.exchanges
        w.connections.length = w.exchanges w.connections.length := by
  refine ⟨openConnection_of_error react asynchronous hconnect settings hooked, ?_⟩
  obtain ⟨w₁, hopening, hc, hexchanges, -⟩ := opening_of_error hconnect settings hooked
  rw [openConnection_run, hopening]
  simp only [conclude_nothing]
  rw [exchanges_release_of_none react hc rfl rfl rfl, hexchanges]

/-- Where a session can be made, the opening comes to what the span does that takes it over. -/
theorem openConnection_eq_opened (react : Reactor κ σ) {asynchronous : Bool} {dsn : String} {session : σ}
    {connector : κ}
    (hconnect : Connector.connect (!asynchronous) dsn w.connector = (.ok session, connector))
    (settings : Settings) (hooked : Bool)
    (hcreated : c = Connection.create w.connections.length dsn asynchronous hooked settings) :
    ∃ w', (openConnection react dsn asynchronous settings hooked).run w =
        ((c.opened session).result.map fun _ => w.connections.length, w') ∧
      w'.exchanges w.connections.length =
        w.exchanges w.connections.length ++ (c.opened session).exchanges := by
  have hsettled : (c.opened session).guarded.Settled asynchronous :=
    hcreated ▸ Connection.settled_open w.connections.length dsn asynchronous hooked settings session
  have hclosed : ∀ fault, (c.opened session).result = .error fault →
      (c.opened session).guarded.session = none ∧ (c.opened session).guarded.status = .closed := by
    intro fault hfault
    have hstatus := c.closed_opened_of_error session hfault
    refine ⟨?_, hstatus⟩
    rw [← Option.not_isSome_iff_eq_none, hsettled.1.session_iff]
    exact not_not_intro hstatus
  have houtcome : (openingSpan session (!asynchronous) c).run c.guarded = c.opened session := by
    rw [hcreated]
    rfl
  obtain ⟨w', hrun, -, hexchanges⟩ := openConnection_of_ok react asynchronous hconnect settings hooked
    hcreated houtcome (completion_openingSpan session _ c _) hclosed
  exact ⟨w', hrun, hexchanges⟩

/-- Where a session can be made, the opening stops at the first failure of its setup. -/
theorem openConnection_of_made (react : Reactor κ σ) {asynchronous : Bool} {dsn : String} {session : σ}
    {connector : κ}
    (hconnect : Connector.connect (!asynchronous) dsn w.connector = (.ok session, connector))
    (settings : Settings) (hooked : Bool) :
    ∃ xs, ((openConnection react dsn asynchronous settings hooked).run w).2.exchanges
        w.connections.length = w.exchanges w.connections.length ++ xs ∧
      FailStop true xs ((openConnection react dsn asynchronous settings hooked).run w).1 := by
  obtain ⟨w', hrun, hexchanges⟩ := openConnection_eq_opened react hconnect settings hooked rfl
  rw [hrun]
  refine ⟨_, hexchanges, ?_⟩
  exact ((Connection.agrees_opened _ session).map _).failStop

end Opening

/-! ## Owners -/

section Owners

/-- The owner of a statement is told its outcome if it is still held: a cursor keeps it, and the steps of a
listener run on it. -/
structure Tells (react : Reactor κ σ) (completion : Completion) (w w' : World κ σ) : Prop where
  cursor : ∀ k, completion.owner = .cursor k → w.cursorHeld k →
    w'.cursors[k]? = w.cursors[k]?.map (·.completed completion.outcome)
  listener : ∀ k, completion.owner = .listener k → w.listenerHeld k →
    w' = ((react k (.complete completion.outcome)).run w).2

omit [WireSession σ] in
theorem tells_settle (react : Reactor κ σ) (completion : Completion) (w : World κ σ) :
    Tells react completion w ((settle react completion).run w).2 := by
  refine ⟨fun k howner hheld => ?_, fun k howner hheld => ?_⟩
  · unfold settle
    simp only [Play.run_bind, Play.run_get, howner, hheld, if_true, Play.run_modify, record, modifyCursor,
      List.getElem?_modify, Option.map_eq_map]
  · unfold settle
    simp only [Play.run_bind, Play.run_get, howner, hheld, if_true]

/-- The owner is told once the messages that came with the outcome have been delivered. -/
theorem tells_perform {c : Connection σ} (hc : w.connections[key]? = some c) (op : Operation)
    (hop : op ≠ .close) {completion : Completion} (h : (c.perform op).completion = some completion)
    (react : Reactor κ σ) :
    ∃ hooked, Tells react completion
      ((deliver react key (c.perform op).batch).run (w.operating key hooked op)).2
      ((perform react key op).run w).2 := by
  obtain ⟨hooked, hrun⟩ := perform_run react key op w
  obtain ⟨w₁, hspan, -⟩ := detached_runSpan hc hooked (·.span op)
  have hcompletion : ((c.span op).run c.guarded).completion = some completion := h
  rw [hcompletion] at hspan
  refine ⟨hooked, ?_⟩
  rw [hrun, operating, hspan]
  dsimp only
  rw [if_neg hop]
  exact tells_settle react completion _

end Owners

/-! ## Throughout a scenario -/

/-- In every state of an open connection whose session was made, and whatever the session answers: where
the session fails, the operation says nothing to it any more but to ask for its text and its messages and
to end it, and the operation fails with the text of the session. The fault is operational if the transport
fails, the handshake, or a question of the setup; otherwise it is of the class that the first two characters
of the server's state name. So it is with all exchanges of the operations that a large object is made by, and with those of the
opening of a connection. Where the results of a submitted statement are fetched and those that were
rejected carry an error, the poll is complete and the owner is told the first error. -/
theorem failures_stop_operations [Connector κ σ] (connector : κ) (hook : Nat → Nat) :
    (∀ w : World κ σ, Reached { connector, hook } w → ∀ (key : Nat) (c : Connection σ),
      w.connections[key]? = some c → w.Opened key → c.guarded.status ≠ .closed →
        (∀ op, FailStop (c.setsUp op) (c.perform op).exchanges (c.perform op).result ∧
          ∀ react : Reactor κ σ, ((perform react key op).run w).1 = (c.perform op).result) ∧
        (∀ react : Reactor κ σ, (∀ listener signal, Keeps Reached (react listener signal)) →
          ∀ demand,
            (∃ xs, Performs react key w xs ((makeLargeObject react key demand).run w).2 ∧
              FailStop false xs ((makeLargeObject react key demand).run w).1 ∧
              (Spares react key → ((makeLargeObject react key demand).run w).2.exchanges key =
                w.exchanges key ++ xs)) ∧
            ∀ {γ : Type} (connectionOf : γ → Nat) factory,
              (∀ request, Halts react key id (factory request)) →
              ∃ xs, Performs react key w xs
                  ((largeObjectWith react key demand connectionOf factory).run w).2 ∧
                FailStop false xs
                  ((largeObjectWith react key demand connectionOf factory).run w).1.made) ∧
        (c.guarded.status.isUsable →
          (∃ r ∈ fetched (c.perform .poll).exchanges, r.status = .fatalError) →
          (∀ r ∈ fetched (c.perform .poll).exchanges, r.status = .fatalError → r.error.isSome) →
          ∃ flight first e fault, c.guarded.inFlight = some flight ∧
            (fetched (c.perform .poll).exchanges).find? (·.status == .fatalError) = some first ∧
            first.error = some e ∧ SqlState.Names e.state fault.cls ∧
            fault.message = e.message ∧ (c.perform .poll).result = .ok .complete ∧
            ∀ react : Reactor κ σ, ∃ hooked,
              Tells react { owner := flight.owner, outcome := .error fault }
                ((deliver react key (c.perform .poll).batch).run (w.operating key hooked .poll)).2
                ((perform react key .poll).run w).2)) ∧
    ∀ (w : World κ σ) (react : Reactor κ σ) (dsn : String) (asynchronous : Bool) (settings : Settings)
      (hooked : Bool),
      let opening := (openConnection react dsn asynchronous settings hooked).run w
      (∀ text connector, Connector.connect (!asynchronous) dsn w.connector = (.error text, connector) →
        (∃ fault, opening.1 = .error fault ∧ fault.cls = .operational ∧ fault.message = text) ∧
        opening.2.exchanges w.connections.length = w.exchanges w.connections.length) ∧
      ∀ session connector, Connector.connect (!asynchronous) dsn w.connector = (.ok session, connector) →
        ∃ xs, opening.2.exchanges w.connections.length = w.exchanges w.connections.length ++ xs ∧
          FailStop true xs opening.1 := by
  refine ⟨fun w hreached key c hc hopened hopen => ?_, ?_⟩
  · have hsound := hreached.preserves (fun _ _ => Move.sound) (sound_start connector hook)
    have hsettled := hsound.settled key c hc hopened
    refine ⟨fun op => ⟨?_, fun react => fst_perform react hc op⟩, fun react hreact demand => ⟨?_, ?_⟩, ?_⟩
    · exact (Connection.agrees_perform hsettled.1 hopen op).failStop
    · obtain ⟨xs, hperforms, hagrees, -⟩ := Halts.makeLargeObject hreact demand w hsound hopened
      exact ⟨xs, hperforms, hagrees.failStop, fun hspares => hperforms.exchanges_eq hspares⟩
    · intro γ connectionOf factory hfactory
      obtain ⟨xs, hperforms, hagrees, -⟩ :=
        Halts.largeObjectWith hreact demand connectionOf hfactory w hsound hopened
      exact ⟨xs, hperforms, hagrees.failStop⟩
    · intro husable herror hcarried
      obtain ⟨first, e, hfirst, he, houtcome⟩ := collectOutcome_of_fatalError herror hcarried
      rcases Connection.fetched_perform_poll hsettled husable with
        hnone | ⟨flight, hflight, hresult, hcompletion⟩
      · rw [hnone] at hfirst
        exact nomatch hfirst
      · rw [houtcome] at hcompletion
        exact ⟨flight, first, e, .rejected e.state e.message, hflight, hfirst, he,
          SqlState.names_iff_classify.2 rfl, rfl, hresult, tells_perform hc .poll nofun hcompletion⟩
  · intro w react dsn asynchronous settings hooked opening
    refine ⟨fun text connector hconnect => ?_, fun session connector hconnect => ?_⟩
    · obtain ⟨hfailed, hsilent⟩ := openConnection_of_unmade react hconnect settings hooked
      exact ⟨⟨_, hfailed, rfl, rfl⟩, hsilent⟩
    · exact openConnection_of_made react hconnect settings hooked

/-- A cursor is told that its statement was rejected, by a poll that is complete; and a server that cannot
be reached says why. -/
theorem failures_stop_operations_rejected :
    let rejected : QueryResult := .fatal "no such table" (some "42P01")
    let script : Script := { answers := Script.answers {} ++ [("SELECT 1", rejected)] }
    let start : World Script ScriptedSession := { connector := script, hook := fun _ => 1 }
    let steps : List Step := [.on "db" (.openConnection "" true .standard .withSettings),
      .on "db" (.drive 7), .on "db" (.makeCursor "c" none), .on "db" (.cursorExecute "c" "SELECT 1")]
    let w := ((runSteps (fire 0) "" 0 steps).run start).2
    let absent : World Script ScriptedSession :=
      { connector := { connectFailure := some "no route" }, hook := fun _ => 1 }
    Reached start w ∧ w.Opened 0 ∧
      (∃ c fault, w.connections[0]? = some c ∧ c.guarded.status = .ready ∧
        fetched (c.perform .poll).exchanges = [rejected] ∧
        FailStop false (c.perform .poll).exchanges (c.perform .poll).result ∧
        (c.perform .poll).result = .ok .complete ∧ fault.message = "no such table" ∧
        fault.cls = .programming ∧
        ∃ hooked, Tells (fire 0) { owner := .cursor 0, outcome := .error fault }
          ((deliver (fire 0) 0 (c.perform .poll).batch).run (w.operating 0 hooked .poll)).2
          ((perform (fire 0) 0 .poll).run w).2) ∧
      ∃ fault, ((openConnection (fire 0) "" false .standard false).run absent).1 = .error fault ∧
        fault.cls = .operational ∧ fault.message = "no route" := by
  intro rejected script start steps w absent
  have hreached : Reached start w :=
    keeps_runSteps (conducts_of_attends (attends_fire (fun _ => conducts_of_attends) 0)) "" 0 steps start
  have hopened : w.Opened 0 := by decide +kernel
  have hstate : w.connections.map (fun c => (c.guarded.status, c.guarded.inFlight,
      fetched (c.perform .poll).exchanges)) =
        [(.ready, some { owner := .cursor 0, phase := .reading }, [rejected])] := by
    decide +kernel
  obtain ⟨c, hconnections, htriple⟩ := List.map_eq_singleton_iff.1 hstate
  obtain ⟨hready, hpair⟩ := Prod.mk.inj htriple
  obtain ⟨hflight, hfetched⟩ := Prod.mk.inj hpair
  have hc : w.connections[0]? = some c := by rw [hconnections]; rfl
  obtain ⟨hoperations, hopenings⟩ := failures_stop_operations start.connector start.hook
  obtain ⟨hstops, -, htells⟩ := hoperations w hreached 0 c hc hopened (by rw [hready]; decide)
  have husable : c.guarded.status.isUsable = true := by rw [hready]; rfl
  have hsetsUp : c.setsUp .poll = false := by rw [Connection.setsUp, hready]; rfl
  rw [hfetched] at htells
  obtain ⟨flight, first, e, fault, howner, hfirst, he, hcls, hmessage, hresult, htold⟩ :=
    htells husable ⟨rejected, List.mem_singleton_self _, rfl⟩ (by decide)
  cases hflight.symm.trans howner
  cases hfirst
  cases he
  obtain ⟨hunmade, -⟩ := hopenings absent (fire 0) "" false .standard false
  have hprogramming : fault.cls = .programming := (SqlState.names_iff_classify.1 hcls).symm
  exact ⟨hreached, hopened,
    ⟨c, fault, hc, hready, hfetched, hsetsUp ▸ (hstops .poll).1, hresult, hmessage, hprogramming,
      htold (fire 0)⟩,
    (hunmade "no route" _ rfl).1⟩

end Scenario.World

end SessionLayer
