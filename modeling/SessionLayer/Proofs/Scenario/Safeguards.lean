import SessionLayer.Proofs.Connection.Safeguards
import SessionLayer.Proofs.Scenario.CursorHistory
import SessionLayer.Proofs.Scenario.FailStop

/-!
# Safeguards that nothing sets off in a scenario

Throughout every scenario the safeguards of connections are idle, for the invariant of connections holds
of every one whose session was made. While a connection is being opened they are idle, too, although its
session is made in the middle of that.
-/

set_option autoImplicit false

namespace SessionLayer

variable {σ : Type} [WireSession σ]

/-- There is a reason for a fault of the span that takes a new session over. -/
theorem Connection.warranted_opened (c : Connection σ) (session : σ) {fault : Fault}
    (hfault : (c.opened session).result = .error fault) :
    fault.Warranted (fun _ => True) (c.opened session).exchanges := by
  refine Span.warranted_run ?_ hfault
  apply Span.ends_bind_update
  cases c.asynchronous with
  | true => exact Span.ends_pure nofun
  | false => exact Span.warranted_orTearDown (Span.warrants_runSetup rfl _)

namespace Scenario.World

variable {κ : Type} {w : World κ σ} [Connector κ σ]

/-- There is a reason for a fault of an opening: no session could be made, or its setup failed. -/
theorem warranted_openConnection (react : Reactor κ σ) {dsn : String} {asynchronous : Bool}
    {settings : Settings} {hooked : Bool} {fault : Fault}
    (hfault : ((openConnection react dsn asynchronous settings hooked).run w).1 = .error fault) :
    ∃ xs, ((openConnection react dsn asynchronous settings hooked).run w).2.exchanges
        w.connections.length = w.exchanges w.connections.length ++ xs ∧
      fault.Warranted (fun _ => True) xs := by
  rcases hconnect : Connector.connect (!asynchronous) dsn w.connector with ⟨text | session, connector⟩
  · obtain ⟨hresult, hsilent⟩ := openConnection_of_unmade react hconnect settings hooked
    cases hresult.symm.trans hfault
    exact ⟨[], by rw [hsilent, List.append_nil], Fault.warranted_of_isSafeguard rfl⟩
  · obtain ⟨w', hrun, hexchanges⟩ := openConnection_eq_opened react hconnect settings hooked rfl
    rw [hrun] at hfault ⊢
    refine ⟨_, hexchanges, Connection.warranted_opened _ session ?_⟩
    dsimp only at hfault
    generalize (Connection.opened _ session).result = r at hfault ⊢
    cases r with
    | ok _ => cases hfault
    | error f =>
      cases hfault
      rfl

/-- In every state of a connection whose session was made, whatever sessions answer and hooks do, no
safeguard is set off. The session is missing only once the connection has been closed, after which all
that is asked of it is refused for that reason; until then no operation fails because of a missing
session, and no poll because there is no attempt to go on with. A poll of a connection that is ready or in
a block finds the session there and fails only because of the transport. A parameter cannot be fetched
only where a question of the setup was put that leaves it untold, by the poll that awaits its answer or by
a reset; so the notes are complete wherever the setup is completed. A client encoding that could be set is
recorded in the information, which is there. All of this holds of the opening of a connection, too. -/
theorem safeguards_are_idle (connector : κ) (hook : Nat → Nat) :
    (∀ w : World κ σ, Reached { connector, hook } w → ∀ (key : Nat) (c : Connection σ),
      w.connections[key]? = some c → w.Opened key →
        c.SafeguardsIdle ∧
        (∀ (react : Reactor κ σ) op, ((perform react key op).run w).1 = (c.perform op).result) ∧
        ∀ hooked op, (w.operating key hooked op).connections[key]? =
            some { c with guarded := (c.perform op).guarded } ∧
          (w.operating key hooked op).exchanges key = w.exchanges key ++ (c.perform op).exchanges) ∧
    (∀ (w : World κ σ) (react : Reactor κ σ) (dsn : String) (asynchronous : Bool) (settings : Settings)
      (hooked : Bool) (fault : Fault),
      let opening := (openConnection react dsn asynchronous settings hooked).run w
      opening.1 = .error fault →
        ∃ xs, opening.2.exchanges w.connections.length = w.exchanges w.connections.length ++ xs ∧
          fault.Warranted (fun _ => True) xs) ∧
    Fault.closed.cls = .interface ∧
    Fault.noAttempt.message = "poll() called on a connection with no asynchronous attempt" ∧
    ∀ q : SetupQuery, (Fault.cannotFetch q.parameter).message = "can't fetch " ++ q.parameter := by
  refine ⟨fun w hreached key c hc hopened => ?_, ?_, rfl, rfl, fun _ => rfl⟩
  · have hsound := hreached.preserves (fun _ _ => Move.sound) (sound_start connector hook)
    refine ⟨Connection.safeguardsIdle (hsound.settled key c hc hopened),
      fun react op => fst_perform react hc op, fun hooked op => ⟨?_, ?_⟩⟩
    · exact connection_operating_self hc hooked op
    · exact exchanges_operating_self hc hooked op
  · exact fun w react dsn asynchronous settings hooked fault => warranted_openConnection react

/-- A server that does not tell its client encoding fails the setup, by polls as well as in one go. -/
theorem safeguards_are_idle_untold :
    let script : Script :=
      { answers := [("SHOW DATESTYLE", .single "ISO, MDY"), ("SHOW client_encoding", .tuples [])] }
    let start : World Script ScriptedSession := { connector := script, hook := fun _ => 1 }
    let w := ((runSteps (fire 0) "" 0
      [.on "db" (.openConnection "" true .standard .full), .on "db" (.drive 5)]).run start).2
    let opening := (openConnection (fire 0) "" false .standard true).run start
    Reached start w ∧ w.Opened 0 ∧
      (∃ c, w.connections[0]? = some c ∧ c.guarded.status = .awaiting .clientEncoding ∧
        c.guarded.session.isSome ∧
        ((perform (fire 0) 0 .poll).run w).1 = .error (.cannotFetch "client_encoding") ∧
        SetupQuery.clientEncoding.Untold (c.perform .poll).exchanges) ∧
      opening.1 = .error (.cannotFetch "client_encoding") ∧
      ∃ q : SetupQuery, "client_encoding" = q.parameter ∧ q.Untold (opening.2.exchanges 0) := by
  intro script start w opening
  have hreached : Reached start w :=
    keeps_runSteps (conducts_of_attends (attends_fire (fun _ => conducts_of_attends) 0)) "" 0 _ start
  have hopened : w.Opened 0 := by decide +kernel
  have hstate : w.connections.map (·.guarded.status) = [.awaiting .clientEncoding] := by
    decide +kernel
  have fails : ∀ {α : Type} {r : Except Fault α} {fault : Fault},
      (r.casesOn some fun _ => none : Option Fault) = some fault → r = .error fault := by
    rintro α (f | x) fault h
    · cases h
      rfl
    · cases h
  have hpolled : ((perform (fire 0) 0 .poll).run w).1 = .error (.cannotFetch "client_encoding") :=
    fails (by decide +kernel)
  have hfailed : opening.1 = .error (.cannotFetch "client_encoding") := fails (by decide +kernel)
  obtain ⟨c, hconnections, hstatus⟩ := List.map_eq_singleton_iff.1 hstate
  have hc : w.connections[0]? = some c := by rw [hconnections]; rfl
  obtain ⟨hconnection, hopening, -⟩ := safeguards_are_idle start.connector start.hook
  obtain ⟨hidle, hresult, -⟩ := hconnection w hreached 0 c hc hopened
  have hopen : c.guarded.status ≠ .closed := by rw [hstatus]; decide
  have hfault : (c.perform .poll).result = .error (.cannotFetch "client_encoding") :=
    (hresult (fire 0) .poll).symm.trans hpolled
  obtain ⟨q, hq, -, huntold⟩ := (hidle.warranted hopen .poll _ hfault).told _ rfl
  obtain rfl : q = .clientEncoding := by
    have hasked : c.guarded.status = .awaiting q := hq
    rw [hstatus] at hasked
    exact (Status.awaiting.inj hasked).symm
  obtain ⟨xs, hexchanges, hwarranted⟩ := hopening start (fire 0) "" false .standard true _ hfailed
  obtain ⟨q, -, hparameter, hleft⟩ := hwarranted.told _ rfl
  have hall : opening.2.exchanges 0 = xs := hexchanges
  refine ⟨hreached, hopened, ⟨c, hc, hstatus, hidle.session.2 hopen, hpolled, huntold⟩, hfailed, q,
    hparameter, ?_⟩
  rw [hall]
  exact hleft

end Scenario.World

end SessionLayer
