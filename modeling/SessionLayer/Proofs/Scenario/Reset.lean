import SessionLayer.Proofs.Connection.Reset
import SessionLayer.Proofs.Scenario.Executing
import SessionLayer.Proofs.Scenario.Fate
import SessionLayer.Proofs.Scenario.SetupRefinement
import SessionLayer.Proofs.Scenario.Transaction

/-!
# A reset forgets what came before

A blocking connection that was opened is as new, and so it is after every reset that succeeds: it differs
from any other new connection on the same script, at the same level, in messages only. A `Finding` is what
a client can tell of an operation. The findings of the operations that follow are the same on both.
-/

set_option autoImplicit false

namespace SessionLayer

namespace Scenario

/-- What a client can tell of an operation: the result, where the connection stands after it, and what the
log shows of it. -/
structure Finding where
  op : Operation
  result : Except Fault op.Answer
  status : Option Status
  isolation : Option Isolation
  info : Option SessionInfo
  log : List String

namespace World

/-- Runs an operation on the connection of the given key, and tells what a client can tell of it. -/
def finding (react : Reactor Script ScriptedSession) (key : Nat) (op : Operation) :
    Play Script ScriptedSession Finding := do
  let said := ((← get).exchanges key).length
  let result ← perform react key op
  let w ← get
  let c := w.connections[key]?
  return {
    op
    result
    status := c.map (·.guarded.status)
    isolation := c.map (·.guarded.isolation)
    info := c.bind (·.guarded.info)
    log := Script.log ((w.exchanges key).drop said) }

open Connection ScriptedSession

variable {script : Script} {info : SessionInfo} {key key' : Nat}
  {c c' : Connection ScriptedSession} {w w' opened : World Script ScriptedSession}
  {react react' : Reactor Script ScriptedSession} {dsn : String} {settings : Settings} {hooked : Bool}

/-! ## Opening -/

/-- Where the script says so, a blocking connection is opened, and it is new. -/
theorem openConnection_isNew (react : Reactor Script ScriptedSession)
    (h : w.connector.connectFailure = none) (dsn : String) (settings : Settings) (hooked : Bool)
    (hsetup : w.connector.setup = .ok info) :
    ∃ w' c, (openConnection react dsn false settings hooked).run w =
        (.ok w.connections.length, w') ∧
      w'.connections[w.connections.length]? = some c ∧ c.IsNew w.connector info ∧
      c.defaultIsolation = settings.isolation ∧ c.mailbox.observers = [] := by
  let session := ScriptedSession.start w.connector []
  let c : Connection ScriptedSession := create w.connections.length dsn false hooked settings
  have hsession : session.script.setup = .ok info := hsetup
  have hruns : Span.Runs (openingSpan session true c) c.guarded session.setupExchanges (.ok ())
      ((c.guarded.on session.afterSetup).established info settings.isolation) :=
    .bind_silent (.update _ _) (.orTearDown (runs_runSetup rfl hsession))
  have houtcome := hruns.run_some session.afterSetup rfl
  have hsettled : ((openingSpan session true c).run c.guarded).guarded.Settled false :=
    settled_open w.connections.length dsn false hooked settings session
  rw [houtcome] at hsettled
  obtain ⟨w', hopen, hc', -⟩ := openConnection_of_ok react false
    (Script.connect_of_none h true dsn) settings hooked rfl houtcome rfl (fun f hf => nomatch hf)
  refine ⟨w', _, hopen, hc' rfl, ?_, rfl, rfl⟩
  exact
    { blocking := rfl
      settled := hsettled
      bare := bare_established rfl settings.isolation
      session := ⟨_, rfl, unheard_afterSetup (s := session) rfl⟩ }

/-- A blocking connection can be opened only where the script says so. -/
theorem setup_of_openConnection
    (hopen : (openConnection react dsn false settings hooked).run w = (.ok key, opened)) :
    w.connector.connectFailure = none ∧ ∃ info, w.connector.setup = .ok info := by
  cases hfailure : w.connector.connectFailure with
  | some text =>
    have herror := openConnection_of_error react false (Script.connect_of_some hfailure true dsn)
      settings hooked
    rw [hopen] at herror
    exact nomatch herror
  | none =>
    cases hsetup : w.connector.setup with
    | ok info => exact ⟨rfl, info, rfl⟩
    | error fault =>
      obtain ⟨w', herror, -⟩ :=
        openConnection_blocking_error react hfailure dsn settings hooked hsetup
      exact nomatch hopen.symm.trans herror

/-! ## Histories -/

/-- Whatever happens, a connection that is like itself stays so. -/
theorem twins_of_reached {ℓ : Span.Likeness ScriptedSession} (h : Reached w w')
    (hc : w.connections[key]? = some c) (htwins : ℓ.Twins c c) :
    ∃ c', w'.connections[key]? = some c' ∧ ℓ.Twins c' c' ∧
      c'.defaultIsolation = c.defaultIsolation := by
  refine h.preserves (P := fun w => ∃ c', w.connections[key]? = some c' ∧ ℓ.Twins c' c' ∧
    c'.defaultIsolation = c.defaultIsolation) ?_ ⟨c, hc, htwins, rfl⟩
  rintro w w' ⟨c₁, hc₁, htwins₁, hlevel⟩ hmove
  obtain ⟨mailbox, hc₂, -⟩ | ⟨op, hc₂, -⟩ := (hmove.fate key).of_some hc₁
  · exact ⟨_, hc₂, htwins₁.posted mailbox mailbox, hlevel⟩
  · exact ⟨_, hc₂, htwins₁.perform op c₁.mailbox c₁.mailbox, hlevel⟩

/-! ## Findings -/

/-- Nobody calls back into the connection while the operations are performed one after the other. -/
def Uninterrupted (react : Reactor Script ScriptedSession) (key : Nat) :
    List Operation → World Script ScriptedSession → Prop
  | [], _ => True
  | op :: ops, w =>
    Undisturbed react key op w ∧ Uninterrupted react key ops ((perform react key op).run w).2

theorem Spares.uninterrupted (hreact : Spares react key) (ops : List Operation)
    (w : World Script ScriptedSession) : Uninterrupted react key ops w := by
  induction ops generalizing w with
  | nil => trivial
  | cons op ops ih => exact ⟨hreact.undisturbed op w, ih _⟩

/-- On a blocking connection that nobody observes there is nobody to call back into it. -/
theorem undisturbed_of_unobserved (react : Reactor Script ScriptedSession)
    (hc : w.connections[key]? = some c) (hserves : c.Serves) (hobservers : c.mailbox.observers = [])
    (op : Operation) :
    Undisturbed react key op w ∧ ∃ mailbox, ((perform react key op).run w).2.connections[key]? =
      some { c with guarded := (c.perform op).guarded, mailbox } ∧ mailbox.observers = [] := by
  obtain ⟨w', hrun, hc', hexchanges⟩ := perform_of_incomplete
    (discreet_of_unobserved react key hobservers) hc op (hserves.completion_eq_none op)
  obtain ⟨mailbox, hc', hnobody⟩ : ∃ mailbox : Mailbox Nat, w'.connections[key]? =
      some { c with guarded := (c.perform op).guarded, mailbox } ∧ mailbox.observers = [] := by
    split at hc'
    · exact ⟨_, hc', hobservers⟩
    · exact ⟨_, hc', hobservers⟩
  rw [Undisturbed, hrun]
  refine ⟨⟨fun c₁ hc₁ => ⟨mailbox, ?_⟩, ?_⟩, mailbox, hc', hnobody⟩
  · cases hc₁.symm.trans (connection_operating_self hc _ op)
    exact hc'
  · rw [hexchanges, exchanges_operating_self hc]

theorem uninterrupted_of_unobserved (react : Reactor Script ScriptedSession) (ops : List Operation)
    (hc : w.connections[key]? = some c) (hserves : c.Serves) (hobservers : c.mailbox.observers = []) :
    Uninterrupted react key ops w := by
  induction ops generalizing c w with
  | nil => trivial
  | cons op ops ih =>
    obtain ⟨hquiet, mailbox, hc', hnobody⟩ :=
      undisturbed_of_unobserved react hc hserves hobservers op
    exact ⟨hquiet, ih hc' (hserves.perform op mailbox) hnobody⟩

/-- The finding of an operation that is not disturbed. -/
theorem finding_of_undisturbed {op : Operation} (h : Undisturbed react key op w)
    (hc : w.connections[key]? = some c) :
    ∃ mailbox, (finding react key op).run w =
        ({ op
           result := (c.perform op).result
           status := some (c.perform op).guarded.status
           isolation := some (c.perform op).guarded.isolation
           info := (c.perform op).guarded.info
           log := Script.log (c.perform op).exchanges }, ((perform react key op).run w).2) ∧
      ((perform react key op).run w).2.connections[key]? =
        some { c with guarded := (c.perform op).guarded, mailbox } := by
  obtain ⟨mailbox, hc'⟩ := h.connection hc
  have hexchanges := AlikeAt.exchanges h
  rw [exchanges_operating_self hc] at hexchanges
  refine ⟨mailbox, ?_, hc'⟩
  unfold finding
  simp only [Play.run_bind, Play.run_get, Play.run_pure, fst_perform react hc, hc', hexchanges,
    List.drop_left, Option.map_some, Option.bind_some]

/-- The findings of operations are the same on twins. -/
theorem findings_eq (ops : List Operation) (hquiet : Uninterrupted react key ops w)
    (hquiet' : Uninterrupted react' key' ops w') (hc : w.connections[key]? = some c)
    (hc' : w'.connections[key']? = some c') (h : (likeness script).Twins c c') :
    ((ops.mapM (finding react key)).run w).1 = ((ops.mapM (finding react' key')).run w').1 := by
  induction ops generalizing c c' w w' with
  | nil => rfl
  | cons op ops ih =>
    obtain ⟨mailbox, hrun, hc₁⟩ := finding_of_undisturbed hquiet.1 hc
    obtain ⟨mailbox', hrun', hc₁'⟩ := finding_of_undisturbed hquiet'.1 hc'
    have hrest := ih hquiet.2 hquiet'.2 hc₁ hc₁' (h.perform op mailbox mailbox')
    have houtcomes := h.outcomes op
    obtain ⟨hstatus, hlevel, hinfo, -⟩ := Guarded.fields_of_bare houtcomes.guarded.bare
    have hlog : Script.log (c.perform op).exchanges = Script.log (c'.perform op).exchanges := by
      rw [← Script.log_talk, houtcomes.talk, Script.log_talk]
    rw [List.mapM_cons, List.mapM_cons]
    simp only [Play.run_bind, Play.run_pure, hrun, hrun', hrest, houtcomes.result, hstatus, hlevel,
      hinfo, hlog]

/-- A reset forgets what came before. Whatever has happened since a blocking connection was opened, if a
reset succeeds then it leaves the connection where it was directly after it had been opened, with a session
that is in no transaction, and the log shows three calls of it. As long as nobody calls back into the
connection, the findings of all operations after that are those on any connection that is opened on the
same script with the same settings. -/
theorem reset_forgets_history (react : Reactor Script ScriptedSession) (dsn : String)
    (settings : Settings) (hooked : Bool) (before opened w : World Script ScriptedSession) (key : Nat)
    (hopen : (openConnection react dsn false settings hooked).run before = (.ok key, opened))
    (hreached : Reached opened w) (hreset : ((perform react key .reset).run w).1 = .ok ()) :
    ∃ new c, opened.connections[key]? = some new ∧ w.connections[key]? = some c ∧
      let after := (c.perform .reset).guarded
      (after.status = new.guarded.status ∧ after.isolation = new.guarded.isolation ∧
        after.info = new.guarded.info ∧ after.progress = new.guarded.progress ∧
        after.inFlight = new.guarded.inFlight) ∧
      (∃ s, after.session = some s ∧ s.transaction = .idle) ∧
      Script.log (c.perform .reset).exchanges =
        ["reset", "exec:SHOW DATESTYLE", "exec:SHOW client_encoding"] ∧
      ∀ (react' : Reactor Script ScriptedSession) (dsn' : String) (hooked' : Bool)
        (before' : World Script ScriptedSession), before'.connector = before.connector →
        ∃ key' opened',
          (openConnection react' dsn' false settings hooked').run before' = (.ok key', opened') ∧
          ∀ ops : List Operation, Uninterrupted react key (.reset :: ops) w →
            ((ops.mapM (finding react key)).run ((perform react key .reset).run w).2).1 =
              ((ops.mapM (finding react' key')).run opened').1 := by
  obtain ⟨hconnect, info, hsetup⟩ := setup_of_openConnection hopen
  obtain ⟨opened₁, new, hopen₁, hnew, hisNew, hlevel, -⟩ :=
    openConnection_isNew react hconnect dsn settings hooked hsetup
  cases hopen.symm.trans hopen₁
  obtain ⟨c, hc, htwins, hsame⟩ := twins_of_reached hreached hnew (hisNew.twins hisNew rfl)
  rw [fst_perform react hc] at hreset
  obtain ⟨info', hsetup', hisNew', hlog⟩ := isNew_of_reset htwins hreset
  cases hsetup.symm.trans hsetup'
  have hbare : (c.perform .reset).guarded.bare = new.guarded.bare := by
    rw [hisNew'.bare, hisNew.bare, hsame]
  obtain ⟨s, hs, hresting⟩ := hisNew'.session
  have hidle : s.transaction = .idle := congrArg ScriptedSession.transaction hresting
  refine ⟨new, c, hnew, hc, Guarded.fields_of_bare hbare, ⟨s, hs, hidle⟩, hlog, ?_⟩
  intro react' dsn' hooked' before' hconnector
  rw [← hconnector] at hconnect hsetup
  obtain ⟨opened', new', hopen', hnew', hisNew'', hlevel', hobservers⟩ :=
    openConnection_isNew react' hconnect dsn' settings hooked' hsetup
  rw [hconnector] at hisNew''
  refine ⟨_, opened', hopen', fun ops hquiet => ?_⟩
  obtain ⟨mailbox, hc₁⟩ := hquiet.1.connection hc
  have hquiet' := uninterrupted_of_unobserved react' ops hnew' hisNew''.toServes hobservers
  have htwins' := hisNew'.twins hisNew'' ((hsame.trans hlevel).trans hlevel'.symm)
  exact findings_eq ops hquiet.2 hquiet' hc₁ hnew' (htwins'.posted mailbox new'.mailbox)

/-- Inside of a block, at another level and with another encoding, a reset starts from the beginning. -/
theorem reset_forgets_history_in_block :
    let before : World Script ScriptedSession := { connector := {}, hook := fun _ => 1 }
    let react : Reactor Script ScriptedSession := fun _ _ => pure ()
    let opened := ((openConnection react "" false .standard false).run before).2
    let history : List Operation :=
      [.setIsolation 2, .setClientEncoding "latin1", .execute "SELECT 1", .poll]
    let w := ((history.mapM (finding react 0)).run opened).2
    (openConnection react "" false .standard false).run before = (.ok 0, opened) ∧
      Reached opened w ∧ ((perform react 0 .reset).run w).1 = .ok () ∧
      ∃ c, w.connections[0]? = some c ∧ c.guarded.status = .inBlock ∧
        c.guarded.isolation = .serializable ∧ c.guarded.info.map (·.encoding) = some "LATIN1" ∧
        (c.perform .reset).guarded.status = .ready ∧
        (c.perform .reset).guarded.isolation = .readCommitted ∧
        (c.perform .reset).guarded.info.map (·.encoding) = some "UTF8" ∧
        ∀ ops : List Operation,
          ((ops.mapM (finding react 0)).run ((perform react 0 .reset).run w).2).1 =
            ((ops.mapM (finding react 0)).run opened).1 := by
  intro before react opened history w
  have hkey : ((openConnection react "" false .standard false).run before).1.toOption = some 0 := by
    decide +kernel
  have hopen : (openConnection react "" false .standard false).run before = (.ok 0, opened) :=
    eq_ok_of_toOption hkey
  have hreact : Spares react 0 := fun _ _ => .pure ()
  have hreached : Reached opened w := by
    refine Keeps.mapM (R := Reached) (fun op => ?_) history opened
    refine .bind_get fun _ => .bind (keeps_perform (fun _ _ => .pure ()) 0 op) fun _ => ?_
    exact .bind_get fun _ => .pure _
  have hdone : ((perform react 0 .reset).run w).1.toOption = some () := by decide +kernel
  have hreset : ((perform react 0 .reset).run w).1 = .ok () :=
    congrArg Prod.fst (eq_ok_of_toOption hdone)
  obtain ⟨new, c, hnew, hc, ⟨hstatus, hlevel, hinfo, -, -⟩, -, -, hfindings⟩ :=
    reset_forgets_history react "" .standard false before opened w 0 hopen hreached hreset
  have hthen : w.connections[0]?.map
      (fun c => (c.guarded.status, c.guarded.isolation, c.guarded.info.map (·.encoding))) =
        some (.inBlock, .serializable, some "LATIN1") := by
    decide +kernel
  have hfirst : opened.connections[0]?.map
      (fun c => (c.guarded.status, c.guarded.isolation, c.guarded.info.map (·.encoding))) =
        some (.ready, .readCommitted, some "UTF8") := by
    decide +kernel
  rw [hc, Option.map_some, Option.some.injEq] at hthen
  rw [hnew, Option.map_some, Option.some.injEq] at hfirst
  simp only [Prod.mk.injEq] at hthen hfirst
  obtain ⟨key', opened', hopen', hops⟩ := hfindings react "" false before rfl
  cases hopen.symm.trans hopen'
  exact ⟨hopen, hreached, hreset, c, hc, hthen.1, hthen.2.1, hthen.2.2, hstatus.trans hfirst.1,
    hlevel.trans hfirst.2.1, by rw [hinfo, hfirst.2.2], fun ops => hops ops (hreact.uninterrupted _ w)⟩

end World

end Scenario

end SessionLayer
